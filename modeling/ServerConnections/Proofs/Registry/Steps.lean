import ServerConnections.Proofs.Registry.Plan

/-!
# Steps of a change

The parts of an operation, each on a host on a bench.  What a registry decides is
what `Settings.addition` and `Settings.change` plan, by the verdict of the moment
at which the classifier was asked.  What it does with tokens is at most one call,
and so an instance of `Bench.Does`.

* `Registry.checked_ensures`, `Registry.changedConnection_ensures` — decisions
* `Registry.does_storeFor`, `Registry.does_changedToken`,
  `Registry.does_dropToken`, `Registry.does_dropOldKey` — tokens
* `Registry.undeleted_of_dropOldKey` — why the last step of a change fails
-/

namespace ServerConnections

open Bench

variable {cloudDomain : String}

/-! ## Decisions -/

namespace Registry

/-- A flag that is given is the answer, and otherwise the verdict of that time. -/
theorem answers_cloudOrAsk (b : Bench MemorySettings) (flag : Option Bool)
    (serverUrl : String) :
    Answers ((inMemory cloudDomain).cloudOrAsk flag serverUrl) b
      (flag.getD (b.conditions.verdict cloudDomain b.time serverUrl)) b.unrecorded := by
  cases flag with
  | some flag =>
      rw [cloudOrAsk, Option.getD_some]
      exact answers_pure b flag
  | none =>
      rw [cloudOrAsk, Option.getD_none, answers_ofState_iff]
      exact isCloud_eq b (some serverUrl)

/-- The checks of a new connection are those of its plan. -/
theorem checked_ensures (b : Bench MemorySettings) (c : Connection) :
    ((inMemory cloudDomain).checked c).Ensures b fun res b' =>
      b'.unrecorded = b.unrecorded ∧
        ∃ n, res = c.checkedBy (b.conditions.verdict cloudDomain n) := by
  unfold checked Connection.checkedBy
  cases url : c.givenUrl? with
  | none => exact ⟨rfl, 0, rfl⟩
  | some serverUrl =>
      refine (answers_cloudOrAsk b c.cloudFlag serverUrl).bind fun b₁ left => ?_
      cases cloud : c.cloudFlag.getD (b.conditions.verdict cloudDomain b.time serverUrl) with
      | false => exact ⟨left, b.time, by simp [cloud]⟩
      | true =>
          cases org : nonEmpty? c.organization with
          | none => exact ⟨left, b.time, by simp [cloud]⟩
          | some organization => exact ⟨left, b.time, by simp [cloud]⟩

/-- The address that is given comes first, and then the one that was there. -/
theorem changedUrl_eq {σ : Type} (c existing : Connection) :
    (changedUrl c existing : Act σ ConnectionError String) =
      match c.givenUrl?.or existing.serverUrl with
      | none => throw .missingServerUrl
      | some serverUrl => pure serverUrl := by
  unfold changedUrl
  cases c.givenUrl? <;> cases existing.serverUrl <;> rfl

/-- What an existing connection becomes is what was planned, by the verdict of that moment. -/
theorem changedConnection_ensures (b : Bench MemorySettings) (s : Settings)
    (c existing : Connection) :
    ((inMemory cloudDomain).changedConnection s c existing).Ensures b fun res b' =>
      b'.unrecorded = b.unrecorded ∧
        res = s.changedBy (b.conditions.verdict cloudDomain b.time) c existing := by
  unfold changedConnection Settings.changedBy
  rw [changedUrl_eq]
  cases url : c.givenUrl?.or existing.serverUrl with
  | none => exact ⟨rfl, rfl⟩
  | some serverUrl =>
      refine (answers_cloudOrAsk b (c.flagAfter existing serverUrl
        (changedOrganization c existing)) serverUrl).bind fun b₁ left => ?_
      -- Both sides depend on these two values only through the tests that follow.
      generalize changedOrganization c existing = organization
      generalize cloud : (c.flagAfter existing serverUrl organization).getD
        (b.conditions.verdict cloudDomain b.time serverUrl) = isCloud
      by_cases organized : isCloud && organization.isNone
      · simp only [organized, if_true, Act.throw_bind, Act.ensures_throw]
        exact ⟨left, by simp [cloud, organized]⟩
      · by_cases taken : ServerKind.ofFlag isCloud != existing.kind &&
            (s.connections.position? (.ofFlag isCloud) c.idText).isSome
        · simp only [organized, taken, if_true, if_false, Bool.false_eq_true, Act.throw_bind,
            Act.ensures_throw]
          exact ⟨left, by simp [cloud, organized, taken]⟩
        · simp only [organized, taken, if_false, Bool.false_eq_true, Act.ensures_pure]
          exact ⟨left, by simp [cloud, organized, taken]⟩

/-! ## Tokens -/

/-- The token of a connection is read by one call at most. -/
theorem does_tokenOf (b : Bench MemorySettings) (c : Connection) :
    Does ((inMemory cloudDomain).tokenOf c) b (b.secrets.tokenOf c) b.unrecorded := by
  unfold tokenOf SecretStore.tokenFor SecretTable.tokenOf
  cases c.storageKey with
  | none => exact ⟨rfl, rfl⟩
  | some key => exact does_tokenUnder b key

/-- The token of a change takes one question at most. -/
theorem does_changedToken (b : Bench MemorySettings) (c : Connection) (ch : Change) :
    Does ((inMemory cloudDomain).changedToken c ch.existing ch.changed) b
      (ch.token c b.secrets) b.unrecorded := by
  unfold changedToken Change.token
  cases nonEmpty? c.token with
  | some token => exact does_pure b (some token)
  | none =>
      by_cases same : ch.existing.storageKey = ch.changed.storageKey
      · simpa only [same, if_true, Option.none_or] using does_pure b none
      · simpa only [same, if_false, Option.none_or] using does_tokenOf b ch.existing

/-- A token is stored for a connection that has a key, or not at all. -/
theorem does_storeFor (b : Bench MemorySettings) {c : Connection} {token : Option String}
    (keyed : (nonEmpty? token).isSome → c.storageKey.isSome) :
    Does ((inMemory cloudDomain).secrets.storeFor c token) b ()
      (b.unrecorded.withSecrets (b.secrets.storing c.storageKey token)) := by
  unfold SecretStore.storeFor SecretTable.storing
  cases given : nonEmpty? token with
  | none =>
      cases c.storageKey <;> exact does_pure_withSecrets b ()
  | some text =>
      cases found : c.storageKey with
      | none => simp [given, found] at keyed
      | some key =>
          have stored := @does_store cloudDomain b key text
          simpa [SecretStore.storeUnder, ne_empty_of_nonEmpty? given] using stored

/-- A token without a key is rejected before any call. -/
theorem storeFor_of_unkeyed {σ : Type} (secrets : SecretStore σ) {c : Connection}
    {token : Option String} (given : (nonEmpty? token).isSome)
    (unkeyed : c.storageKey = none) :
    secrets.storeFor c token = throw (.missingStorageKey c.idText) := by
  obtain ⟨text, given⟩ := Option.isSome_iff_exists.1 given
  simp [SecretStore.storeFor, given, unkeyed]

/-- The secret of a connection that goes is deleted, unless its key is in use. -/
theorem does_dropToken (b : Bench MemorySettings) (s : Settings) (removed : Connection) :
    Does ((inMemory cloudDomain).dropToken s removed) b ()
      (b.unrecorded.withSecrets (s.dropped removed.storageKey b.secrets)) := by
  unfold dropToken Settings.dropped
  cases removed.storageKey with
  | none => exact does_pure_withSecrets b ()
  | some key =>
      by_cases used : s.usesKey key
      · simpa only [used, if_true] using does_pure_withSecrets b ()
      · simpa only [used, if_false, Bool.false_eq_true] using does_deleteUnder b key

/-- The old key is dropped like that of a removed connection, since a document
that holds the changed connection uses its key. -/
theorem does_dropOldKey (b : Bench MemorySettings) {s : Settings}
    {existing changed : Connection}
    (entry : changed ∈ s.servers) :
    Does ((inMemory cloudDomain).dropOldKey s existing changed) b ()
      (b.unrecorded.withSecrets (s.dropped existing.storageKey b.secrets)) := by
  unfold dropOldKey Settings.dropped
  cases existing.storageKey with
  | none => exact does_pure_withSecrets b ()
  | some key =>
      by_cases used : s.usesKey key
      · simpa only [used, or_true, if_true] using does_pure_withSecrets b ()
      -- A key that is not in use is not the one of the changed connection.
      · have other : some key ≠ changed.storageKey := fun same =>
          used (Settings.usesKey_of_mem entry same.symm)
        simpa only [used, other, or_false, if_false, Bool.false_eq_true]
          using does_deleteUnder b key

/-- Where dropping the old key fails, its secret could not be deleted, and it is not in use any
more. -/
theorem undeleted_of_dropOldKey (b : Bench MemorySettings) (s : Settings)
    (existing changed : Connection) :
    ((inMemory cloudDomain).dropOldKey s existing changed).Ensures b fun res b' =>
      ∀ e, res = .error e →
        ∃ key, existing.storageKey = some key ∧ s.usesKey key = false ∧
          b'.Undeleted key e := by
  unfold dropOldKey
  cases existing.storageKey with
  | none => rintro e ⟨⟩
  | some key =>
      by_cases needed : some key = changed.storageKey ∨ s.usesKey key
      · simp only [needed, if_true]
        rintro e ⟨⟩
      · simp only [needed, if_false]
        refine ensures_deleteUnder b ?_ ?_
        · rintro reason refused _ ⟨⟩
          exact ⟨key, rfl, by simpa using (not_or.1 needed).2, undeleted_called b refused⟩
        · rintro - e ⟨⟩

end Registry

end ServerConnections
