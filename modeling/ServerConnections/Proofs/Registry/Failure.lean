import ServerConnections.Proofs.Registry.Calls
import ServerConnections.Proofs.Registry.Session

/-!
# What a failure leaves behind

An operation makes several calls, and when one of them is refused the ones before it are
not undone.  What an error leaves behind is a matter of their order.

A removal deletes the secret before it saves the document.  If the document cannot be saved
then, it still has the connection, whose token is gone.  This happens to one key at most,
and it can be told beforehand: `Bench.LosesSecret`.

A change does it the other way around.  Its token is where the document says at all times,
but if the old secret cannot be deleted, then there is an error although the document was
saved.  In all other cases an error means that the document was not saved.

* `Registry.secret_stays_iff_of_remove` — what a removal that fails leaves behind
* `Registry.secret_lost_of_remove_unsaved` — a token that is lost
* `Change.SavedUndeleted` — a change that was saved before it has failed
* `Registry.medium_of_error` — what any operation that fails leaves of the settings
-/

namespace ServerConnections

open Bench

/-! ## Removals that fail -/

/-- The key of a connection, unless other connections of the document have it, too. -/
def Settings.soleKey? (s : Settings) (kind : ServerKind) (id : String) : Option String :=
  (s.connections.position? kind id).bind fun i =>
    s.servers[i]?.bind fun c => c.storageKey.filter fun key => !(s.without i).usesKey key

/-- **A removal deletes the secret of a key** before it saves the document: the document can
be loaded, no other connection has the key, and the secret, which is there, can be deleted. -/
structure Bench.LosesSecret (b : Bench MemorySettings) (kind : ServerKind) (id key : String) :
    Prop where
  loaded : b.conditions.refusesLoad b.time = none
  sole : b.document.soleKey? kind id = some key
  deleted : b.conditions.refusesDelete (b.time + 1) key = none
  held : (b.secrets.get? key).isSome

namespace Registry

variable {cloudDomain : String} {b b' : Bench MemorySettings}

theorem dropToken_eq {σ : Type} (r : Registry σ) (s : Settings) (removed : Connection) :
    r.dropToken s removed = match removed.storageKey.filter fun key => !s.usesKey key with
      | none => pure ()
      | some key => r.secrets.deleteUnder key := by
  unfold dropToken
  cases removed.storageKey with
  | none => rfl
  | some key => by_cases used : s.usesKey key <;> simp [Option.filter, used]

/-- A removal that cannot save the document has done nothing more by then. -/
theorem saveRemoved_ensures (k : Bench MemorySettings) (s : Settings) :
    Act.Ensures (do (inMemory cloudDomain).saveSettings s; return true) k fun res k' =>
      ∀ e, res = .error e → k'.medium = k.medium ∧ k'.secrets = k.secrets := by
  rw [Act.ensures_bind]
  refine ensures_saveSettings k ?_ ?_
  · intro reason _ e _
    exact ⟨rfl, rfl⟩
  · rintro - e ⟨⟩

/-- What a removal does once it has found its connection. -/
theorem removeEntry_ensures (b : Bench MemorySettings) {kind : ServerKind} {id : String}
    (loaded : b.conditions.refusesLoad b.time = none) (s : Settings) {removed : Connection}
    (sole : b.document.soleKey? kind id =
      removed.storageKey.filter fun key => !s.usesKey key) :
    Act.Ensures (do
      (inMemory cloudDomain).dropToken s removed
      (inMemory cloudDomain).saveSettings s
      return true) (b.called .load) fun res b' => ∀ e, res = .error e → b'.medium = b.medium ∧
        ∀ key, b'.secrets.get? key = b.secrets.get? key ↔ ¬ b.LosesSecret kind id key := by
  have time : (b.called .load).time = b.time + 1 := time_called b .load
  rw [Act.ensures_bind, dropToken_eq, ← sole]
  cases own : b.document.soleKey? kind id with
  | none =>
      simp only [Act.ensures_pure]
      refine Act.Ensures.mono (saveRemoved_ensures _ s) fun res b' ends e failed => ?_
      obtain ⟨medium, secrets⟩ := ends e failed
      refine ⟨medium, fun key => iff_of_true (by rw [secrets]; rfl) fun loses => ?_⟩
      simpa [own] using loses.sole
  | some key =>
      refine ensures_deleteUnder (b.called .load) ?_ fun deleted => ?_
      · rintro reason refused e -
        rw [time] at refused
        refine ⟨rfl, fun key' => iff_of_true rfl fun loses => ?_⟩
        obtain rfl : key = key' := Option.some.inj (own.symm.trans loses.sole)
        exact Option.some_ne_none reason (refused.symm.trans loses.deleted)
      · rw [time] at deleted
        refine Act.Ensures.mono (saveRemoved_ensures _ s) fun res b' ends e failed => ?_
        obtain ⟨medium, secrets⟩ := ends e failed
        refine ⟨medium, fun key' => ?_⟩
        have gone :
            b'.secrets.get? key' = if key' = key then none else b.secrets.get? key' := by
          rw [secrets]
          exact Keyed.get?_remove key key' b.secrets
        rw [gone]
        by_cases same : key' = key
        · subst same
          rw [if_pos rfl]
          constructor
          · intro absent loses
            have held := loses.held
            rw [← absent] at held
            cases held
          · intro stays
            by_contra held
            exact stays ⟨loaded, own, deleted, Option.isSome_iff_ne_none.2 (Ne.symm held)⟩
        · rw [if_neg same]
          exact iff_of_true rfl fun loses => same (Option.some.inj (loses.sole.symm.trans own))

/-- **What a removal that fails leaves behind**: the document as it was, and every secret as it
was but the one that it deletes before it saves the document. -/
theorem secret_stays_iff_of_remove {id : String} {kind : ServerKind} {e : ConnectionError}
    (failed : ((inMemory cloudDomain).remove id kind).outcome b = (.error e, b')) :
    b'.medium = b.medium ∧
      ∀ key, b'.secrets.get? key = b.secrets.get? key ↔ ¬ b.LosesSecret kind id key := by
  suffices ends : ((inMemory cloudDomain).remove id kind).Ensures b fun res b' =>
      ∀ e, res = .error e → b'.medium = b.medium ∧
        ∀ key, b'.secrets.get? key = b.secrets.get? key ↔ ¬ b.LosesSecret kind id key from
    ends.of_outcome failed e rfl
  unfold remove
  rw [Act.ensures_bind]
  refine ensures_loadSettings b ?_ fun loaded => ?_
  · rintro reason refused e -
    refine ⟨rfl, fun key => iff_of_true rfl fun loses => ?_⟩
    exact Option.some_ne_none reason (refused.symm.trans loses.loaded)
  · dsimp only
    cases found : b.document.connections.position? kind id with
    | none => rintro e ⟨⟩
    | some i =>
        cases entry : b.document.servers[i]? with
        | none =>
            simp only [Option.bind_some, entry, Option.map_none]
            rintro e ⟨⟩
        | some removed =>
            simp only [Option.bind_some, entry, Option.map_some]
            refine removeEntry_ensures b loaded (b.document.without i) ?_
            simp [Settings.soleKey?, found, entry]

/-- The document cannot be saved, but another connection has the same key. -/
theorem secret_stays_iff_of_remove_shared_key :
    let b : Bench MemorySettings := .fresh
      (.of ⟨⟨[⟨some "former", some "https://sq.example", none, none, false, none⟩], [],
        [⟨some "sq", some "https://sq.example", none, some false, false, none⟩]⟩, [], []⟩)
      [("https://sq.example", "t")]
      { Conditions.calm fun _ => false with refusesSave := fun _ => some "full" } .nobody
    let after := (inMemory "codescan.io").remove "sq" .selfHosted |>.outcome b
    after.1 = .error (.settings (.file (.refused "full"))) ∧ after.2.medium = b.medium ∧
      ∀ key, after.2.secrets.get? key = b.secrets.get? key ↔
        ¬ b.LosesSecret .selfHosted "sq" key :=
  ⟨rfl, @secret_stays_iff_of_remove "codescan.io" _ _ _ _ _ rfl⟩

/-- The document cannot be saved, and the connection that is still in it has lost its token. -/
theorem secret_lost_of_remove_unsaved :
    let entry : Connection :=
      ⟨some "sq", some "https://sq.example", none, some false, false, none⟩
    let b : Bench MemorySettings := .fresh (.of ⟨⟨[], [], [entry]⟩, [], []⟩)
      [("https://sq.example", "t")]
      { Conditions.calm fun _ => false with refusesSave := fun _ => some "full" } .nobody
    let after := (inMemory "codescan.io").remove "sq" .selfHosted |>.outcome b
    after.1.toOption = none ∧ entry ∈ after.2.document.connections.all ∧
      entry.storageKey = some "https://sq.example" ∧
        b.secrets.get? "https://sq.example" = some "t" ∧
          after.2.secrets.get? "https://sq.example" = none := by
  decide +kernel

end Registry

/-! ## Failures after the document was saved -/

/-- **A change was saved, and the error came later**: the secret of its old key could not be
deleted.  No connection has that key any more. -/
structure Change.SavedUndeleted (ch : Change) (b : Bench MemorySettings) (e : ConnectionError)
    (b' : Bench MemorySettings) : Prop where
  saved : b'.medium = b.medium.saved (ch.applied b.document)
  undeleted : ∃ key, ch.existing.storageKey = some key ∧
    (ch.applied b.document).usesKey key = false ∧ b'.Undeleted key e

section Ends

variable {cloudDomain : String} {k b : Bench MemorySettings} {c : Connection}
    {e : ConnectionError}

theorem AddEnds.medium_eq (ends : AddEnds cloudDomain k c (.error e) b) :
    b.medium = k.medium := by
  cases ends with
  | refused stopped => exact medium_of_unrecorded stopped.left
  | rejected _ left => exact medium_of_unrecorded left
  | unsaved _ stopped => exact (medium_of_unrecorded stopped.left).trans rfl

theorem UpdateEnds.medium_eq_or (ends : UpdateEnds cloudDomain k c (.error e) b) :
    b.medium = k.medium ∨ ∃ n ch,
      k.document.change (k.conditions.verdict cloudDomain n) c = .ok ch ∧
        ch.SavedUndeleted k e b := by
  cases ends with
  | refused stopped => exact .inl (medium_of_unrecorded stopped.left)
  | rejected _ left => exact .inl (medium_of_unrecorded left)
  | unkeyed _ _ _ left => exact .inl (medium_of_unrecorded left)
  | unsaved _ _ stopped =>
      exact .inl ((medium_of_unrecorded stopped.left).trans (medium_told _ _))
  | @undropped n ch _ _ plan _ stopped undeleted =>
      have saved : (ch.saved c k).medium = k.medium.saved (ch.applied k.document) :=
        congrArg (MemorySettings.saved · _) (medium_told _ _)
      exact .inr ⟨n, ch, plan, (medium_of_unrecorded stopped.left).trans saved, undeleted⟩

theorem RemoveEnds.medium_eq {id : String} {kind : ServerKind}
    (ends : RemoveEnds k id kind (.error e) b) : b.medium = k.medium := by
  cases ends with
  | refused stopped => exact medium_of_unrecorded stopped.left
  | unsaved _ _ stopped => exact (medium_of_unrecorded stopped.left).trans rfl

end Ends

namespace Registry

variable {cloudDomain : String} {m : MemorySettings}

theorem keeps_loadSettings :
    Act.Keeps (fun b => b.medium = m) (inMemory cloudDomain).loadSettings :=
  fun b holds => ensures_loadSettings b (fun _ _ => holds) fun _ => holds

/-- A registry matches itself as long as it does not save. -/
theorem callsMatch_medium : (inMemory cloudDomain).CallsMatch id
    (Act.Same fun b => b.medium = m) (inMemory cloudDomain) :=
  (callsKeep_medium _ _ fun m' => m' = m).callsMatch

/-- A migration that fails has not saved the document. -/
theorem spares_migrate :
    Act.Spares (fun b => b.medium = m) (inMemory cloudDomain).migrate := by
  unfold migrate
  have calls := @callsMatch_medium cloudDomain m
  -- The two passes make many calls, but none of them on the settings.
  refine keeps_loadSettings.bind_spares fun s => ?_
  refine (calls.completedAll false _).keeps.bind_spares fun selfHosted => ?_
  refine (calls.completedAll true _).keeps.bind_spares fun cloud => ?_
  refine (calls.migratedTokens _).keeps.bind_spares fun former => ?_
  refine (calls.migratedTokens _).keeps.bind_spares fun unified => ?_
  intro b holds
  dsimp only
  split
  · rw [Act.ensures_bind]
    refine ensures_saveSettings b ?_ ?_
    · intro reason _ e _
      exact holds
    · rintro - e ⟨⟩
  · rintro e ⟨⟩

theorem keeps_find (kind : ServerKind) (id : String) :
    Act.Keeps (fun b => b.medium = m) ((inMemory cloudDomain).find kind id) := by
  unfold find
  refine keeps_loadSettings.bind fun s => ?_
  cases s.connections.find? kind id with
  | none => exact Act.keeps_pure none
  | some c =>
      refine (callsMatch_medium.tokenOf c).keeps.bind fun token => ?_
      exact Act.keeps_pure (some { c with token })

theorem keeps_hasUnmigrated :
    Act.Keeps (fun b => b.medium = m) (inMemory cloudDomain).hasUnmigrated := by
  unfold hasUnmigrated
  exact keeps_loadSettings.bind fun s => (callsMatch_medium.anyUnmigrated _).keeps

end Registry

/-- The change that is asked for, if one is.  A submission asks for a change of the connection
as submitted. -/
def Operation.changing? : Operation → Option Connection
  | edit (.update c) => some c
  | edit (.submit c) => some c.submitted
  | _ => none

namespace Registry

variable {cloudDomain : String} {b b' : Bench MemorySettings}

/-- An operation that does not ask for a change saves the document at the end, or not at
all. -/
theorem spares_serve {m : MemorySettings} {op : Operation} (other : op.changing? = none) :
    Act.Spares (fun b => b.medium = m) ((inMemory cloudDomain).serve op) := by
  cases op with
  | edit edit =>
      refine Act.Spares.map ?_ _
      cases edit with
      | add c =>
          refine Act.Spares.map (fun b same => (add_ends b c).mono ?_) _
          rintro _ _ ends e rfl
          exact ends.medium_eq.trans same
      | remove id kind =>
          refine Act.Spares.map (fun b same => (remove_ends b id kind).mono ?_) _
          rintro _ _ ends e rfl
          exact ends.medium_eq.trans same
      | update c => cases other
      | submit c => cases other
  | migrate => exact spares_migrate.map _
  | list kind => exact (keeps_loadSettings.bind fun s => Act.keeps_pure _).spares.map _
  | find kind id => exact (keeps_find kind id).spares.map _
  | findByOrganization organization =>
      exact (keeps_loadSettings.bind fun s => Act.keeps_pure _).spares.map _
  | tokenUnder key => exact (callsMatch_medium.tokenUnder key).keeps.spares.map _
  | hasUnmigrated => exact keeps_hasUnmigrated.spares.map _

/-- How a change fails that is asked for in either way. -/
theorem medium_eq_or_of_change {c : Connection} {e : ConnectionError}
    (ends : UpdateEnds cloudDomain b.unrecorded c (.error e) b') :
    b'.medium = b.medium ∨ ∃ n ch,
      b.document.change (b.conditions.verdict cloudDomain n) c = .ok ch ∧
        ch.SavedUndeleted b e b' := by
  rcases ends.medium_eq_or with same | ⟨n, ch, plan, changed⟩
  · exact .inl same
  · exact .inr ⟨n, ch, plan, changed.saved, changed.undeleted⟩

/-- **An error means that the settings did not change**, but for one case: a change was saved,
and after that the secret of the old key could not be deleted. -/
theorem medium_of_error {op : Operation} {e : ConnectionError}
    (failed : ((inMemory cloudDomain).serve op).outcome b = (.error e, b')) :
    b'.medium = b.medium ∨ ∃ c, op.changing? = some c ∧ ∃ n ch,
      b.document.change (b.conditions.verdict cloudDomain n) c = .ok ch ∧
        ch.SavedUndeleted b e b' := by
  cases asked : op.changing? with
  | none => exact .inl ((spares_serve asked b rfl).of_outcome failed e rfl)
  | some c =>
      suffices ends : ((inMemory cloudDomain).serve op).Ensures b fun res b' =>
          ∀ e, res = .error e → b'.medium = b.medium ∨ ∃ n ch,
            b.document.change (b.conditions.verdict cloudDomain n) c = .ok ch ∧
              ch.SavedUndeleted b e b' from
        (ends.of_outcome failed e rfl).imp_right fun changed => ⟨c, rfl, changed⟩
      cases op with
      | edit edit =>
          refine Act.ensures_map.2 ?_
          cases edit with
          | update d =>
              obtain rfl : d = c := Option.some.inj asked
              refine Act.ensures_map.2 ((update_ends b d).mono fun res b' ends e failed => ?_)
              obtain rfl := Act.error_of_map_eq_error (Act.error_of_map_eq_error failed)
              exact medium_eq_or_of_change ends
          | submit d =>
              obtain rfl : d.submitted = c := Option.some.inj asked
              refine Act.ensures_map.2 ((submit_ends b d).mono fun res b' ends e failed => ?_)
              obtain rfl := Act.error_of_map_eq_error (Act.error_of_map_eq_error failed)
              cases ends with
              | refused stopped => exact .inl ((medium_of_unrecorded stopped.left).trans rfl)
              | updated _ ends => exact medium_eq_or_of_change ends
              | added _ ends => exact .inl ends.medium_eq
          | add d => cases asked
          | remove id kind => cases asked
      | _ => cases asked

/-- The organization of a connection is changed, and its old key is no longer in use.  The
document is saved, and the secret stays behind. -/
theorem medium_of_error_undeleted :
    let entry : Connection :=
      ⟨some "org", some "https://app.codescan.io", some "org1", some true, false, none⟩
    let b : Bench MemorySettings := .fresh (.of ⟨⟨[], [], [entry]⟩, [], []⟩) [("org1", "t")]
      { Conditions.calm fun _ => false with refusesDelete := fun _ _ => some "locked" } .nobody
    let op := Operation.edit (.update ⟨some "org", none, some "org2", none, false, none⟩)
    let after := ((inMemory "codescan.io").serve op).outcome b
    after.1 = .error (.secret (.notRun "locked")) ∧
      (after.2.medium = b.medium ∨ ∃ c, op.changing? = some c ∧ ∃ n ch,
        b.document.change (b.conditions.verdict "codescan.io" n) c = .ok ch ∧
          ch.SavedUndeleted b (.secret (.notRun "locked")) after.2) :=
  ⟨rfl, @medium_of_error "codescan.io" _ _ _ _ rfl⟩

/-- The document is another one although an error was answered. -/
theorem document_changed_of_error :
    let entry : Connection :=
      ⟨some "org", some "https://app.codescan.io", some "org1", some true, false, none⟩
    let b : Bench MemorySettings := .fresh (.of ⟨⟨[], [], [entry]⟩, [], []⟩) [("org1", "t")]
      { Conditions.calm fun _ => false with refusesDelete := fun _ _ => some "locked" } .nobody
    let op := Operation.edit (.update ⟨some "org", none, some "org2", none, false, none⟩)
    let after := ((inMemory "codescan.io").serve op).outcome b
    after.1.toOption = none ∧ b.document.servers = [entry] ∧
      after.2.document.servers = [{ entry with organization := some "org2" }] := by
  decide +kernel

end Registry

end ServerConnections
