import ServerConnections.Proofs.Matching
import ServerConnections.Proofs.Tokens.Document
import ServerConnections.Proofs.Tokens.Map

/-!
# Two registries side by side: calls

A registry is used by calls on its secrets, on its classifier, and on whoever is told
of token updates.  If these calls match those of another registry, tokens being seen
through a function, then so does everything that is made of them: the checks of a
new connection, the changes of an existing one, the steps of a migration.

This file has all the steps that leave the settings alone, one lemma for each; they
follow the definitions of the steps.  The operations are in `Registry.Matching`.

* `Registry.CallsMatch` — the calls match
* `Registry.CallsMatch.migratedTokens` and others — the steps match
* `Registry.CallsKeep` — a property that calls keep, and steps with them
-/

namespace ServerConnections

open Connection (mapToken)

/-- **The calls of a registry match those of another one**, the calls on the settings
apart. -/
structure Registry.CallsMatch {σ τ : Type} (f : String → String) (R : σ → τ → Prop)
    (r : Registry σ) (r' : Registry τ) : Prop where
  filled : FillsAlike f
  get : ∀ key, Act.Matches R (Option.map f) (r.secrets.get key) (r'.secrets.get key)
  store : ∀ key secret,
    Act.Matches R id (r.secrets.store key secret) (r'.secrets.store key (f secret))
  delete : ∀ key, Act.Matches R id (r.secrets.delete key) (r'.secrets.delete key)
  cloudDomain : r'.classifier.cloudDomain = r.classifier.cloudDomain
  isUp : ∀ url s t, R s t → (r'.classifier.isUp url t).1 = (r.classifier.isUp url s).1 ∧
    R (r.classifier.isUp url s).2 (r'.classifier.isUp url t).2
  announce : ∀ event s t, R s t → R (r.announce event s).2 (r'.announce event t).2

/-- Whether there is a secret, as read off the outcome of a question for it. -/
theorem SecretStore.hasUnder_eq_outcome {σ : Type} (secrets : SecretStore σ) (key : String)
    (s : σ) :
    secrets.hasUnder key s = (match ((secrets.get key).outcome s).1 with
      | .ok token => token.isSome
      | .error _ => false, ((secrets.get key).outcome s).2) := by
  unfold hasUnder Act.outcome
  cases secrets.get key s <;> rfl

namespace Registry.CallsMatch

variable {σ τ : Type} {f : String → String} {R : σ → τ → Prop} {r : Registry σ}
    {r' : Registry τ}

/-! ## The classifier -/

/-- The classifier looks at the address and asks the probe at most once; the answers and
what is left behind match. -/
theorem isCloud (calls : r.CallsMatch f R r') (url : Option String) :
    Act.Matches (ε := ConnectionError) R id (.ofState (r.classifier.isCloud url))
      (.ofState (r'.classifier.isCloud url)) := by
  rw [Act.matches_ofState]
  intro s t related
  simp only [Classifier.isCloud, calls.cloudDomain]
  split
  · exact ⟨rfl, related⟩
  · split
    · exact ⟨rfl, related⟩
    · exact calls.isUp _ s t related

/-- A flag that is given is taken, and otherwise the classifier is asked. -/
theorem cloudOrAsk (calls : r.CallsMatch f R r') (flag : Option Bool) (serverUrl : String) :
    Act.Matches R id (r.cloudOrAsk flag serverUrl) (r'.cloudOrAsk flag serverUrl) := by
  cases flag with
  | some flag => exact Act.matches_pure flag
  | none => exact calls.isCloud (some serverUrl)

/-- To classify a connection leaves its token alone. -/
theorem classified (calls : r.CallsMatch f R r') (c : Connection) :
    Act.Matches (ε := ConnectionError) R (mapToken f) (.ofState (r.classified c))
      (.ofState (r'.classified (c.mapToken f))) := by
  unfold Registry.classified
  rw [Connection.cloudFlag_mapToken]
  cases c.cloudFlag with
  | some flag => exact Act.matches_pure c
  | none =>
      simp only [Act.ofState_bind, Act.ofState_pure, Classifier.isCloudConnection]
      refine (calls.isCloud c.serverUrl).bind fun cloud => ?_
      exact Act.matches_pure (c.withCloudFlag cloud)

theorem completed (calls : r.CallsMatch f R r') (inCloudList : Bool) (c : Connection) :
    Act.Matches (ε := ConnectionError) R (mapToken f) (.ofState (r.completed inCloudList c))
      (.ofState (r'.completed inCloudList (c.mapToken f))) := by
  have settled : ∀ d : Connection, Act.Matches (ε := ConnectionError) R (mapToken f)
      (pure d.settled) (pure (d.mapToken f).settled) := by
    intro d
    rw [← Connection.mapToken_settled]
    exact Act.matches_pure d.settled
  simp only [Registry.completed, Act.ofState_bind, Act.ofState_pure]
  cases inCloudList with
  | false => exact (calls.classified c.withCleanUrl).bind settled
  | true => exact (calls.classified c.ofFormerCloud.withCleanUrl).bind settled

/-- The shape by which the key of a token is found is the same on both sides. -/
theorem prepared (calls : r.CallsMatch f R r') (origin : Origin) (c : Connection) :
    Act.Matches (ε := ConnectionError) R (mapToken f) (.ofState (r.prepared origin c))
      (.ofState (r'.prepared origin (c.mapToken f))) := by
  cases origin with
  | formerSelfHosted => exact calls.completed false c
  | formerCloud => exact calls.completed true c
  | unified => exact calls.classified c

/-- A whole former list is completed alike, by induction along the list. -/
theorem completedAll (calls : r.CallsMatch f R r') (inCloudList : Bool)
    (cs : List Connection) :
    Act.Matches (ε := ConnectionError) R (List.map (mapToken f))
      (.ofState (r.completedAll inCloudList cs))
      (.ofState (r'.completedAll inCloudList (cs.map (mapToken f)))) := by
  induction cs with
  | nil => exact Act.matches_pure []
  | cons c cs ih =>
      simp only [List.map_cons, Registry.completedAll, Act.ofState_bind, Act.ofState_pure]
      refine (calls.completed inCloudList c).bind fun d => ?_
      refine ih.bind fun ds => ?_
      exact Act.matches_pure (d :: ds)

/-! ## Secrets -/

theorem storeUnder (calls : r.CallsMatch f R r') (key token : String) :
    Act.Matches R id (r.secrets.storeUnder key token)
      (r'.secrets.storeUnder key (f token)) := by
  unfold SecretStore.storeUnder
  rw [calls.filled token]
  split
  · exact Act.matches_pure ()
  · exact (calls.store key token).mapError _

/-- A token is stored for a connection under the same key, or is refused for want of one. -/
theorem storeFor (calls : r.CallsMatch f R r') (c : Connection) (token : Option String) :
    Act.Matches R id (r.secrets.storeFor c token)
      (r'.secrets.storeFor (c.mapToken f) (token.map f)) := by
  unfold SecretStore.storeFor
  rw [calls.filled.nonEmpty?_map, Connection.storageKey_mapToken, Connection.idText_mapToken]
  cases nonEmpty? token with
  | none => exact Act.matches_pure ()
  | some text =>
      cases c.storageKey with
      | none => exact Act.matches_throw _
      | some key => exact calls.storeUnder key text

theorem tokenUnder (calls : r.CallsMatch f R r') (key : String) :
    Act.Matches R (Option.map f) (r.tokenUnder key) (r'.tokenUnder key) :=
  (calls.get key).mapError _

theorem tokenOf (calls : r.CallsMatch f R r') (c : Connection) :
    Act.Matches R (Option.map f) (r.tokenOf c) (r'.tokenOf (c.mapToken f)) := by
  unfold Registry.tokenOf SecretStore.tokenFor
  rw [Connection.storageKey_mapToken]
  cases c.storageKey with
  | none => exact (Act.matches_pure none).mapError _
  | some key => exact calls.tokenUnder key

/-- Whether there is a secret is answered alike, and a failing store has none on either
side. -/
theorem hasUnder (calls : r.CallsMatch f R r') (key : String) :
    Act.Matches (ε := ConnectionError) R id (.ofState (r.secrets.hasUnder key))
      (.ofState (r'.secrets.hasUnder key)) := by
  rw [Act.matches_ofState]
  intro s t related
  obtain ⟨answer, left⟩ := calls.get key s t related
  rw [SecretStore.hasUnder_eq_outcome, SecretStore.hasUnder_eq_outcome, answer]
  refine ⟨?_, left⟩
  cases ((r.secrets.get key).outcome s).1 with
  | error e => rfl
  | ok token => exact Option.isSome_map

theorem hasFor (calls : r.CallsMatch f R r') (c : Connection) :
    Act.Matches (ε := ConnectionError) R id (.ofState (r.secrets.hasFor c))
      (.ofState (r'.secrets.hasFor (c.mapToken f))) := by
  unfold SecretStore.hasFor
  rw [Connection.storageKey_mapToken]
  cases c.storageKey with
  | none => exact Act.matches_pure false
  | some key => exact calls.hasUnder key

theorem deleteUnder (calls : r.CallsMatch f R r') (key : String) :
    Act.Matches R id (r.secrets.deleteUnder key) (r'.secrets.deleteUnder key) :=
  (calls.delete key).mapError _

/-- The secret of a connection that goes is deleted on both sides or on neither, since the
documents use the same keys. -/
theorem dropToken (calls : r.CallsMatch f R r') (s : Settings) (removed : Connection) :
    Act.Matches R id (r.dropToken s removed)
      (r'.dropToken (s.mapTokens f) (removed.mapToken f)) := by
  unfold Registry.dropToken
  rw [Connection.storageKey_mapToken]
  cases removed.storageKey with
  | none => exact Act.matches_pure ()
  | some key =>
      simp only [Settings.usesKey_mapTokens]
      split
      · exact Act.matches_pure ()
      · exact calls.deleteUnder key

/-! ## New and changed connections -/

/-- A new connection passes the checks on both sides or on neither, and is kept without a
token. -/
theorem checked (calls : r.CallsMatch f R r') (c : Connection) :
    Act.Matches R (mapToken f) (r.checked c) (r'.checked (c.mapToken f)) := by
  have kept : ∀ (serverUrl : String) (organization : Option String) (cloud : Bool),
      Act.Matches (ε := ConnectionError) R (mapToken f) (pure (c.kept serverUrl organization cloud))
        (pure (c.kept serverUrl organization cloud)) := by
    intro serverUrl organization cloud
    have bare := Connection.mapToken_of_token f (c.token_kept serverUrl organization cloud)
    have answer := Act.matches_pure (ε := ConnectionError) (R := R) (g := mapToken f)
      (c.kept serverUrl organization cloud)
    rwa [bare] at answer
  unfold Registry.checked
  rw [Connection.givenUrl?_mapToken, Connection.organization_mapToken,
    Connection.cloudFlag_mapToken]
  cases c.givenUrl? with
  | none => exact Act.matches_throw _
  | some serverUrl =>
      refine (calls.cloudOrAsk c.cloudFlag serverUrl).bind fun cloud => ?_
      cases cloud with
      | false => exact kept serverUrl none false
      | true =>
          cases nonEmpty? c.organization with
          | none => exact Act.matches_throw _
          | some organization => exact kept serverUrl (some organization) true

/-- A change is allowed on both sides or on neither, and for the same reason.  What becomes
of the connection carries no token. -/
theorem changedConnection (calls : r.CallsMatch f R r') (s : Settings)
    (c existing : Connection) :
    Act.Matches R (mapToken f) (r.changedConnection s c existing)
      (r'.changedConnection (s.mapTokens f) (c.mapToken f) (existing.mapToken f)) := by
  unfold Registry.changedConnection
  have url : Act.Matches R id (changedUrl (σ := σ) c existing)
      (changedUrl (σ := τ) (c.mapToken f) (existing.mapToken f)) := by
    rw [changedUrl_eq, changedUrl_eq, Connection.givenUrl?_mapToken,
      Connection.serverUrl_mapToken]
    cases c.givenUrl?.or existing.serverUrl with
    | none => exact Act.matches_throw _
    | some serverUrl => exact Act.matches_pure serverUrl
  refine url.bind fun serverUrl => ?_
  refine (calls.cloudOrAsk _ serverUrl).bind fun cloud => ?_
  -- What follows are tests that look at no token, and the answer, which carries none.
  simp only [id_eq, Settings.connections_mapTokens, ConnectionLists.position?_mapTokens,
    Connection.idText_mapToken, Connection.kind_mapToken, Connection.muted_mapToken]
  have same : changedOrganization (c.mapToken f) (existing.mapToken f) =
      changedOrganization c existing := rfl
  rw [same]
  split
  · exact Act.matches_throw _
  · split
    · exact Act.matches_throw _
    · exact Act.matches_pure
        (existing.changed serverUrl (changedOrganization c existing) cloud c.muted)

/-- The token that a change stores: the one that is given, or the one that moves along. -/
theorem changedToken (calls : r.CallsMatch f R r') (c existing changed : Connection) :
    Act.Matches R (Option.map f) (r.changedToken c existing changed)
      (r'.changedToken (c.mapToken f) (existing.mapToken f) (changed.mapToken f)) := by
  unfold Registry.changedToken
  rw [Connection.token_mapToken, calls.filled.nonEmpty?_map]
  cases nonEmpty? c.token with
  | some token => exact Act.matches_pure (some token)
  | none =>
      simp only [Option.map_none, Connection.storageKey_mapToken]
      by_cases same : existing.storageKey = changed.storageKey
      · simp only [same, if_true]
        exact Act.matches_pure none
      · simp only [same, if_false]
        exact calls.tokenOf existing

/-- The old key of a changed connection is given up on both sides or on neither. -/
theorem dropOldKey (calls : r.CallsMatch f R r') (s : Settings)
    (existing changed : Connection) :
    Act.Matches R id (r.dropOldKey s existing changed)
      (r'.dropOldKey (s.mapTokens f) (existing.mapToken f) (changed.mapToken f)) := by
  unfold Registry.dropOldKey
  rw [Connection.storageKey_mapToken, Connection.storageKey_mapToken]
  cases existing.storageKey with
  | none => exact Act.matches_pure ()
  | some key =>
      simp only [Settings.usesKey_mapTokens]
      split
      · exact Act.matches_pure ()
      · exact calls.deleteUnder key

/-! ## The steps of a migration -/

/-- A token is stored unless there is a secret already. -/
theorem moveToken (calls : r.CallsMatch f R r') (key token : String) :
    Act.Matches R id (r.moveToken key token) (r'.moveToken key (f token)) := by
  unfold Registry.moveToken
  refine (calls.hasUnder key).bind fun there => ?_
  cases there with
  | true => exact Act.matches_pure TokenFate.stripped
  | false =>
      exact (calls.storeUnder key token).bind fun _ => Act.matches_pure TokenFate.migrated

/-- One connection has its token moved, with the same fate on both sides. -/
theorem migratedToken (calls : r.CallsMatch f R r') (c : Connection) :
    Act.Matches R (Prod.map (mapToken f) id) (r.migratedToken c)
      (r'.migratedToken (c.mapToken f)) := by
  unfold Registry.migratedToken
  rw [Connection.token_mapToken]
  cases c.token with
  | none => exact Act.matches_pure (c, TokenFate.absent)
  | some token =>
      simp only [Option.map_some, calls.filled token]
      split
      · exact Act.matches_pure (c.withoutToken, TokenFate.stripped)
      · refine (calls.classified c).bind fun d => ?_
        rw [Connection.storageKey_mapToken]
        cases d.storageKey with
        | none => exact Act.matches_pure (d, TokenFate.skipped)
        | some key =>
            refine (calls.moveToken key token).bind fun fate => ?_
            exact Act.matches_pure (d.withoutToken, fate)

/-- The first pass of a migration, by induction along the list. -/
theorem migratedTokens (calls : r.CallsMatch f R r') (cs : List Connection) :
    Act.Matches R (List.map (Prod.map (mapToken f) id)) (r.migratedTokens cs)
      (r'.migratedTokens (cs.map (mapToken f))) := by
  induction cs with
  | nil => exact Act.matches_pure []
  | cons c cs ih =>
      refine (calls.migratedToken c).bind fun p => ?_
      refine ih.bind fun ps => ?_
      exact Act.matches_pure (p :: ps)

/-- The search for a token that was not migrated stops at the same connection, for it asks
the same questions up to there. -/
theorem anyUnmigrated (calls : r.CallsMatch f R r') (cs : List (Origin × Connection)) :
    Act.Matches (ε := ConnectionError) R id (.ofState (r.anyUnmigrated cs))
      (.ofState (r'.anyUnmigrated (cs.map (Prod.map id (mapToken f))))) := by
  induction cs with
  | nil => exact Act.matches_pure false
  | cons p rest ih =>
      obtain ⟨origin, c⟩ := p
      simp only [List.map_cons, Prod.map_apply, id_eq, Registry.anyUnmigrated,
        Connection.hasPlainToken_mapToken c calls.filled]
      split
      · simp only [Act.ofState_bind]
        refine (calls.prepared origin c).bind fun d => ?_
        refine (calls.hasFor d).bind fun there => ?_
        cases there with
        | true => exact ih
        | false => exact Act.matches_pure true
      · exact ih

end Registry.CallsMatch

/-! ## What calls keep -/

/-- **The calls of a registry keep a property of its host**, the calls on the settings
apart. -/
structure Registry.CallsKeep {σ : Type} (r : Registry σ) (I : σ → Prop) : Prop where
  get : ∀ key, Act.Keeps I (r.secrets.get key)
  store : ∀ key secret, Act.Keeps I (r.secrets.store key secret)
  delete : ∀ key, Act.Keeps I (r.secrets.delete key)
  isUp : ∀ url host, I host → I (r.classifier.isUp url host).2
  announce : ∀ event host, I host → I (r.announce event host).2

/-- A registry whose calls keep a property matches itself, so that all steps keep it. -/
theorem Registry.CallsKeep.callsMatch {σ : Type} {r : Registry σ} {I : σ → Prop}
    (h : r.CallsKeep I) : r.CallsMatch id (Act.Same I) r where
  filled := fillsAlike_id
  get key := by rw [Option.map_id]; exact Act.matches_self_iff.2 (h.get key)
  store key secret := Act.matches_self_iff.2 (h.store key secret)
  delete key := Act.matches_self_iff.2 (h.delete key)
  cloudDomain := rfl
  isUp := by
    rintro url host _ ⟨rfl, holds⟩
    exact ⟨rfl, rfl, h.isUp url host holds⟩
  announce := by
    rintro event host _ ⟨rfl, holds⟩
    exact ⟨rfl, h.announce event host holds⟩

/-- On a bench only calls on the settings concern their medium. -/
theorem Bench.callsKeep_medium {μ : Type} (store : SettingsStore μ) (cloudDomain : String)
    (P : μ → Prop) : (registry store cloudDomain).CallsKeep fun b => P b.medium where
  get _ _ holds := ensures_guarded (fun _ _ => holds) fun _ => holds
  store _ _ _ holds := ensures_guarded (fun _ _ => holds) fun _ => holds
  delete _ _ holds := ensures_guarded (fun _ _ => holds) fun _ => holds
  isUp _ _ holds := holds
  announce event b holds := by
    have same := (medium_of_unrecorded (unrecorded_announce event b)).trans (medium_told _ _)
    exact same ▸ holds

end ServerConnections
