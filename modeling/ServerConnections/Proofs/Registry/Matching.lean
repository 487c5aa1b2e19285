import ServerConnections.Proofs.Registry.Calls

/-!
# Two registries side by side: operations

Every operation of a registry begins by loading the document, or has only asked the
classifier by then.  Whatever it saves later is that document with other connections, and
has no tokens but those of the document.  So the relation between two hosts may depend on
that document while an operation is under way, and saving has to match for such documents
only.

With this, every operation of a registry that matches another one matches the same
operation of the other one, and so do dialogues.

* `Registry.Matches` — the calls match, those on the settings among them
* `Registry.Matches.serve` — an operation
* `Registry.Matches.dialogue` — a run of operations
-/

namespace ServerConnections

open Connection (mapToken)

/-- **The calls of a registry match those of another one.**  The hosts are in the
relation `R` between operations, and in the relation `L s` once an operation has loaded the
document `s`. -/
structure Registry.Matches {σ τ : Type} (f : String → String) (R : σ → τ → Prop)
    (L : Settings → σ → τ → Prop) (r : Registry σ) (r' : Registry τ) : Prop where
  before : r.CallsMatch f R r'
  after : ∀ s, r.CallsMatch f (L s) r'
  load : ∀ h h', R h h' →
    (r'.loadSettings.outcome h').1 = (r.loadSettings.outcome h).1.map (Settings.mapTokens f) ∧
      match (r.loadSettings.outcome h).1 with
      | .ok s => L s (r.loadSettings.outcome h).2 (r'.loadSettings.outcome h').2
      | .error _ => R (r.loadSettings.outcome h).2 (r'.loadSettings.outcome h').2
  save : ∀ s lists, (s.withConnections lists).tokens.Subperm s.tokens →
    Act.Matches (L s) id (r.saveSettings (s.withConnections lists))
      (r'.saveSettings ((s.withConnections lists).mapTokens f))
  forget : ∀ s h h', L s h h' → R h h'

/-- The same entry is meant. -/
@[simp] theorem Settings.target?_mapTokens (f : String → String) (s : Settings)
    (c : Connection) :
    (s.mapTokens f).target? (c.mapToken f) = (s.target? c).map (Prod.map id (mapToken f)) := by
  unfold target?
  rw [connections_mapTokens, ConnectionLists.positionAny?_mapTokens,
    Connection.askedKind_mapToken, Connection.idText_mapToken]
  cases s.connections.positionAny? c.askedKind c.idText with
  | none => rfl
  | some i => simp [Function.comp_def]

namespace Registry.Matches

variable {σ τ : Type} {f : String → String} {R : σ → τ → Prop} {L : Settings → σ → τ → Prop}
  {r : Registry σ} {r' : Registry τ} {α α' : Type} {g : α → α'}

/-! ## Loading -/

/-- The document is loaded first in a sequence.  What follows may end in either relation. -/
theorem load_bind (h : r.Matches f R L r') {body : Settings → Act σ ConnectionError α}
    {body' : Settings → Act τ ConnectionError α'}
    (rest : ∀ s, Act.Matches (L s) g (body s) (body' (s.mapTokens f)) ∨
      Act.Matches R g (body s) (body' (s.mapTokens f))) :
    Act.Matches R g (r.loadSettings >>= body) (r'.loadSettings >>= body') := by
  intro host host' related
  have here := h.load host host' related
  rw [Act.outcome_bind, Act.outcome_bind]
  generalize r.loadSettings.outcome host = o at here
  generalize r'.loadSettings.outcome host' = o' at here
  obtain ⟨res, left⟩ := o
  obtain ⟨res', left'⟩ := o'
  obtain ⟨rfl, left_related⟩ := here
  cases res with
  | error e => exact ⟨rfl, left_related⟩
  | ok s =>
      rcases rest s with within | anew
      · obtain ⟨answer, still⟩ := within left left' left_related
        exact ⟨answer, h.forget s _ _ still⟩
      · exact anew left left' (h.forget s _ _ left_related)

/-- Another unified list is saved. -/
theorem saveServers (h : r.Matches f R L r') (s : Settings) (servers : List Connection)
    (fewer : (s.withServers servers).tokens.Subperm s.tokens) :
    Act.Matches (L s) id (r.saveSettings (s.withServers servers))
      (r'.saveSettings ((s.withServers servers).mapTokens f)) :=
  h.save s _ fewer

/-! ## Edits -/

/-- Additions match: the checks do, and then the calls that store the token and save the
document. -/
theorem add (h : r.Matches f R L r') (c : Connection) :
    Act.Matches R (mapToken f) (r.add c) (r'.add (c.mapToken f)) := by
  unfold Registry.add
  refine (h.before.checked c).bind_gives (r.gives_checked c) fun kept bare => ?_
  refine h.load_bind fun s => .inl ?_
  simp only [Settings.connections_mapTokens, ConnectionLists.position?_mapTokens,
    Connection.kind_mapToken, Connection.idText_mapToken]
  split
  · exact Act.matches_throw _
  · refine ((h.after s).storeFor kept c.token).bind fun _ => ?_
    have saved := h.saveServers s (s.servers ++ [kept])
      (Settings.tokens_added_subperm bare)
    rw [Settings.mapTokens_withServers, List.map_append] at saved
    exact saved.bind fun _ => Act.matches_pure kept

/-- Changes match.  What decides where a token goes is the same on both sides. -/
theorem update (h : r.Matches f R L r') (c : Connection) :
    Act.Matches R (mapToken f) (r.update c) (r'.update (c.mapToken f)) := by
  unfold Registry.update
  refine h.load_bind fun s => .inl ?_
  have found : ∀ (s : Settings) (c : Connection),
      ((s.connections.positionAny? c.askedKind c.idText).bind fun i =>
        s.servers[i]?.map fun existing => (i, existing)) = s.target? c := fun _ _ => rfl
  simp only [found, Settings.target?_mapTokens]
  cases s.target? c with
  | none => exact Act.matches_throw _
  | some meant =>
      obtain ⟨i, existing⟩ := meant
      refine ((h.after s).changedConnection s c existing).bind_gives
        (r.gives_changedConnection s c existing) fun changed bare => ?_
      refine ((h.after s).changedToken c existing changed).bind fun token => ?_
      refine ((h.after s).storeFor changed token).bind fun _ => ?_
      refine Act.Matches.bind (g := id) ?_ fun _ => ?_
      · exact Act.matches_ofState.2 fun host host' related =>
          ⟨rfl, (h.after s).announce ⟨c.idText, changed.kind⟩ host host' related⟩
      have saved := h.saveServers s (s.servers.set i changed)
        (Settings.tokens_changed_subperm i bare)
      have dropped := (h.after s).dropOldKey (s.withServers (s.servers.set i changed)) existing
        changed
      rw [Settings.mapTokens_withServers, List.map_set] at saved dropped
      refine saved.bind fun _ => ?_
      exact dropped.bind fun _ => Act.matches_pure changed

/-- A submission is an addition on both sides, or a change on both. -/
theorem submit (h : r.Matches f R L r') (c : Connection) :
    Act.Matches R (mapToken f) (r.submit c) (r'.submit (c.mapToken f)) := by
  unfold Registry.submit
  -- What follows loads the document again.
  refine h.load_bind fun s => .inr ?_
  simp only [← Connection.mapToken_submitted, Settings.connections_mapTokens,
    ConnectionLists.positionAny?_mapTokens, Connection.askedKind_mapToken,
    Connection.idText_mapToken]
  split
  · exact h.update c.submitted
  · exact h.add c.submitted

/-- Removals match. -/
theorem remove (h : r.Matches f R L r') (name : String) (kind : ServerKind) :
    Act.Matches R id (r.remove name kind) (r'.remove name kind) := by
  unfold Registry.remove
  refine h.load_bind fun s => .inl ?_
  simp only [Settings.connections_mapTokens, ConnectionLists.position?_mapTokens,
    Settings.servers_mapTokens, List.getElem?_map]
  cases s.connections.position? kind name with
  | none => exact Act.matches_pure false
  | some i =>
      simp only [Option.bind_some]
      cases s.servers[i]? with
      | none => exact Act.matches_pure false
      | some removed =>
          have dropped := (h.after s).dropToken (s.withServers (s.servers.eraseIdx i)) removed
          have saved := h.saveServers s (s.servers.eraseIdx i)
            (Settings.tokens_without_subperm i)
          rw [Settings.mapTokens_withServers, ← List.eraseIdx_map] at saved dropped
          refine dropped.bind fun _ => ?_
          exact saved.bind fun _ => Act.matches_pure true

/-- **All edits match.** -/
theorem perform (h : r.Matches f R L r') (e : Edit) :
    Act.Matches R (Answer.mapTokens f) (r.perform e) (r'.perform (e.mapTokens f)) := by
  cases e with
  | add c => exact (h.add c).map fun _ => rfl
  | update c => exact (h.update c).map fun _ => rfl
  | submit c => exact (h.submit c).map fun _ => rfl
  | remove name kind => exact (h.remove name kind).map fun _ => rfl

/-! ## Migration -/

/-- Migrations match: both passes do, and the report counts fates, which are the same. -/
theorem migrate (h : r.Matches f R L r') : Act.Matches R id r.migrate r'.migrate := by
  unfold Registry.migrate
  refine h.load_bind fun s => .inl ?_
  have completed : ∀ inCloudList cs, Act.Gives (ε := ConnectionError)
      (fun ds : List Connection => Connection.tokens ds = Connection.tokens cs)
      (.ofState (r.completedAll inCloudList cs)) := fun inCloudList cs =>
    Act.gives_ofState (r.tokens_completedAll inCloudList cs)
  refine ((h.after s).completedAll false s.connections.legacySelfHosted).bind_gives
    (completed _ _) fun selfHosted own => ?_
  refine ((h.after s).completedAll true s.connections.legacyCloud).bind_gives
    (completed _ _) fun cloud clouds => ?_
  rw [← List.map_append]
  refine ((h.after s).migratedTokens (selfHosted ++ cloud)).bind_gives
    (r.gives_migratedTokens _) fun former formerTokens => ?_
  refine ((h.after s).migratedTokens s.connections.servers).bind_gives
    (r.gives_migratedTokens _) fun unified unifiedTokens => ?_
  have connections : ∀ ps : List (Connection × TokenFate),
      (ps.map (Prod.map (mapToken f) id)).map Prod.fst =
        (ps.map Prod.fst).map (mapToken f) := by
    intro ps
    rw [List.map_map, List.map_map]
    rfl
  have fates : ∀ ps : List (Connection × TokenFate),
      (ps.map (Prod.map (mapToken f) id)).map Prod.snd = ps.map Prod.snd := by
    intro ps
    rw [List.map_map]
    rfl
  have saved := h.save s
    ⟨[], [], (adopt (unified.map Prod.fst) (former.map Prod.fst)).1⟩
    (Settings.tokens_migrated_subperm
      (by rwa [Connection.tokens_append, own, clouds,
        ← Connection.tokens_append] at formerTokens)
      unifiedTokens)
  -- Who is moved and what is counted is the same on both sides.
  simp only [connections, fates, adopt_map_mapToken, List.length_map, List.isEmpty_map,
    Settings.connections_mapTokens, ConnectionLists.hasLegacy_mapTokens]
  split
  · exact saved.bind fun _ => Act.matches_pure _
  · exact Act.matches_pure _

/-! ## Questions -/

theorem list (h : r.Matches f R L r') (kind : ServerKind) :
    Act.Matches R (List.map (mapToken f)) (r.list kind) (r'.list kind) := by
  unfold Registry.list
  refine h.load_bind fun s => .inl ?_
  rw [Settings.connections_mapTokens, ConnectionLists.ofKind_mapTokens]
  exact Act.matches_pure (s.connections.ofKind kind)

/-- The connection that is found has its token seen through the function. -/
theorem find (h : r.Matches f R L r') (kind : ServerKind) (id : String) :
    Act.Matches R (Option.map (mapToken f)) (r.find kind id) (r'.find kind id) := by
  unfold Registry.find
  refine h.load_bind fun s => .inl ?_
  rw [Settings.connections_mapTokens, ConnectionLists.find?_mapTokens]
  cases s.connections.find? kind id with
  | none => exact Act.matches_pure none
  | some c =>
      refine ((h.after s).tokenOf c).bind fun token => ?_
      exact Act.matches_pure (some { c with token })

theorem findByOrganization (h : r.Matches f R L r') (organization : String) :
    Act.Matches R (Option.map (mapToken f)) (r.findByOrganization organization)
      (r'.findByOrganization organization) := by
  unfold Registry.findByOrganization
  refine h.load_bind fun s => .inl ?_
  rw [Settings.connections_mapTokens, ConnectionLists.ofKind_mapTokens, List.find?_map]
  exact Act.matches_pure
    ((s.connections.ofKind .cloud).find? fun c => c.organization == some organization)

/-- Whether there are tokens to migrate is answered alike. -/
theorem hasUnmigrated (h : r.Matches f R L r') :
    Act.Matches R id r.hasUnmigrated r'.hasUnmigrated := by
  unfold Registry.hasUnmigrated
  refine h.load_bind fun s => .inl ?_
  rw [Settings.connections_mapTokens, ConnectionLists.withOrigins_mapTokens]
  exact (h.after s).anyUnmigrated s.connections.withOrigins

/-! ## Operations and dialogues -/

/-- **An operation of a registry matches the same one of the other registry.** -/
theorem serve (h : r.Matches f R L r') (op : Operation) :
    Act.Matches R (Reply.mapTokens f) (r.serve op) (r'.serve (op.mapTokens f)) := by
  cases op with
  | edit e => exact (h.perform e).map fun _ => rfl
  | migrate => exact h.migrate.map fun _ => rfl
  | list kind => exact (h.list kind).map fun _ => rfl
  | find kind id => exact (h.find kind id).map fun _ => rfl
  | findByOrganization organization =>
      exact (h.findByOrganization organization).map fun _ => rfl
  | tokenUnder key => exact (h.before.tokenUnder key).map fun _ => rfl
  | hasUnmigrated => exact h.hasUnmigrated.map fun _ => rfl

/-- **Dialogues match**, outcome by outcome. -/
theorem dialogue (h : r.Matches f R L r') (ops : List Operation) {host : σ} {host' : τ}
    (related : R host host') :
    List.Forall₂ (fun o o' => o'.1 = o.1.map (Reply.mapTokens f) ∧ R o.2 o'.2)
      (r.dialogue ops host) (r'.dialogue (ops.map (Operation.mapTokens f)) host') := by
  refine Act.forall₂_outcomes ?_ related
  rw [List.map_map, List.forall₂_map_left_iff, List.forall₂_map_right_iff, List.forall₂_same]
  exact fun op _ => h.serve op

end Registry.Matches

end ServerConnections
