import ServerConnections.Proofs.Settings.RoundTrip
import ServerConnections.Proofs.Tokens.Handed

/-!
# Tokens that are shown

Only the question for one connection by its name is meant to be answered with a token.  An edit
keeps to this: the connection that it answers is the one that it has written, and it writes no
token.  The questions for the connections of a kind and for an organization answer entries of
the document as they are kept, and so they show what is kept there.  A document that was not
migrated may carry tokens, and so may one that was, in the entries that a migration has
skipped.

So an answer shows a token exactly if the question comes upon an entry of the unified list that
carries one: `Operation.Exposes`.  Since no operation puts a token into a document, a host
whose document carries none shows none, however long it is in use.

* `Reply.shown` — the connections of a reply
* `Registry.gives_perform` — an edit shows no token
* `Registry.shows_token_iff` — when another operation does
* `Registry.not_showsToken_of_dialogue` — a document without tokens
-/

namespace ServerConnections

open Bench

/-! ## What is shown -/

/-- The connections that are answered. -/
def Reply.shown : Reply → List Connection
  | edited (.kept c) => [c]
  | connections cs => cs
  | connection c => c.toList
  | edited (.removed _) | migrated _ | token _ | unmigrated _ => []

/-- **A reply shows a token** if one of its connections carries one. -/
def Reply.ShowsToken (reply : Reply) : Prop := ∃ c ∈ reply.shown, c.token.isSome

/-- **The first cloud connection of an organization** among others. -/
structure Connection.IsFirstOf (c : Connection) (organization : String)
    (cs : List Connection) :
    Prop where
  cloud : c.kind = .cloud
  own : c.organization = some organization
  first : ∃ before behind, cs = before ++ c :: behind ∧
    ∀ d ∈ before, d.kind = .cloud → d.organization ≠ some organization

/-- **A question comes upon an entry that carries a token**: any entry of the kind that is
asked for, or the first one of the organization. -/
def Operation.Exposes (s : Settings) : Operation → Prop
  | .list kind => ∃ c ∈ s.servers, c.kind = kind ∧ c.token.isSome
  | .findByOrganization organization => ∃ c : Connection,
      c.IsFirstOf organization s.servers ∧ c.token.isSome
  | _ => False

/-- Whether an operation asks for one connection by its name. -/
def Operation.isLookup : Operation → Bool
  | find _ _ => true
  | _ => false

/-- What is come upon is in the document. -/
theorem Operation.Exposes.tokens_ne_nil {op : Operation} {s : Settings}
    (exposes : op.Exposes s) :
    s.tokens ≠ [] := by
  obtain ⟨c, entry, carries⟩ : ∃ c ∈ s.servers, c.token.isSome := by
    cases op with
    | list kind =>
        obtain ⟨c, entry, -, carries⟩ := exposes
        exact ⟨c, entry, carries⟩
    | findByOrganization organization =>
        obtain ⟨c, ⟨-, -, before, behind, entries, -⟩, carries⟩ := exposes
        exact ⟨c, by simp [entries], carries⟩
    | find | edit | migrate | tokenUnder | hasUnmigrated => cases exposes
  obtain ⟨token, carried⟩ := Option.isSome_iff_exists.1 carries
  have among : token ∈ s.tokens :=
    List.mem_filterMap.2 ⟨c, List.mem_append_right _ entry, carried⟩
  exact List.ne_nil_of_mem among

theorem ConnectionLists.find?_organization_eq_some_iff {lists : ConnectionLists}
    {organization : String} {c : Connection} :
    ((lists.ofKind .cloud).find? fun c => c.organization == some organization) = some c ↔
      c.IsFirstOf organization lists.servers := by
  rw [ofKind, List.find?_filter, List.find?_eq_some_iff_append]
  constructor
  · rintro ⟨meant, before, behind, entries, others⟩
    obtain ⟨cloud, own⟩ : c.kind = .cloud ∧ c.organization = some organization := by
      simpa using meant
    refine ⟨cloud, own, before, behind, entries, fun d there cloud' own' => ?_⟩
    simpa [cloud', own'] using others d there
  · rintro ⟨cloud, own, before, behind, entries, others⟩
    refine ⟨by simp [cloud, own], before, behind, entries, fun d there => ?_⟩
    have other := others d there
    simpa [imp_iff_not_or] using other

/-! ## Edits -/

namespace Registry

variable {σ : Type} (r : Registry σ)

theorem gives_add (c : Connection) :
    Act.Gives (fun kept : Connection => kept.token = none) (r.add c) := by
  unfold add
  refine (r.gives_checked c).bind fun kept bare => ?_
  refine Act.gives_bind fun s => ?_
  split
  · exact Act.gives_throw _
  · refine Act.gives_bind fun _ => Act.gives_bind fun _ => ?_
    exact Act.gives_pure bare

theorem gives_update (c : Connection) :
    Act.Gives (fun changed : Connection => changed.token = none) (r.update c) := by
  rw [update_eq]
  refine Act.gives_bind fun s => ?_
  split
  · exact Act.gives_throw _
  · refine (r.gives_changedConnection s c _).bind fun changed bare => ?_
    unfold carriedOut
    refine Act.gives_bind fun _ => Act.gives_bind fun _ => Act.gives_bind fun _ => ?_
    refine Act.gives_bind fun _ => Act.gives_bind fun _ => ?_
    exact Act.gives_pure bare

theorem gives_submit (c : Connection) :
    Act.Gives (fun kept : Connection => kept.token = none) (r.submit c) := by
  unfold submit
  refine Act.gives_bind fun s => ?_
  split
  · exact r.gives_update _
  · exact r.gives_add _

/-- **An edit shows no token**, whatever the document is and whatever was given. -/
theorem gives_perform (e : Edit) :
    Act.Gives (fun answer => ¬ (Reply.edited answer).ShowsToken) (r.perform e) := by
  have hidden : ∀ kept : Connection, kept.token = none →
      ¬ (Reply.edited (.kept kept)).ShowsToken := by
    rintro kept bare ⟨c, shown, carries⟩
    cases List.mem_singleton.1 shown
    simp [bare] at carries
  cases e with
  | add c => exact (r.gives_add c).map hidden
  | update c => exact (r.gives_update c).map hidden
  | submit c => exact (r.gives_submit c).map hidden
  | remove id kind =>
      refine Act.Gives.map (P := fun _ => True) (fun _ _ _ => trivial) ?_
      rintro there - ⟨c, ⟨⟩, -⟩

/-! ## All operations -/

variable {r}

/-- What is listed is in the document that was loaded. -/
theorem loaded_of_list {kind : ServerKind} {h h' : σ} {reply : Reply}
    (answered : (r.serve (.list kind)).outcome h = (.ok reply, h')) :
    ∃ s, (r.loadSettings.outcome h).1 = .ok s ∧
      reply = .connections (s.connections.ofKind kind) := by
  have loads : r.list kind = (·.connections.ofKind kind) <$> r.loadSettings :=
    bind_pure_comp _ _
  rw [serve, loads, Act.outcome_map, Act.outcome_map] at answered
  obtain ⟨_, listed, rfl⟩ := Act.ok_of_map_eq_ok (congrArg Prod.fst answered)
  obtain ⟨s, loaded, rfl⟩ := Act.ok_of_map_eq_ok listed
  exact ⟨s, loaded, rfl⟩

theorem loaded_of_findByOrganization {organization : String} {h h' : σ} {reply : Reply}
    (answered : (r.serve (.findByOrganization organization)).outcome h = (.ok reply, h')) :
    ∃ s, (r.loadSettings.outcome h).1 = .ok s ∧
      reply = .connection ((s.connections.ofKind .cloud).find? fun c =>
        c.organization == some organization) := by
  have loads : r.findByOrganization organization = (fun s : Settings =>
      (s.connections.ofKind .cloud).find? fun c => c.organization == some organization) <$>
        r.loadSettings := bind_pure_comp _ _
  rw [serve, loads, Act.outcome_map, Act.outcome_map] at answered
  obtain ⟨_, found, rfl⟩ := Act.ok_of_map_eq_ok (congrArg Prod.fst answered)
  obtain ⟨s, loaded, rfl⟩ := Act.ok_of_map_eq_ok found
  exact ⟨s, loaded, rfl⟩

/-- An operation that shows a token has come upon it in the document that it has loaded. -/
theorem exposes_of_showsToken {op : Operation} {h h' : σ} {reply : Reply}
    (other : op.isLookup = false) (answered : (r.serve op).outcome h = (.ok reply, h'))
    (showing : reply.ShowsToken) :
    ∃ s, (r.loadSettings.outcome h).1 = .ok s ∧ op.Exposes s := by
  obtain ⟨c, shown, carries⟩ := showing
  cases op with
  | find kind id => cases other
  | list kind =>
      obtain ⟨s, loaded, rfl⟩ := loaded_of_list answered
      obtain ⟨entry, kind⟩ := List.mem_filter.1 shown
      exact ⟨s, loaded, c, entry, beq_iff_eq.1 kind, carries⟩
  | findByOrganization organization =>
      obtain ⟨s, loaded, rfl⟩ := loaded_of_findByOrganization answered
      have found :=
        ConnectionLists.find?_organization_eq_some_iff.1 (Option.mem_toList.1 shown)
      exact ⟨s, loaded, c, found, carries⟩
  | edit e =>
      rw [serve, Act.outcome_map] at answered
      obtain ⟨answer, performed, rfl⟩ := Act.ok_of_map_eq_ok (congrArg Prod.fst answered)
      exact absurd ⟨c, shown, carries⟩ (r.gives_perform e h answer performed)
  | migrate | tokenUnder | hasUnmigrated =>
      rw [serve, Act.outcome_map] at answered
      obtain ⟨answer, -, rfl⟩ := Act.ok_of_map_eq_ok (congrArg Prod.fst answered)
      cases shown

/-- **An operation shows a token exactly if it comes upon an entry that carries one**, in the
document that it has loaded.  The question for one connection by its name apart, only those for
the connections of a kind and for an organization can. -/
theorem shows_token_iff {op : Operation} {h h' : σ} {reply : Reply}
    (other : op.isLookup = false)
    (answered : (r.serve op).outcome h = (.ok reply, h')) :
    reply.ShowsToken ↔ ∃ s, (r.loadSettings.outcome h).1 = .ok s ∧ op.Exposes s := by
  refine ⟨exposes_of_showsToken other answered, ?_⟩
  rintro ⟨s, loaded, exposes⟩
  cases op with
  | list kind =>
      obtain ⟨s', loaded', rfl⟩ := loaded_of_list answered
      cases loaded.symm.trans loaded'
      obtain ⟨c, entry, own, carries⟩ := exposes
      exact ⟨c, List.mem_filter.2 ⟨entry, beq_iff_eq.2 own⟩, carries⟩
  | findByOrganization organization =>
      obtain ⟨s', loaded', rfl⟩ := loaded_of_findByOrganization answered
      cases loaded.symm.trans loaded'
      obtain ⟨c, first, carries⟩ := exposes
      have found := ConnectionLists.find?_organization_eq_some_iff.2 first
      exact ⟨c, Option.mem_toList.2 found, carries⟩
  | find | edit | migrate | tokenUnder | hasUnmigrated => cases exposes

/-- A former connection carries a token, and so does the second one of two entries of an
organization: one of them is listed, and none is found. -/
theorem shows_token_iff_second_entry :
    let former : Connection := ⟨none, none, some "org", none, false, some "former"⟩
    let entry : Connection :=
      ⟨some "a", some "https://app.codescan.io", some "org", some true, false, none⟩
    let other : Connection := { entry with id := some "b", token := some "t" }
    let b : Bench MemorySettings :=
      .fresh (.of ⟨⟨[], [former], [entry, other]⟩, [], []⟩) [] (.calm fun _ => false) .present
    let listed : Reply := .connections [entry, other]
    let found : Reply := .connection (some entry)
    (∃ b', ((inMemory "codescan.io").serve (.list .cloud)).outcome b = (.ok listed, b') ∧
      (listed.ShowsToken ↔ ∃ s, ((inMemory "codescan.io").loadSettings.outcome b).1 = .ok s ∧
        (Operation.list .cloud).Exposes s)) ∧
    ∃ b', ((inMemory "codescan.io").serve (.findByOrganization "org")).outcome b =
      (.ok found, b') ∧
      (found.ShowsToken ↔ ∃ s, ((inMemory "codescan.io").loadSettings.outcome b).1 = .ok s ∧
        (Operation.findByOrganization "org").Exposes s) := by
  intro former entry other b listed found
  have lists : ((inMemory "codescan.io").serve (.list .cloud)).outcome b =
      (.ok listed, (((inMemory "codescan.io").serve (.list .cloud)).outcome b).2) := rfl
  have finds : ((inMemory "codescan.io").serve (.findByOrganization "org")).outcome b =
      (.ok found,
        (((inMemory "codescan.io").serve (.findByOrganization "org")).outcome b).2) := rfl
  exact ⟨⟨_, lists, shows_token_iff rfl lists⟩, _, finds, shows_token_iff rfl finds⟩

/-- A cloud connection that was not migrated is listed with its token, and found with it, too.
The document is one that is read from a file. -/
theorem showsToken_of_list :
    let entry : Connection :=
      ⟨some "org", some "https://app.codescan.io", some "org", some true, false, some "t"⟩
    let s : Settings := Settings.blank.withConnections ⟨[], [], [entry]⟩
    let b : Bench MemorySettings := .fresh (.of s) [] (.calm fun _ => false) .present
    Settings.parse s.savedText = .ok s ∧
      (((inMemory "codescan.io").list .cloud).outcome b).1 = .ok [entry] ∧
      (((inMemory "codescan.io").findByOrganization "org").outcome b).1 = .ok (some entry) ∧
      (Reply.connections [entry]).ShowsToken ∧ (Reply.connection (some entry)).ShowsToken := by
  intro entry s b
  have carries : entry.token.isSome := rfl
  refine ⟨(Settings.restorable_blank.withConnections ⟨[], [], [entry]⟩).parse.2, rfl,
    rfl, ?_, ?_⟩
  · exact ⟨entry, .head _, carries⟩
  · exact ⟨entry, .head _, carries⟩

/-! ## Documents without tokens -/

section Bare

variable {cloudDomain : String} {b b' : Bench MemorySettings} {op : Operation} {reply : Reply}

/-- The tokens of the document only ever get fewer. -/
theorem keeps_tokens (tokens : List String) (op : Operation) :
    Act.Keeps (fun b => b.document.tokens.Subperm tokens)
      ((inMemory cloudDomain).serve op) := by
  intro b fewer
  have pictured : Watched.Shows
      (fun b : Bench MemorySettings => b.document.tokens.Subperm tokens)
      (fun _ => True) b (.of b) := ⟨rfl, fewer, nofun⟩
  exact ((((preserves_tokens cloudDomain tokens).matches_watched fun _ _ _ _ => trivial).serve op)
    b (.of b) pictured).2.holds

theorem tokens_after (ops : List Operation) :
    (Act.after (ops.map (inMemory cloudDomain).serve) b).document.tokens.Subperm
      b.document.tokens := by
  refine Act.keeps_after (I := fun b' : Bench MemorySettings =>
    b'.document.tokens.Subperm b.document.tokens) ?_ (.refl _)
  rintro _ there
  obtain ⟨op, -, rfl⟩ := List.mem_map.1 there
  exact keeps_tokens _ op

theorem not_showsToken_of_bare (bare : b.document.tokens = []) (other : op.isLookup = false)
    (answered : ((inMemory cloudDomain).serve op).outcome b = (.ok reply, b')) :
    ¬ reply.ShowsToken := by
  intro showing
  obtain ⟨s, loaded, exposes⟩ := exposes_of_showsToken other answered showing
  have loads := @does_loadSettings cloudDomain b
  rw [Does, Act.Ensures, loaded] at loads
  obtain ⟨rfl, -⟩ := loads
  exact exposes.tokens_ne_nil bare

/-- **A document without tokens shows none**, whatever is done with it: no reply of a dialogue
does, but to a question for one connection by its name. -/
theorem not_showsToken_of_dialogue (bare : b.document.tokens = []) (ops : List Operation)
    (other : op.isLookup = false)
    (answered : ((inMemory cloudDomain).serve op).outcome
      (Act.after (ops.map (inMemory cloudDomain).serve) b) = (.ok reply, b')) :
    ¬ reply.ShowsToken :=
  not_showsToken_of_bare (List.subperm_nil.1 (bare ▸ tokens_after ops)) other answered

end Bare

end Registry

end ServerConnections
