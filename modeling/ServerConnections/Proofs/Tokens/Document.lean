import Mathlib.Data.List.Perm.Subperm
import ServerConnections.Proofs.Migration.Plan
import ServerConnections.Proofs.Registry.Session

/-!
# The tokens of a document

A document from before there was a secret store carries tokens.  No change adds one to
them: a connection is written without its token when it is added or changed, and a
migration only moves connections about and takes tokens out.  So the tokens of a changed
document are among those of the document before, each as often at most.

What a registry decides on is made of the answers of its host.  `Act.Gives` says of such
an answer that it carries no token, or none that was not there.

* `Settings.tokens` — the tokens of a document
* `Settings.tokens_added_subperm` and others — one kind of change each
* `Registry.gives_checked`, `Registry.gives_changedConnection`,
  `Registry.gives_migratedTokens` — what is written
-/

namespace ServerConnections

/-- The tokens that connections carry. -/
def Connection.tokens (cs : List Connection) : List String := cs.filterMap Connection.token

/-- **The tokens that a document carries**, in all of its lists. -/
def Settings.tokens (s : Settings) : List String := Connection.tokens s.connections.all

namespace Connection

variable {c : Connection} {cs ds : List Connection}

@[simp] theorem tokens_append : tokens (cs ++ ds) = tokens cs ++ tokens ds :=
  List.filterMap_append

@[simp] theorem tokens_singleton : tokens [c] = c.token.toList := by
  cases carried : c.token <;> simp [tokens, carried]

theorem tokens_sublist (h : cs.Sublist ds) : (tokens cs).Sublist (tokens ds) :=
  h.filterMap token

/-- An entry without a token may replace any other. -/
theorem tokens_set_sublist (i : Nat) (bare : c.token = none) :
    (tokens (cs.set i c)).Sublist (tokens cs) := by
  induction cs generalizing i with
  | nil => exact .slnil
  | cons d cs ih =>
      cases i with
      | zero =>
          have gone : tokens ((d :: cs).set 0 c) = tokens cs := by simp [tokens, bare]
          exact gone ▸ tokens_sublist (List.sublist_cons_self d cs)
      | succ i =>
          have rest : (tokens [d] ++ tokens (cs.set i c)).Sublist (tokens [d] ++ tokens cs) :=
            (ih i).append_left _
          rwa [← tokens_append, ← tokens_append] at rest

/-- A connection is written without its token. -/
theorem token_kept (c : Connection) (serverUrl : String) (organization : Option String)
    (isCloud : Bool) : (c.kept serverUrl organization isCloud).token = none := by
  rw [kept_eq]

/-- What a change keeps has no token. -/
theorem token_changed (c : Connection) (serverUrl : String) (organization : Option String)
    (isCloud muted : Bool) :
    (c.changed serverUrl organization isCloud muted).token = none := rfl

end Connection

/-- Whoever is in the list after connections were moved was there, or was to be moved. -/
theorem adopt_sublist (servers cs : List Connection) :
    (adopt servers cs).1.Sublist (servers ++ cs) := by
  induction cs generalizing servers with
  | nil => simp [adopt]
  | cons c cs ih =>
      unfold adopt
      split
      · exact (ih servers).trans ((List.sublist_cons_self c cs).append_left servers)
      · simpa using ih (servers ++ [c])

namespace Settings

variable {s : Settings}

theorem tokens_withServers (s : Settings) (cs : List Connection) :
    (s.withServers cs).tokens =
      Connection.tokens (s.connections.legacySelfHosted ++ s.connections.legacyCloud) ++
        Connection.tokens cs :=
  Connection.tokens_append

/-- A document has no new tokens if its unified list has none. -/
theorem tokens_withServers_subperm {cs : List Connection}
    (h : (Connection.tokens cs).Sublist (Connection.tokens s.servers)) :
    (s.withServers cs).tokens.Subperm s.tokens := by
  have own : s.tokens = (s.withServers s.servers).tokens := rfl
  rw [own, tokens_withServers, tokens_withServers]
  exact (h.append_left _).subperm

/-- An addition puts no token into the document. -/
theorem tokens_added_subperm {kept : Connection} (bare : kept.token = none) :
    (s.withServers (s.servers ++ [kept])).tokens.Subperm s.tokens := by
  refine tokens_withServers_subperm ?_
  rw [Connection.tokens_append, Connection.tokens_singleton, bare, Option.toList_none,
    List.append_nil]

/-- A change puts no token into the document. -/
theorem tokens_changed_subperm {changed : Connection} (i : Nat) (bare : changed.token = none) :
    (s.withServers (s.servers.set i changed)).tokens.Subperm s.tokens :=
  tokens_withServers_subperm (Connection.tokens_set_sublist i bare)

/-- A removal puts no token into the document. -/
theorem tokens_without_subperm (i : Nat) :
    (s.withServers (s.servers.eraseIdx i)).tokens.Subperm s.tokens :=
  tokens_withServers_subperm (Connection.tokens_sublist (List.eraseIdx_sublist ..))

/-- The connections of the former lists go to the end of the unified one, so that tokens
that stay may change their places. -/
theorem tokens_migrated_subperm {former unified : List Connection}
    (formerTokens : (Connection.tokens former).Sublist
      (Connection.tokens (s.connections.legacySelfHosted ++ s.connections.legacyCloud)))
    (unifiedTokens : (Connection.tokens unified).Sublist (Connection.tokens s.servers)) :
    (s.withConnections ⟨[], [], (adopt unified former).1⟩).tokens.Subperm s.tokens := by
  have moved : (s.withConnections ⟨[], [], (adopt unified former).1⟩).tokens =
      Connection.tokens (adopt unified former).1 := rfl
  have before : s.tokens =
      Connection.tokens (s.connections.legacySelfHosted ++ s.connections.legacyCloud) ++
        Connection.tokens s.servers := Connection.tokens_append
  have kept : (Connection.tokens (adopt unified former).1).Sublist
      (Connection.tokens unified ++ Connection.tokens former) := by
    rw [← Connection.tokens_append]
    exact Connection.tokens_sublist (adopt_sublist unified former)
  rw [moved, before]
  exact (kept.subperm.trans (unifiedTokens.append formerTokens).subperm).trans
    List.perm_append_comm.subperm

end Settings

/-! ## What is written -/

namespace Registry

variable {σ : Type} (r : Registry σ)

/-- A connection that passes the checks is kept without a token. -/
theorem gives_checked (c : Connection) :
    Act.Gives (fun kept : Connection => kept.token = none) (r.checked c) := by
  unfold checked
  cases c.givenUrl? with
  | none => exact Act.gives_throw _
  | some serverUrl =>
      refine Act.gives_bind fun cloud => ?_
      cases cloud with
      | false => exact Act.gives_pure (c.token_kept ..)
      | true =>
          cases nonEmpty? c.organization with
          | none => exact Act.gives_throw _
          | some organization => exact Act.gives_pure (c.token_kept ..)

/-- A connection that is changed is kept without a token. -/
theorem gives_changedConnection (s : Settings) (c existing : Connection) :
    Act.Gives (fun changed : Connection => changed.token = none)
      (r.changedConnection s c existing) := by
  unfold changedConnection
  refine Act.gives_bind fun serverUrl => ?_
  refine Act.gives_bind fun cloud => ?_
  dsimp only
  split
  · exact Act.gives_throw _
  · split
    · exact Act.gives_throw _
    · refine Act.gives_pure ?_
      exact existing.token_changed ..

theorem token_classified (c : Connection) (h : σ) : (r.classified c h).1.token = c.token := by
  unfold classified
  cases c.cloudFlag with
  | some flag => rfl
  | none => simp only [Act.state_bind, Act.state_pure, Connection.withCloudFlag]

theorem token_completed (inCloudList : Bool) (c : Connection) (h : σ) :
    (r.completed inCloudList c h).1.token = c.token := by
  have settled : (r.completed inCloudList c h).1 =
      (r.classified (if inCloudList then c.ofFormerCloud else c).withCleanUrl h).1.settled := rfl
  rw [settled, Connection.token_settled, token_classified]
  cases inCloudList <;> rfl

/-- To complete a list is nothing to its tokens. -/
theorem tokens_completedAll (inCloudList : Bool) (cs : List Connection) (h : σ) :
    Connection.tokens (r.completedAll inCloudList cs h).1 = Connection.tokens cs := by
  induction cs generalizing h with
  | nil => rfl
  | cons c cs ih =>
      have rest := ih (r.completed inCloudList c h).2
      have first := r.token_completed inCloudList c h
      simp only [completedAll, Act.state_bind, Act.state_pure, Connection.tokens,
        List.filterMap_cons, first] at rest ⊢
      rw [rest]

/-- A connection keeps its token, or it loses it. -/
theorem gives_migratedToken (c : Connection) :
    Act.Gives (fun p : Connection × TokenFate => p.1.token = c.token ∨ p.1.token = none)
      (r.migratedToken c) := by
  unfold migratedToken
  cases carried : c.token with
  | none => exact Act.gives_pure (.inl carried)
  | some token =>
      dsimp only
      split
      · exact Act.gives_pure (.inr rfl)
      · refine Act.Gives.bind (P := fun d : Connection => d.token = c.token)
          (Act.gives_ofState (r.token_classified c)) fun d same => ?_
        cases d.storageKey with
        | none => exact Act.gives_pure (.inl (same.trans carried))
        | some key => exact Act.gives_bind fun fate => Act.gives_pure (.inr rfl)

/-- The first pass takes tokens away and adds none, by induction along the list. -/
theorem gives_migratedTokens (cs : List Connection) :
    Act.Gives (fun ps : List (Connection × TokenFate) =>
      (Connection.tokens (ps.map Prod.fst)).Sublist (Connection.tokens cs))
      (r.migratedTokens cs) := by
  induction cs with
  | nil => exact Act.gives_pure .slnil
  | cons c cs ih =>
      refine (r.gives_migratedToken c).bind fun p kept => ?_
      refine ih.bind fun ps rest => ?_
      refine Act.gives_pure ?_
      have first : (Connection.tokens [p.1]).Sublist (Connection.tokens [c]) := by
        rcases kept with same | bare
        · simp [same]
        · simp [bare]
      have both := first.append rest
      rwa [← Connection.tokens_append, ← Connection.tokens_append] at both

end Registry

end ServerConnections
