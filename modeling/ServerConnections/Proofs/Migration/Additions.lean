import ServerConnections.Proofs.Migration.FormerCloud

/-!
# Secrets that a migration adds

A migration stores tokens in its first pass, one connection after the other, and finds out in
the second one which connections of the former lists are moved.  The first pass goes by keys: a
token is stored if there is no secret under its key.  The second pass goes by names: a
connection is not moved if its kind and its id are taken.  So the two may disagree about a
connection whose name is taken by one with another key.  Its token is stored, and is safe
there; but no connection of the document has its key.

A key that is new has come from the token of a connection that has this key, and what is under
it is that token.  It is the key of a connection of the document exactly if one of the
connections that had it stays.  Without a save there is no new key, for then nothing has
changed.

* `SecretTable.new_foldl_taking` — where a new secret has come from
* `Migration.exists_stays_iff` — the keys of the document
* `Registry.reached_iff_of_migrate` — which new keys are keys of the document
-/

namespace ServerConnections

open Bench

/-! ## New secrets -/

namespace SecretTable

variable {t : SecretTable} {c : Connection} {cs : List Connection} {key secret : String}

/-- The secret that a connection adds is its token, under its key. -/
theorem new_taking (absent : t.get? key = none) (there : (t.taking c).get? key = some secret) :
    c.token = some secret ∧ c.storageKey = some key := by
  unfold taking at there
  split at there
  · rename_i token own carried keyed
    split at there
    · rw [absent] at there
      cases there
    · rw [Keyed.get?_put] at there
      split at there
      · rename_i same
        obtain rfl := Option.some_inj.1 there
        exact ⟨(nonEmpty?_eq_some_iff.1 carried).1, same ▸ keyed⟩
      · rw [absent] at there
        cases there
  · rw [absent] at there
    cases there

/-- **A secret that a pass adds is the token of a connection that has its key.** -/
theorem new_foldl_taking (absent : t.get? key = none)
    (there : (cs.foldl taking t).get? key = some secret) :
    ∃ c ∈ cs, c.token = some secret ∧ c.storageKey = some key := by
  induction cs generalizing t with
  | nil =>
      rw [List.foldl_nil, absent] at there
      cases there
  | cons c cs ih =>
      rw [List.foldl_cons] at there
      cases now : (t.taking c).get? key with
      | none =>
          obtain ⟨d, later, carried⟩ := ih now there
          exact ⟨d, .tail c later, carried⟩
      | some first =>
          -- What the first connection added is there in the end.
          have stays : (cs.foldl taking (t.taking c)).get? key = some first := by
            rw [get?_foldl_taking_of_isSome (now ▸ rfl), now]
          obtain rfl := Option.some_inj.1 (stays.symm.trans there)
          exact ⟨c, .head cs, new_taking absent now⟩

end SecretTable

/-! ## Keys of the document -/

namespace Migration

variable {m : Migration} {s : Settings} {key : String}

/-- A key is one of the saved document exactly if a connection that has it stays. -/
theorem exists_stays_iff :
    (∃ d ∈ (m.document s).connections.all, d.storageKey = some key) ↔
      ∃ c, m.Stays c ∧ c.storageKey = some key := by
  have all : (m.document s).connections.all = m.adopted.1 := by
    simp [document, Settings.withConnections, ConnectionLists.all]
  rw [all]
  constructor
  · rintro ⟨d, there, keyed⟩
    obtain ⟨c, stays, rfl⟩ := mem_adopted_iff.1 there
    exact ⟨c, stays, Connection.storageKey_relieved ▸ keyed⟩
  · rintro ⟨c, stays, keyed⟩
    exact ⟨c.relieved, mem_adopted_iff.2 ⟨c, stays, rfl⟩,
      Connection.storageKey_relieved.trans keyed⟩

/-- **A connection is turned away**: it comes from a former list, and its name is taken by an
entry of the unified list or by one before it. -/
def TurnedAway (m : Migration) (c : Connection) : Prop :=
  ∃ before after, m.former = before ++ c :: after ∧ ∃ d ∈ m.unified ++ before, d.name = c.name

/-- A connection that does not stay is turned away. -/
theorem stays_or_turnedAway {verdict : Nat → String → Bool} (plan : s.Readies verdict m)
    {c : Connection} (there : c ∈ m.all) : m.Stays c ∨ m.TurnedAway c := by
  rcases List.mem_append.1 there with former | unified
  · obtain ⟨before, after, parts⟩ := List.append_of_mem former
    have identified : c.id.isSome :=
      plan.forall_mem_former (P := fun c => c.id.isSome)
        (fun _ _ _ => Connection.id_settled_isSome) c former
    by_cases taken : ∃ d ∈ m.unified ++ before, d.name = c.name
    · exact .inr ⟨before, after, parts, taken⟩
    · refine .inl (.inr ⟨before, after, parts, ?_⟩)
      intro d other
      rw [← Bool.not_eq_true]
      intro named
      exact taken ⟨d, other, (Connection.isNamed_self_iff identified).1 named⟩
  · exact .inl (.inl unified)

end Migration

namespace Registry

variable {cloudDomain : String} {b : Bench MemorySettings}

/-- **Which new keys are keys of the document after a migration**: those of which a connection
stays.  Under a new key is the token of a connection that has it, and a connection that does
not stay is one of a former list whose name was taken. -/
theorem reached_iff_of_migrate (free : b.conditions.Unfailing) :
    ∃ report b' m, (inMemory cloudDomain).migrate.outcome b = (.ok report, b') ∧
      b.document.Readies (b.conditions.verdict cloudDomain) m ∧
      (∀ c ∈ m.all, m.Stays c ∨ m.TurnedAway c) ∧
      ∀ key secret, b.secrets.get? key = none → b'.secrets.get? key = some secret →
        (∃ c ∈ m.all, c.token = some secret ∧ c.storageKey = some key) ∧
        ((∃ d ∈ b'.document.connections.all, d.storageKey = some key) ↔
          ∃ c, m.Stays c ∧ c.storageKey = some key) := by
  obtain ⟨report, b', outcome, m, plan, -, left⟩ :=
    (@migrate_yields cloudDomain b free).outcome
  refine ⟨report, b', m, outcome, plan, fun c => Migration.stays_or_turnedAway plan, ?_⟩
  intro key secret absent there
  rw [secrets_of_unrecorded left, m.secrets_finished] at there
  refine ⟨SecretTable.new_foldl_taking absent there, ?_⟩
  -- A migration that changes nothing adds no secret, so the document was saved.
  have saves : m.saves b.document b.secrets := by
    rw [plan.saves_eq_changes, ← Bool.not_eq_false, m.changes_eq_false_iff]
    intro idle
    rw [m.table_of_isIdle idle] at there
    cases absent.symm.trans there
  have document : b'.document = m.document b.document := by
    rw [document_of_unrecorded left, m.document_finished]
    exact if_pos saves
  rw [document]
  exact Migration.exists_stays_iff

/-- Two tokens are stored.  One of the connections is turned away. -/
theorem reached_iff_of_migrate_taken_name :
    let b : Bench MemorySettings := .fresh
      (.of ⟨⟨[⟨some "x", some "https://b.example", none, none, false, some "t"⟩,
            ⟨some "y", some "https://c.example", none, none, false, some "u"⟩], [],
          [⟨some "x", some "https://a.example", none, some false, false, none⟩]⟩, [], []⟩)
      [] (.calm fun _ => false) .nobody
    b.conditions.Unfailing ∧
      ((inMemory "codescan.io").migrate.outcome b).1 = .ok ⟨2, 0, 0, 1, 1, true⟩ ∧
      ∃ report b' m, (inMemory "codescan.io").migrate.outcome b = (.ok report, b') ∧
        b.document.Readies (b.conditions.verdict "codescan.io") m ∧
        (∀ c ∈ m.all, m.Stays c ∨ m.TurnedAway c) ∧
        ∀ key secret, b.secrets.get? key = none → b'.secrets.get? key = some secret →
          (∃ c ∈ m.all, c.token = some secret ∧ c.storageKey = some key) ∧
          ((∃ d ∈ b'.document.connections.all, d.storageKey = some key) ↔
            ∃ c, m.Stays c ∧ c.storageKey = some key) := by
  intro b
  have free : b.conditions.Unfailing := Conditions.unfailing_calm _
  exact ⟨free, by decide +kernel, reached_iff_of_migrate free⟩

/-- A token is stored under a key that no connection of the document has.  The connection that
had it was turned away. -/
theorem not_reached_of_migrate_turned_away :
    let b : Bench MemorySettings := .fresh
      (.of ⟨⟨[⟨some "x", some "https://b.example", none, none, false, some "t"⟩], [],
        [⟨some "x", some "https://a.example", none, some false, false, none⟩]⟩, [], []⟩)
      [] (.calm fun _ => false) .nobody
    let after := (inMemory "codescan.io").migrate.outcome b
    b.conditions.Unfailing ∧ after.1 = .ok ⟨1, 0, 0, 0, 1, true⟩ ∧
      b.secrets.get? "https://b.example" = none ∧
      after.2.secrets.get? "https://b.example" = some "t" ∧
      ∀ d ∈ after.2.document.connections.all, d.storageKey ≠ some "https://b.example" := by
  intro b after
  exact ⟨Conditions.unfailing_calm _, by decide +kernel, rfl,
    by decide +kernel, by decide +kernel⟩

end Registry

end ServerConnections
