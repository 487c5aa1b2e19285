import ServerConnections.Proofs.Migration.Endings

/-!
# What becomes of plain tokens

A plain token that has a key has a secret under it after a migration.  One without
a key is left where it is, on its connection, and so it shares the fate of the
connection: if that comes from a former list and its name is taken, the connection
is not moved, and the token is gone with it.  The token is then in the document
only if another connection without a key has the same one and stays.

* `Migration.Stays` says which connections are in the document afterwards
* `Migration.Holds` — a token without a key is in the document afterwards
* `Bench.KeepsToken` — a token is where it belongs
* `Registry.keepsToken_iff_of_migrate` — which tokens are where they belong
-/

namespace ServerConnections

open Bench

namespace Migration

variable {m : Migration} {s : Settings} {t : SecretTable} {c d : Connection} {token : String}

/-! ## The unified list afterwards -/

theorem isFreeIn_map_relieved {cs : List Connection} :
    c.relieved.IsFreeIn (cs.map Connection.relieved) ↔ c.IsFreeIn cs := by
  simp [Connection.IsFreeIn]

theorem mem_adopted_iff : d ∈ m.adopted.1 ↔ ∃ c, m.Stays c ∧ c.relieved = d := by
  -- A connection has the same name with and without its token.
  rw [adopted, mem_adopt_iff]
  constructor
  · rintro (there | ⟨before, after, parts, free⟩)
    · obtain ⟨c, entry, rfl⟩ := List.mem_map.1 there
      exact ⟨c, .inl entry, rfl⟩
    · obtain ⟨before, _, former, rfl, rest⟩ := List.map_eq_append_iff.1 parts
      obtain ⟨c, after, rfl, rfl, rfl⟩ := List.map_eq_cons_iff.1 rest
      rw [← List.map_append, isFreeIn_map_relieved] at free
      exact ⟨c, .inr ⟨before, after, former, free⟩, rfl⟩
  · rintro ⟨c, there | ⟨before, after, former, free⟩, rfl⟩
    · exact .inl (List.mem_map_of_mem there)
    · refine .inr ⟨before.map Connection.relieved, after.map Connection.relieved, ?_, ?_⟩
      · rw [former, List.map_append, List.map_cons]
      · rwa [← List.map_append, isFreeIn_map_relieved]

/-- **A token without a key is in the document afterwards.** -/
def Holds (m : Migration) (token : String) : Prop :=
  ∃ c, m.Stays c ∧ c.token = some token ∧ c.storageKey = none

theorem holds_iff (filled : token ≠ "") :
    m.Holds token ↔ ∃ d ∈ m.adopted.1, d.token = some token := by
  constructor
  · rintro ⟨c, stays, carried⟩
    exact ⟨c.relieved, mem_adopted_iff.2 ⟨c, stays, rfl⟩,
      (Connection.token_relieved_eq_some_iff filled).2 carried⟩
  · rintro ⟨d, there, carried⟩
    obtain ⟨c, stays, rfl⟩ := mem_adopted_iff.1 there
    exact ⟨c, stays, (Connection.token_relieved_eq_some_iff filled).1 carried⟩

/-! ## Migrations without a save -/

/-- If nothing changes, every connection stays as it is, and no token has a key. -/
theorem storageKey_eq_none_of_not_changes (idle : m.changes s t = false) (there : c ∈ m.all)
    (plain : c.hasPlainToken) : c.storageKey = none :=
  Connection.storageKey_eq_none_of_relieved ((m.changes_eq_false_iff.1 idle).2 c there) plain

end Migration

namespace Settings

variable {s : Settings} {t : SecretTable} {isCloud : String → Bool} {c : Connection}
  {origin : Origin} {token : String}

/-- A migration without connections changes nothing, so that one that changes
something has connections to save. -/
theorem Readies.saves_eq_changes {verdict : Nat → String → Bool} {m : Migration}
    (h : s.Readies verdict m) : m.saves s t = m.changes s t := by
  unfold Migration.saves
  cases changes : m.changes s t with
  | false => rfl
  | true =>
      have some : m.unified ≠ [] ∨ m.former ≠ [] := by
        by_contra none
        obtain ⟨unified, former⟩ := not_or.1 none
        rw [not_not] at unified former
        have present : s.connections.hasLegacy := by
          simpa [Migration.changes, Migration.fates, Migration.all, unified, former,
            SecretTable.moves] using changes
        exact h.hasLegacy_iff.1 present former
      have adopted : m.adopted.1 ≠ [] := adopt_ne_nil (by simpa using some)
      simpa using adopted

/-- Every connection with a plain token takes part in the migration. -/
theorem preparedBy_mem_migration (there : (origin, c) ∈ s.connections.withOrigins)
    (plain : c.hasPlainToken) : c.preparedBy isCloud origin ∈ (s.migration isCloud).all := by
  simp only [ConnectionLists.withOrigins, List.mem_append, List.mem_map,
    Prod.mk.injEq] at there
  simp only [Migration.all, migration, List.mem_append, List.mem_map]
  rcases there with (⟨d, there, rfl, rfl⟩ | ⟨d, there, rfl, rfl⟩) | ⟨d, there, rfl, rfl⟩
  · exact .inl (.inl ⟨d, there, rfl⟩)
  · exact .inl (.inr ⟨d, there, rfl⟩)
  · exact .inr ⟨d, there, Connection.readiedBy_of_plain plain⟩

/-- Where nothing is saved, a plain token without a key is in the document, and was
there before. -/
theorem holds_iff_of_not_changes (filled : token ≠ "")
    (idle : (s.migration isCloud).changes s t = false) :
    (s.migration isCloud).Holds token ↔ ∃ d ∈ s.connections.all, d.token = some token := by
  -- Nothing changes only if the former lists are empty and no token has a key.
  have unkeyed := fun c => Migration.storageKey_eq_none_of_not_changes (c := c) idle
  rw [Migration.changes, Bool.or_eq_false_iff, ConnectionLists.hasLegacy,
    Bool.or_eq_false_iff] at idle
  obtain ⟨⟨noSelfHosted, noCloud⟩, -⟩ := idle
  have noSelfHosted : s.connections.legacySelfHosted = [] := by simpa using noSelfHosted
  have noCloud : s.connections.legacyCloud = [] := by simpa using noCloud
  have former : (s.migration isCloud).former = [] := by simp [migration, noSelfHosted, noCloud]
  have all : s.connections.all = s.servers := by
    simp [ConnectionLists.all, noSelfHosted, noCloud, servers]
  rw [all]
  constructor
  · rintro ⟨c, entry | ⟨before, after, parts, -⟩, carried, -⟩
    · obtain ⟨d, there, rfl⟩ := List.mem_map.1 entry
      exact ⟨d, there, by simpa using carried⟩
    · simp [former] at parts
  · rintro ⟨d, there, carried⟩
    have entry : d.readiedBy isCloud ∈ (s.migration isCloud).unified :=
      List.mem_map_of_mem there
    have carried : (d.readiedBy isCloud).token = some token := by simpa using carried
    exact ⟨d.readiedBy isCloud, .inl entry, carried,
      unkeyed _ (List.mem_append_right _ entry)
        (Connection.hasPlainToken_of_token carried filled)⟩

end Settings

/-! ## Where tokens belong -/

/-- **A token is where it belongs**, given its connection in its final shape: in the
secret store if the connection has a key, and in the document if not.  In the store
there may be another secret under the key, which was there before. -/
def Bench.KeepsToken (b : Bench MemorySettings) (c : Connection) (token : String) : Prop :=
  match c.storageKey with
  | some key => (b.secrets.get? key).isSome
  | none => ∃ d ∈ b.document.connections.all, d.token = some token

instance (b : Bench MemorySettings) (c : Connection) (token : String) :
    Decidable (b.KeepsToken c token) :=
  match keyed : c.storageKey with
  | some key =>
    decidable_of_iff (b.secrets.get? key).isSome (by simp [KeepsToken, keyed])
  | none =>
    decidable_of_iff (∃ d ∈ b.document.connections.all, d.token = some token)
      (by simp [KeepsToken, keyed])

namespace Migration

variable {k : Bench MemorySettings} {token : String}

@[simp] theorem secrets_finished (m : Migration) :
    (m.finished k).secrets = m.table k.secrets := by
  unfold finished
  split <;> rfl

theorem medium_finished (m : Migration) :
    (m.finished k).medium =
      if m.saves k.document k.secrets then k.medium.saved (m.document k.document)
      else k.medium := by
  unfold finished
  split <;> rfl

theorem document_finished (m : Migration) :
    (m.finished k).document =
      if m.saves k.document k.secrets then m.document k.document else k.document := by
  rw [Bench.document, medium_finished]
  split <;> rfl

/-- The tokens without a key that are in the document afterwards. -/
theorem holds_iff_finished {isCloud : String → Bool} (filled : token ≠ "") :
    (k.document.migration isCloud).Holds token ↔
      ∃ d ∈ ((k.document.migration isCloud).finished k).document.connections.all,
        d.token = some token := by
  generalize planned : k.document.migration isCloud = m
  -- A migration that changes something always has connections to save.
  have saves : m.saves k.document k.secrets = m.changes k.document k.secrets :=
    (planned ▸ k.document.readies_migration isCloud).saves_eq_changes
  rw [document_finished, saves]
  cases changes : m.changes k.document k.secrets with
  | true =>
      simpa [document, Settings.withConnections, ConnectionLists.all] using holds_iff filled
  | false =>
      subst planned
      simpa using Settings.holds_iff_of_not_changes filled changes

end Migration

namespace Registry

variable {cloudDomain : String} {b : Bench MemorySettings}

/-- **Which plain tokens are where they belong after a migration**: those that have a
key, and those without one of which a bearer stays in the document.  Those of which
no bearer stays are in neither place. -/
theorem keepsToken_iff_of_migrate (free : b.conditions.Unfailing)
    (steady : b.conditions.Steady) :
    let isCloud := b.conditions.verdict cloudDomain 0
    ∃ report b', (inMemory cloudDomain).migrate.outcome b = (.ok report, b') ∧
      ∀ origin c token, (origin, c) ∈ b.document.connections.withOrigins →
        c.token = some token → token ≠ "" →
          (b'.KeepsToken (c.preparedBy isCloud origin) token ↔
            ((c.preparedBy isCloud origin).storageKey = none →
              (b.document.migration isCloud).Holds token)) := by
  intro isCloud
  obtain ⟨b', outcome, left⟩ := (@migrate_answers cloudDomain b free steady).outcome
  refine ⟨_, b', outcome, fun origin c token there carried filled => ?_⟩
  unfold KeepsToken
  cases keyed : (c.preparedBy isCloud origin).storageKey with
  | none =>
      have kept := @Migration.holds_iff_finished b.unrecorded token isCloud filled
      rw [document_of_unrecorded left]
      exact ⟨fun present _ => kept.2 present, fun holds => kept.1 (holds rfl)⟩
  | some key =>
      have plain := Connection.hasPlainToken_of_token carried filled
      have plain' : (c.preparedBy isCloud origin).hasPlainToken := by
        rw [Connection.hasPlainToken, Connection.token_preparedBy]
        exact plain
      refine iff_of_true ?_ nofun
      rw [secrets_of_unrecorded left, Migration.secrets_finished]
      exact SecretTable.get?_foldl_taking_isSome
        (Settings.preparedBy_mem_migration there plain)
        plain' keyed

/-- Two connections without a key have the same token, and one of them has a name that
is taken. -/
theorem keepsToken_iff_of_migrate_shared_token :
    let taken : Connection := ⟨some "x", none, none, none, false, some "t"⟩
    let b : Bench MemorySettings := .fresh
      (.of ⟨⟨[taken, { taken with id := some "y" }], [],
        [⟨some "x", some "https://a.example", none, some false, false, none⟩]⟩, [], []⟩)
      [] (.calm fun _ => false) .nobody
    let isCloud := b.conditions.verdict "codescan.io" 0
    b.conditions.Unfailing ∧ b.conditions.Steady ∧
      ∃ report b', (inMemory "codescan.io").migrate.outcome b = (.ok report, b') ∧
        ∀ origin c token, (origin, c) ∈ b.document.connections.withOrigins →
          c.token = some token → token ≠ "" →
            (b'.KeepsToken (c.preparedBy isCloud origin) token ↔
              ((c.preparedBy isCloud origin).storageKey = none →
                (b.document.migration isCloud).Holds token)) :=
  ⟨Conditions.unfailing_calm _, Conditions.steady_calm _,
    keepsToken_iff_of_migrate (Conditions.unfailing_calm _) (Conditions.steady_calm _)⟩

/-- A token is reported as left where it was, and is neither in the document nor in the
store: the name of its connection was taken. -/
theorem not_keepsToken_of_migrate_taken_name :
    let c : Connection := ⟨some "x", none, none, none, false, some "t"⟩
    let b : Bench MemorySettings := .fresh
      (.of ⟨⟨[c], [], [⟨some "x", some "https://a.example", none, some false, false, none⟩]⟩,
        [], []⟩) [] (.calm fun _ => false) .nobody
    let after := (inMemory "codescan.io").migrate.outcome b
    after.1 = .ok ⟨0, 0, 1, 0, 1, true⟩ ∧
      (.formerSelfHosted, c) ∈ b.document.connections.withOrigins ∧
        ¬ after.2.KeepsToken
          (c.preparedBy (b.conditions.verdict "codescan.io" 0) .formerSelfHosted) "t" :=
  ⟨by decide +kernel, .head _, by decide +kernel⟩

end Registry

end ServerConnections
