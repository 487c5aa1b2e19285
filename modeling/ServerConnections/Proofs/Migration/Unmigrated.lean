import ServerConnections.Proofs.Matching
import ServerConnections.Proofs.Migration.Repeat

/-!
# The question whether there is a token to move

A registry can be asked beforehand whether a plain token is left that the secret store
lacks.  The question goes over the document by itself: it gives every connection the
shape that a migration would give it, looks for its secret, and stops at the first one
that has none.  A migration goes over the same connections, but the table of secrets
grows while it does so.

The two agree nevertheless.  The table grows only at a connection whose secret is
missing, and at that one both stop looking: it is reason enough for a yes, and its token
is counted as moved, or as left where it is.

* `SecretTable.Lacks` — a plain token that the table lacks
* `SecretTable.exists_unsettled_iff` — when a pass moves a token or leaves one
* `Registry.hasUnmigrated_answers` — the answer to the question
* `Registry.hasUnmigrated_iff_of_migrate` — the question and the migration agree
-/

namespace ServerConnections

open Bench

/-! ## Tokens that are missing -/

/-- **The table lacks the token of a connection**: the connection carries one, and there
is no secret under its key, or no key. -/
def SecretTable.Lacks (t : SecretTable) (c : Connection) : Prop :=
  c.hasPlainToken ∧ t.tokenOf c = none

instance (t : SecretTable) (c : Connection) : Decidable (t.Lacks c) :=
  inferInstanceAs (Decidable (_ ∧ _))

/-- Whether a token was moved, or left where it was. -/
def TokenFate.isUnsettled : TokenFate → Bool
  | migrated | skipped => true
  | _ => false

theorem TokenFate.count_unsettled_pos {fates : List TokenFate} :
    0 < fates.count .migrated + fates.count .skipped ↔ ∃ f ∈ fates, f.isUnsettled := by
  have either : ∀ f : TokenFate, f.isUnsettled ↔ f = .migrated ∨ f = .skipped := by
    rintro (_ | _ | _ | _) <;> simp [TokenFate.isUnsettled]
  simp only [Nat.add_pos_iff_pos_or_pos, List.count_pos_iff, either]
  constructor
  · rintro (there | there)
    · exact ⟨_, there, .inl rfl⟩
    · exact ⟨_, there, .inr rfl⟩
  · rintro ⟨_, there, rfl | rfl⟩
    · exact .inl there
    · exact .inr there

namespace SecretTable

variable {t : SecretTable} {c : Connection}

theorem isUnsettled_fateOf : (t.fateOf c).isUnsettled ↔ t.Lacks c := by
  by_cases plain : c.hasPlainToken
  · cases keyed : c.storageKey with
    | none =>
        rw [fateOf_of_unkeyed plain keyed]
        simp [TokenFate.isUnsettled, Lacks, plain, tokenOf, keyed]
    | some key =>
        rw [fateOf_of_keyed plain keyed]
        cases there : t.get? key <;>
          simp [TokenFate.isUnsettled, Lacks, plain, tokenOf, keyed, there]
  · refine iff_of_false ?_ fun lacks => plain lacks.1
    unfold fateOf
    cases carried : c.token with
    | none => simp [TokenFate.isUnsettled]
    | some token =>
        have blank : token = "" := by
          by_contra filled
          exact plain (Connection.hasPlainToken_of_token carried filled)
        simp [TokenFate.isUnsettled, blank]

/-- The table grows only where it lacks a token. -/
theorem taking_of_not_lacks (found : ¬ t.Lacks c) : t.taking c = t := by
  refine taking_of_get?_isSome fun plain key keyed => ?_
  by_contra missing
  refine found ⟨plain, ?_⟩
  rw [tokenOf, keyed, Option.bind_some]
  exact Option.not_isSome_iff_eq_none.1 missing

/-- **A pass moves a token or leaves one exactly if the table lacks one at its start.** -/
theorem exists_unsettled_iff (t : SecretTable) (cs : List Connection) :
    (∃ f ∈ (t.moves cs).map Prod.snd, f.isUnsettled) ↔ ∃ c ∈ cs, t.Lacks c := by
  induction cs with
  | nil => simp [moves]
  | cons c cs ih =>
      simp only [moves, List.map_cons, List.exists_mem_cons_iff, isUnsettled_fateOf]
      by_cases lacks : t.Lacks c
      · exact iff_of_true (.inl lacks) (.inl lacks)
      -- The pass goes on with the same table.
      · rw [taking_of_not_lacks lacks, ih]

/-- A token is left where it is exactly if its connection has no key. -/
theorem fateOf_eq_skipped_iff :
    t.fateOf c = .skipped ↔ c.hasPlainToken ∧ c.storageKey = none := by
  by_cases plain : c.hasPlainToken
  · cases keyed : c.storageKey with
    | none => simp [fateOf_of_unkeyed plain keyed, plain]
    | some key =>
        rw [fateOf_of_keyed plain keyed]
        split <;> simp
  · refine iff_of_false (fun skipped => ?_) fun h => plain h.1
    have unsettled : (t.fateOf c).isUnsettled := skipped ▸ rfl
    exact plain (isUnsettled_fateOf.1 unsettled).1

theorem skipped_mem_fates_iff (t : SecretTable) (cs : List Connection) :
    .skipped ∈ (t.moves cs).map Prod.snd ↔
      ∃ c ∈ cs, c.hasPlainToken ∧ c.storageKey = none := by
  induction cs generalizing t with
  | nil => simp [moves]
  | cons c cs ih =>
      rw [moves, List.map_cons, List.mem_cons, List.exists_mem_cons_iff]
      exact or_congr (eq_comm.trans fateOf_eq_skipped_iff) (ih (t.taking c))

end SecretTable

theorem ConnectionLists.mem_all_of_mem_withOrigins {lists : ConnectionLists} {origin : Origin}
    {c : Connection} (there : (origin, c) ∈ lists.withOrigins) : c ∈ lists.all := by
  simp only [withOrigins, List.mem_append, List.mem_map, Prod.mk.injEq] at there
  simp only [all, List.mem_append]
  rcases there with (⟨d, entry, -, rfl⟩ | ⟨d, entry, -, rfl⟩) | ⟨d, entry, -, rfl⟩
  · exact .inl (.inl entry)
  · exact .inl (.inr entry)
  · exact .inr entry

namespace Settings

variable {s : Settings} {t : SecretTable} {isCloud : String → Bool} {c : Connection}

/-- **A document has a plain token that the table lacks.** -/
def Lacking (s : Settings) (isCloud : String → Bool) (t : SecretTable) : Prop :=
  ∃ p ∈ s.connections.withOrigins, t.Lacks (p.2.preparedBy isCloud p.1)

instance (s : Settings) (isCloud : String → Bool) (t : SecretTable) :
    Decidable (s.Lacking isCloud t) :=
  inferInstanceAs (Decidable (∃ p ∈ s.connections.withOrigins, _))

/-- Every connection with a plain token that takes part in a migration is one of the
document. -/
theorem exists_preparedBy_of_mem_migration (there : c ∈ (s.migration isCloud).all)
    (plain : c.hasPlainToken) :
    ∃ p ∈ s.connections.withOrigins, p.2.preparedBy isCloud p.1 = c := by
  simp only [Migration.all, migration, List.mem_append, List.mem_map] at there
  simp only [ConnectionLists.withOrigins, List.mem_append, List.mem_map]
  rcases there with (⟨d, entry, rfl⟩ | ⟨d, entry, rfl⟩) | ⟨d, entry, rfl⟩
  · exact ⟨(.formerSelfHosted, d), .inl (.inl ⟨d, entry, rfl⟩), rfl⟩
  · exact ⟨(.formerCloud, d), .inl (.inr ⟨d, entry, rfl⟩), rfl⟩
  · rw [Connection.hasPlainToken, Connection.token_readiedBy] at plain
    exact ⟨(.unified, d), .inr ⟨d, entry, rfl⟩, (Connection.readiedBy_of_plain plain).symm⟩

/-- The migration of a document moves a token or leaves one exactly if the document has
one that the table lacks. -/
theorem exists_unsettled_iff_lacking :
    (∃ f ∈ (s.migration isCloud).fates t, f.isUnsettled) ↔ s.Lacking isCloud t := by
  rw [Migration.fates, SecretTable.exists_unsettled_iff]
  constructor
  · rintro ⟨c, there, lacks⟩
    obtain ⟨p, entry, rfl⟩ := exists_preparedBy_of_mem_migration there lacks.1
    exact ⟨p, entry, lacks⟩
  · rintro ⟨⟨origin, c⟩, entry, lacks⟩
    have plain : c.hasPlainToken := by
      have carried := lacks.1
      rwa [Connection.hasPlainToken, Connection.token_preparedBy] at carried
    exact ⟨_, preparedBy_mem_migration entry plain, lacks⟩

end Settings

namespace Registry

variable {cloudDomain : String} {b : Bench MemorySettings}

/-! ## The question -/

theorem answers_prepared (origin : Origin) (c : Connection) :
    Answers (.ofState ((inMemory cloudDomain).prepared origin c)) b
      (c.preparedBy (b.conditions.verdict cloudDomain b.time) origin) b.unrecorded := by
  rw [answers_ofState_iff]
  cases origin with
  | formerSelfHosted => exact completed_eq b false c
  | formerCloud => exact completed_eq b true c
  | unified => exact classified_eq b c

theorem answers_hasFor (answering : b.conditions.Answering) (c : Connection) :
    Answers (.ofState ((inMemory cloudDomain).secrets.hasFor c)) b
      (b.secrets.tokenOf c).isSome b.unrecorded := by
  unfold SecretStore.hasFor SecretTable.tokenOf
  cases c.storageKey with
  | none => exact answers_pure b false
  | some key => exact answers_hasUnder answering key

/-- Going over connections, in terms of the table of secrets. -/
theorem anyUnmigrated_answers (answering : b.conditions.Answering)
    (steady : b.conditions.Steady)
    (ps : List (Origin × Connection)) :
    Answers (.ofState ((inMemory cloudDomain).anyUnmigrated ps)) b
      (decide (∃ p ∈ ps,
        b.secrets.Lacks (p.2.preparedBy (b.conditions.verdict cloudDomain 0) p.1)))
      b.unrecorded := by
  -- By induction on the connections, from every host: a look leaves only a record behind.
  induction ps generalizing b with
  | nil => exact answers_pure b false
  | cons p ps ih =>
      obtain ⟨origin, c⟩ := p
      unfold anyUnmigrated
      let d := c.preparedBy (b.conditions.verdict cloudDomain 0) origin
      by_cases plain : c.hasPlainToken
      · rw [if_pos plain]
        simp only [Act.ofState_bind]
        refine (answers_prepared origin c).bind fun b₁ left₁ => ?_
        rw [steady.verdict]
        have found : Answers (.ofState ((inMemory cloudDomain).secrets.hasFor d)) b₁
            (b.secrets.tokenOf d).isSome b.unrecorded := by
          have found :=
            @answers_hasFor cloudDomain b₁ (conditions_of_unrecorded left₁ ▸ answering) d
          rwa [left₁, secrets_of_unrecorded left₁] at found
        refine found.bind fun b₂ left₂ => ?_
        have conditions := conditions_of_unrecorded left₂
        cases secret : b.secrets.tokenOf d with
        | none =>
            have lacks : b.secrets.Lacks d :=
              ⟨by rwa [Connection.hasPlainToken, Connection.token_preparedBy], secret⟩
            rw [decide_eq_true ⟨(origin, c), .head ps, lacks⟩]
            exact ⟨rfl, left₂⟩
        | some token =>
            have found : ¬ b.secrets.Lacks d := by simp [SecretTable.Lacks, secret]
            have rest := @ih b₂ (conditions ▸ answering) (conditions ▸ steady)
            rw [left₂, conditions, secrets_of_unrecorded left₂] at rest
            simp only [List.exists_mem_cons_iff, d, found, false_or]
            exact rest
      · have absent : ¬ b.secrets.Lacks d := by
          rw [SecretTable.Lacks, Connection.hasPlainToken, Connection.token_preparedBy]
          exact fun lacks => plain lacks.1
        rw [if_neg plain]
        simp only [List.exists_mem_cons_iff, d, absent, false_or]
        exact ih answering steady

/-- **The answer to the question** is whether the document has a plain token that the
table of secrets lacks. -/
theorem hasUnmigrated_answers (answering : b.conditions.Answering)
    (steady : b.conditions.Steady) :
    Answers (inMemory cloudDomain).hasUnmigrated b
      (decide (b.document.Lacking (b.conditions.verdict cloudDomain 0) b.secrets))
      b.unrecorded := by
  unfold hasUnmigrated
  refine (answers_loadSettings b answering).bind fun b₁ left₁ => ?_
  have conditions := conditions_of_unrecorded left₁
  have answer := @anyUnmigrated_answers cloudDomain b₁ (conditions ▸ answering)
    (conditions ▸ steady) b.document.connections.withOrigins
  rw [left₁, conditions, secrets_of_unrecorded left₁] at answer
  exact answer

/-! ## The question and the migration -/

/-- A token that is in the document after a migration was left where it was. -/
theorem not_lacking_finished {k : Bench MemorySettings} {isCloud : String → Bool}
    (none : .skipped ∉ (k.document.migration isCloud).fates k.secrets) :
    let k' := (k.document.migration isCloud).finished k
    ¬ k'.document.Lacking isCloud k'.secrets := by
  rintro k' ⟨⟨origin, d⟩, there, plain, -⟩
  rw [Connection.hasPlainToken, Connection.token_preparedBy] at plain
  obtain ⟨token, carried, filled⟩ := nonEmpty?_isSome_iff.1 plain
  have bearer : d ∈ k'.document.connections.all :=
    ConnectionLists.mem_all_of_mem_withOrigins there
  obtain ⟨c, stays, carried', unkeyed⟩ :=
    (Migration.holds_iff_finished filled).2 ⟨d, bearer, carried⟩
  refine none ((SecretTable.skipped_mem_fates_iff _ _).2 ⟨c, stays.mem_all, ?_, unkeyed⟩)
  exact Connection.hasPlainToken_of_token carried' filled

/-- **The question and the migration agree**: there is a plain token that the secret
store lacks exactly if a migration moves a token or leaves one where it is.  After a
migration that leaves none there is none to move. -/
theorem hasUnmigrated_iff_of_migrate (free : b.conditions.Unfailing)
    (steady : b.conditions.Steady) :
    ∃ there b₁ report b₂, (inMemory cloudDomain).hasUnmigrated.outcome b = (.ok there, b₁) ∧
      (inMemory cloudDomain).migrate.outcome b = (.ok report, b₂) ∧
        (there = true ↔ 0 < report.migrated + report.skipped) ∧
          (report.skipped = 0 →
            ∃ b₃, (inMemory cloudDomain).hasUnmigrated.outcome b₂ = (.ok false, b₃)) := by
  obtain ⟨b₁, asked, -⟩ := (@hasUnmigrated_answers cloudDomain b free.answering steady).outcome
  obtain ⟨b₂, migrated, left⟩ := (@migrate_answers cloudDomain b free steady).outcome
  refine ⟨_, b₁, _, b₂, asked, migrated, ?_, fun settled => ?_⟩
  · rw [decide_eq_true_iff, ← Settings.exists_unsettled_iff_lacking]
    exact TokenFate.count_unsettled_pos.symm
  · have conditions : b₂.conditions = b.conditions :=
      (conditions_of_unrecorded left).trans Migration.conditions_finished
    have none : ¬ b₂.document.Lacking (b₂.conditions.verdict cloudDomain 0) b₂.secrets := by
      rw [conditions, document_of_unrecorded left, secrets_of_unrecorded left]
      exact not_lacking_finished (k := b.unrecorded) (List.count_eq_zero.1 settled)
    obtain ⟨b₃, again, -⟩ := (@hasUnmigrated_answers cloudDomain b₂
      (conditions ▸ free.answering) (conditions ▸ steady)).outcome
    rw [decide_eq_false none] at again
    exact ⟨b₃, again⟩

/-- Two connections share a key that has no secret, one has its secret, and one has to be
classified first: the migration moves one token of three and leaves none. -/
theorem hasUnmigrated_iff_of_migrate_shared_key :
    let b : Bench MemorySettings := .fresh
      (.of ⟨⟨[⟨some "x", some "https://a.example/", none, none, false, some "t"⟩],
        [⟨none, none, some "org", none, false, some "u"⟩],
        [⟨some "y", some "https://a.example", none, none, false, some "v"⟩]⟩, [], []⟩)
      [("org", "w")] (.calm fun _ => false) .nobody
    b.conditions.Unfailing ∧ b.conditions.Steady ∧
      ((inMemory "codescan.io").migrate.outcome b).1 = .ok ⟨1, 2, 0, 2, 0, true⟩ ∧
      ∃ there b₁ report b₂, (inMemory "codescan.io").hasUnmigrated.outcome b =
        (.ok there, b₁) ∧
        (inMemory "codescan.io").migrate.outcome b = (.ok report, b₂) ∧
          (there = true ↔ 0 < report.migrated + report.skipped) ∧
            (report.skipped = 0 →
              ∃ b₃, (inMemory "codescan.io").hasUnmigrated.outcome b₂ = (.ok false, b₃)) :=
  ⟨Conditions.unfailing_calm _, Conditions.steady_calm _, by decide +kernel,
    hasUnmigrated_iff_of_migrate (Conditions.unfailing_calm _) (Conditions.steady_calm _)⟩

end Registry

end ServerConnections
