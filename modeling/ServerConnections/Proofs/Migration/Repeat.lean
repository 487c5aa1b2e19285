import ServerConnections.Proofs.Migration.PlainToken

/-!
# Migrations may be repeated

After a migration there is nothing left to do: the former lists are empty, and every
connection keeps what it carries, since a token that could be moved was moved.  A
second migration therefore changes nothing and saves nothing.

A migration that fails has stored the tokens of the first few connections, and it has
not saved the document.  When it is made again these connections find their secrets
there, and so the token is dropped where it would have been stored; the others come
after them as before.  The table of secrets is the same in the end, and so is the
document, for which it makes no difference whether a token is stored or dropped.

* `Settings.isIdle_migration` — after a migration there is nothing to do
* `Registry.migrate_again` — a second migration
* `Migration.Resumes` — a host on which a migration was interrupted
* `Registry.first_success_of_attempts` — attempts at a migration until one succeeds
-/

namespace ServerConnections

open Bench

/-! ## Nothing is left to do -/

namespace Connection

variable {isCloud : String → Bool} {c : Connection}

/-- The shape of a connection is final, unless it is to be classified for its token. -/
theorem readiedBy_relieved (classified : c.hasPlainToken → c.cloudFlag.isSome) :
    c.relieved.readiedBy isCloud = c.relieved := by
  rcases @relieved_eq_or c with stays | bare
  · rw [stays]
    by_cases plain : c.hasPlainToken
    · exact readiedBy_of_isSome (classified plain)
    · exact readiedBy_of_not_plain plain
  · rw [bare]
    exact readiedBy_of_not_plain nofun

end Connection

theorem Migration.Stays.mem_all {m : Migration} {c : Connection} (stays : m.Stays c) :
    c ∈ m.all := by
  rcases stays with unified | ⟨before, after, former, -⟩
  · exact List.mem_append_right _ unified
  · exact List.mem_append_left _ (former ▸ List.mem_append_right _ (.head _))

namespace Settings

variable {s : Settings} {isCloud : String → Bool} {c : Connection}

/-- Every connection with a token takes part in a migration as a classified one. -/
theorem cloudFlag_isSome_of_mem_migration (there : c ∈ (s.migration isCloud).all)
    (plain : c.hasPlainToken) : c.cloudFlag.isSome := by
  simp only [Migration.all, migration, List.mem_append, List.mem_map] at there
  rcases there with (⟨d, -, rfl⟩ | ⟨d, -, rfl⟩) | ⟨d, -, rfl⟩
  · exact Connection.cloudFlag_completedBy_isSome
  · exact Connection.cloudFlag_completedBy_isSome
  · rw [Connection.hasPlainToken, Connection.token_readiedBy] at plain
    rw [Connection.readiedBy_of_plain plain]
    exact Connection.cloudFlag_classifiedBy_isSome

/-- **After a migration there is nothing to do.** -/
theorem isIdle_migration :
    let s' := (s.migration isCloud).document s
    (s'.migration isCloud).IsIdle s' := by
  intro s'
  have final : ∀ d ∈ (s.migration isCloud).adopted.1,
      d.readiedBy isCloud = d ∧ d.relieved = d := by
    intro d there
    obtain ⟨c, stays, rfl⟩ := Migration.mem_adopted_iff.1 there
    have classified := cloudFlag_isSome_of_mem_migration stays.mem_all
    exact ⟨Connection.readiedBy_relieved classified, Connection.relieved_relieved⟩
  refine ⟨rfl, fun d there => ?_⟩
  obtain ⟨e, entry, rfl⟩ := List.mem_map.1 (show d ∈ s'.servers.map _ from there)
  obtain ⟨shaped, relieved⟩ := final e entry
  rw [shaped, relieved]

/-- Where there is nothing to do, no connection is moved. -/
theorem former_eq_nil_of_isIdle (idle : (s.migration isCloud).IsIdle s) :
    (s.migration isCloud).former = [] := by
  have none : s.connections.legacySelfHosted = [] ∧ s.connections.legacyCloud = [] := by
    simpa [ConnectionLists.hasLegacy] using idle.1
  simp [migration, none]

end Settings

namespace Migration

variable {m : Migration} {s : Settings} {t : SecretTable} {k : Bench MemorySettings}

theorem finished_of_isIdle (idle : m.IsIdle k.document) : m.finished k = k := by
  have unsaved : m.saves k.document k.secrets = false := by
    rw [saves, m.changes_eq_false_iff.2 idle, Bool.false_and]
  unfold finished
  rw [unsaved, table_of_isIdle m idle]
  rfl

theorem report_of_isIdle (idle : m.IsIdle s) (unmoved : m.former = []) :
    m.report s t = { MigrationReport.nothing with skipped := (m.report s t).skipped } := by
  have unchanged : m.changes s t = false := m.changes_eq_false_iff.2 idle
  have fates := List.any_eq_false.1 (Bool.or_eq_false_iff.1 unchanged).2
  have migrated : (m.fates t).count .migrated = 0 :=
    List.count_eq_zero.2 fun there => by simpa using fates _ there
  have stripped : (m.fates t).count .stripped = 0 :=
    List.count_eq_zero.2 fun there => by simpa using fates _ there
  have adopted : m.adopted.2 = 0 := by
    rw [adopted, unmoved]
    rfl
  simp [report, MigrationReport.of, MigrationReport.nothing, migrated, stripped, adopted,
    unmoved, saves, unchanged]

@[simp] theorem conditions_finished : (m.finished k).conditions = k.conditions := by
  unfold finished
  split <;> rfl

/-- **A migration leaves nothing to do**, whether it has saved the document or not. -/
theorem isIdle_finished {isCloud : String → Bool} :
    let k' := (k.document.migration isCloud).finished k
    (k'.document.migration isCloud).IsIdle k'.document := by
  intro k'
  have saves : (k.document.migration isCloud).saves k.document k.secrets =
      (k.document.migration isCloud).changes k.document k.secrets :=
    (k.document.readies_migration isCloud).saves_eq_changes
  have document := (k.document.migration isCloud).document_finished (k := k)
  rw [saves] at document
  cases changes : (k.document.migration isCloud).changes k.document k.secrets with
  | true =>
      rw [changes, if_pos rfl] at document
      exact document ▸ Settings.isIdle_migration
  | false =>
      rw [changes, if_neg Bool.false_ne_true] at document
      exact document ▸ (k.document.migration isCloud).changes_eq_false_iff.1 changes

end Migration

/-! ## A second migration -/

namespace Registry

variable {cloudDomain : String} {b : Bench MemorySettings}

/-- **A second migration leaves the host as the first one has left it**, but for the record
of calls: neither is the document saved nor does any secret change.  It reports nothing
but the tokens that cannot be moved. -/
theorem migrate_again (free : b.conditions.Unfailing) (steady : b.conditions.Steady) :
    ∃ report b' again b'', (inMemory cloudDomain).migrate.outcome b = (.ok report, b') ∧
      (inMemory cloudDomain).migrate.outcome b' = (.ok again, b'') ∧
        b''.unrecorded = b'.unrecorded ∧
          again = { MigrationReport.nothing with skipped := again.skipped } := by
  obtain ⟨b', outcome, left⟩ := (@migrate_answers cloudDomain b free steady).outcome
  have conditions : b'.conditions = b.conditions :=
    (conditions_of_unrecorded left).trans Migration.conditions_finished
  obtain ⟨b'', outcome', left'⟩ :=
    (@migrate_answers cloudDomain b' (conditions ▸ free) (conditions ▸ steady)).outcome
  have idle : (b'.document.migration (b'.conditions.verdict cloudDomain 0)).IsIdle
      b'.document := by
    rw [document_of_unrecorded left, conditions]
    exact Migration.isIdle_finished (k := b.unrecorded)
  refine ⟨_, b', _, b'', outcome, outcome', ?_, ?_⟩
  · exact left'.trans (Migration.finished_of_isIdle (k := b'.unrecorded) idle)
  · exact Migration.report_of_isIdle idle (Settings.former_eq_nil_of_isIdle idle)

/-- The first migration stores a token, drops an empty one and a connection whose name is
taken, and leaves a token without a key; it finds out who hosts two of the servers. -/
theorem migrate_again_skipped :
    let b : Bench MemorySettings := .fresh
      (.of ⟨⟨[⟨some "x", some "https://a.example/", none, none, false, some "t"⟩,
          ⟨some "y", some "https://b.example", none, none, false, none⟩],
        [⟨none, none, some "org", none, false, some ""⟩],
        [⟨some "x", none, none, none, false, some "kept"⟩]⟩, [], []⟩)
      [] (.calm fun url => url == "https://b.example") .nobody
    b.conditions.Unfailing ∧ b.conditions.Steady ∧
      ∃ report b' again b'', (inMemory "codescan.io").migrate.outcome b = (.ok report, b') ∧
        (inMemory "codescan.io").migrate.outcome b' = (.ok again, b'') ∧
          b''.unrecorded = b'.unrecorded ∧
            again = { MigrationReport.nothing with skipped := again.skipped } :=
  ⟨Conditions.unfailing_calm _, Conditions.steady_calm _,
    migrate_again (Conditions.unfailing_calm _) (Conditions.steady_calm _)⟩

end Registry

/-! ## Attempts that fail -/

namespace Migration

variable {m : Migration} {k b b' : Bench MemorySettings}

/-- **A host on which a migration was interrupted**, any number of times: it differs from
the host before in its secrets only, and they will be the same in the end. -/
structure Resumes (m : Migration) (k b : Bench MemorySettings) : Prop where
  left : b.unrecorded = k.withSecrets b.secrets
  table : m.table b.secrets = m.table k.secrets

theorem Resumes.refl (b : Bench MemorySettings) : m.Resumes b.unrecorded b := ⟨rfl, rfl⟩

theorem Resumes.document (h : m.Resumes k b) : b.document = k.document :=
  (document_of_unrecorded h.left).trans rfl

theorem Resumes.conditions (h : m.Resumes k b) : b.conditions = k.conditions :=
  (conditions_of_unrecorded h.left).trans rfl

/-- One more interruption, after the tokens of the first few connections. -/
theorem Resumes.interrupted (h : m.Resumes k b) {before after : List Connection}
    (parts : m.all = before ++ after)
    (left : b'.unrecorded =
      b.unrecorded.withSecrets (before.foldl SecretTable.taking b.secrets)) :
    m.Resumes k b' := by
  have secrets : b'.secrets = before.foldl SecretTable.taking b.secrets :=
    secrets_of_unrecorded left
  refine ⟨?_, ?_⟩
  · rw [left, h.left, secrets]
    rfl
  · have again := SecretTable.foldl_taking_append_foldl before after b.secrets
    rw [← parts] at again
    rw [secrets, ← h.table]
    exact again

/-- A migration that was interrupted ends as if it had not been: whether there is
something to save does not depend on the secrets that are there by then. -/
theorem Resumes.finished (h : m.Resumes k b) : m.finished b.unrecorded = m.finished k := by
  have changes : m.changes k.document b.secrets = m.changes k.document k.secrets := by
    rw [Bool.eq_iff_iff, ← not_iff_not, Bool.not_eq_true, Bool.not_eq_true,
      m.changes_eq_false_iff, m.changes_eq_false_iff]
  have saves : m.saves k.document b.secrets = m.saves k.document k.secrets := by
    rw [Migration.saves, Migration.saves, changes]
  rw [h.left]
  change (if m.saves k.document b.secrets then
      (k.withSecrets (m.table b.secrets)).saved (m.document k.document)
    else k.withSecrets (m.table b.secrets)) = m.finished k
  rw [saves, h.table]
  rfl

end Migration

namespace Registry

/-- **Attempts at a migration**, one after the other. -/
def attempts {σ : Type} (r : Registry σ) (n : Nat) :
    σ → List (Except ConnectionError MigrationReport × σ) :=
  Act.outcomes (List.replicate n r.migrate)

variable {cloudDomain : String} {k b : Bench MemorySettings}

/-- One attempt, on a host on which others were made before. -/
theorem migrate_resumes {m : Migration} (answering : k.conditions.Answering)
    (steady : k.conditions.Steady)
    (planned : k.document.migration (k.conditions.verdict cloudDomain 0) = m)
    (resumes : m.Resumes k b) :
    (inMemory cloudDomain).migrate.Ensures b fun res b' =>
      match res with
      | .ok _ => b'.unrecorded = m.finished k
      | .error _ => m.Resumes k b' := by
  have document : b.unrecorded.document = k.document := resumes.document
  have conditions : b.unrecorded.conditions = k.conditions := resumes.conditions
  -- The probe answers the same, so that every attempt has the same plan.
  have same : ∀ m',
      b.unrecorded.document.Readies (b.unrecorded.conditions.verdict cloudDomain) m' →
      m' = m := by
    intro m' plan
    rw [document, conditions] at plan
    exact (plan.eq_migration (steady.verdict cloudDomain)).trans planned
  refine (migrate_ends (conditions ▸ answering)).mono fun res b' ends => ?_
  cases ends with
  | interrupted plan parts stopped =>
      obtain rfl := same _ plan
      exact resumes.interrupted parts stopped.left
  | done plan left =>
      obtain rfl := same _ plan
      exact left.trans resumes.finished

/-- The attempts up to the first one that succeeds. -/
theorem attempts_resume {m : Migration} (answering : k.conditions.Answering)
    (steady : k.conditions.Steady)
    (planned : k.document.migration (k.conditions.verdict cloudDomain 0) = m)
    (resumes : m.Resumes k b) (n : Nat) :
    (∀ o ∈ ((inMemory cloudDomain).attempts n b).takeWhile (fun o => !o.1.isOk),
        m.Resumes k o.2) ∧
      ∀ o, ((inMemory cloudDomain).attempts n b).find? (fun o => o.1.isOk) = some o →
        o.2.unrecorded = m.finished k := by
  -- By induction on the attempts, from every host on which others were made before.
  induction n generalizing b with
  | zero => exact ⟨nofun, nofun⟩
  | succ n ih =>
      have first := migrate_resumes answering steady planned resumes
      have run : (inMemory cloudDomain).attempts (n + 1) b =
          (inMemory cloudDomain).migrate.outcome b ::
            (inMemory cloudDomain).attempts n ((inMemory cloudDomain).migrate.outcome b).2 := rfl
      rw [run]
      generalize ended : (inMemory cloudDomain).migrate.outcome b = o at *
      obtain ⟨res, b'⟩ := o
      have first := first.of_outcome ended
      cases res with
      | ok report =>
          refine ⟨nofun, ?_⟩
          rintro _ ⟨⟩
          exact first
      | error e =>
          obtain ⟨failed, success⟩ := ih first
          exact ⟨List.forall_mem_cons.2 ⟨first, failed⟩, success⟩

/-- **A migration may be attempted until it succeeds.**  Questions are answered, but what
is to be written may be refused at any time.  An attempt that fails leaves the document
alone, and the first one that succeeds leaves the document and the secrets that one
migration leaves if nothing is refused. -/
theorem first_success_of_attempts (answering : b.conditions.Answering)
    (steady : b.conditions.Steady) (n : Nat) :
    ∃ report b₀, (inMemory cloudDomain).migrate.outcome b.undisturbed = (.ok report, b₀) ∧
      (∀ o ∈ ((inMemory cloudDomain).attempts n b).takeWhile (fun o => !o.1.isOk),
        o.2.medium = b.medium) ∧
      ∀ o, ((inMemory cloudDomain).attempts n b).find? (fun o => o.1.isOk) = some o →
        o.2.medium = b₀.medium ∧ o.2.secrets = b₀.secrets := by
  have free : b.undisturbed.conditions.Unfailing :=
    ⟨fun _ => rfl, fun _ => rfl, fun _ _ => rfl, fun _ _ => rfl, fun _ _ => rfl⟩
  obtain ⟨b₀, outcome, left⟩ :=
    (@migrate_answers cloudDomain b.undisturbed free steady).outcome
  obtain ⟨failed, success⟩ :=
    @attempts_resume cloudDomain b.unrecorded b _ answering steady rfl (.refl b) n
  refine ⟨_, b₀, outcome, fun o there => ?_, fun o first => ?_⟩
  · exact (medium_of_unrecorded (failed o there).left).trans rfl
  · have ends := success o first
    constructor
    -- Neither the document nor the secrets of the end depend on what was refused.
    · rw [medium_of_unrecorded ends, medium_of_unrecorded left, Migration.medium_finished,
        Migration.medium_finished]
      rfl
    · rw [secrets_of_unrecorded ends, secrets_of_unrecorded left, Migration.secrets_finished,
        Migration.secrets_finished]
      rfl

/-- One token is stored before the other one is refused, then saving is refused, and the
third attempt succeeds. -/
theorem first_success_of_attempts_third :
    let b : Bench MemorySettings := .fresh
      (.of ⟨⟨[⟨some "x", some "https://a.example/", none, some false, false, some "t"⟩], [],
        [⟨some "y", some "https://b.example", none, some false, false, some "u"⟩]⟩, [], []⟩) []
      { Conditions.calm fun _ => false with
        refusesStore := fun n _ => if n = 4 then some "locked" else none
        refusesSave := fun n => if n = 9 then some "full" else none } .nobody
    let attempts := (inMemory "codescan.io").attempts 3 b
    b.conditions.Answering ∧ b.conditions.Steady ∧
      attempts.map (fun o => o.1.isOk) = [false, false, true] ∧
      ∃ report b₀, (inMemory "codescan.io").migrate.outcome b.undisturbed = (.ok report, b₀) ∧
        (∀ o ∈ attempts.takeWhile (fun o => !o.1.isOk), o.2.medium = b.medium) ∧
        ∀ o, attempts.find? (fun o => o.1.isOk) = some o →
          o.2.medium = b₀.medium ∧ o.2.secrets = b₀.secrets := by
  intro b attempts
  have answering : b.conditions.Answering := ⟨fun _ => rfl, fun _ _ => rfl⟩
  have steady : b.conditions.Steady := fun _ _ _ => rfl
  exact ⟨answering, steady, by decide +kernel, first_success_of_attempts answering steady 3⟩

end Registry

end ServerConnections
