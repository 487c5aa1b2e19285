import ServerConnections.Proofs.Migration.Plan

/-!
# How a migration ends

The plan of a migration is a `Migration` of the document: which shapes the connections
have is up to what the classifier answers at the time, and all else follows from the
shapes, the document and the table of secrets.

A migration loads the document, makes its passes, which gather all connections with what
became of their tokens, and concludes from that what there is to save and to report.

On a host that refuses no question a migration has two kinds of ending.  It is carried
out as planned and ends with a report; or what was to be written is refused, and it ends
with an error.  Tokens are moved one after the other and the document is saved last, so
that by then the tokens of the first few connections are moved, and nothing else has
happened.

* `Gathered`, `Registry.migrate_eq` — what the passes gather, and what is concluded from it
* `TokensEnd`, `Registry.migratedTokens_ends` — tokens are moved
* `GatherEnds`, `Registry.gathered_ends` — all passes
* `MigrateEnds`, `Registry.migrate_ends` — a migration
* `Registry.migrate_yields` — a migration on a host that refuses nothing
* `Registry.migrate_answers` — the same on a host where the classifier has one answer
  at all times
-/

namespace ServerConnections

open Bench

/-! ## What is gathered -/

/-- What the passes of a migration gather: the connections in the shapes in which they are to
be saved, with what became of their tokens. -/
structure Gathered where
  /-- Those of the former lists. -/
  former : List (Connection × TokenFate)
  /-- Those of the unified list. -/
  unified : List (Connection × TokenFate)

namespace Gathered

variable (g : Gathered)

/-- The unified list, and the number of connections that were not moved to it. -/
def adopted : List Connection × Nat :=
  adopt (g.unified.map Prod.fst) (g.former.map Prod.fst)

/-- The unified list, to which the former ones were moved. -/
def servers : List Connection := g.adopted.1

/-- What became of the tokens. -/
def fates : List TokenFate := g.former.map Prod.snd ++ g.unified.map Prod.snd

/-- Whether the document is saved. -/
def saves (s : Settings) : Bool :=
  (s.connections.hasLegacy || g.fates.any fun f => f == .migrated || f == .stripped) &&
    !g.servers.isEmpty

/-- The document that is saved. -/
def document (s : Settings) : Settings := s.withConnections ⟨[], [], g.servers⟩

/-- What is reported. -/
def report (s : Settings) : MigrationReport :=
  .of g.fates (g.former.length - g.adopted.2) g.adopted.2 (g.saves s)

end Gathered

namespace Registry

variable {σ : Type} (r : Registry σ)

/-- The passes of a migration. -/
def gathered (lists : ConnectionLists) : Act σ ConnectionError Gathered := do
  let selfHosted ← .ofState (r.completedAll false lists.legacySelfHosted)
  let cloud ← .ofState (r.completedAll true lists.legacyCloud)
  let former ← r.migratedTokens (selfHosted ++ cloud)
  let unified ← r.migratedTokens lists.servers
  return ⟨former, unified⟩

/-- What a migration does after its passes. -/
def concluded (s : Settings) (g : Gathered) : Act σ ConnectionError MigrationReport := do
  if g.saves s then r.saveSettings (g.document s)
  return g.report s

/-- **A migration makes its passes over what is loaded, and concludes.** -/
theorem migrate_eq :
    r.migrate = r.loadSettings >>= fun s => r.gathered s.connections >>= r.concluded s := by
  simp only [migrate, gathered, bind_assoc, pure_bind]
  rfl

end Registry

namespace Migration

variable (m : Migration)

/-- What the passes gather from a migration as it is planned. -/
def gathered (t : SecretTable) : Gathered :=
  ⟨t.moves m.former, (m.former.foldl SecretTable.taking t).moves m.unified⟩

/-- The same connections are moved, whatever the secrets are. -/
@[simp] theorem adopted_gathered (t : SecretTable) : (m.gathered t).adopted = m.adopted := by
  simp [Gathered.adopted, gathered, adopted]

@[simp] theorem fates_gathered (t : SecretTable) : (m.gathered t).fates = m.fates t :=
  (m.fates_eq_append t).symm

/-- Whether the document is saved can be told from what was gathered. -/
theorem saves_gathered (s : Settings) (t : SecretTable) :
    (m.gathered t).saves s = m.saves s t := by
  simp [Gathered.saves, Gathered.servers, saves, changes]

/-- The document can be told from what was gathered. -/
theorem document_gathered (s : Settings) (t : SecretTable) :
    (m.gathered t).document s = m.document s := by
  simp [Gathered.document, Gathered.servers, document]

/-- The report can be told from what was gathered. -/
theorem report_gathered (s : Settings) (t : SecretTable) :
    (m.gathered t).report s = m.report s t := by
  have moved : (m.gathered t).former.length = m.former.length :=
    SecretTable.length_moves t m.former
  rw [Gathered.report, report, fates_gathered, adopted_gathered, saves_gathered, moved]

end Migration

/-! ## Endings -/

section Endings

variable (cloudDomain : String) (k : Bench MemorySettings)

/-- **How the first pass ends**: the tokens of the connections were moved in order, each
of the connections being in the shape that the verdict of the time gives it, or only
those of the first few were, until a token was refused. -/
inductive TokensEnd (cs : List Connection) :
    Except ConnectionError (List (Connection × TokenFate)) → Bench MemorySettings → Prop
  | interrupted {before after : List Connection} {e : ConnectionError}
      {b : Bench MemorySettings}
      (shaped : Shaped Connection.readiedBy (k.conditions.verdict cloudDomain) cs
        (before ++ after))
      (stopped : (k.withSecrets (before.foldl SecretTable.taking k.secrets)).Stopped e b) :
      TokensEnd cs (.error e) b
  | done {ds : List Connection} {b : Bench MemorySettings}
      (shaped : Shaped Connection.readiedBy (k.conditions.verdict cloudDomain) cs ds)
      (left : b.unrecorded = k.withSecrets (ds.foldl SecretTable.taking k.secrets)) :
      TokensEnd cs (.ok (k.secrets.moves ds)) b

/-- **How the passes end** on a host that refuses no question: all tokens were moved as it was
planned, or only those of the first few connections. -/
inductive GatherEnds : Except ConnectionError Gathered → Bench MemorySettings → Prop
  | interrupted {m : Migration} {before after : List Connection} {e : ConnectionError}
      {b : Bench MemorySettings}
      (plan : k.document.Readies (k.conditions.verdict cloudDomain) m)
      (parts : m.all = before ++ after)
      (stopped : (k.withSecrets (before.foldl SecretTable.taking k.secrets)).Stopped e b) :
      GatherEnds (.error e) b
  | done {m : Migration} {b : Bench MemorySettings}
      (plan : k.document.Readies (k.conditions.verdict cloudDomain) m)
      (left : b.unrecorded = k.withSecrets (m.table k.secrets)) :
      GatherEnds (.ok (m.gathered k.secrets)) b

/-- **How a migration ends** on a host that refuses no question: as it was planned, or
with an error, the tokens of the first few connections being moved by then.  These are
all connections if the document could not be saved. -/
inductive MigrateEnds :
    Except ConnectionError MigrationReport → Bench MemorySettings → Prop
  | interrupted {m : Migration} {before after : List Connection} {e : ConnectionError}
      {b : Bench MemorySettings}
      (plan : k.document.Readies (k.conditions.verdict cloudDomain) m)
      (parts : m.all = before ++ after)
      (stopped : (k.withSecrets (before.foldl SecretTable.taking k.secrets)).Stopped e b) :
      MigrateEnds (.error e) b
  | done {m : Migration} {b : Bench MemorySettings}
      (plan : k.document.Readies (k.conditions.verdict cloudDomain) m)
      (left : b.unrecorded = m.finished k) :
      MigrateEnds (.ok (m.report k.document k.secrets)) b

end Endings

namespace Registry

variable {cloudDomain : String} (b : Bench MemorySettings)

/-! ## Shapes -/

/-- To classify a connection is one verdict, and nothing is left behind but its record. -/
theorem classified_eq (c : Connection) :
    ((inMemory cloudDomain).classified c b).1 =
        c.classifiedBy (b.conditions.verdict cloudDomain b.time) ∧
      ((inMemory cloudDomain).classified c b).2.unrecorded = b.unrecorded := by
  unfold classified Connection.classifiedBy
  cases c.cloudFlag with
  | some flag => exact ⟨rfl, rfl⟩
  | none =>
      obtain ⟨answer, left⟩ := @isCloud_eq cloudDomain b c.serverUrl
      simp only [Act.state_bind, Act.state_pure, Classifier.isCloudConnection, answer]
      exact ⟨trivial, left⟩

/-- To complete a connection is one verdict as well. -/
theorem completed_eq (inCloudList : Bool) (c : Connection) :
    ((inMemory cloudDomain).completed inCloudList c b).1 =
        c.completedBy (b.conditions.verdict cloudDomain b.time) inCloudList ∧
      ((inMemory cloudDomain).completed inCloudList c b).2.unrecorded = b.unrecorded := by
  obtain ⟨answer, left⟩ := @classified_eq cloudDomain b
    (if inCloudList then c.ofFormerCloud else c).withCleanUrl
  exact ⟨congrArg Connection.settled answer, left⟩

/-- Every connection of a former list gets its shape by the verdict of its time, by
induction along the list. -/
theorem completedAll_eq (inCloudList : Bool) (cs : List Connection) :
    Shaped (fun isCloud c => c.completedBy isCloud inCloudList)
        (b.conditions.verdict cloudDomain) cs
        ((inMemory cloudDomain).completedAll inCloudList cs b).1 ∧
      ((inMemory cloudDomain).completedAll inCloudList cs b).2.unrecorded = b.unrecorded := by
  induction cs generalizing b with
  | nil => exact ⟨.nil, rfl⟩
  | cons c cs ih =>
      obtain ⟨shaped, left⟩ := @completed_eq cloudDomain b inCloudList c
      obtain ⟨others, left'⟩ := ih ((inMemory cloudDomain).completed inCloudList c b).2
      rw [conditions_of_unrecorded left] at others
      exact ⟨.cons ⟨b.time, shaped⟩ others, left'.trans left⟩

/-! ## Tokens -/

variable {b}

theorem answers_classified (b : Bench MemorySettings) (c : Connection) :
    Answers (.ofState ((inMemory cloudDomain).classified c)) b
      (c.classifiedBy (b.conditions.verdict cloudDomain b.time)) b.unrecorded := by
  rw [answers_ofState_iff]
  exact classified_eq b c

/-- A host that answers questions says whether there is a secret. -/
theorem answers_hasUnder (answering : b.conditions.Answering) (key : String) :
    Answers (.ofState ((inMemory cloudDomain).secrets.hasUnder key)) b
      (b.secrets.get? key).isSome b.unrecorded := by
  rw [answers_ofState_iff, hasUnder_eq, answering.get]
  exact ⟨rfl, rfl⟩

/-- To move a token is one write at most, and none where there is a secret. -/
theorem does_moveToken (answering : b.conditions.Answering) (key : String) {token : String}
    (filled : token ≠ "") :
    Does ((inMemory cloudDomain).moveToken key token) b
      (if (b.secrets.get? key).isSome then .stripped else .migrated)
      (b.unrecorded.withSecrets
        (if (b.secrets.get? key).isSome then b.secrets else b.secrets.put key token)) := by
  unfold moveToken
  refine (answers_hasUnder answering key).bind fun b₁ left₁ => ?_
  by_cases there : (b.secrets.get? key).isSome
  · simp only [there, if_true]
    exact ⟨rfl, left₁⟩
  · simp only [there, Bool.false_eq_true, if_false]
    have stored := @does_store cloudDomain b₁ key token
    rw [left₁, secrets_of_unrecorded left₁] at stored
    simp only [SecretStore.storeUnder, String.isEmpty_iff, filled, if_false]
    exact stored.bind (fun b₂ left₂ => ⟨rfl, left₂⟩) fun e b' stopped => left₁ ▸ stopped

/-- A connection without a token, or with an empty one, is dealt with at once. -/
theorem migratedToken_of_not_plain {σ : Type} (r : Registry σ) {c : Connection}
    (empty : ¬ c.hasPlainToken) (t : SecretTable) :
    r.migratedToken c = pure (c.relieved, t.fateOf c) := by
  rw [Connection.relieved_of_not_plain empty]
  unfold migratedToken SecretTable.fateOf
  cases carried : c.token with
  | none =>
      have bare : c.withoutToken = c := by rw [Connection.withoutToken, ← carried]
      rw [bare]
  | some token =>
      have blank : token = "" := by
        by_contra filled
        exact empty (Connection.hasPlainToken_of_token carried filled)
      subst blank
      rfl

/-- The token of one connection: the connection gets its shape, the token its fate, and the
table takes it in. -/
theorem does_migratedToken (answering : b.conditions.Answering) (c : Connection) :
    let d := c.readiedBy (b.conditions.verdict cloudDomain b.time)
    Does ((inMemory cloudDomain).migratedToken c) b (d.relieved, b.secrets.fateOf d)
      (b.unrecorded.withSecrets (b.secrets.taking d)) := by
  intro d
  by_cases plain : c.hasPlainToken
  · obtain ⟨token, carried, filled⟩ := nonEmpty?_isSome_iff.1 plain
    have final : c.classifiedBy (b.conditions.verdict cloudDomain b.time) = d :=
      (Connection.readiedBy_of_plain plain).symm
    have carried' : d.token = some token := by
      rw [← final, Connection.token_classifiedBy, carried]
    have plain' : d.hasPlainToken := Connection.hasPlainToken_of_token carried' filled
    unfold migratedToken
    simp only [carried, String.isEmpty_iff, filled, if_false]
    refine (answers_classified b c).bind fun b₁ left₁ => ?_
    -- From here on only the key of the classified connection matters.
    rw [final]
    cases keyed : d.storageKey with
    | none =>
        rw [Connection.relieved_of_unkeyed plain' keyed,
          SecretTable.fateOf_of_unkeyed plain' keyed, SecretTable.taking_of_unkeyed keyed]
        exact ⟨rfl, left₁⟩
    | some key =>
        have answering₁ : b₁.conditions.Answering := conditions_of_unrecorded left₁ ▸ answering
        rw [Connection.relieved_of_keyed keyed, SecretTable.fateOf_of_keyed plain' keyed,
          SecretTable.taking_of_keyed carried' filled keyed]
        have moved := @does_moveToken cloudDomain b₁ answering₁ key token filled
        rw [left₁, secrets_of_unrecorded left₁] at moved
        exact moved.bind (fun b₂ left₂ => ⟨rfl, left₂⟩) fun e b' stopped => left₁ ▸ stopped
  · have same : d = c := Connection.readiedBy_of_not_plain plain
    rw [same, migratedToken_of_not_plain _ plain b.secrets,
      SecretTable.taking_of_not_plain plain]
    exact does_pure_withSecrets b _

/-- **The first pass ends in one of these ways**, by induction along the list: the first
token that cannot be stored stops it, and what was stored before stays. -/
theorem migratedTokens_ends (answering : b.conditions.Answering) (cs : List Connection) :
    ((inMemory cloudDomain).migratedTokens cs).Ensures b
      (TokensEnd cloudDomain b.unrecorded cs) := by
  induction cs generalizing b with
  | nil => exact .done .nil rfl
  | cons c cs ih =>
      let d := c.readiedBy (b.conditions.verdict cloudDomain b.time)
      have shaped : ∃ n, d = c.readiedBy (b.conditions.verdict cloudDomain n) := ⟨_, rfl⟩
      unfold migratedTokens
      refine (does_migratedToken answering c).bind ?_ fun e b' stopped => ?_
      · intro b₁ left₁
        have answering₁ : b₁.conditions.Answering := conditions_of_unrecorded left₁ ▸ answering
        have rest := @ih b₁ answering₁
        rw [left₁] at rest
        refine Act.Ensures.bind rest ?_ ?_
        · rintro _ b₂ (_ | @⟨ds, _, others, left₂⟩)
          exact @TokensEnd.done _ b.unrecorded _ (d :: ds) _ (.cons shaped others) left₂
        · rintro e b₂ (@⟨before, after, _, _, others, stopped⟩ | _)
          exact @TokensEnd.interrupted _ b.unrecorded _ (d :: before) after _ _
            (.cons shaped others) stopped
      · exact @TokensEnd.interrupted _ b.unrecorded _ [] _ _ _
          (.cons shaped (shaped_map 0 cs)) stopped

/-! ## Migrations -/

/-- A former list is completed without fail. -/
theorem completedAll_yields (b : Bench MemorySettings) (inCloudList : Bool)
    (cs : List Connection) :
    Act.Yields (ε := ConnectionError)
      (.ofState ((inMemory cloudDomain).completedAll inCloudList cs)) b fun ds b' =>
        Shaped (fun isCloud c => c.completedBy isCloud inCloudList)
          (b.conditions.verdict cloudDomain) cs ds ∧ b'.unrecorded = b.unrecorded := by
  rw [Act.yields_ofState]
  exact completedAll_eq b inCloudList cs

/-- What is gathered is all of it, or the part before the token that could not be stored. -/
theorem gathered_ends (answering : b.conditions.Answering) :
    ((inMemory cloudDomain).gathered b.document.connections).Ensures b
      (GatherEnds cloudDomain b.unrecorded) := by
  unfold gathered
  refine (completedAll_yields b false _).bind fun selfHosted b₁ ⟨own, left₁⟩ => ?_
  refine (completedAll_yields b₁ true _).bind fun cloud b₂ ⟨clouds, left₂⟩ => ?_
  rw [conditions_of_unrecorded left₁] at clouds
  rw [left₁] at left₂
  have answering₂ : b₂.conditions.Answering := conditions_of_unrecorded left₂ ▸ answering
  -- The connections of the former lists are classified by now, so that moving their tokens
  -- leaves their shapes alone.
  have classified : ∀ c ∈ selfHosted ++ cloud, c.cloudFlag.isSome :=
    List.forall_mem_append.2 ⟨own.classified, clouds.classified⟩
  have former := @migratedTokens_ends cloudDomain b₂ answering₂ (selfHosted ++ cloud)
  rw [left₂] at former
  refine Act.Ensures.bind former ?_ ?_
  · rintro _ b₃ (_ | @⟨ds, _, same, left₃⟩)
    obtain rfl := same.eq_self_of_classified classified
    have answering₃ : b₃.conditions.Answering := conditions_of_unrecorded left₃ ▸ answering
    have unified := @migratedTokens_ends cloudDomain b₃ answering₃ b.document.servers
    rw [left₃] at unified
    refine Act.Ensures.bind unified ?_ ?_
    · rintro _ b₄ (_ | @⟨unified, _, readied, left₄⟩)
      let m : Migration := ⟨selfHosted ++ cloud, unified⟩
      have plan : b.document.Readies (b.conditions.verdict cloudDomain) m :=
        ⟨⟨selfHosted, cloud, rfl, own, clouds⟩, readied⟩
      have table : b₄.unrecorded = b.unrecorded.withSecrets (m.table b.secrets) :=
        m.table_eq_foldl b.secrets ▸ left₄
      exact @GatherEnds.done cloudDomain b.unrecorded m b₄ plan table
    · rintro e b₄ (@⟨before, after, _, _, readied, stopped⟩ | _)
      let m : Migration := ⟨selfHosted ++ cloud, before ++ after⟩
      have plan : b.document.Readies (b.conditions.verdict cloudDomain) m :=
        ⟨⟨selfHosted, cloud, rfl, own, clouds⟩, readied⟩
      have parts : m.all = (m.former ++ before) ++ after := (List.append_assoc _ _ _).symm
      refine .interrupted plan parts ?_
      rw [List.foldl_append]
      exact stopped
  · rintro e b₃ (@⟨before, after, _, _, same, stopped⟩ | _)
    let unified :=
      b.document.servers.map (Connection.readiedBy (b.conditions.verdict cloudDomain 0))
    let m : Migration := ⟨before ++ after, unified⟩
    have plan : b.document.Readies (b.conditions.verdict cloudDomain) m :=
      ⟨⟨selfHosted, cloud, same.eq_self_of_classified classified, own, clouds⟩, shaped_map 0 _⟩
    have parts : m.all = before ++ (after ++ unified) := List.append_assoc _ _ _
    exact .interrupted plan parts stopped

/-- The end of a migration whose tokens are moved. -/
theorem does_concluded {m : Migration} {k b₁ : Bench MemorySettings}
    (left : b₁.unrecorded = k.withSecrets (m.table k.secrets)) :
    Does ((inMemory cloudDomain).concluded k.document (m.gathered k.secrets)) b₁
      (m.report k.document k.secrets) (m.finished k) := by
  simp only [concluded, m.saves_gathered, m.document_gathered, m.report_gathered]
  by_cases saves : m.saves k.document k.secrets
  · rw [if_pos saves]
    refine (does_saveSettings b₁ _).bind (fun b₂ left₂ => ⟨rfl, ?_⟩)
      fun e b' stopped => stopped
    rw [left] at left₂
    exact left₂.trans (if_pos saves).symm
  · rw [if_neg saves]
    exact ⟨rfl, left.trans (if_neg saves).symm⟩

/-- **A migration ends in one of these ways**, on a host that answers questions. -/
theorem migrate_ends (answering : b.conditions.Answering) :
    (inMemory cloudDomain).migrate.Ensures b (MigrateEnds cloudDomain b.unrecorded) := by
  rw [migrate_eq]
  refine (answers_loadSettings b answering).bind fun b₁ left₁ => ?_
  have answering₁ : b₁.conditions.Answering := conditions_of_unrecorded left₁ ▸ answering
  have passes := @gathered_ends cloudDomain b₁ answering₁
  rw [left₁, document_of_unrecorded left₁] at passes
  refine Act.Ensures.bind passes ?_ ?_
  · rintro _ b₂ (_ | @⟨m, _, plan, left₂⟩)
    have concludes := @does_concluded cloudDomain m b.unrecorded b₂ left₂
    refine Act.Ensures.mono concludes fun res b' ends => ?_
    cases res with
    | ok report =>
        obtain ⟨rfl, left⟩ := ends
        exact .done plan left
    | error e => exact .interrupted plan (List.append_nil m.all).symm (left₂ ▸ ends)
  · rintro e b₂ (⟨plan, parts, stopped⟩ | _)
    exact .interrupted plan parts stopped

/-- All passes are made on a host that refuses nothing. -/
theorem gathered_yields (free : b.conditions.Unfailing) :
    ((inMemory cloudDomain).gathered b.document.connections).Yields b fun g b' =>
      ∃ m, b.document.Readies (b.conditions.verdict cloudDomain) m ∧
        g = m.gathered b.secrets ∧
        b'.unrecorded = b.unrecorded.withSecrets (m.table b.secrets) := by
  refine Act.Ensures.mono (gathered_ends free.answering) fun res b' ends => ?_
  cases ends with
  | interrupted _ _ stopped => exact (stopped.failing free).elim
  | @done m _ plan left => exact ⟨_, rfl, m, plan, rfl, left⟩

/-- **A migration ends as it was planned** on a host that refuses nothing. -/
theorem migrate_yields (free : b.conditions.Unfailing) :
    (inMemory cloudDomain).migrate.Yields b fun report b' =>
      ∃ m, b.document.Readies (b.conditions.verdict cloudDomain) m ∧
        report = m.report b.document b.secrets ∧ b'.unrecorded = m.finished b.unrecorded := by
  refine Act.Ensures.mono (migrate_ends free.answering) fun res b' ends => ?_
  cases ends with
  | interrupted _ _ stopped => exact (stopped.failing free).elim
  | @done m _ plan left => exact ⟨_, rfl, m, plan, rfl, left⟩

/-- **Where nothing is refused, a migration does what it has in mind**, and reports it. -/
theorem migrate_answers (free : b.conditions.Unfailing) (steady : b.conditions.Steady) :
    let m := b.document.migration (b.conditions.verdict cloudDomain 0)
    Answers (inMemory cloudDomain).migrate b (m.report b.document b.secrets)
      (m.finished b.unrecorded) := by
  refine Act.Ensures.mono (migrate_yields free) ?_
  rintro _ b' ⟨_, rfl, m, readies, rfl, left⟩
  obtain rfl := readies.eq_migration (steady.verdict cloudDomain)
  exact ⟨rfl, left⟩

end Registry

end ServerConnections
