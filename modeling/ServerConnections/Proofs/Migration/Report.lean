import ServerConnections.Proofs.Migration.Names

/-!
# What a migration reports

A migration counts what it does: tokens that were moved, dropped and left, and connections of
the former lists that were moved and that were there already.  Every token and every connection
is counted once.  Each connection has a token or none, and what becomes of a token is decided
once, in the shape in which its connection is to be saved.  Each connection of a former list
either finds its name free, and comes to the end of the unified list, or finds it taken.

The counts also tell whether the document was saved, for it is saved where the former lists had
connections, and where a token was moved or dropped.  A document without connections is never
saved; but without connections there is nothing to count.

* `TokenFate.count_add_count` — tokens are counted
* `Connection.Merged`, `Connection.merged_adopt` — connections are moved, and counted
* `Settings.AccountedFor` — what a report has to do with the document and the unified list
* `Registry.accountedFor_of_migrate` — a migration accounts for everything
-/

namespace ServerConnections

open Bench

/-! ## Tokens -/

/-- Every token that was there has one of three fates. -/
theorem TokenFate.count_add_count (fates : List TokenFate) :
    fates.count .migrated + fates.count .stripped + fates.count .skipped =
      fates.countP (· != .absent) := by
  induction fates with
  | nil => rfl
  | cons fate fates ih =>
      cases fate <;> simp <;> omega

/-- Tokens are counted as migrated or stripped exactly if some token is. -/
theorem TokenFate.count_changed_pos {fates : List TokenFate} :
    0 < fates.count .migrated + fates.count .stripped ↔
      fates.any fun f => f == .migrated || f == .stripped := by
  simp only [Nat.add_pos_iff_pos_or_pos, List.count_pos_iff, List.any_eq_true, Bool.or_eq_true,
    beq_iff_eq]
  constructor
  · rintro (there | there)
    · exact ⟨_, there, .inl rfl⟩
    · exact ⟨_, there, .inr rfl⟩
  · rintro ⟨_, there, rfl | rfl⟩
    · exact .inl there
    · exact .inr there

namespace SecretTable

/-- Only a connection without a token has none to move. -/
theorem fateOf_eq_absent_iff {t : SecretTable} {c : Connection} :
    t.fateOf c = .absent ↔ c.token = none := by
  cases carried : c.token with
  | none => simp [fateOf, carried]
  | some token =>
      simp only [fateOf, carried, reduceCtorEq, iff_false]
      grind

/-- What becomes of a token is told for each connection that has one. -/
theorem countP_moves (t : SecretTable) (cs : List Connection) :
    ((t.moves cs).map Prod.snd).countP (· != .absent) = cs.countP fun c => c.token.isSome := by
  induction cs generalizing t with
  | nil => rfl
  | cons c cs ih =>
      have told : (t.fateOf c != .absent) = c.token.isSome := by
        rw [Bool.eq_iff_iff, bne_iff_ne, ne_eq, fateOf_eq_absent_iff,
          Option.isSome_iff_ne_none]
      rw [moves, List.map_cons, List.countP_cons, List.countP_cons, ih, told]

end SecretTable

/-! ## Connections -/

namespace Connection

variable {servers cs : List Connection} {c d : Connection}

/-- The same entry, apart from who hosts the server, and from the token. -/
def SameButFlagAndToken (c d : Connection) : Prop :=
  d = { c with cloudFlag := d.cloudFlag, token := d.token }

/-- A connection of the unified list gets nothing but a flag. -/
theorem sameButFlagAndToken_readiedBy {isCloud : String → Bool} :
    c.SameButFlagAndToken (c.readiedBy isCloud) := by
  unfold SameButFlagAndToken readiedBy classifiedBy
  split
  · split <;> rfl
  · rfl

/-- It may lose its token, too. -/
theorem SameButFlagAndToken.relieved (h : c.SameButFlagAndToken d) :
    c.SameButFlagAndToken d.relieved := by
  rcases @relieved_eq_or d with stays | bare
  · rw [stays]
    exact h
  · rw [bare]
    exact congrArg withoutToken h

/-- **Connections are moved to the end of a list**: those that have a name of their own, in
their order.  The others had a name that is in the list. -/
structure Merged (servers cs moved all : List Connection) : Prop where
  parts : all = servers ++ moved
  order : moved.Sublist cs
  present : ∀ c ∈ cs, ∃ d ∈ all, d.name = c.name
  apart : ∀ c ∈ moved, ∀ d ∈ servers, d.name ≠ c.name
  distinct : moved.Pairwise fun c d => c.name ≠ d.name

theorem isNamed_self_iff (named : c.id.isSome) :
    isNamed c.kind c.idText d ↔ d.name = c.name := by
  obtain ⟨id, present⟩ := Option.isSome_iff_exists.1 named
  rw [isNamed_iff, name, name, idText, present, Option.getD_some]

/-- **The second pass merges the lists**: every connection is moved or counted as a
duplicate, by induction along those to be moved. -/
theorem merged_adopt (named : ∀ c ∈ cs, c.id.isSome) :
    ∃ moved, Merged servers cs moved (adopt servers cs).1 ∧
      moved.length + (adopt servers cs).2 = cs.length := by
  induction cs generalizing servers with
  | nil => exact ⟨[], ⟨(List.append_nil servers).symm, .slnil, nofun, nofun, .nil⟩, rfl⟩
  | cons c cs ih =>
      obtain ⟨first, rest⟩ := List.forall_mem_cons.1 named
      by_cases taken : servers.any (isNamed c.kind c.idText)
      · obtain ⟨moved, merged, count⟩ := @ih servers rest
        obtain ⟨d, there, same⟩ := List.any_eq_true.1 taken
        have present : ∃ d ∈ (adopt servers cs).1, d.name = c.name :=
          ⟨d, merged.parts ▸ List.mem_append_left moved there, (isNamed_self_iff first).1 same⟩
        refine ⟨moved, ?_, ?_⟩
        · simp only [adopt, taken, if_true]
          exact ⟨merged.parts, merged.order.cons c,
            List.forall_mem_cons.2 ⟨present, merged.present⟩, merged.apart, merged.distinct⟩
        · simp only [adopt, taken, if_true, List.length_cons]
          omega
      · obtain ⟨moved, merged, count⟩ := @ih (servers ++ [c]) rest
        have all : (adopt (servers ++ [c]) cs).1 = servers ++ c :: moved := by
          rw [merged.parts, List.append_assoc, List.singleton_append]
        have free : ∀ d ∈ servers, d.name ≠ c.name := by
          intro d there same
          exact taken (List.any_eq_true.2 ⟨d, there, (isNamed_self_iff first).2 same⟩)
        refine ⟨c :: moved, ?_, ?_⟩
        · simp only [adopt, taken, Bool.false_eq_true, if_false]
          refine ⟨all, merged.order.cons_cons c, ?_, ?_, ?_⟩
          · refine List.forall_mem_cons.2 ⟨⟨c, ?_, rfl⟩, merged.present⟩
            rw [all]
            exact List.mem_append_right servers (.head moved)
          · refine List.forall_mem_cons.2 ⟨free, fun e moves d there => ?_⟩
            exact merged.apart e moves d (List.mem_append_left [c] there)
          · -- Those moved later find `c` in the list.
            refine List.pairwise_cons.2 ⟨fun e moves => ?_, merged.distinct⟩
            exact merged.apart e moves c (List.mem_append_right servers (.head []))
        · simp only [adopt, taken, Bool.false_eq_true, if_false, List.length_cons]
          omega

end Connection

/-! ## Shapes -/

namespace Shaped

variable {shape : (String → Bool) → Connection → Connection} {verdict : Nat → String → Bool}
  {cs ds : List Connection}

theorem countP_token (h : Shaped shape verdict cs ds)
    (keeps : ∀ isCloud c, (shape isCloud c).token = c.token) :
    (ds.countP fun d => d.token.isSome) = cs.countP fun c => c.token.isSome := by
  induction h with
  | nil => rfl
  | cons shaped _ ih =>
      obtain ⟨n, rfl⟩ := shaped
      rw [List.countP_cons, List.countP_cons, ih, keeps]

theorem relieved (h : Shaped shape verdict cs ds) :
    Shaped (fun isCloud c => (shape isCloud c).relieved) verdict cs
      (ds.map Connection.relieved) := by
  induction h with
  | nil => exact .nil
  | cons shaped _ ih =>
      obtain ⟨n, rfl⟩ := shaped
      exact .cons ⟨n, rfl⟩ ih

end Shaped

namespace Settings.Readies

variable {s : Settings} {verdict : Nat → String → Bool} {m : Migration}

theorem countP_token (h : s.Readies verdict m) :
    (m.all.countP fun c => c.token.isSome) =
      s.connections.all.countP fun c => c.token.isSome := by
  obtain ⟨selfHosted, cloud, former, own, clouds⟩ := h.former
  rw [Migration.all, former, ConnectionLists.all, List.countP_append, List.countP_append,
    List.countP_append, List.countP_append,
    own.countP_token fun _ _ => Connection.token_completedBy,
    clouds.countP_token fun _ _ => Connection.token_completedBy,
    h.unified.countP_token fun _ _ => Connection.token_readiedBy]
  rfl

/-- What completing a connection brings about, holds of the former lists' connections. -/
theorem forall_mem_former (h : s.Readies verdict m) {P : Connection → Prop}
    (holds : ∀ isCloud inCloudList (c : Connection), P (c.completedBy isCloud inCloudList)) :
    ∀ c ∈ m.former, P c := by
  obtain ⟨selfHosted, cloud, former, own, clouds⟩ := h.former
  rw [former]
  exact List.forall_mem_append.2
    ⟨own.forall_mem fun isCloud => holds isCloud false,
      clouds.forall_mem fun isCloud => holds isCloud true⟩

/-- The lists of a migration are merged. -/
theorem merged (h : s.Readies verdict m) :
    ∃ moved, Connection.Merged (m.unified.map Connection.relieved)
        (m.former.map Connection.relieved) moved m.adopted.1 ∧
      moved.length + m.adopted.2 = m.former.length := by
  rw [← List.length_map Connection.relieved]
  refine Connection.merged_adopt (List.forall_mem_map.2 ?_)
  refine h.forall_mem_former fun _ _ c => ?_
  rw [Connection.id_relieved]
  exact Connection.id_settled_isSome

end Settings.Readies

/-! ## Reports -/

/-- **A report accounts for everything** that a document holds, given what was gathered from
it.  The connections of the former lists are completed, each by the verdict of some time. -/
structure Settings.AccountedFor (s : Settings) (verdict : Nat → String → Bool) (g : Gathered)
    (report : MigrationReport) : Prop where
  former : ∃ selfHosted cloud, g.former.map Prod.fst = selfHosted ++ cloud ∧
    Shaped (fun isCloud c => (c.completedBy isCloud false).relieved) verdict
      s.connections.legacySelfHosted selfHosted ∧
    Shaped (fun isCloud c => (c.completedBy isCloud true).relieved) verdict
      s.connections.legacyCloud cloud
  unified : List.Forall₂ Connection.SameButFlagAndToken s.servers (g.unified.map Prod.fst)
  moved : ∃ moved, moved.length = report.moved ∧
    Connection.Merged (g.unified.map Prod.fst) (g.former.map Prod.fst) moved g.servers
  entries : report.moved + report.duplicates =
    s.connections.legacySelfHosted.length + s.connections.legacyCloud.length
  tokens : report.migrated + report.stripped + report.skipped =
    s.connections.all.countP fun c => c.token.isSome
  saved : report.saved ↔ s.connections.hasLegacy ∨ 0 < report.migrated + report.stripped

/-- **A migration of a document is accounted for by its report**, field by field. -/
theorem Settings.Readies.accountedFor {s : Settings} {verdict : Nat → String → Bool}
    {m : Migration} (h : s.Readies verdict m) (t : SecretTable) :
    s.AccountedFor verdict (m.gathered t) (m.report s t) := by
  have former : (m.gathered t).former.map Prod.fst = m.former.map Connection.relieved :=
    SecretTable.map_fst_moves t m.former
  have unified : (m.gathered t).unified.map Prod.fst = m.unified.map Connection.relieved :=
    SecretTable.map_fst_moves _ m.unified
  have servers : (m.gathered t).servers = m.adopted.1 :=
    congrArg Prod.fst (m.adopted_gathered t)
  obtain ⟨moved, merged, count⟩ := h.merged
  have length : moved.length = (m.report s t).moved := by
    show moved.length = m.former.length - m.adopted.2
    omega
  refine ⟨?_, ?_, ⟨moved, length, ?_⟩, ?_, ?_, ?_⟩
  · obtain ⟨selfHosted, cloud, parts, own, clouds⟩ := h.former
    refine ⟨_, _, ?_, own.relieved, clouds.relieved⟩
    rw [former, parts, List.map_append]
  · rw [unified]
    refine List.Forall₂.imp ?_ h.unified.relieved
    rintro c _ ⟨n, rfl⟩
    exact Connection.sameButFlagAndToken_readiedBy.relieved
  · rw [former, unified, servers]
    exact merged
  · rw [← h.length_former, ← length]
    exact count
  · rw [← h.countP_token, ← SecretTable.countP_moves t m.all]
    exact TokenFate.count_add_count (m.fates t)
  · show m.saves s t ↔ _
    rw [h.saves_eq_changes, Migration.changes, Bool.or_eq_true]
    exact or_congr_right TokenFate.count_changed_pos.symm

namespace Registry

variable {cloudDomain : String} {b : Bench MemorySettings}

/-- **A migration accounts for everything.**  If it has saved, then the unified list with all
that was moved to it; and otherwise nothing has changed. -/
theorem accountedFor_of_migrate (free : b.conditions.Unfailing) :
    ∃ g b₁ report b',
      ((inMemory cloudDomain).gathered b.document.connections).outcome (b.called .load) =
          (.ok g, b₁) ∧
        (inMemory cloudDomain).migrate.outcome b = (.ok report, b') ∧
        b.document.AccountedFor (b.conditions.verdict cloudDomain) g report ∧
        (report.saved → b'.medium = b.medium.saved (g.document b.document)) ∧
        (report.saved = false → b'.medium = b.medium ∧ b'.secrets = b.secrets) := by
  have loaded : (inMemory cloudDomain).loadSettings.outcome b =
      (.ok b.document, b.called .load) := by
    refine ensures_loadSettings
      (Q := fun res b' => (res, b') = (.ok b.document, b.called .load)) b
      (fun reason refused => ?_) fun _ => rfl
    rw [free.load] at refused
    cases refused
  obtain ⟨_, b₁, passed, m, plan, rfl, left⟩ :=
    (@gathered_yields cloudDomain (b.called .load) free).outcome
  replace plan : b.document.Readies (b.conditions.verdict cloudDomain) m := plan
  replace passed : ((inMemory cloudDomain).gathered b.document.connections).outcome
    (b.called .load) = (.ok (m.gathered b.secrets), b₁) := passed
  have free₁ : b₁.conditions.Unfailing := conditions_of_unrecorded left ▸ free
  obtain ⟨b', concluded, left'⟩ :=
    ((@does_concluded cloudDomain m b.unrecorded b₁ left).answers free₁).outcome
  have medium : b'.medium = if (m.report b.document b.secrets).saved
      then b.medium.saved (m.document b.document) else b.medium :=
    (medium_of_unrecorded left').trans m.medium_finished
  refine ⟨_, b₁, m.report b.document b.secrets, b', passed, ?_, plan.accountedFor b.secrets,
    fun saved => ?_, fun unsaved => ⟨?_, ?_⟩⟩
  · rw [migrate_eq, Act.outcome_bind, loaded]
    dsimp only
    rw [Act.outcome_bind, passed]
    exact concluded
  · rw [medium, if_pos saved, m.document_gathered]
  · rw [medium, unsaved, if_neg Bool.false_ne_true]
  · -- Where there was nothing to save, there was nothing to do.
    have idle : m.changes b.document b.secrets = false := by
      rw [← plan.saves_eq_changes]
      exact unsaved
    rw [secrets_of_unrecorded left', m.secrets_finished]
    exact m.table_of_isIdle (m.changes_eq_false_iff.1 idle) b.secrets

/-- Two connections of the former lists have names that are taken, one of them by the other
one.  One token is moved, an empty one is dropped, and one is left, for there is no address. -/
theorem accountedFor_of_migrate_taken_names :
    let b : Bench MemorySettings := .fresh
      (.of ⟨⟨[⟨some "a", some "https://a.example/", none, none, false, some ""⟩,
            ⟨some "x", some "https://b.example", none, none, true, none⟩],
          [⟨none, none, some "org", none, false, some "t"⟩,
            ⟨some "a", some "https://c.example", none, some false, false, none⟩],
          [⟨some "x", none, none, none, false, some "u"⟩]⟩, [], []⟩)
      [] (.calm fun _ => false) .nobody
    b.conditions.Unfailing ∧
      ((inMemory "codescan.io").migrate.outcome b).1 = .ok ⟨1, 1, 1, 2, 2, true⟩ ∧
      ∃ g b₁ report b',
        ((inMemory "codescan.io").gathered b.document.connections).outcome (b.called .load) =
            (.ok g, b₁) ∧
          (inMemory "codescan.io").migrate.outcome b = (.ok report, b') ∧
          b.document.AccountedFor (b.conditions.verdict "codescan.io") g report ∧
          (report.saved → b'.medium = b.medium.saved (g.document b.document)) ∧
          (report.saved = false → b'.medium = b.medium ∧ b'.secrets = b.secrets) := by
  intro b
  have free : b.conditions.Unfailing := Conditions.unfailing_calm _
  exact ⟨free, by decide +kernel, accountedFor_of_migrate free⟩

end Registry

end ServerConnections
