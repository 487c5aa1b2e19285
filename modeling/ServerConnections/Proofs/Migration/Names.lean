import ServerConnections.Proofs.Migration.PlainToken

/-!
# Names in a migration

No two connections of the unified list should have the same kind and the same id.  A
migration looks at this where it moves a connection of a former list: one whose name is
taken is not moved.  It does not look where it classifies a connection of the unified
list itself, which it does for the sake of the token.  Such a connection counted as
self-hosted until then, and it may turn out to be a cloud connection, of which there may
be one with the same id.

This is the only way in which two connections can come to have the same name.

* `Connection.NamesDiffer` — no two connections have the same name
* `Connection.namesDiffer_adopt` — moving connections
* `Settings.Crossing` — a connection comes under the name of another one
* `Registry.namesDiffer_iff_of_migrate` — names after a migration
-/

namespace ServerConnections

open Bench

namespace Connection

/-- **No two connections of a list have the same kind and the same id.**  Those without
an id may be many. -/
def NamesDiffer (cs : List Connection) : Prop :=
  cs.Pairwise fun c d => c.id.isSome → c.name ≠ d.name

instance (cs : List Connection) : Decidable (NamesDiffer cs) :=
  inferInstanceAs (Decidable (List.Pairwise _ _))

variable {servers cs : List Connection} {c d : Connection} {isCloud : String → Bool}

/-- A name is that of one entry. -/
theorem namesDiffer_iff_index : NamesDiffer cs ↔
    ∀ (i j : Nat) (c d : Connection), cs[i]? = some c → cs[j]? = some d → c.id.isSome →
      c.name = d.name → i = j := by
  rw [NamesDiffer, List.pairwise_iff_getElem]
  constructor
  · rintro differ i j c d first second named same
    obtain ⟨bound, rfl⟩ := List.getElem?_eq_some_iff.1 first
    obtain ⟨bound', rfl⟩ := List.getElem?_eq_some_iff.1 second
    rcases Nat.lt_trichotomy i j with before | equal | after
    · exact (differ i j bound bound' before named same).elim
    · exact equal
    · exact (differ j i bound' bound after ((Prod.mk.inj same).2 ▸ named) same.symm).elim
  · rintro one i j bound bound' before named same
    have equal :=
      one i j _ _ (List.getElem?_eq_getElem bound) (List.getElem?_eq_getElem bound')
      named same
    exact Nat.lt_irrefl i (equal ▸ before)

/-! ## Moving connections -/

/-- A connection with a free name may come to the end of a list. -/
theorem NamesDiffer.append_singleton (differ : NamesDiffer servers)
    (free : c.IsFreeIn servers) :
    NamesDiffer (servers ++ [c]) := by
  refine List.pairwise_append.2 ⟨differ, List.pairwise_singleton _ c, ?_⟩
  intro d there e last present same
  obtain rfl := List.mem_singleton.1 last
  have unnamed := free d there
  obtain ⟨id, named⟩ := Option.isSome_iff_exists.1 present
  have text : e.id = some e.idText := by
    rw [← (Prod.mk.inj same).2, named, idText, ← (Prod.mk.inj same).2, named, Option.getD_some]
  have taken : isNamed e.kind e.idText d := by
    rw [isNamed_iff, same, name, text]
  simp [taken] at unnamed

/-- **Moving connections makes no two names the same.** -/
theorem namesDiffer_adopt (differ : NamesDiffer servers) :
    NamesDiffer (adopt servers cs).1 := by
  induction cs generalizing servers with
  | nil => exact differ
  | cons c cs ih =>
      by_cases taken : servers.any (isNamed c.kind c.idText)
      · simpa only [adopt, taken, if_true] using ih differ
      · have free : c.IsFreeIn servers := by
          simpa [IsFreeIn, List.any_eq_false] using taken
        simpa only [adopt, taken, Bool.false_eq_true, if_false] using
          ih (differ.append_singleton free)

/-- Connections are moved to the end of the list. -/
theorem adopt_eq_append (servers cs : List Connection) :
    ∃ moved, (adopt servers cs).1 = servers ++ moved := by
  induction cs generalizing servers with
  | nil => exact ⟨[], (List.append_nil servers).symm⟩
  | cons c cs ih =>
      by_cases taken : servers.any (isNamed c.kind c.idText)
      · simpa only [adopt, taken, if_true] using ih servers
      · obtain ⟨moved, all⟩ := ih (servers ++ [c])
        refine ⟨c :: moved, ?_⟩
        simpa only [adopt, taken, Bool.false_eq_true, if_false, List.append_assoc,
          List.singleton_append] using all

theorem namesDiffer_adopt_iff : NamesDiffer (adopt servers cs).1 ↔ NamesDiffer servers := by
  refine ⟨fun differ => ?_, namesDiffer_adopt⟩
  obtain ⟨moved, all⟩ := adopt_eq_append servers cs
  rw [all] at differ
  exact (List.pairwise_append.1 differ).1

/-! ## Names of the unified list -/

@[simp] theorem id_relieved : c.relieved.id = c.id := by
  unfold relieved
  split <;> rfl

@[simp] theorem isCloud_relieved : c.relieved.isCloud = c.isCloud := by
  unfold relieved
  split <;> rfl

@[simp] theorem id_readiedBy : (c.readiedBy isCloud).id = c.id := by
  unfold readiedBy classifiedBy
  split
  · split <;> rfl
  · rfl

/-- The kind of a connection is found out only if it was not known, and for the sake of
a token. -/
theorem readiedBy_eq_or :
    c.readiedBy isCloud = c ∨ c.cloudFlag = none ∧ c.hasPlainToken := by
  by_cases plain : c.hasPlainToken
  · cases flag : c.cloudFlag with
    | some known => exact .inl (readiedBy_of_isSome (by rw [flag]; rfl))
    | none => exact .inr ⟨rfl, plain⟩
  · exact .inl (readiedBy_of_not_plain plain)

theorem readiedBy_of_isCloud (cloud : c.isCloud) : c.readiedBy isCloud = c := by
  refine readiedBy_of_isSome ?_
  cases flag : c.cloudFlag with
  | some known => rfl
  | none => simp [Connection.isCloud, flag] at cloud

end Connection

/-- **A connection comes under the name of another one** while the document changes: it
was not classified and carried a token, it leads to the cloud service now, and there was
a cloud connection with its id. -/
structure Settings.Crossing (s s' : Settings) (i : Nat) (c d : Connection) : Prop where
  entry : s.servers[i]? = some c
  unclassified : c.cloudFlag = none
  plain : c.hasPlainToken
  other : d ∈ s.servers
  cloud : d.isCloud
  named : c.id.isSome
  sameId : d.id = c.id
  found : ∃ e, s'.servers[i]? = some e ∧ e.isCloud

namespace Settings

variable {s : Settings} {verdict : Nat → String → Bool} {m : Migration} {i j : Nat}
  {c d : Connection}

/-- The entries of the unified list keep their places. -/
theorem servers_document_getElem? {e : Connection}
    (entry : (m.unified.map Connection.relieved)[i]? = some e) :
    (m.document s).servers[i]? = some e := by
  obtain ⟨moved, all⟩ :=
    Connection.adopt_eq_append (m.unified.map Connection.relieved)
      (m.former.map Connection.relieved)
  have servers : (m.document s).servers = m.unified.map Connection.relieved ++ moved := all
  rw [servers, List.getElem?_append_left (List.getElem?_eq_some_iff.1 entry).1, entry]

/-- What becomes of an entry of the unified list. -/
theorem Readies.unified_getElem? (h : s.Readies verdict m) (entry : s.servers[i]? = some c) :
    ∃ n, (m.unified.map Connection.relieved)[i]? =
      some (c.readiedBy (verdict n)).relieved := by
  obtain ⟨bound, rfl⟩ := List.getElem?_eq_some_iff.1 entry
  have bound' : i < m.unified.length := h.unified.length_eq ▸ bound
  obtain ⟨n, shaped⟩ := h.unified.get bound bound'
  rw [List.get_eq_getElem, List.get_eq_getElem] at shaped
  exact ⟨n, by rw [List.getElem?_map, List.getElem?_eq_getElem bound', shaped, Option.map_some]⟩

theorem Readies.exists_of_unified (h : s.Readies verdict m) {e : Connection}
    (there : (m.unified.map Connection.relieved)[i]? = some e) :
    ∃ c, s.servers[i]? = some c ∧ ∃ n, e = (c.readiedBy (verdict n)).relieved := by
  have bound := (List.getElem?_eq_some_iff.1 there).1
  rw [List.length_map, ← h.unified.length_eq] at bound
  obtain ⟨n, becomes⟩ := h.unified_getElem? (List.getElem?_eq_getElem bound)
  exact ⟨_, List.getElem?_eq_getElem bound, n, Option.some_inj.1 (there.symm.trans becomes)⟩

/-- A cloud connection stays one. -/
theorem Readies.isCloud_unified (h : s.Readies verdict m) (entry : s.servers[i]? = some c)
    (cloud : c.isCloud) {e : Connection}
    (after : (m.unified.map Connection.relieved)[i]? = some e) : e.isCloud := by
  obtain ⟨n, becomes⟩ := h.unified_getElem? entry
  obtain rfl := Option.some_inj.1 (after.symm.trans becomes)
  rwa [Connection.readiedBy_of_isCloud cloud, Connection.isCloud_relieved]

/-- Two entries with one id, of which only the other one leads to the cloud service, are
of the same kind afterwards only if the first one has come under the name of the other. -/
theorem Readies.crossing (h : s.Readies verdict m) (entry : s.servers[i]? = some c)
    (other : d ∈ s.servers) (cloud : d.isCloud) (own : c.isCloud = false) (named : c.id.isSome)
    (sameId : d.id = c.id) {e : Connection}
    (after : (m.unified.map Connection.relieved)[i]? = some e) (found : e.isCloud) :
    s.Crossing (m.document s) i c d := by
  have there := servers_document_getElem? (s := s) after
  obtain ⟨n, becomes⟩ := h.unified_getElem? entry
  obtain rfl := Option.some_inj.1 (after.symm.trans becomes)
  rcases @Connection.readiedBy_eq_or c (verdict n) with same | ⟨unclassified, plain⟩
  · rw [same, Connection.isCloud_relieved, own] at found
    cases found
  · exact ⟨entry, unclassified, plain, other, cloud, named, sameId, _, there, found⟩

/-- Two entries with one id that are of the same kind afterwards were so before, or one of
them has crossed over. -/
theorem Readies.sameKind_or_crossing (h : s.Readies verdict m) (entry : s.servers[i]? = some c)
    (other : s.servers[j]? = some d) (named : c.id.isSome) (sameId : d.id = c.id)
    {e f : Connection} (after : (m.unified.map Connection.relieved)[i]? = some e)
    (after' : (m.unified.map Connection.relieved)[j]? = some f)
    (sameKind : e.isCloud = f.isCloud) :
    c.isCloud = d.isCloud ∨ ∃ i c d, s.Crossing (m.document s) i c d := by
  cases cloud : c.isCloud with
  | true =>
      cases own : d.isCloud with
      | true => exact .inl rfl
      | false =>
          have found : f.isCloud := sameKind ▸ h.isCloud_unified entry cloud after
          exact .inr ⟨j, d, c, h.crossing other (List.mem_of_getElem? entry) cloud own
            (sameId ▸ named) sameId.symm after' found⟩
  | false =>
      cases cloud' : d.isCloud with
      | false => exact .inl rfl
      | true =>
          have found : e.isCloud := sameKind ▸ h.isCloud_unified other cloud' after'
          exact .inr ⟨i, c, d, h.crossing entry (List.mem_of_getElem? other) cloud' cloud named
            sameId after found⟩

/-- A connection that has come under the name of another one has its name. -/
theorem Readies.not_namesDiffer (h : s.Readies verdict m)
    (crossing : s.Crossing (m.document s) i c d) :
    ¬ Connection.NamesDiffer (m.document s).servers := by
  intro differ
  obtain ⟨j, other⟩ := List.getElem?_of_mem crossing.other
  obtain ⟨n, after⟩ := h.unified_getElem? crossing.entry
  obtain ⟨n', after'⟩ := h.unified_getElem? other
  have cloud' := h.isCloud_unified other crossing.cloud after'
  replace after := servers_document_getElem? (s := s) after
  replace after' := servers_document_getElem? (s := s) after'
  obtain ⟨e, there, cloud⟩ := crossing.found
  obtain rfl := Option.some_inj.1 (after.symm.trans there)
  have same : (c.readiedBy (verdict n)).relieved.name =
      (d.readiedBy (verdict n')).relieved.name := by
    rw [Connection.name, Connection.name, Connection.kind, Connection.kind, cloud, cloud']
    simp [crossing.sameId]
  have equal := Connection.namesDiffer_iff_index.1 differ i j _ _ after after'
    (by simpa using crossing.named) same
  -- The two are different entries, for one was classified before and the other was not.
  subst equal
  obtain rfl := Option.some_inj.1 (other.symm.trans crossing.entry)
  have cloud := crossing.cloud
  simp [Connection.isCloud, crossing.unclassified] at cloud

/-- **Which documents have differing names after a migration** that is saved: those of
which no connection has come under the name of another one. -/
theorem Readies.namesDiffer_iff (h : s.Readies verdict m)
    (differ : Connection.NamesDiffer s.servers) :
    Connection.NamesDiffer (m.document s).servers ↔
      ∀ i c d, ¬ s.Crossing (m.document s) i c d := by
  refine ⟨fun differ' i c d crossing => h.not_namesDiffer crossing differ', fun none => ?_⟩
  have unified : Connection.NamesDiffer (m.document s).servers ↔
      Connection.NamesDiffer (m.unified.map Connection.relieved) :=
    Connection.namesDiffer_adopt_iff
  refine unified.2 (Connection.namesDiffer_iff_index.2
    fun i j e f after after' named same => ?_)
  obtain ⟨c, entry, n, rfl⟩ := h.exists_of_unified after
  obtain ⟨d, other, n', rfl⟩ := h.exists_of_unified after'
  simp only [Connection.id_relieved, Connection.id_readiedBy] at named
  have sameId : c.id = d.id := by simpa [Connection.name] using (Prod.mk.inj same).2
  have sameKind := congrArg ServerKind.isCloud (Prod.mk.inj same).1
  simp only [Connection.kind, ServerKind.isCloud_ofFlag] at sameKind
  rcases h.sameKind_or_crossing entry other named sameId.symm after after' sameKind with
    before | ⟨i, c, d, crossing⟩
  · have same : c.name = d.name := by simp [Connection.name, Connection.kind, before, sameId]
    exact Connection.namesDiffer_iff_index.1 differ i j c d entry other named same
  · exact (none i c d crossing).elim

end Settings

namespace Registry

variable {cloudDomain : String} {b : Bench MemorySettings}

/-- **Names after a migration**: no two connections have the same one, unless one of them
was classified for its token and came under the name of the other. -/
theorem namesDiffer_iff_of_migrate (free : b.conditions.Unfailing)
    (differ : Connection.NamesDiffer b.document.servers) :
    ∃ report b', (inMemory cloudDomain).migrate.outcome b = (.ok report, b') ∧
      (Connection.NamesDiffer b'.document.servers ↔
        ∀ i c d, ¬ b.document.Crossing b'.document i c d) := by
  obtain ⟨report, answered, m, readies, -, left⟩ := @migrate_yields cloudDomain b free
  refine ⟨report, _, Prod.ext answered rfl, ?_⟩
  rw [document_of_unrecorded left, Migration.document_finished]
  split
  · exact readies.namesDiffer_iff differ
  · refine iff_of_true differ fun i c d crossing => ?_
    obtain ⟨e, same, found⟩ := crossing.found
    obtain rfl := Option.some_inj.1 (crossing.entry.symm.trans same)
    simp [Connection.isCloud, crossing.unclassified] at found

/-- One connection has to be classified for its token, and no other has its id; two share an
id, but their kinds are known; and the former one has the name of one of these, so it is
not moved. -/
theorem namesDiffer_iff_of_migrate_shared_id :
    let b : Bench MemorySettings := .fresh
      (.of ⟨⟨[⟨some "y", some "https://b.example", none, none, false, none⟩], [],
        [⟨some "x", some "https://app.codescan.io", some "org", none, false, some "t"⟩,
          ⟨some "y", some "https://app.codescan.io", some "org", some true, false, none⟩,
          ⟨some "y", some "https://a.example", none, some false, false, some "u"⟩]⟩, [], []⟩)
      [] (.calm fun _ => false) .nobody
    b.conditions.Unfailing ∧ Connection.NamesDiffer b.document.servers ∧
      Connection.NamesDiffer ((inMemory "codescan.io").migrate.outcome b).2.document.servers ∧
      ∃ report b', (inMemory "codescan.io").migrate.outcome b = (.ok report, b') ∧
        (Connection.NamesDiffer b'.document.servers ↔
          ∀ i c d, ¬ b.document.Crossing b'.document i c d) := by
  intro b
  have differ : Connection.NamesDiffer b.document.servers := by decide
  exact ⟨Conditions.unfailing_calm _, differ, by decide +kernel,
    namesDiffer_iff_of_migrate (Conditions.unfailing_calm _) differ⟩

/-- A connection is found to be one of the cloud service, where there is another one with
its id already. -/
theorem not_namesDiffer_of_migrate_classified :
    let c : Connection :=
      ⟨some "x", some "https://app.codescan.io", some "org", none, false, some "t"⟩
    let d : Connection :=
      ⟨some "x", some "https://app.codescan.io", some "org2", some true, false, none⟩
    let b : Bench MemorySettings := .fresh (.of ⟨⟨[], [], [c, d]⟩, [], []⟩) []
      (.calm fun _ => false) .nobody
    let after := (inMemory "codescan.io").migrate.outcome b
    Connection.NamesDiffer b.document.servers ∧ after.1 = .ok ⟨1, 0, 0, 0, 0, true⟩ ∧
      ¬ Connection.NamesDiffer after.2.document.servers :=
  ⟨by decide, by decide +kernel, by decide +kernel⟩

end Registry

end ServerConnections
