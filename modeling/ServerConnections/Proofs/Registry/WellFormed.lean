import Mathlib.Data.List.Nodup
import ServerConnections.Proofs.Registry.Session

/-!
# Documents stay well-formed

A document written by hand may say anything of a connection.  One that a registry
has written is well-formed: the connections of its unified list have all the fields
that their kind needs and no others, and no two of them have the same name.  An
edit cannot undo this, whatever its caller gives and whatever calls are refused.

A connection of a well-formed document has a key for its token.  So a token that is
given never lacks one there.

* `Connection.WellFormed`, `Settings.WellFormed` — the property
* `Connection.Addresses`, `Connection.Organizes` — what there is for a changed connection
* `Settings.Edited.wellFormed` — one edit
* `Registry.wellFormed_of_mem_session` — a run of edits
-/

namespace ServerConnections

open Bench

/-- A connection has an id, an address and a flag.  It has an organization if it
leads to the cloud service, and none otherwise.  It does not carry its token. -/
structure Connection.WellFormed (c : Connection) : Prop where
  id : (nonEmpty? c.id).isSome
  serverUrl : (nonEmpty? c.serverUrl).isSome
  classified : c.cloudFlag.isSome
  organized : c.isCloud → (nonEmpty? c.organization).isSome
  unorganized : c.isCloud = false → c.organization = none
  token : c.token = none

/-- **A well-formed document.**  The former lists may hold anything. -/
structure Settings.WellFormed (s : Settings) : Prop where
  entries : ∀ c ∈ s.servers, c.WellFormed
  names : (s.servers.map Connection.name).Nodup

instance (c : Connection) : Decidable c.WellFormed :=
  decidable_of_iff ((nonEmpty? c.id).isSome ∧ (nonEmpty? c.serverUrl).isSome ∧
      c.cloudFlag.isSome ∧ (c.isCloud → (nonEmpty? c.organization).isSome) ∧
      (c.isCloud = false → c.organization = none) ∧ c.token = none)
    ⟨fun ⟨id, url, flag, org, noOrg, token⟩ => ⟨id, url, flag, org, noOrg, token⟩,
      fun h => ⟨h.id, h.serverUrl, h.classified, h.organized, h.unorganized, h.token⟩⟩

instance (s : Settings) : Decidable s.WellFormed :=
  decidable_of_iff ((∀ c ∈ s.servers, c.WellFormed) ∧ (s.servers.map Connection.name).Nodup)
    ⟨fun ⟨entries, names⟩ => ⟨entries, names⟩, fun h => ⟨h.entries, h.names⟩⟩

/-! ## Connections -/

/-- A well-formed connection has a key. -/
theorem Connection.WellFormed.storageKey_isSome {c : Connection} (h : c.WellFormed) :
    c.storageKey.isSome := by
  cases cloud : c.isCloud with
  | true => exact storageKey_of_cloud cloud ▸ h.organized cloud
  | false => exact storageKey_of_not_cloud cloud ▸ h.serverUrl

@[simp] theorem Connection.nonEmpty?_givenUrl? (c : Connection) :
    nonEmpty? c.givenUrl? = c.givenUrl? :=
  nonEmpty?_nonEmpty? _

/-- **There is an address for a changed connection**, one that is given or one that the entry
had. -/
def Connection.Addresses (c existing : Connection) : Prop :=
  c.givenUrl?.isSome ∨ (nonEmpty? existing.serverUrl).isSome

/-- **There is an organization for a changed connection**, in the same way. -/
def Connection.Organizes (c existing : Connection) : Prop :=
  (nonEmpty? c.organization).isSome ∨ (nonEmpty? existing.organization).isSome

instance (c existing : Connection) : Decidable (c.Addresses existing) :=
  inferInstanceAs (Decidable (_ ∨ _))

instance (c existing : Connection) : Decidable (c.Organizes existing) :=
  inferInstanceAs (Decidable (_ ∨ _))

namespace Settings

variable {s : Settings} {c : Connection}

/-- What an addition keeps is well formed. -/
theorem Admits.wellFormed {kept : Connection} (h : s.Admits c kept) : kept.WellFormed where
  id := by
    obtain ⟨id, present, filled⟩ := h.id
    exact nonEmpty?_isSome_iff.2 ⟨id, present, filled⟩
  serverUrl := by
    rw [h.serverUrl, Connection.nonEmpty?_givenUrl?]
    exact h.serverUrl_isSome
  classified := h.classified
  organized cloud := by
    rw [h.organization, if_pos cloud, nonEmpty?_nonEmpty?]
    exact h.organization_isSome cloud
  unorganized cloud := by
    rw [h.organization, if_neg (by simp [cloud])]
  token := h.token

/-- A text that replaces another one, if it is not empty itself. -/
theorem nonEmpty?_or_isSome_iff {given present : Option String} :
    (nonEmpty? ((nonEmpty? given).or present)).isSome ↔
      (nonEmpty? given).isSome ∨ (nonEmpty? present).isSome := by
  cases filled : nonEmpty? given with
  | none => simp
  | some text =>
      rw [Option.some_or]
      refine iff_of_true ?_ (.inl rfl)
      exact nonEmpty?_isSome_iff.2 ⟨text, rfl, ne_empty_of_nonEmpty? filled⟩

/-- A change leaves its connection with an address if one is given or was there. -/
theorem Allows.serverUrl_isSome_iff {ch : Change} (h : s.Allows c ch) :
    (nonEmpty? ch.changed.serverUrl).isSome ↔ c.Addresses ch.existing := by
  rw [h.serverUrl, Connection.givenUrl?, nonEmpty?_or_isSome_iff]
  rfl

/-- A cloud connection is left with an organization if one is given or was there. -/
theorem Allows.organization_isSome_iff {ch : Change} (h : s.Allows c ch)
    (cloud : ch.changed.isCloud) :
    (nonEmpty? ch.changed.organization).isSome ↔ c.Organizes ch.existing := by
  rw [h.organization, if_pos cloud, Registry.changedOrganization, nonEmpty?_or_isSome_iff]
  rfl

/-- A connection to a server of one's own is left without an organization. -/
theorem Allows.organization_eq_none {ch : Change} (h : s.Allows c ch)
    (own : ch.changed.isCloud = false) : ch.changed.organization = none := by
  rw [h.organization, own, if_neg Bool.false_ne_true]

/-- A change leaves a well-formed connection well formed. -/
theorem Allows.wellFormed {ch : Change} (h : s.Allows c ch) (wf : ch.existing.WellFormed) :
    ch.changed.WellFormed where
  id := h.id ▸ wf.id
  serverUrl := h.serverUrl_isSome_iff.2 (.inr wf.serverUrl)
  classified := h.classified
  organized cloud := by
    refine (h.organization_isSome_iff cloud).2 ?_
    cases was : ch.existing.isCloud with
    | true => exact .inr (wf.organized was)
    | false =>
        -- A self-hosted connection has no organization that could be inherited.
        have present := h.organization_isSome cloud
        rw [Registry.changedOrganization, wf.unorganized was, Option.or_none] at present
        exact .inl present
  unorganized := h.organization_eq_none
  token := h.token

/-! ## Documents -/

/-- An addition keeps a document well formed, since the name of the new connection was free. -/
theorem WellFormed.added {kept : Connection} (wf : s.WellFormed) (h : s.Admits c kept) :
    (s.added kept).WellFormed where
  entries d there := by
    rcases List.mem_append.1 there with before | new
    · exact wf.entries d before
    · exact List.mem_singleton.1 new ▸ h.wellFormed
  names := by
    obtain ⟨id, present, -⟩ := h.id
    have free := ConnectionLists.position?_eq_none_iff.1 h.free
    have fresh : kept.name ∉ s.servers.map Connection.name := by
      rintro taken
      obtain ⟨d, there, same⟩ := List.mem_map.1 taken
      exact free d there (same.trans (by simp [Connection.name, Connection.idText, present]))
    rw [Settings.added, servers_withServers, List.map_append]
    exact List.Nodup.append wf.names (List.nodup_singleton _) (by simpa using fresh)

/-- A connection keeps its name, or takes one that is free. -/
theorem WellFormed.applied {ch : Change} (wf : s.WellFormed) (h : s.Allows c ch) :
    (ch.applied s).WellFormed where
  entries d there := by
    rcases List.mem_or_eq_of_mem_set there with before | new
    · exact wf.entries d before
    · exact new ▸ h.wellFormed (wf.entries _ (List.mem_of_getElem? h.entry))
  names := by
    have id : ch.changed.id = some c.idText := h.id.trans (Connection.id_of_mayMean h.meant)
    rw [Change.applied, servers_withServers, List.map_set]
    by_cases stays : ch.changed.kind = ch.existing.kind
    -- The names are the same as before.
    · obtain ⟨bound, entry⟩ := List.getElem?_eq_some_iff.1 h.entry
      have inside : ch.index < (s.servers.map Connection.name).length := by simpa using bound
      have same : ch.changed.name = (s.servers.map Connection.name)[ch.index] := by
        simp [entry, Connection.name, stays, h.id]
      rw [same, List.set_getElem_self]
      exact wf.names
    -- One name is replaced by another that no connection has.
    · have free := ConnectionLists.position?_eq_none_iff.1 (h.free stays)
      refine wf.names.set fun taken => ?_
      obtain ⟨d, there, same⟩ := List.mem_map.1 taken
      exact free d there (same.trans (by simp [Connection.name, id]))

theorem WellFormed.without {i : Nat} (wf : s.WellFormed) : (s.without i).WellFormed where
  entries d there := wf.entries d (List.mem_of_mem_eraseIdx there)
  names := by
    rw [Settings.without, servers_withServers]
    exact wf.names.sublist ((List.eraseIdx_sublist _ _).map _)

/-- **An edit keeps documents well-formed.** -/
theorem Edited.wellFormed {s' : Settings} (edited : s.Edited s') (wf : s.WellFormed) :
    s'.WellFormed := by
  cases edited with
  | same => exact wf
  | added admits => exact wf.added admits
  | changed allows => exact wf.applied allows
  | removed => exact wf.without

/-- In a well-formed document no change leaves its connection without a key. -/
theorem WellFormed.not_losesKey (wf : s.WellFormed) : ¬ s.LosesKey := by
  rintro ⟨c, ch, allows, unkeyed⟩
  have keyed :=
    (allows.wellFormed (wf.entries _ (List.mem_of_getElem? allows.entry))).storageKey_isSome
  simp [unkeyed] at keyed

end Settings

/-! ## Runs -/

namespace Registry

variable {cloudDomain : String}

/-- One edit on a host whose document is well-formed. -/
theorem perform_wellFormed {b : Bench MemorySettings} (wf : b.document.WellFormed)
    (edit : Edit) :
    ((inMemory cloudDomain).perform edit).Ensures b fun res b' =>
      b'.document.WellFormed ∧ ∀ id, res ≠ .error (.missingStorageKey id) :=
  (perform_edited b edit).mono fun _ _ ⟨edited, unkeyed⟩ =>
    ⟨edited.wellFormed wf, fun id failed => wf.not_losesKey (unkeyed ⟨id, failed⟩)⟩

/-- **In a session on a well-formed document it stays well-formed**, and no token
ever lacks a key.  The callers may give anything, and which calls are refused is
up to the conditions of the host. -/
theorem wellFormed_of_mem_session {b : Bench MemorySettings} (wf : b.document.WellFormed)
    (edits : List Edit) :
    ∀ o ∈ (inMemory cloudDomain).session edits b,
      o.2.document.WellFormed ∧ ∀ id, o.1 ≠ .error (.missingStorageKey id) := by
  refine Act.forall_mem_outcomes (fun b : Bench MemorySettings => b.document.WellFormed)
    (fun res => ∀ id, res ≠ .error (ConnectionError.missingStorageKey id)) wf ?_
  intro x there b' wf'
  obtain ⟨edit, -, rfl⟩ := List.mem_map.1 there
  exact perform_wellFormed wf' edit

/-- One id names a connection of each kind.  The save of a new connection is refused,
after its token was stored; then the cloud connection is changed. -/
theorem wellFormed_of_mem_session_two_kinds :
    let b : Bench MemorySettings := .fresh
      (.of ⟨⟨[], [], [⟨some "a", some "https://sq.example", none, some false, false, none⟩,
        ⟨some "a", some "https://app.codescan.io", some "org", some true, false, none⟩]⟩,
        [], []⟩)
      [("org", "old")]
      { Conditions.calm fun _ => false with
        refusesSave := fun n => if n = 4 then some "full" else none } .present
    b.document.WellFormed ∧
      ∀ o ∈ (inMemory "codescan.io").session
        [.submit ⟨some "b", some " https://new.example/ ", none, none, false, some "t"⟩,
          .update ⟨some "a", none, some "team", some true, true, some "t"⟩] b,
        o.2.document.WellFormed ∧ ∀ id, o.1 ≠ .error (.missingStorageKey id) :=
  ⟨by decide, wellFormed_of_mem_session (by decide) _⟩

end Registry

end ServerConnections
