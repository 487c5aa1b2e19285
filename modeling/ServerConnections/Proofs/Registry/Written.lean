import ServerConnections.Proofs.Migration.Organizations
import ServerConnections.Proofs.Registry.WellFormed

/-!
# What a change writes

A change writes a connection that is put together from what its caller gives and from the entry
that was there.  It has a flag, it has no token, and it has no organization unless it leads to
the cloud service.  Whether it has the address and the organization that it needs is another
matter.

What the caller gives counts only if it is not empty.  What the entry has counts if it is there
at all.  So a document that was written by hand may have an empty text where an address or an
organization belongs, and a change that gives none writes the empty text again.  The connection
is answered and saved all the same, and if that was what its kind goes by, it has no key.

* `Settings.Allows.storageKey_isSome_iff` — when the connection has a key
* `Registry.complete_iff_of_update` — when what a change writes is complete
-/

namespace ServerConnections

open Bench

namespace Settings.Allows

variable {s : Settings} {c : Connection} {ch : Change}

/-- **A changed connection has a key** if there is what its kind goes by. -/
theorem storageKey_isSome_iff (h : s.Allows c ch) :
    ch.changed.storageKey.isSome ↔
      if ch.changed.isCloud then c.Organizes ch.existing else c.Addresses ch.existing := by
  cases cloud : ch.changed.isCloud with
  | true =>
      rw [Connection.storageKey_of_cloud cloud, if_pos rfl]
      exact h.organization_isSome_iff cloud
  | false =>
      rw [Connection.storageKey_of_not_cloud cloud, if_neg Bool.false_ne_true]
      exact h.serverUrl_isSome_iff

end Settings.Allows

namespace Registry

variable {cloudDomain : String} {b b' : Bench MemorySettings} {c kept : Connection}

/-- **When what a change writes is complete.**  It is answered as it is written, in the place
of the entry that was meant.  It always has a flag, never a token, and an organization only in
the cloud service.  It has an address and an organization if they were given, or if those that
the entry had were not empty. -/
theorem complete_iff_of_update
    (answered : ((inMemory cloudDomain).update c).outcome b = (.ok kept, b')) :
    ∃ i existing, b.document.target? c = some (i, existing) ∧
      b'.document.servers[i]? = some kept ∧
      kept.cloudFlag.isSome ∧ kept.token = none ∧
      (kept.isCloud = false → kept.organization = none) ∧
      ((nonEmpty? kept.serverUrl).isSome ↔ c.Addresses existing) ∧
      (kept.Organized ↔ (kept.isCloud → c.Organizes existing)) ∧
      (kept.storageKey.isSome ↔
        if kept.isCloud then c.Organizes existing else c.Addresses existing) := by
  have ends := (update_ends b c).of_outcome answered
  cases ends with
  | @done n ch _ plan _ left =>
      have allows : b.document.Allows c ch := Settings.allows_of_change plan
      have document : b'.document = ch.applied b.document := document_of_unrecorded left
      have written : b'.document.servers[ch.index]? = some ch.changed := by
        obtain ⟨bound, -⟩ := List.getElem?_eq_some_iff.1 allows.entry
        rw [document, Change.applied, Settings.servers_withServers,
          List.getElem?_set_self bound]
      refine ⟨ch.index, ch.existing, allows.target?, written, allows.classified, allows.token,
        allows.organization_eq_none, allows.serverUrl_isSome_iff, ?_,
        allows.storageKey_isSome_iff⟩
      exact forall_congr' allows.organization_isSome_iff

/-- The organization of a cloud connection is given, and its address is not.  The one that it
had is empty.  It has a key nevertheless. -/
theorem complete_iff_of_update_blank_url :
    let entry : Connection := ⟨some "x", some "", some "", some true, false, some "t"⟩
    let c : Connection := ⟨some "x", none, some "org", some true, true, none⟩
    let kept : Connection := ⟨some "x", some "", some "org", some true, true, none⟩
    let b : Bench MemorySettings := .fresh (.of ⟨⟨[], [], [entry]⟩, [], []⟩) []
      (.calm fun _ => false) .present
    ∃ b', ((inMemory "codescan.io").update c).outcome b = (.ok kept, b') ∧
      ∃ i existing, b.document.target? c = some (i, existing) ∧
        b'.document.servers[i]? = some kept ∧
        kept.cloudFlag.isSome ∧ kept.token = none ∧
        (kept.isCloud = false → kept.organization = none) ∧
        ((nonEmpty? kept.serverUrl).isSome ↔ c.Addresses existing) ∧
        (kept.Organized ↔ (kept.isCloud → c.Organizes existing)) ∧
        (kept.storageKey.isSome ↔
          if kept.isCloud then c.Organizes existing else c.Addresses existing) := by
  intro entry c kept b
  have answered : ((inMemory "codescan.io").update c).outcome b =
      (.ok kept, (((inMemory "codescan.io").update c).outcome b).2) := rfl
  exact ⟨_, answered, complete_iff_of_update answered⟩

/-- An entry with an empty address is changed, and written with an empty address again. -/
theorem not_complete_of_update_blank_url :
    let entry : Connection := ⟨some "x", some "", none, some false, false, none⟩
    let c : Connection := ⟨some "x", none, none, none, false, none⟩
    let b : Bench MemorySettings := .fresh (.of ⟨⟨[], [], [entry]⟩, [], []⟩) []
      (.calm fun _ => false) .nobody
    let after := ((inMemory "codescan.io").update c).outcome b
    after.1 = .ok entry ∧ after.2.document.servers = [entry] ∧
      nonEmpty? entry.serverUrl = none ∧ entry.storageKey = none := by
  decide +kernel

end Registry

end ServerConnections
