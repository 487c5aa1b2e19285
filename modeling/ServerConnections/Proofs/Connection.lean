import ServerConnections.Connection.Lists

/-!
# Names and keys of connections

A connection is found by its kind and its id, together its `name`.  This file has
what looking for a name in a list comes down to, and the facts about texts that
are present and not empty on which ids, addresses and storage keys rest.

* `Connection.name` — the kind and the id
* `Connection.defaultId_ne_empty` — no connection is saved under an empty id
* `ConnectionLists.find?_eq_some` — the first entry of a name is the one found
-/

namespace ServerConnections

theorem nonEmpty?_eq_some_iff {s : Option String} {t : String} :
    nonEmpty? s = some t ↔ s = some t ∧ t ≠ "" := by
  simp [nonEmpty?, Option.filter_eq_some_iff]

theorem nonEmpty?_isSome_iff {s : Option String} :
    (nonEmpty? s).isSome ↔ ∃ t, s = some t ∧ t ≠ "" := by
  simp [Option.isSome_iff_exists, nonEmpty?_eq_some_iff]

theorem ne_empty_of_nonEmpty? {s : Option String} {t : String} (h : nonEmpty? s = some t) :
    t ≠ "" :=
  (nonEmpty?_eq_some_iff.1 h).2

@[simp] theorem nonEmpty?_nonEmpty? (s : Option String) :
    nonEmpty? (nonEmpty? s) = nonEmpty? s := by
  simp [nonEmpty?, Option.filter_filter]

namespace Connection

/-- The kind and the id. -/
def name (c : Connection) : ServerKind × Option String := (c.kind, c.id)

theorem isNamed_iff {kind : ServerKind} {id : String} {c : Connection} :
    isNamed kind id c ↔ c.name = (kind, some id) := by
  simp [isNamed, hasId, name]

/-- **No connection is saved under an empty id.** -/
theorem defaultId_ne_empty (c : Connection) : c.defaultId ≠ "" := by
  unfold defaultId
  cases org : nonEmpty? c.organization with
  | some organization => exact ne_empty_of_nonEmpty? org
  | none =>
      cases url : nonEmpty? (c.serverUrl.map Address.clean) with
      | some serverUrl => exact ne_empty_of_nonEmpty? url
      | none => simp [defaultConnectionId]

/-- The key of a cloud connection is its organization. -/
theorem storageKey_of_cloud {c : Connection} (h : c.isCloud) :
    c.storageKey = nonEmpty? c.organization := by
  simp [storageKey, h]

/-- The key of any other connection is its address. -/
theorem storageKey_of_not_cloud {c : Connection} (h : c.isCloud = false) :
    c.storageKey = nonEmpty? c.serverUrl := by
  simp [storageKey, h]

end Connection

namespace ConnectionLists

variable {lists : ConnectionLists} {kind : ServerKind} {id : String}

/-- A name that is not in use. -/
theorem position?_eq_none_iff :
    lists.position? kind id = none ↔ ∀ c ∈ lists.servers, c.name ≠ (kind, some id) := by
  simp only [position?, List.findIdx?_eq_none_iff, ← Bool.not_eq_true, Connection.isNamed_iff,
    ne_eq]

/-- The first entry of a name is the one found. -/
theorem find?_eq_some {i : Nat} {c : Connection} (entry : lists.servers[i]? = some c)
    (named : c.name = (kind, some id))
    (first : ∀ j < i, ∀ d, lists.servers[j]? = some d → d.name ≠ (kind, some id)) :
    lists.find? kind id = some c := by
  obtain ⟨bound, rfl⟩ := List.getElem?_eq_some_iff.1 entry
  rw [find?, List.find?_eq_some_iff_getElem]
  refine ⟨Connection.isNamed_iff.2 named, i, bound, rfl, fun j before => ?_⟩
  have other := first j before _ (List.getElem?_eq_getElem (Nat.lt_trans before bound))
  simpa [← Bool.not_eq_true, Connection.isNamed_iff] using other

end ConnectionLists

end ServerConnections
