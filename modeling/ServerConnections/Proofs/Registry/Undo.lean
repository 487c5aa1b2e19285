import ServerConnections.Proofs.Keyed
import ServerConnections.Proofs.Registry.Outcome

/-!
# An addition that is taken back

A connection that was added can be removed by its name.  The document may have been written by
hand, with several entries of one name, and with entries of which it is not known who hosts the
server; none of them is removed in place of the one that was added.  An addition is rejected
where its name is taken, and entries are compared by the same names when one is removed.  So
the one that was added, which comes last, is the only one of its name, and the document is what
it was before.

The secret of an addition is stored under the key of the connection as it is kept, and so it is
the entry in the document that says which secret goes with it.  What is left then depends on
what was under that key before.  If no other connection has it, the removal drops it; and if
there was no secret either, the secrets are what they were.  If another connection has it, what
was stored stays.

* `Settings.without_added` — the document
* `Settings.dropped_storing` — the secrets
* `Registry.remove_of_add_leaves` — what is left, whatever was under the key
* `Registry.remove_of_add` — nothing, if there was nothing
-/

namespace ServerConnections

open Bench

/-! ## The document -/

namespace Settings

variable {s : Settings} {c kept : Connection} {id : String}

/-- **The connection that was added is the one that is meant by its name.** -/
theorem Admits.position?_added (h : s.Admits c kept) (present : kept.id = some id) :
    (s.added kept).connections.position? kept.kind id = some s.servers.length := by
  have free : s.servers.findIdx? (Connection.isNamed kept.kind id) = none := by
    have free := h.free
    rwa [Connection.idText, present] at free
  have named : Connection.isNamed kept.kind id kept :=
    Connection.isNamed_iff.2 (Prod.ext rfl present)
  show (s.servers ++ [kept]).findIdx? _ = _
  rw [List.findIdx?_append, free, List.findIdx?_singleton, if_pos named]
  simp

theorem getElem?_added (s : Settings) (kept : Connection) :
    (s.added kept).servers[s.servers.length]? = some kept :=
  List.getElem?_concat_length

/-- **Without the connection that was added** the document is what it was. -/
theorem without_added (s : Settings) (kept : Connection) :
    (s.added kept).without s.servers.length = s := by
  have entries : (s.servers ++ [kept]).eraseIdx s.servers.length = s.servers := by
    rw [List.eraseIdx_append_of_length_le (Nat.le_refl _)]
    simp
  show s.withServers ((s.servers ++ [kept]).eraseIdx s.servers.length) = s
  rw [entries]
  rfl

/-! ## The secrets -/

/-- **What was stored under a key that no connection has is dropped**, and so is what was there
before. -/
theorem dropped_storing {key : String} (unused : s.usesKey key = false) (token : Option String)
    (t : SecretTable) : s.dropped (some key) (t.storing (some key) token) = t.remove key := by
  rw [dropped, if_neg (Bool.eq_false_iff.1 unused)]
  cases given : nonEmpty? token with
  | none => simp [SecretTable.storing, given]
  | some text =>
      simp only [SecretTable.storing, given]
      exact Keyed.remove_put t

end Settings

/-! ## The operations -/

namespace Registry

variable {cloudDomain : String} {b b' : Bench MemorySettings} {c kept : Connection}

/-- What is known of an addition that was answered. -/
theorem admits_of_add (added : ((inMemory cloudDomain).add c).outcome b = (.ok kept, b')) :
    b.document.Admits c kept ∧
      b'.unrecorded = (b.unrecorded.withSecrets
        (b.secrets.storing kept.storageKey c.token)).saved (b.document.added kept) := by
  cases (add_ends b c).of_outcome added with
  | done plan left => exact ⟨Settings.admits_of_addition plan, left⟩

/-- A connection that is there is removed, where nothing is refused. -/
theorem remove_of_found {id : String} {kind : ServerKind} {i : Nat}
    (free : b.conditions.Unfailing) (found : b.document.connections.position? kind id = some i)
    (entry : b.document.servers[i]? = some c) :
    ∃ b', ((inMemory cloudDomain).remove id kind).outcome b = (.ok true, b') ∧
      b'.unrecorded = (b.unrecorded.withSecrets
        ((b.document.without i).dropped c.storageKey b.secrets)).saved (b.document.without i) := by
  rcases outcome : ((inMemory cloudDomain).remove id kind).outcome b with ⟨res, b'⟩
  cases (remove_ends b id kind).of_outcome outcome with
  | refused stopped => exact stopped.elim free
  | unsaved _ _ stopped => exact stopped.elim free
  | missing absent => cases found.symm.trans absent
  | done found' entry' left =>
      cases found.symm.trans found'
      cases entry.symm.trans entry'
      exact ⟨b', rfl, left⟩

/-- **A connection that was added can be removed.**  The document is what it was before, and
the secret that was stored is dropped unless its key is in use. -/
theorem remove_of_add_leaves (free : b.conditions.Unfailing)
    (added : ((inMemory cloudDomain).add c).outcome b = (.ok kept, b')) :
    ∃ id b'', kept.id = some id ∧
      ((inMemory cloudDomain).remove id kept.kind).outcome b' = (.ok true, b'') ∧
      b''.document = b.document ∧
      b''.secrets =
        b.document.dropped kept.storageKey (b.secrets.storing kept.storageKey c.token) := by
  obtain ⟨admits, left⟩ := admits_of_add added
  obtain ⟨id, present, -⟩ := admits.id
  have document : b'.document = b.document.added kept := document_of_unrecorded left
  have free' : b'.conditions.Unfailing := by
    rw [conditions_of_unrecorded left]
    exact free
  have found : b'.document.connections.position? kept.kind id =
      some b.document.servers.length :=
    document ▸ admits.position?_added present
  have entry : b'.document.servers[b.document.servers.length]? = some kept :=
    document ▸ b.document.getElem?_added kept
  obtain ⟨b'', removed, left'⟩ := remove_of_found free' found entry
  rw [document, Settings.without_added, secrets_of_unrecorded left] at left'
  exact ⟨id, b'', present, removed, (document_of_unrecorded left').trans rfl,
    (secrets_of_unrecorded left').trans rfl⟩

/-- **Removing a connection undoes adding it**, if there was no secret under its key before and
no connection had that key.  Whatever the probe has answered, the document and the secrets are
exactly what they were. -/
theorem remove_of_add (free : b.conditions.Unfailing)
    (added : ((inMemory cloudDomain).add c).outcome b = (.ok kept, b'))
    (fresh : ∀ key, kept.storageKey = some key →
      b.secrets.get? key = none ∧ b.document.usesKey key = false) :
    ∃ id b'', kept.id = some id ∧
      ((inMemory cloudDomain).remove id kept.kind).outcome b' = (.ok true, b'') ∧
      b''.document = b.document ∧ b''.secrets = b.secrets := by
  obtain ⟨id, b'', present, removed, document, secrets⟩ := remove_of_add_leaves free added
  refine ⟨id, b'', present, removed, document, secrets.trans ?_⟩
  cases keyed : kept.storageKey with
  | none => rfl
  | some key =>
      obtain ⟨absent, unused⟩ := fresh key keyed
      rw [Settings.dropped_storing unused, Keyed.remove_eq_self absent]

/-- A document with two entries of one name, one of which was not classified, and a connection
that is found to be of the other kind. -/
theorem remove_of_add_unclassified :
    let entry : Connection :=
      ⟨some "a", some "https://sq.example", some "org", none, false, none⟩
    let b : Bench MemorySettings :=
      .fresh (.of ⟨⟨[], [], [entry, entry.withCloudFlag false]⟩, [], []⟩)
        [("https://sq.example", "old")] (.calm fun _ => true) .present
    let c : Connection :=
      ⟨some "a", some "https://on.example/", some "team", none, false, some "new"⟩
    let kept : Connection :=
      ⟨some "a", some "https://on.example", some "team", some true, false, none⟩
    b.conditions.Unfailing ∧ b.secrets.get? "team" = none ∧ b.document.usesKey "team" = false ∧
      ∃ b', ((inMemory "codescan.io").add c).outcome b = (.ok kept, b') ∧
        b'.secrets = [("https://sq.example", "old"), ("team", "new")] ∧
        ∃ id b'', kept.id = some id ∧
          ((inMemory "codescan.io").remove id kept.kind).outcome b' = (.ok true, b'') ∧
          b''.document = b.document ∧ b''.secrets = b.secrets := by
  intro entry b c kept
  have free : b.conditions.Unfailing := Conditions.unfailing_calm _
  have absent : b.secrets.get? "team" = none := by decide
  have unused : b.document.usesKey "team" = false := by decide
  have added : ((inMemory "codescan.io").add c).outcome b =
      (.ok kept, (((inMemory "codescan.io").add c).outcome b).2) := rfl
  refine ⟨free, absent, unused, _, added, by rfl, ?_⟩
  refine remove_of_add free added fun key keyed => ?_
  cases keyed
  exact ⟨absent, unused⟩

end Registry

end ServerConnections
