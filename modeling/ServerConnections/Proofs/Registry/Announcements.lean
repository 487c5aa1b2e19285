import ServerConnections.Proofs.Registry.Ownership

/-!
# Whose token update is announced

A change is announced under the name of the connection that was changed, and an addition is not
announced: there is nothing yet that the analysis server could have kept.  But a token belongs
to a key, and a key may belong to several connections.  A token that is stored for one of them
is from then on the token of all of them, and none of the others is announced.

There is one more connection that is not announced.  Where two entries have one name, the first
one may be changed so that it has another name.  Then the name leads to the second one, which
has a token of its own.

* `Edit.announced` — what is announced by an edit
* `Registry.announced_iff_of_perform` — which changes of a token are announced, and why another
  one is not
* `Registry.token_changed_unannounced` — a connection that shares a key with the one changed
-/

namespace ServerConnections

open Bench

/-- **What is announced by an edit**: the connection that it has changed, if it has changed
one. -/
def Edit.announced (e : Edit) (s : Settings) : Answer → List TokenUpdated
  | .kept c => if (e.existing? s).isSome then [⟨c.idText, c.kind⟩] else []
  | .removed _ => []

theorem Edit.mem_announced_iff {e : Edit} {s : Settings} {kept : Connection}
    {kind : ServerKind}
    {id : String} (present : kept.id.isSome) :
    ⟨id, kind⟩ ∈ e.announced s (.kept kept) ↔
      (e.existing? s).isSome ∧ kept.isNamed kind id := by
  obtain ⟨own, has⟩ := Option.isSome_iff_exists.1 present
  have text : kept.idText = own := by rw [Connection.idText, has]; rfl
  have named : kept.isNamed kind id ↔ id = own ∧ kind = kept.kind := by
    rw [Connection.isNamed_iff, Connection.name, has, Prod.mk.injEq, Option.some.injEq]
    constructor
    · rintro ⟨rfl, rfl⟩
      exact ⟨rfl, rfl⟩
    · rintro ⟨rfl, rfl⟩
      exact ⟨rfl, rfl⟩
  rw [announced, named]
  by_cases existing : (e.existing? s).isSome
  · rw [if_pos existing, List.mem_singleton, TokenUpdated.mk.injEq, text]
    exact (and_iff_right existing).symm
  · rw [if_neg existing]
    exact iff_of_false List.not_mem_nil fun h => existing h.1

/-! ## What is heard -/

namespace Bench

theorem events_of_unrecorded {μ : Type} {b k : Bench μ} (left : b.unrecorded = k) :
    b.events = k.events := by
  subst left
  rfl

theorem events_told {μ : Type} {b : Bench μ} (listening : b.listener = .present)
    (event : TokenUpdated) : (b.told event).events = b.events ++ [event] := by
  rw [told, if_pos listening]

end Bench

/-- A search does not notice that an entry was replaced, if it looks for neither of the two. -/
theorem Connection.find?_set {p : Connection → Bool} {cs : List Connection} {i : Nat}
    {c d : Connection} (entry : cs[i]? = some c) (old : p c = false) (new : p d = false) :
    (cs.set i d).find? p = cs.find? p := by
  induction cs generalizing i with
  | nil => rfl
  | cons e cs ih =>
      cases i with
      | zero =>
          obtain rfl : e = c := by simpa using entry
          simp [old, new]
      | succ i =>
          rw [List.set_cons_succ, List.find?_cons, List.find?_cons, ih (by simpa using entry)]

section Done

variable {cloudDomain : String} {k b : Bench MemorySettings} {e : Edit} {answer : Answer}
  {kept x y : Connection} {kind : ServerKind} {id : String}

theorem Edit.Done.events (listening : k.listener = .present)
    (done : e.Done cloudDomain k answer b) :
    b.events = k.events ++ e.announced k.document answer := by
  cases done with
  | added _ new _ left =>
      rw [events_of_unrecorded left, announced, new]
      exact (List.append_nil k.events).symm
  | @changed n c ch _ _ existing plan _ left =>
      have allows := Settings.allows_of_change plan
      have text : ch.changed.idText = c.idText := by
        rw [Connection.idText, allows.id, Connection.id_of_mayMean allows.meant]
        rfl
      rw [events_of_unrecorded left, announced, existing, text]
      exact events_told (b := k.withSecrets (ch.stored c k.secrets)) listening _
  | missing _ _ left => exact (events_of_unrecorded left).trans (List.append_nil _).symm
  | removed _ _ _ left => exact (events_of_unrecorded left).trans (List.append_nil _).symm

/-- A name that is not announced leads to the same entry as before, unless it was the name of
the connection that was changed. -/
theorem Edit.Done.found_again (done : e.Done cloudDomain k (.kept kept) b)
    (before : k.document.connections.find? kind id = some x)
    (after : b.document.connections.find? kind id = some y)
    (unheard : ¬ ((e.existing? k.document).isSome ∧ kept.isNamed kind id)) :
    y = x ∨ ∃ existing, e.existing? k.document = some existing ∧ existing.isNamed kind id := by
  cases done with
  | added _ _ _ left =>
      rw [document_of_unrecorded left] at after
      have first : (k.document.servers ++ [kept]).find? (Connection.isNamed kind id) =
          some x := by
        rw [List.find?_append, show k.document.servers.find? _ = some x from before]
        rfl
      exact .inl (Option.some.inj (after.symm.trans first))
  | @changed n c ch _ _ existing plan _ left =>
      have allows := Settings.allows_of_change plan
      rw [document_of_unrecorded left] at after
      by_cases old : ch.existing.isNamed kind id
      · exact .inr ⟨ch.existing, existing, old⟩
      · have new : ch.changed.isNamed kind id = false :=
          Bool.eq_false_iff.2 fun named => unheard ⟨by rw [existing]; rfl, named⟩
        have same : (k.document.servers.set ch.index ch.changed).find?
            (Connection.isNamed kind id) = some x :=
          (Connection.find?_set allows.entry (Bool.eq_false_iff.2 old) new).trans before
        exact .inl (Option.some.inj (after.symm.trans same))

/-- A connection that stays, and whose token is another one afterwards, has the key under which
a token was stored. -/
theorem Edit.Done.storageKey_eq (done : e.Done cloudDomain k (.kept kept) b)
    (there : x ∈ b.document.connections.all)
    (changed : b.secrets.tokenOf x ≠ k.secrets.tokenOf x) :
    x.storageKey = kept.storageKey := by
  cases keyed : x.storageKey with
  | none => simp [SecretTable.tokenOf, keyed] at changed
  | some key =>
      simp only [SecretTable.tokenOf, keyed, Option.bind_some] at changed
      cases done.explains changed with
      | stored answered own _ _ =>
          cases answered
          exact own.symm
      | deleted _ _ _ _ unused => exact absurd keyed (unused x there)

end Done

/-! ## Changes of a token -/

namespace Registry

variable {cloudDomain : String} {b b' b₁ b₂ : Bench MemorySettings} {e : Edit}
  {kept x y : Connection} {kind : ServerKind} {id : String}

theorem found_of_find
    (answered : ((inMemory cloudDomain).find kind id).outcome b = (.ok (some x), b₁)) :
    ∃ c, b.document.connections.find? kind id = some c ∧
      x = { c with token := b.secrets.tokenOf c } := by
  have found := ((@does_find cloudDomain b kind id).of_outcome answered).1
  obtain ⟨c, there, own⟩ := Option.map_eq_some_iff.1 found.symm
  exact ⟨c, there, own.symm⟩

/-- **Which changes of a token are announced**: those under the name of a connection that was
changed.  Where another one is not, its connection shares a key with the one that was answered,
or it has taken the place of the one that was changed. -/
theorem announced_iff_of_perform (listening : b.listener = .present)
    (answered : ((inMemory cloudDomain).perform e).outcome b = (.ok (.kept kept), b'))
    (before : ((inMemory cloudDomain).find kind id).outcome b = (.ok (some x), b₁))
    (after : ((inMemory cloudDomain).find kind id).outcome b' = (.ok (some y), b₂))
    (changed : y.token ≠ x.token) :
    ∃ heard, b'.events = b.events ++ heard ∧
      (⟨id, kind⟩ ∈ heard ↔ (e.existing? b.document).isSome ∧ kept.isNamed kind id) ∧
      (⟨id, kind⟩ ∉ heard → y.storageKey = kept.storageKey ∨
        ∃ existing, e.existing? b.document = some existing ∧ existing.isNamed kind id) := by
  have done := ((perform_ends b e).of_outcome answered).done
  have events : b'.events = b.unrecorded.events ++ e.announced b.unrecorded.document
      (.kept kept) :=
    done.events listening
  obtain ⟨own, present, -⟩ := done.keeps.found
  have heard : ⟨id, kind⟩ ∈ e.announced b.document (.kept kept) ↔
      (e.existing? b.document).isSome ∧ kept.isNamed kind id :=
    Edit.mem_announced_iff (by rw [present]; rfl)
  refine ⟨e.announced b.document (.kept kept), events, heard, fun unheard => ?_⟩
  obtain ⟨c, first, rfl⟩ := found_of_find before
  obtain ⟨d, second, rfl⟩ := found_of_find after
  refine (done.found_again first second (mt heard.2 unheard)).imp_left ?_
  rintro rfl
  have there : d ∈ b'.document.connections.all :=
    List.mem_append_right _ (List.mem_of_find?_eq_some second)
  have shared : d.storageKey = kept.storageKey := done.storageKey_eq there changed
  exact shared

/-- Two connections share a key, and one of them gets a new token: it is announced. -/
theorem announced_iff_of_perform_shared_key :
    let entry : Connection :=
      ⟨some "a", some "https://sq.example", none, some false, false, none⟩
    let other : Connection := { entry with id := some "b" }
    let b : Bench MemorySettings := .fresh (.of ⟨⟨[], [], [entry, other]⟩, [], []⟩)
      [("https://sq.example", "old")] (.calm fun _ => false) .present
    let e : Edit := .update ⟨some "b", none, none, none, false, some "new"⟩
    let b' := ((inMemory "codescan.io").perform e).outcome b |>.2
    let x : Connection := { other with token := some "old" }
    let y : Connection := { other with token := some "new" }
    b.listener = .present ∧
      ((inMemory "codescan.io").perform e).outcome b = (.ok (.kept other), b') ∧
        (∃ b₁, ((inMemory "codescan.io").find .selfHosted "b").outcome b =
          (.ok (some x), b₁)) ∧
        (∃ b₂, ((inMemory "codescan.io").find .selfHosted "b").outcome b' =
          (.ok (some y), b₂)) ∧
          y.token ≠ x.token ∧
            ∃ heard, b'.events = b.events ++ heard ∧
              (⟨"b", .selfHosted⟩ ∈ heard ↔
                (e.existing? b.document).isSome ∧ other.isNamed .selfHosted "b") ∧
              (⟨"b", .selfHosted⟩ ∉ heard → y.storageKey = other.storageKey ∨
                ∃ existing, e.existing? b.document = some existing ∧
                  existing.isNamed .selfHosted "b") := by
  intro entry other b e b' x y
  have answered : ((inMemory "codescan.io").perform e).outcome b = (.ok (.kept other), b') :=
    rfl
  have before : ((inMemory "codescan.io").find .selfHosted "b").outcome b =
      (.ok (some x), (((inMemory "codescan.io").find .selfHosted "b").outcome b).2) := rfl
  have after : ((inMemory "codescan.io").find .selfHosted "b").outcome b' =
      (.ok (some y), (((inMemory "codescan.io").find .selfHosted "b").outcome b').2) := rfl
  have changed : y.token ≠ x.token := by decide
  exact ⟨rfl, answered, ⟨_, before⟩, ⟨_, after⟩, changed,
    announced_iff_of_perform rfl answered before after changed⟩

/-- The other one has a new token as well, and is not announced. -/
theorem token_changed_unannounced :
    let entry : Connection :=
      ⟨some "a", some "https://sq.example", none, some false, false, none⟩
    let other : Connection := { entry with id := some "b" }
    let b : Bench MemorySettings := .fresh (.of ⟨⟨[], [], [entry, other]⟩, [], []⟩)
      [("https://sq.example", "old")] (.calm fun _ => false) .present
    let after := ((inMemory "codescan.io").perform
      (.update ⟨some "b", none, none, none, false, some "new"⟩)).outcome b
    let load := (inMemory "codescan.io").find .selfHosted "a"
    (load.outcome b).1 = .ok (some { entry with token := some "old" }) ∧
      after.1 = .ok (.kept other) ∧
        (load.outcome after.2).1 = .ok (some { entry with token := some "new" }) ∧
          b.events = [] ∧ after.2.events = [⟨"b", .selfHosted⟩] :=
  ⟨rfl, rfl, rfl, rfl, rfl⟩

end Registry

end ServerConnections
