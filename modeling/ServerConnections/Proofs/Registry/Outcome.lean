import ServerConnections.Proofs.Registry.Session

/-!
# What is done by an edit that answers

An edit has many endings, but only four of them are answers: a connection was
added, a connection was changed, a connection was removed, or there was none to
remove.  An edit that answers has carried out its plan to the end, whatever could
have been refused on the way.  Where nothing is refused, all that is left besides
are rejections, and these leave the host alone.

* `Edit.Done` — the four answers, each with the plan and the host left behind
* `Edit.Ends.done` — an edit that answers has ended in one of them
* `Edit.Ends.left_of_error` — an error leaves the host alone where nothing is refused
-/

namespace ServerConnections

open Bench

/-- **What an edit that answers has done**, on a host that was `k` before. -/
inductive Edit.Done (cloudDomain : String) (k : Bench MemorySettings) (e : Edit) :
    Answer → Bench MemorySettings → Prop
  | added {n : Nat} {c kept : Connection} {b : Bench MemorySettings}
      (given : e.givenToken = nonEmpty? c.token) (new : e.existing? k.document = none)
      (plan : k.document.addition (k.conditions.verdict cloudDomain n) c = .ok kept)
      (left : b.unrecorded = (k.withSecrets (k.secrets.storing kept.storageKey c.token)).saved
        (k.document.added kept)) : Done cloudDomain k e (.kept kept) b
  | changed {n : Nat} {c : Connection} {ch : Change} {b : Bench MemorySettings}
      (given : e.givenToken = nonEmpty? c.token)
      (existing : e.existing? k.document = some ch.existing)
      (plan : k.document.change (k.conditions.verdict cloudDomain n) c = .ok ch)
      (keyed : (nonEmpty? (ch.token c k.secrets)).isSome → ch.changed.storageKey.isSome)
      (left : b.unrecorded = ch.finished c k) : Done cloudDomain k e (.kept ch.changed) b
  | missing {id : String} {kind : ServerKind} {b : Bench MemorySettings}
      (asked : e = .remove id kind)
      (absent : k.document.connections.position? kind id = none)
      (left : b.unrecorded = k) : Done cloudDomain k e (.removed false) b
  | removed {id : String} {kind : ServerKind} {i : Nat} {c : Connection}
      {b : Bench MemorySettings} (asked : e = .remove id kind)
      (found : k.document.connections.position? kind id = some i)
      (entry : k.document.servers[i]? = some c)
      (left : b.unrecorded = (k.withSecrets ((k.document.without i).dropped c.storageKey
        k.secrets)).saved (k.document.without i)) : Done cloudDomain k e (.removed true) b

section Ends

variable {cloudDomain : String} {k b : Bench MemorySettings} {e : Edit} {c kept : Connection}

/-- An addition that answers has appended the connection that it shows. -/
theorem AddEnds.done_of_answer (given : e.givenToken = nonEmpty? c.token)
    (new : e.existing? k.document = none) (ends : AddEnds cloudDomain k c (.ok kept) b) :
    e.Done cloudDomain k (.kept kept) b := by
  cases ends with
  | done plan left => exact .added given new plan left

/-- A change that answers has been carried out on the entry that was meant. -/
theorem UpdateEnds.done_of_answer (given : e.givenToken = nonEmpty? c.token)
    (existing : e.existing? k.document = (k.document.target? c).map Prod.snd)
    (ends : UpdateEnds cloudDomain k c (.ok kept) b) :
    e.Done cloudDomain k (.kept kept) b := by
  cases ends with
  | done plan keyed left =>
      rw [(Settings.allows_of_change plan).target?, Option.map_some] at existing
      exact .changed given existing plan keyed left

theorem RemoveEnds.done_of_answer {id : String} {kind : ServerKind} {there : Bool}
    (asked : e = .remove id kind) (ends : RemoveEnds k id kind (.ok there) b) :
    e.Done cloudDomain k (.removed there) b := by
  cases ends with
  | missing absent left => exact .missing asked absent left
  | done found entry left => exact .removed asked found entry left

/-- **An edit that answers has done what it answers**, whichever of the four it was. -/
theorem Edit.Ends.done {answer : Answer} (ends : e.Ends cloudDomain k (.ok answer) b) :
    e.Done cloudDomain k answer b := by
  generalize answered : Except.ok answer = res at ends
  cases ends with
  | refused => cases answered
  | added given new ends =>
      obtain ⟨kept, rfl, rfl⟩ := Act.ok_of_map_eq_ok answered.symm
      exact ends.done_of_answer given new
  | changed given existing ends =>
      obtain ⟨kept, rfl, rfl⟩ := Act.ok_of_map_eq_ok answered.symm
      exact ends.done_of_answer given existing
  | removed asked ends =>
      obtain ⟨there, rfl, rfl⟩ := Act.ok_of_map_eq_ok answered.symm
      exact ends.done_of_answer asked

/-- What is refused on the host, and what its probe answers, is not up to an edit. -/
theorem Edit.Done.conditions {answer : Answer} (done : e.Done cloudDomain k answer b) :
    b.conditions = k.conditions := by
  cases done with
  | added _ _ _ left => exact (conditions_of_unrecorded left).trans rfl
  | @changed _ c ch _ _ _ _ _ left =>
      exact (conditions_of_unrecorded left).trans (ch.conditions_finished c k)
  | missing _ _ left => exact conditions_of_unrecorded left
  | removed _ _ _ left => exact (conditions_of_unrecorded left).trans rfl

/-! ## Where nothing is refused -/

theorem Bench.Stopped.elim {P : Prop} {error : ConnectionError} (stopped : k.Stopped error b)
    (free : k.conditions.Unfailing) : P :=
  (stopped.failing free).elim

/-- An addition that fails has been rejected before anything was written. -/
theorem AddEnds.left_of_error {error : ConnectionError} (free : k.conditions.Unfailing)
    (ends : AddEnds cloudDomain k c (.error error) b) : b.unrecorded = k := by
  cases ends with
  | refused stopped => exact stopped.elim free
  | rejected _ left => exact left
  | unsaved _ stopped => exact stopped.elim free

/-- A change that fails has been rejected, or has found no key for its token.  Nothing was
written or announced in either case. -/
theorem UpdateEnds.left_of_error {error : ConnectionError} (free : k.conditions.Unfailing)
    (ends : UpdateEnds cloudDomain k c (.error error) b) : b.unrecorded = k := by
  cases ends with
  | refused stopped => exact stopped.elim free
  | rejected _ left => exact left
  | unkeyed _ _ _ left => exact left
  | @unsaved _ ch _ _ _ _ stopped =>
      exact stopped.elim ((ch.conditions_announced c k).symm ▸ free)
  | @undropped _ ch _ _ _ _ stopped =>
      exact stopped.elim ((ch.conditions_saved c k).symm ▸ free)

/-- A removal is rejected for no reason at all: it can only be refused. -/
theorem RemoveEnds.left_of_error {id : String} {kind : ServerKind} {error : ConnectionError}
    (free : k.conditions.Unfailing) (ends : RemoveEnds k id kind (.error error) b) :
    b.unrecorded = k := by
  cases ends with
  | refused stopped => exact stopped.elim free
  | unsaved _ _ stopped => exact stopped.elim free

/-- **An edit that fails leaves the host as it was**, where nothing is refused. -/
theorem Edit.Ends.left_of_error {error : ConnectionError} (free : k.conditions.Unfailing)
    (ends : e.Ends cloudDomain k (.error error) b) : b.unrecorded = k := by
  generalize failed : Except.error error = res at ends
  cases ends with
  | refused stopped => exact stopped.elim free
  | added _ _ ends => exact (Act.error_of_map_eq_error failed.symm ▸ ends).left_of_error free
  | changed _ _ ends => exact (Act.error_of_map_eq_error failed.symm ▸ ends).left_of_error free
  | removed _ ends => exact (Act.error_of_map_eq_error failed.symm ▸ ends).left_of_error free

end Ends

end ServerConnections
