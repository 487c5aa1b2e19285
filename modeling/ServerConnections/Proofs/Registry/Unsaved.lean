import ServerConnections.Proofs.Registry.ReadBack

/-!
# Changes that were not saved

A change stores its token under the new key, then saves the document, and drops the old key at
the end.  As long as it has not come to that, the document is the old one, and there is a
secret under each key that had one.  Only the secret of the new key may be another one.  So
nothing is taken from the connections that the document still has, not even from the one that
was to change, unless they have this key already.

The new key is known before the change is carried out: it is decided on once the document is
loaded, and the classifier is asked after one call.

* `Settings.newKey?` — the key of a connection after a change
* `Bench.Unharmed` — only the secret of one key may be another one, and none is gone
* `Registry.unharmed_of_update_error` — what is left where a change could not be saved
-/

namespace ServerConnections

open Bench

/-- The key that a connection has after a change, unless the change is rejected. -/
def Settings.newKey? (s : Settings) (isCloud : String → Bool) (c : Connection) :
    Option String :=
  match s.change isCloud c with
  | .error _ => none
  | .ok ch => ch.changed.storageKey

/-- **No harm is done**: the document is the same, no secret is gone, and only that of one key
may be another one. -/
structure Bench.Unharmed (key : Option String) (b b' : Bench MemorySettings) : Prop where
  medium : b'.medium = b.medium
  held : ∀ k, (b.secrets.get? k).isSome → (b'.secrets.get? k).isSome
  others : ∀ k, key ≠ some k → b'.secrets.get? k = b.secrets.get? k

namespace Bench.Unharmed

variable {key : Option String} {b b' : Bench MemorySettings}

theorem of_unrecorded (left : b'.unrecorded = b) : b.Unharmed key b' where
  medium := medium_of_unrecorded left
  held k there := by rwa [secrets_of_unrecorded left]
  others k _ := by rw [secrets_of_unrecorded left]

/-- To store a token does no harm. -/
theorem of_storing {token : Option String} (medium : b'.medium = b.medium)
    (secrets : b'.secrets = b.secrets.storing key token) : b.Unharmed key b' where
  medium := medium
  held k there := by
    rw [secrets, SecretTable.get?_storing]
    split
    · simp [there]
    · exact there
  others k other := by rw [secrets, SecretTable.get?_storing, if_neg other]

/-- Connections with other keys keep their tokens. -/
theorem tokenOf_eq (unharmed : b.Unharmed key b') {c : Connection}
    (other : c.storageKey ≠ key) :
    b'.secrets.tokenOf c = b.secrets.tokenOf c := by
  rw [SecretTable.tokenOf, SecretTable.tokenOf]
  refine Option.bind_congr fun k keyed => unharmed.others k ?_
  intro same
  exact other (keyed.trans same.symm)

/-- **Connections with other keys are loaded with the same tokens.** -/
theorem find {cloudDomain : String} (unharmed : b.Unharmed key b') {kind : ServerKind}
    {id : String} {x : Connection} {b₁ : Bench MemorySettings} (other : x.storageKey ≠ key)
    (before : ((inMemory cloudDomain).find kind id).outcome b.undisturbed =
      (.ok (some x), b₁)) :
    ∃ b₂, ((inMemory cloudDomain).find kind id).outcome b'.undisturbed =
      (.ok (some x), b₂) := by
  have found := ((@Registry.does_find cloudDomain b.undisturbed kind id).of_outcome before).1
  obtain ⟨b₂, outcome, -⟩ := ((@Registry.does_find cloudDomain b'.undisturbed kind id).answers
    (unfailing_undisturbed b')).outcome
  have document : b'.undisturbed.document = b.undisturbed.document :=
    congrArg MemorySettings.document unharmed.medium
  obtain ⟨c, there, rfl⟩ := Option.map_eq_some_iff.1 found.symm
  have token : b'.undisturbed.secrets.tokenOf c = b.undisturbed.secrets.tokenOf c :=
    unharmed.tokenOf_eq (c := c) other
  refine ⟨b₂, ?_⟩
  rw [outcome, document, there, Option.map_some, token]

end Bench.Unharmed

/-- Until the old key is dropped, no harm is done. -/
theorem Change.Ends.unharmed {ch : Change} {c : Connection} {k b : Bench MemorySettings}
    {e : ConnectionError} (ends : ch.Ends c k (.error e) b)
    (undeleted : ∀ key, b.calls.getLast? ≠ some (.delete key)) :
    k.Unharmed ch.changed.storageKey b := by
  generalize failed : Except.error e = res at ends
  cases ends with
  | refused stopped => exact .of_unrecorded stopped.left
  | unkeyed _ _ left => exact .of_unrecorded left
  | unsaved _ stopped =>
      have secrets : b.secrets = k.secrets.storing ch.changed.storageKey
          (ch.token c k.secrets) :=
        (secrets_of_unrecorded stopped.left).trans (secrets_told _ _)
      exact .of_storing ((medium_of_unrecorded stopped.left).trans (medium_told _ _)) secrets
  | undropped _ _ kept =>
      obtain ⟨key, -, -, last⟩ := kept
      exact (undeleted key last.asked).elim
  | done => cases failed

namespace Registry

variable {cloudDomain : String} {b b' : Bench MemorySettings} {c : Connection}
  {e : ConnectionError}

/-- **What is left where a change fails before its old key is dropped**: the document, every
secret, and the tokens of all connections that do not have the new key. -/
theorem unharmed_of_update_error
    (failed : ((inMemory cloudDomain).update c).outcome b = (.error e, b'))
    (undeleted : ∀ key, b'.calls.getLast? ≠ some (.delete key)) :
    let key := b.document.newKey? (b.conditions.verdict cloudDomain (b.time + 1)) c
    b.Unharmed key b' ∧
      (∀ x ∈ b.document.connections.all, x.storageKey ≠ key →
        b'.secrets.tokenOf x = b.secrets.tokenOf x) ∧
      ∀ kind id x b₁, x.storageKey ≠ key →
        ((inMemory cloudDomain).find kind id).outcome b.undisturbed = (.ok (some x), b₁) →
          ∃ b₂, ((inMemory cloudDomain).find kind id).outcome b'.undisturbed =
            (.ok (some x), b₂) := by
  intro key
  suffices unharmed : b.unrecorded.Unharmed key b' by
    replace unharmed : b.Unharmed key b' := ⟨unharmed.medium, unharmed.held, unharmed.others⟩
    exact ⟨unharmed, fun x _ other => unharmed.tokenOf_eq other,
      fun kind id x b₁ other before => unharmed.find other before⟩
  rcases (update_ends_of_plan b c).of_outcome failed with ⟨_, -, stopped⟩ | ends
  · exact .of_unrecorded stopped.left
  cases plan : b.document.change (b.conditions.verdict cloudDomain (b.time + 1)) c with
  | error _ =>
      rw [plan] at ends
      exact .of_unrecorded ends.2
  | ok ch =>
      rw [plan] at ends
      have new : key = ch.changed.storageKey := by
        simp only [key, Settings.newKey?, plan]
      rw [new]
      exact ends.unharmed undeleted

/-- A connection was to go to another organization, and the document cannot be saved.  The
token is under both keys then, and the connection is loaded with it as before. -/
theorem unharmed_of_update_unsaved :
    let entry : Connection :=
      ⟨some "org", some "https://app.codescan.io", some "org1", some true, false, none⟩
    let b : Bench MemorySettings := .fresh (.of ⟨⟨[], [], [entry]⟩, [], []⟩) [("org1", "t")]
      { Conditions.calm fun _ => false with refusesSave := fun _ => some "full" } .nobody
    let c : Connection := ⟨some "org", none, some "org2", none, false, none⟩
    let loaded : Connection := { entry with token := some "t" }
    ∃ b', ((inMemory "codescan.io").update c).outcome b =
        (.error (.settings (.file (.refused "full"))), b') ∧
      (∀ key, b'.calls.getLast? ≠ some (.delete key)) ∧
        b.document.newKey? (b.conditions.verdict "codescan.io" (b.time + 1)) c = some "org2" ∧
          b'.secrets = [("org1", "t"), ("org2", "t")] ∧ b.Unharmed (some "org2") b' ∧
            ∃ b₂, ((inMemory "codescan.io").find .cloud "org").outcome b'.undisturbed =
              (.ok (some loaded), b₂) := by
  intro entry b c loaded
  have failed : ((inMemory "codescan.io").update c).outcome b =
      (.error (.settings (.file (.refused "full"))),
        (((inMemory "codescan.io").update c).outcome b).2) := rfl
  have undeleted : ∀ key, (((inMemory "codescan.io").update c).outcome b).2.calls.getLast? ≠
      some (.delete key) := by
    intro key
    show some Call.save ≠ some (.delete key)
    nofun
  have new : b.document.newKey? (b.conditions.verdict "codescan.io" (b.time + 1)) c =
      some "org2" := rfl
  obtain ⟨unharmed, -, loads⟩ := unharmed_of_update_error failed undeleted
  rw [new] at unharmed loads
  have before : ((inMemory "codescan.io").find .cloud "org").outcome b.undisturbed =
      (.ok (some loaded),
        (((inMemory "codescan.io").find .cloud "org").outcome b.undisturbed).2) :=
    rfl
  exact ⟨_, failed, undeleted, new, rfl, unharmed,
    loads .cloud "org" loaded _ (by decide) before⟩

end Registry

end ServerConnections
