import ServerConnections.Proofs.Registry.Ownership
import ServerConnections.Proofs.Tokens.Document

/-!
# Copies of a token

A document that was not migrated yet may carry the only copy of a token.  A migration stores
such a token before it takes it out of the document.  A change does not: it writes its
connection without a token, and what it carries over is the secret under the old key, if there
is one.

So a token that is carried by the connection itself, and is not in the secret store, is given
up by a change that comes without a token.  It is still there afterwards only if there was
another copy of it: on another connection of the document, or under some key of the store.

* `Bench.HasCopy` — a token is in the document or in the secret store
* `Registry.hasCopy_iff_of_update` — which tokens are still there after a change
* `Registry.not_hasCopy_of_update` — a token that is lost
-/

namespace ServerConnections

open Bench

/-- **There is a copy of a token** on a host, in the document or in the secret store. -/
def Bench.HasCopy (b : Bench MemorySettings) (token : String) : Prop :=
  token ∈ b.document.tokens ∨ ∃ key, b.secrets.get? key = some token

instance (b : Bench MemorySettings) (token : String) : Decidable (b.HasCopy token) :=
  decidable_of_iff
    (token ∈ b.document.tokens ∨ ∃ key ∈ b.secrets.keys, b.secrets.get? key = some token) <| by
    refine or_congr_right (exists_congr fun key => and_iff_right_of_imp fun held => ?_)
    exact Keyed.mem_keys_iff.2 (by rw [held]; rfl)

/-! ## The document -/

/-- To write a connection without a token is to give its token up. -/
theorem Connection.tokens_set {c : Connection} (cs : List Connection) (i : Nat)
    (bare : c.token = none) : tokens (cs.set i c) = tokens (cs.eraseIdx i) := by
  induction cs generalizing i with
  | nil => rfl
  | cons d cs ih =>
      cases i with
      | zero => simp [tokens, bare]
      | succ i =>
          show tokens ([d] ++ cs.set i c) = tokens ([d] ++ cs.eraseIdx i)
          rw [tokens_append, tokens_append, ih i]

theorem Settings.Allows.tokens_applied {s : Settings} {c : Connection} {ch : Change}
    (allows : s.Allows c ch) : (ch.applied s).tokens = (s.without ch.index).tokens := by
  rw [Change.applied, Settings.without, Settings.tokens_withServers,
    Settings.tokens_withServers, Connection.tokens_set s.servers ch.index allows.token]

/-! ## The secret store -/

/-- A change that has no token to store, and no secret to carry over, leaves every secret as
it is. -/
theorem Change.get?_finished {c : Connection} {ch : Change} {s : Settings} {t : SecretTable}
    (blank : nonEmpty? c.token = none) (missing : t.tokenOf ch.existing = none)
    (key : String) :
    (s.dropped ch.existing.storageKey (ch.stored c t)).get? key = t.get? key := by
  have nothing : ch.token c t = none := by
    rw [token, blank, missing]
    exact ite_self none
  have stored : (ch.stored c t).get? key = t.get? key := by
    rw [Change.stored, SecretTable.get?_storing, nothing]
    exact ite_self (t.get? key)
  rw [Settings.get?_dropped, stored]
  by_cases gone : ch.existing.storageKey = some key ∧ s.usesKey key = false
  · rw [if_pos gone]
    rw [SecretTable.tokenOf, gone.1] at missing
    exact missing.symm
  · rw [if_neg gone]

/-! ## Changes -/

namespace Registry

variable {cloudDomain : String} {b b' : Bench MemorySettings} {c existing kept : Connection}
  {i : Nat}

/-- **Which tokens are still there after a change** that came without one, of a connection
whose secret is missing: those of the other connections, and the secrets. -/
theorem hasCopy_iff_of_update
    (answered : ((inMemory cloudDomain).update c).outcome b = (.ok kept, b'))
    (blank : nonEmpty? c.token = none) (target : b.document.target? c = some (i, existing))
    (missing : b.secrets.tokenOf existing = none) (token : String) :
    b'.HasCopy token ↔
      token ∈ (b.document.without i).tokens ∨ ∃ key, b.secrets.get? key = some token := by
  have ends := (update_ends b c).of_outcome answered
  cases ends with
  | @done n ch _ plan _ left =>
      have allows : b.document.Allows c ch := Settings.allows_of_change plan
      obtain ⟨rfl, rfl⟩ : i = ch.index ∧ existing = ch.existing := by
        simpa using target.symm.trans allows.target?
      have document : b'.document = ch.applied b.document := document_of_unrecorded left
      have secrets : b'.secrets = (ch.applied b.document).dropped ch.existing.storageKey
        (ch.stored c b.secrets) := secrets_of_unrecorded left
      have same : ∀ key, b'.secrets.get? key = b.secrets.get? key := by
        intro key
        rw [secrets]
        exact Change.get?_finished blank missing key
      simp only [HasCopy, document, allows.tokens_applied, same]

/-- A former connection carries the same token. -/
theorem hasCopy_iff_of_update_former_copy :
    let entry : Connection :=
      ⟨some "sq", some "https://old.example", none, some false, false, some "t"⟩
    let former : Connection := ⟨some "former", none, none, none, false, some "t"⟩
    let b : Bench MemorySettings := .fresh (.of ⟨⟨[former], [], [entry]⟩, [], []⟩) []
      (.calm fun _ => false) .present
    let c : Connection :=
      ⟨some "sq", some "https://new.example", none, some false, false, none⟩
    let kept : Connection :=
      { entry with serverUrl := some "https://new.example", token := none }
    ∃ b', ((inMemory "codescan.io").update c).outcome b = (.ok kept, b') ∧
      nonEmpty? c.token = none ∧ b.document.target? c = some (0, entry) ∧
        b.secrets.tokenOf entry = none ∧
          (b'.HasCopy "t" ↔
            "t" ∈ (b.document.without 0).tokens ∨ ∃ key, b.secrets.get? key = some "t") := by
  intro entry former b c kept
  have answered : ((inMemory "codescan.io").update c).outcome b =
      (.ok kept, (((inMemory "codescan.io").update c).outcome b).2) := rfl
  exact ⟨_, answered, rfl, rfl, rfl, hasCopy_iff_of_update answered rfl rfl rfl "t"⟩

/-- A connection goes to another address.  It carries a token that is nowhere else, and the
token does not follow it. -/
theorem not_hasCopy_of_update :
    let entry : Connection :=
      ⟨some "sq", some "https://old.example", none, some false, false, some "t"⟩
    let b : Bench MemorySettings := .fresh (.of ⟨⟨[], [], [entry]⟩, [], []⟩) []
      (.calm fun _ => false) .present
    let c : Connection :=
      ⟨some "sq", some "https://new.example", none, some false, false, none⟩
    let after := ((inMemory "codescan.io").update c).outcome b
    after.1 = .ok { entry with serverUrl := some "https://new.example", token := none } ∧
      entry ∈ b.document.servers ∧ b.secrets.tokenOf entry = none ∧ b.HasCopy "t" ∧
        ¬ after.2.HasCopy "t" := by
  decide +kernel

end Registry

end ServerConnections
