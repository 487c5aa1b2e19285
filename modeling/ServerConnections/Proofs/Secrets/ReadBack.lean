import ServerConnections.Secrets.Keychain
import ServerConnections.Proofs.Action

/-!
# Secrets that were stored are there

Some keyrings take a secret and drop it, keep another one, or put it elsewhere.  A keychain
does not rely on them.  Whatever it has stored it reads back, from the entry in which it would
look for it later, and it answers only if it has found what it was given.

So nothing has to be known of what a keyring does with a secret that is set.  What has to be
known is that looking changes nothing: otherwise what was read back would say nothing about
what is read next.

Storing a secret takes three calls: the entry is opened, the secret is set, and it is read.
The first call that fails is the last one, and its fault is the answer.  An entry that is not
there when the secret is read back is such a fault, although it is none when a secret is asked
for.

* `Keyring.Passive` — looking changes nothing
* `Keychain.ReadsBack`, `Keychain.Fails` — what the three calls come to
* `Keychain.Verifies` — what is answered, and what is read afterwards
* `Keychain.store_verifies` — on every keyring
-/

namespace ServerConnections

variable {σ : Type}

/-- **Looking changes nothing.**  An entry that was opened once can be opened whenever one
likes, and neither opening an entry nor reading it touches the keyring.  What becomes of a
secret that is set is left open, and so is which calls fail. -/
structure Keyring.Passive (ring : Keyring σ) : Prop where
  opening : ∀ {service account : String} {s s' : σ},
    ring.openEntry service account s = .ok () s' →
    ∀ t, ring.openEntry service account t = .ok () t
  reading : ∀ {service account secret : String} {s s' : σ},
    ring.getSecret service account s = .ok secret s' → s' = s

namespace KeyringTable

/-- The keyring in memory is one of them. -/
theorem passive_ring : KeyringTable.ring.Passive where
  opening _ _ := rfl
  reading {service account _ t _} read := by
    simp only [ring] at read
    cases there : t.get? service account <;> rw [there] at read <;> cases read
    rfl

/-- A keyring that accepts every secret and keeps none. -/
def forgetful : Keyring KeyringTable := { ring with setSecret := fun _ _ _ => pure () }

theorem passive_forgetful : forgetful.Passive where
  opening _ _ := rfl
  reading := passive_ring.reading

end KeyringTable

namespace Keychain

/-! ## The calls of storing a secret -/

section Calls

variable (chain : Keychain) (ring : Keyring σ) (key secret : String)

/-- **The secret of a key is set and `found` is read back.** -/
inductive ReadsBack (s : σ) (found : String) (s' : σ) : Prop
  | intro {s₁ s₂ : σ} (opened : chain.openKey ring key s = .ok () s₁)
      (set : ring.setSecret chain.service (chain.account key) secret s₁ = .ok () s₂)
      (read : ring.getSecret chain.service (chain.account key) s₂ = .ok found s')

/-- **One of the three calls fails**, after those before it were answered. -/
inductive Fails (s : σ) (fault : KeyringFault) (s' : σ) : Prop
  | opening (unopened : chain.openKey ring key s = .error fault s')
  | setting {s₁ : σ} (opened : chain.openKey ring key s = .ok () s₁)
      (unset : ring.setSecret chain.service (chain.account key) secret s₁ = .error fault s')
  | reading {s₁ s₂ : σ} (opened : chain.openKey ring key s = .ok () s₁)
      (set : ring.setSecret chain.service (chain.account key) secret s₁ = .ok () s₂)
      (unread : ring.getSecret chain.service (chain.account key) s₂ = .error fault s')

/-- The three calls in sequence. -/
def attempt : Act σ KeyringFault String := do
  chain.openKey ring key
  ring.setSecret chain.service (chain.account key) secret
  ring.getSecret chain.service (chain.account key)

variable {chain ring key secret} {s s' : σ} {found : String} {fault : KeyringFault}

theorem attempt_eq_ok_iff :
    chain.attempt ring key secret s = .ok found s' ↔
      chain.ReadsBack ring key secret s found s' := by
  simp only [attempt, Act.bind_eq_ok_iff]
  constructor
  · rintro ⟨_, _, opened, _, _, set, read⟩
    exact .intro opened set read
  · rintro ⟨opened, set, read⟩
    exact ⟨_, _, opened, _, _, set, read⟩

theorem attempt_eq_error_iff :
    chain.attempt ring key secret s = .error fault s' ↔
      chain.Fails ring key secret s fault s' := by
  simp only [attempt, Act.bind_eq_error_iff]
  constructor
  · rintro (unopened | ⟨_, _, opened, unset | ⟨_, _, set, unread⟩⟩)
    · exact .opening unopened
    · exact .setting opened unset
    · exact .reading opened set unread
  · rintro (unopened | ⟨opened, unset⟩ | ⟨opened, set, unread⟩)
    · exact .inl unopened
    · exact .inr ⟨_, _, opened, .inl unset⟩
    · exact .inr ⟨_, _, opened, .inr ⟨_, _, set, unread⟩⟩

/-- What is answered is up to what is read back. -/
theorem storeSecret_eq :
    chain.storeSecret ring key secret = (do
      let found ← (chain.attempt ring key secret).mapError .keyring
      if found = secret then pure () else throw (.unverified key)) := rfl

end Calls

/-! ## What is answered, and what is there afterwards -/

/-- **What comes of storing a secret**, whatever was in the keyring before. -/
structure Verifies (chain : Keychain) (ring : Keyring σ) (key secret : String) : Prop where
  /-- A secret that was stored is the one that is read next. -/
  kept : ∀ s s', (chain.store ring).store key secret s = .ok () s' →
    (chain.store ring).get key s' = .ok (some secret) s'
  ok_iff : ∀ s s', (chain.store ring).store key secret s = .ok () s' ↔
    chain.ReadsBack ring key secret s secret s'
  keyring_iff : ∀ s s' fault,
    (chain.store ring).store key secret s = .error (.keyring fault) s' ↔
    chain.Fails ring key secret s fault s'
  unverified_iff : ∀ s s' name,
    (chain.store ring).store key secret s = .error (.unverified name) s' ↔
      name = key ∧ ∃ found, found ≠ secret ∧ chain.ReadsBack ring key secret s found s'
  run : ∀ s s' reason, (chain.store ring).store key secret s ≠ .error (.notRun reason) s'

variable {chain : Keychain} {ring : Keyring σ} {key secret found : String} {s s' : σ}

theorem storeSecret_eq_ok_iff :
    chain.storeSecret ring key secret s = .ok () s' ↔
      chain.ReadsBack ring key secret s secret s' := by
  rw [storeSecret_eq, Act.bind_eq_ok_iff]
  simp only [Act.mapError_eq_ok_iff, attempt_eq_ok_iff]
  constructor
  · rintro ⟨found, s₁, reads, answered⟩
    split at answered
    case isTrue same =>
      cases answered
      exact same ▸ reads
    case isFalse => cases answered
  · intro reads
    exact ⟨secret, s', reads, by rw [if_pos rfl]; rfl⟩

theorem storeSecret_eq_error_iff {e : SecretFault} :
    chain.storeSecret ring key secret s = .error e s' ↔
      (∃ fault, chain.Fails ring key secret s fault s' ∧ .keyring fault = e) ∨
      ∃ found, chain.ReadsBack ring key secret s found s' ∧
        found ≠ secret ∧ .unverified key = e := by
  rw [storeSecret_eq, Act.bind_eq_error_iff]
  simp only [Act.mapError_eq_error_iff, Act.mapError_eq_ok_iff, attempt_eq_ok_iff,
    attempt_eq_error_iff]
  refine or_congr_right (exists_congr fun found => ?_)
  constructor
  · rintro ⟨s₁, reads, failed⟩
    split at failed
    case isTrue => cases failed
    case isFalse other =>
      cases failed
      exact ⟨reads, other, rfl⟩
  · rintro ⟨reads, other, rfl⟩
    exact ⟨s', reads, by rw [if_neg other]; rfl⟩

/-- What was read back is read again. -/
theorem secretOf_of_readsBack (passive : ring.Passive)
    (reads : chain.ReadsBack ring key secret s found s') :
    chain.secretOf ring key s' = .ok (some found) s' := by
  obtain ⟨opened, -, read⟩ := reads
  -- Reading a secret leaves what setting it has left, and the entry can be opened there, too.
  obtain rfl := passive.reading read
  rw [secretOf, Act.bind_eq_ok_iff]
  refine ⟨(), s', Act.mapError_eq_ok_iff.2 (passive.opening opened s'), ?_⟩
  rw [ifThere, read]

/-- **A secret that was stored is there**, on every keyring that looking does not change.
Where storing it fails, the answer is the fault of the call that has failed; and the secret
counts as unverified exactly if another one was read back. -/
theorem store_verifies (passive : ring.Passive) (chain : Keychain) (key secret : String) :
    chain.Verifies ring key secret where
  kept _ _ stored := secretOf_of_readsBack passive (storeSecret_eq_ok_iff.1 stored)
  ok_iff _ _ := storeSecret_eq_ok_iff
  keyring_iff s s' fault := by
    refine storeSecret_eq_error_iff.trans ?_
    simp
  unverified_iff s s' name := by
    refine storeSecret_eq_error_iff.trans ?_
    constructor
    · rintro (⟨_, -, ⟨⟩⟩ | ⟨found, reads, other, ⟨⟩⟩)
      exact ⟨rfl, found, other, reads⟩
    · rintro ⟨rfl, found, other, reads⟩
      exact .inr ⟨found, reads, other, rfl⟩
  run s s' reason failed := by
    simpa using storeSecret_eq_error_iff.1 failed

/-- A secret that replaces an older one, on a keyring that keeps it and on one that does
not. -/
theorem store_verifies_replaced :
    KeyringTable.ring.Passive ∧ KeyringTable.forgetful.Passive ∧
      ((mk "connections" "user").store KeyringTable.ring).get "org"
          [(("connections", "user@org"), "new")] =
        .ok (some "new") [(("connections", "user@org"), "new")] ∧
      ((mk "connections" "user").store KeyringTable.forgetful).store "org" "new"
          [(("connections", "user@org"), "old")] =
        .error (.unverified "org") [(("connections", "user@org"), "old")] := by
  refine ⟨KeyringTable.passive_ring, KeyringTable.passive_forgetful, ?_, ?_⟩
  · refine (store_verifies KeyringTable.passive_ring _ _ _).kept
      [(("connections", "user@org"), "old")] _ ?_
    rfl
  · refine ((store_verifies KeyringTable.passive_forgetful _ _ _).unverified_iff _ _ _).2 ?_
    exact ⟨rfl, "old", by decide, .intro rfl rfl rfl⟩

end Keychain

end ServerConnections
