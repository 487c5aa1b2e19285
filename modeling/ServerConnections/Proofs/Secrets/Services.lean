import Mathlib.Logic.Function.Basic
import ServerConnections.Proofs.Matching
import ServerConnections.Proofs.Secrets.ReadBack

/-!
# Services of a keyring are stores of their own

A keyring has one map for the secrets of all services and accounts.  A keychain sees the part
of it that is under its service, by the names of the accounts: the account of a key is the key
behind the name of the user.  A key may contain the separator, too.  Since the user is the same
for all keys, the account still says whose it is, so each entry belongs to one service and at
most one key.

A call on a store is about a single key.  What it answers and what is under the key afterwards
is a function of what is under the key before, and this function is the same for the store in
memory and for a keychain whose keyring is faithful.  So a call on a keychain does to the part
under its service what it would do to a store in memory, and nothing to any other part; and by
induction a run of calls on many keychains is, for each service, the run of the calls under it
on a store of its own.

* `SecretCall.reply`, `SecretCall.leaves` — what a call does to the secret under its key
* `Keyring.Faithful` — a keyring that is a map
* `Keychain.Pictured` — the part of a keyring under a service, as a store in memory
* `Keychain.ActsAsMemory`, `Keychain.acts_as_memory` — all runs of calls
-/

namespace ServerConnections

variable {σ : Type}

/-! ## Calls on a store -/

/-- What can be asked of a secret store. -/
inductive SecretCall where
  | get (key : String)
  | store (key secret : String)
  | delete (key : String)
deriving DecidableEq, Repr

/-- What a secret store answers. -/
inductive SecretReply where
  | found (secret : Option String)
  | done
deriving DecidableEq, Repr

/-- Does what is asked. -/
def SecretStore.serve (secrets : SecretStore σ) : SecretCall → Act σ SecretFault SecretReply
  | .get key => .found <$> secrets.get key
  | .store key secret => (fun _ => .done) <$> secrets.store key secret
  | .delete key => (fun _ => .done) <$> secrets.delete key

namespace SecretCall

/-- The key that a call is about. -/
def key : SecretCall → String
  | get key | store key _ | delete key => key

/-- What is answered, by what is under the key. -/
def reply : SecretCall → Option String → SecretReply
  | get _, secret => .found secret
  | store _ _, _ | delete _, _ => .done

/-- What is under the key then, by what was there before. -/
def leaves : SecretCall → Option String → Option String
  | get _, secret => secret
  | store _ secret, _ => some secret
  | delete _, _ => none

end SecretCall

namespace SecretTable

/-- The secrets by key, as a function. -/
def view (t : SecretTable) : String → Option String := fun key => t.get? key

theorem view_put (key secret : String) (t : SecretTable) :
    view (t.put key secret) = Function.update t.view key (some secret) := by
  funext key'
  rw [Function.update_apply]
  exact Keyed.get?_put key key' secret t

theorem view_remove (key : String) (t : SecretTable) :
    view (t.remove key) = Function.update t.view key none := by
  funext key'
  rw [Function.update_apply]
  exact Keyed.get?_remove key key' t

/-- The store in memory serves a call by the secret under its key. -/
theorem yields_serve (call : SecretCall) (t : SecretTable) :
    (store.serve call).Yields t fun reply t' => reply = call.reply (t.view call.key) ∧
      t'.view = Function.update t.view call.key (call.leaves (t.view call.key)) := by
  cases call with
  | get key => exact ⟨_, rfl, rfl, (Function.update_eq_self key _).symm⟩
  | store key secret => exact ⟨_, rfl, rfl, t.view_put key secret⟩
  | delete key => exact ⟨_, rfl, rfl, t.view_remove key⟩

end SecretTable

/-! ## Keyrings that are maps -/

namespace KeyringTable

variable {service account secret : String}

/-- The secrets by service and account, as a function. -/
def view (t : KeyringTable) : String × String → Option String := fun entry => t.lookup entry

theorem view_cons (entry : String × String) (secret : String) (t : KeyringTable) :
    view ((entry, secret) :: t) = Function.update t.view entry (some secret) := by
  funext entry'
  rw [Function.update_apply, view, List.lookup_cons]
  by_cases same : entry' = entry
  · simp [same]
  · simp [same, beq_eq_false_iff_ne.2 same, view]

theorem view_put (t : KeyringTable) :
    (t.put service account secret).view =
      Function.update t.view (service, account) (some secret) := by
  induction t with
  | nil => exact view_cons _ _ _
  | cons p rest ih =>
      obtain ⟨entry, old⟩ := p
      rw [put]
      split
      case isTrue same => rw [same, view_cons, view_cons, Function.update_idem]
      case isFalse other => rw [view_cons, view_cons, ih, Function.update_comm other]

theorem view_remove (t : KeyringTable) :
    (t.remove service account).view = Function.update t.view (service, account) none := by
  induction t with
  | nil => exact (Function.update_eq_self_iff.2 rfl).symm
  | cons p rest ih =>
      obtain ⟨entry, old⟩ := p
      by_cases same : entry = (service, account)
      · rw [view_cons, same, Function.update_idem, ← ih]
        simp [remove]
      · rw [view_cons, Function.update_comm same, ← ih, ← view_cons]
        simp [remove, same]

end KeyringTable

/-- **A keyring that is a map** of its entries, of which there are finitely many: what is set
is there, what is deleted is gone, nothing else changes, and nothing fails but a call on an
entry that is not there. -/
structure Keyring.Faithful (ring : Keyring σ) (entries : σ → KeyringTable) : Prop where
  opening : ∀ service account s, (ring.openEntry service account).Yields s fun _ s' =>
    (entries s').view = (entries s).view
  setting : ∀ service account secret s, (ring.setSecret service account secret).Yields s
    fun _ s' => (entries s').view =
      Function.update (entries s).view (service, account) (some secret)
  reading : ∀ service account s, (ring.getSecret service account).Ensures s fun res s' =>
    res = ((entries s).view (service, account)).elim (.error .noEntry) .ok ∧
      (entries s').view = (entries s).view
  deleting : ∀ service account s, (ring.deleteSecret service account).Ensures s fun res s' =>
    res = ((entries s).view (service, account)).elim (.error .noEntry) (fun _ => .ok ()) ∧
      (entries s').view = Function.update (entries s).view (service, account) none

/-- The keyring in memory is one of them. -/
theorem KeyringTable.faithful_ring : KeyringTable.ring.Faithful id where
  opening _ _ _ := ⟨(), rfl, rfl⟩
  setting _ _ _ t := ⟨(), rfl, t.view_put⟩
  reading service account t := by
    cases there : t.lookup (service, account) <;>
      simp [Act.Ensures, Act.outcome, ring, get?, view, there]
  deleting service account t := by
    cases there : t.lookup (service, account) with
    | none =>
        have unchanged : Function.update t.view (service, account) none = t.view :=
          Function.update_eq_self_iff.2 there.symm
        simp [Act.Ensures, Act.outcome, ring, get?, view, there, unchanged]
    | some secret =>
        simp [Act.Ensures, Act.outcome, ring, get?, view, there, view_remove]

namespace Keychain

variable {ring : Keyring σ} {entries : σ → KeyringTable}

/-! ## One call on a keychain -/

/-- The entry of a key. -/
def entry (chain : Keychain) (key : String) :
    String × String := (chain.service, chain.account key)

/-- Different keys have different entries. -/
theorem entry_injective (chain : Keychain) : Function.Injective chain.entry := by
  intro key key' same
  have accounts : chain.user ++ "@" ++ key = chain.user ++ "@" ++ key' :=
    congrArg Prod.snd same
  exact (String.append_right_inj _).1 accounts

theorem ensures_ifThere {α : Type} {x : Act σ KeyringFault α} {s : σ}
    {Q : Except SecretFault (Option α) → σ → Prop} :
    (ifThere x).Ensures s Q ↔ x.Ensures s fun res s' => Q (match res with
      | .ok a => .ok (some a)
      | .error .noEntry => .ok none
      | .error fault => .error (.keyring fault)) s' := by
  unfold Act.Ensures Act.outcome ifThere
  cases x s with
  | ok a s' => exact Iff.rfl
  | error fault s' => cases fault <;> exact Iff.rfl

section Faithful

variable (faithful : ring.Faithful entries) (chain : Keychain) (key secret : String) (s : σ)

include faithful

/-- To open an entry changes none. -/
theorem yields_openKey :
    ((chain.openKey ring key).mapError SecretFault.keyring).Yields s fun _ s' =>
      (entries s').view = (entries s).view :=
  (faithful.opening chain.service (chain.account key) s).mapError _

/-- What is read is what is in the entry of the key. -/
theorem yields_secretOf :
    (chain.secretOf ring key).Yields s fun found s' =>
      found = (entries s).view (chain.entry key) ∧ (entries s').view = (entries s).view := by
  refine (yields_openKey faithful chain key s).bind fun _ s₁ opened => ensures_ifThere.2 ?_
  refine (faithful.reading chain.service (chain.account key) s₁).mono ?_
  rintro _ s' ⟨rfl, same⟩
  refine ⟨_, ?_, rfl, same.trans opened⟩
  rw [← opened, entry]
  cases (entries s₁).view (chain.service, chain.account key) <;> rfl

/-- To delete a secret clears the entry of its key, and no other. -/
theorem yields_deleteSecret :
    (chain.deleteSecret ring key).Yields s fun _ s' =>
      (entries s').view = Function.update (entries s).view (chain.entry key) none := by
  refine (yields_openKey faithful chain key s).bind fun _ s₁ opened => ?_
  refine Act.Yields.bind (P := fun _ s' => (entries s').view =
    Function.update (entries s).view (chain.entry key) none) (ensures_ifThere.2 ?_)
    fun _ s' deleted => ⟨(), rfl, deleted⟩
  refine (faithful.deleting chain.service (chain.account key) s₁).mono ?_
  rintro _ s' ⟨rfl, deleted⟩
  rw [opened] at deleted ⊢
  cases (entries s).view (chain.service, chain.account key)
  · exact ⟨none, rfl, deleted⟩
  · exact ⟨some (), rfl, deleted⟩

/-- What was set is what is read back. -/
theorem yields_attempt :
    (chain.attempt ring key secret).Yields s fun found s' => found = secret ∧
      (entries s').view = Function.update (entries s).view (chain.entry key)
        (some secret) := by
  refine (faithful.opening chain.service (chain.account key) s).bind fun _ s₁ opened => ?_
  refine (faithful.setting chain.service (chain.account key) secret s₁).bind fun _ s₂ set => ?_
  refine (faithful.reading chain.service (chain.account key) s₂).mono ?_
  rintro _ s' ⟨rfl, same⟩
  rw [set, Function.update_self]
  exact ⟨secret, rfl, rfl, by rw [same, set, opened, entry]⟩

/-- To store a secret fills the entry of its key, and no other. -/
theorem yields_storeSecret :
    (chain.storeSecret ring key secret).Yields s fun _ s' =>
      (entries s').view = Function.update (entries s).view (chain.entry key)
        (some secret) := by
  rw [storeSecret_eq]
  refine ((yields_attempt faithful chain key secret s).mapError _).bind ?_
  intro found s' ⟨same, set⟩
  rw [if_pos same]
  exact ⟨(), rfl, set⟩

/-- **A keychain serves a call** by the secret under its key, and touches no other entry. -/
theorem yields_serve (call : SecretCall) :
    ((chain.store ring).serve call).Yields s fun reply s' =>
      reply = call.reply ((entries s).view (chain.entry call.key)) ∧
      (entries s').view = Function.update (entries s).view (chain.entry call.key)
        (call.leaves ((entries s).view (chain.entry call.key))) := by
  cases call with
  | get key =>
      refine .map ((yields_secretOf faithful chain key s).mono ?_)
      rintro found s' ⟨rfl, same⟩
      exact ⟨rfl, same.trans (Function.update_eq_self _ _).symm⟩
  | store key secret =>
      exact .map ((yields_storeSecret faithful chain key secret s).mono fun _ _ set =>
        ⟨rfl, set⟩)
  | delete key =>
      exact .map ((yields_deleteSecret faithful chain key s).mono fun _ _ gone => ⟨rfl, gone⟩)

end Faithful

/-! ## Runs of calls -/

/-- **A store in memory is a picture of the part of a keyring** that a keychain sees. -/
def Pictured (chain : Keychain) (t : KeyringTable) (table : SecretTable) : Prop :=
  t.view ∘ chain.entry = table.view

/-- There is such a store, whatever is in the keyring. -/
theorem exists_pictured (chain : Keychain) (t : KeyringTable) :
    ∃ table, chain.Pictured t table := by
  induction t with
  | nil => exact ⟨[], rfl⟩
  | cons p rest ih =>
      obtain ⟨entry, secret⟩ := p
      obtain ⟨table, pictured⟩ := ih
      unfold Pictured at pictured ⊢
      rw [KeyringTable.view_cons]
      by_cases mine : ∃ key, chain.entry key = entry
      · obtain ⟨key, rfl⟩ := mine
        refine ⟨table.put key secret, ?_⟩
        rw [Function.update_comp_eq_of_injective _ chain.entry_injective, pictured,
          SecretTable.view_put]
      · refine ⟨table, ?_⟩
        rw [Function.update_comp_eq_of_forall_ne _ _ (not_exists.1 mine), pictured]

variable {chain other : Keychain} {s : σ} {table : SecretTable}

section Calls

variable (faithful : ring.Faithful entries) (call : SecretCall)

include faithful

/-- **A call on a keychain** is the call on the store that pictures its part. -/
theorem serve_matches :
    Act.Matches (fun s table => chain.Pictured (entries s) table) id
      ((chain.store ring).serve call) (SecretTable.store.serve call) := by
  intro s table pictured
  obtain ⟨_, s', outcome, rfl, left⟩ := (yields_serve faithful chain s call).outcome
  obtain ⟨_, table', outcome', rfl, left'⟩ := (SecretTable.yields_serve call table).outcome
  have here : (entries s).view (chain.entry call.key) = table.view call.key :=
    congrFun pictured call.key
  rw [outcome, outcome', here]
  refine ⟨rfl, ?_⟩
  show (entries s').view ∘ chain.entry = table'.view
  rw [left, left', here, Function.update_comp_eq_of_injective _ chain.entry_injective,
    pictured]

/-- **A call on another service** leaves the picture as it is. -/
theorem pictured_of_other (apart : other.service ≠ chain.service)
    (pictured : chain.Pictured (entries s) table) :
    chain.Pictured (entries (((other.store ring).serve call).outcome s).2) table := by
  obtain ⟨_, s', outcome, -, left⟩ := (yields_serve faithful other s call).outcome
  have elsewhere : ∀ key, chain.entry key ≠ other.entry call.key := fun key same =>
    apart (congrArg Prod.fst same).symm
  rw [outcome, Pictured, left, Function.update_comp_eq_of_forall_ne _ _ elsewhere, pictured]

end Calls

/-- What goes with the calls under a service. -/
def under {α : Type} (service : String) (labelled : List (String × α)) : List α :=
  labelled.filterMap fun p => if p.1 = service then some p.2 else none

theorem under_cons_self {α : Type} (service : String) (a : α) (rest : List (String × α)) :
    under service ((service, a) :: rest) = a :: under service rest :=
  List.filterMap_cons_some (if_pos rfl)

theorem under_cons_of_ne {α : Type} {service service' : String} (apart : service' ≠ service)
    (a : α) (rest : List (String × α)) :
    under service ((service', a) :: rest) = under service rest :=
  List.filterMap_cons_none (if_neg apart)

variable (ring) (user : String)

/-- Calls on keychains of a user, each with the service under which it is made. -/
def calling (calls : List (String × SecretCall)) : List (Act σ SecretFault SecretReply) :=
  calls.map fun p => ((mk p.1 user).store ring).serve p.2

/-- What is answered to calls, with the services under which they are made. -/
def answers (calls : List (String × SecretCall)) (s : σ) :
    List (String × Except SecretFault SecretReply) :=
  (calls.map Prod.fst).zip ((Act.outcomes (calling ring user calls) s).map Prod.fst)

/-- The first call is answered, and the others on the state that it leaves. -/
theorem answers_cons (service : String) (call : SecretCall)
    (calls : List (String × SecretCall))
    (s : σ) :
    answers ring user ((service, call) :: calls) s =
      (service, ((((mk service user).store ring).serve call).outcome s).1) ::
        answers ring user calls ((((mk service user).store ring).serve call).outcome s).2 := rfl

variable {ring user}

/-- **A run of calls** is, for each service, a run of those under it on a store in memory. -/
theorem under_answers (faithful : ring.Faithful entries) (calls : List (String × SecretCall))
    {service : String} (pictured : (mk service user).Pictured (entries s) table) :
    under service (answers ring user calls s) =
        (Act.outcomes ((under service calls).map SecretTable.store.serve) table).map Prod.fst ∧
      (mk service user).Pictured (entries (Act.after (calling ring user calls) s))
        (Act.after ((under service calls).map SecretTable.store.serve) table) := by
  -- By induction on the calls: the store gets each call under its service, and no other one.
  induction calls generalizing s table with
  | nil => exact ⟨rfl, pictured⟩
  | cons p calls ih =>
      obtain ⟨service', call⟩ := p
      rw [answers_cons]
      by_cases mine : service' = service
      · subst mine
        obtain ⟨answer, left⟩ := serve_matches faithful call s table pictured
        obtain ⟨rest, final⟩ := ih left
        rw [Except.map_id] at answer
        rw [under_cons_self, under_cons_self, rest]
        exact ⟨congrArg (· :: _) answer.symm, final⟩
      · rw [under_cons_of_ne mine, under_cons_of_ne mine]
        exact ih (pictured_of_other faithful call mine pictured)

/-- **Keychains act as stores in memory**, one for each service, that have contents of their
own and get the calls under that service. -/
structure ActsAsMemory (ring : Keyring σ) (user : String) (s : σ)
    (tables : String → SecretTable) :
    Prop where
  answers : ∀ calls service, under service (answers ring user calls s) =
    (Act.outcomes ((under service calls).map SecretTable.store.serve) (tables service)).map
      Prod.fst
  /-- What can be read after the calls is what the stores have then. -/
  reads : ∀ calls service key,
    ((((mk service user).store ring).get key).outcome
        (Act.after (calling ring user calls) s)).1 =
      .ok ((Act.after ((under service calls).map SecretTable.store.serve)
        (tables service)).get? key)
  /-- Calls under other services change nothing that is read. -/
  apart : ∀ calls service, (∀ call ∈ calls, call.1 ≠ service) → ∀ key,
    ((((mk service user).store ring).get key).outcome
        (Act.after (calling ring user calls) s)).1 =
      ((((mk service user).store ring).get key).outcome s).1

/-- What a keychain reads is in the store that pictures its part. -/
theorem get_of_pictured (faithful : ring.Faithful entries)
    (pictured : chain.Pictured (entries s) table) (key : String) :
    (((chain.store ring).get key).outcome s).1 = .ok (table.get? key) := by
  obtain ⟨_, s', outcome, rfl, -⟩ := (yields_secretOf faithful chain key s).outcome
  show ((chain.secretOf ring key).outcome s).1 = _
  rw [outcome]
  exact congrArg Except.ok (congrFun pictured key)

/-- **The keychain behaves like the store in memory.**  Over a keyring that is a map, whatever
is in it at first, all calls on keychains of one user are answered as by separate stores in
memory, one for each service. -/
theorem acts_as_memory (faithful : ring.Faithful entries) (user : String) (s : σ) :
    ∃ tables, ActsAsMemory ring user s tables := by
  choose tables pictured using fun service => exists_pictured (mk service user) (entries s)
  have reads := fun calls service key =>
    get_of_pictured faithful (under_answers faithful calls (pictured service)).2 key
  refine ⟨tables, ?answers, reads, ?apart⟩
  case answers =>
    intro calls service
    exact (under_answers faithful calls (pictured service)).1
  case apart =>
    intro calls service others key
    -- The store of the service gets no call, so what is read of it is what it had at first.
    have none : under service calls = [] :=
      List.filterMap_eq_nil_iff.2 fun call there => if_neg (others call there)
    rw [reads, none]
    exact (reads [] service key).symm

/-- Two services, and a key with the separator in it that is overwritten under one of them, and
deleted twice under the other one. -/
theorem acts_as_memory_two_services :
    KeyringTable.ring.Faithful id ∧
      (∃ tables, ActsAsMemory KeyringTable.ring "user" [(("b", "user@a@org"), "old")] tables) ∧
      answers KeyringTable.ring "user"
          [("a", .store "a@org" "1"), ("b", .get "a@org"), ("a", .store "a@org" "2"),
            ("b", .delete "a@org"), ("b", .delete "a@org"), ("a", .get "a@org"),
            ("b", .get "a@org")]
          [(("b", "user@a@org"), "old")] =
        [("a", .ok .done), ("b", .ok (.found (some "old"))), ("a", .ok .done),
          ("b", .ok .done), ("b", .ok .done), ("a", .ok (.found (some "2"))),
          ("b", .ok (.found none))] :=
  ⟨KeyringTable.faithful_ring, acts_as_memory KeyringTable.faithful_ring "user" _, by rfl⟩

end Keychain

end ServerConnections
