import ServerConnections.Registry.Migration
import ServerConnections.Proofs.Bench

/-!
# Secrets that are there before a migration

Before a migration stores a token it asks whether there is a secret under the key.
If so, the secret is to stay.  But a store that cannot answer counts as having
none, so that a refused question is followed by an attempt to store, and if that
is not refused as well, the secret is replaced.

What happened to a secret can be read off the record of calls, given the conditions
of the host, which say what was refused.  This is so for every way in which calls
are refused, and however the migration ends.

* `Conditions.stored` — the tokens that calls have stored under a key
* `Conditions.StoresBlindly` — tokens are stored exactly where a question was refused
* `Bench.Minds` — both together, of two states of a host
* `Bench.minds_migrate` — what a migration does to a secret
* `Registry.secret_stays_iff_of_migrate` — when the secret is there afterwards
-/

namespace ServerConnections

open Bench

/-! ## Reading the record of calls -/

namespace Conditions

variable (k : Conditions) (key : String)

/-- The tokens that calls have stored under a key, in order, the first of the calls
being made after `n` others. -/
def stored : Nat → List Call → List String
  | _, [] => []
  | n, .store key' token :: calls =>
    if key' = key ∧ k.refusesStore n key' = none then token :: stored (n + 1) calls
    else stored (n + 1) calls
  | n, _ :: calls => stored (n + 1) calls

/-- **A call stores a token under the key exactly where the call before it was a
refused question for the key.** -/
structure StoresBlindly (n : Nat) (calls : List Call) : Prop where
  first : ∀ token, calls[0]? ≠ some (.store key token)
  next : ∀ i, (∃ token, calls[i + 1]? = some (.store key token)) ↔
    calls[i]? = some (.get key) ∧ (k.refusesGet (n + i) key).isSome

variable {k key} {n : Nat} {calls calls' : List Call}

/-- What is stored under a key by some calls and then by others, counted from where these
begin. -/
theorem stored_append :
    k.stored key n (calls ++ calls') =
      k.stored key n calls ++ k.stored key (n + calls.length) calls' := by
  induction calls generalizing n with
  | nil => simp [stored]
  | cons call calls ih =>
      have shift : n + (calls.length + 1) = n + 1 + calls.length := by omega
      cases call <;> simp [stored, ih, shift]
      grind

theorem storesBlindly_nil : k.StoresBlindly key n [] where
  first := nofun
  next i := by simp

/-- No refused question ends the first of two records, so that none is overlooked where
they meet. -/
theorem StoresBlindly.append (h : k.StoresBlindly key n calls)
    (h' : k.StoresBlindly key (n + calls.length) calls') :
    k.StoresBlindly key n (calls ++ calls') where
  first := by
    cases calls with
    | nil => exact h'.first
    | cons call calls => exact h.first
  next i := by
    rcases Nat.lt_trichotomy (i + 1) calls.length with inside | meeting | outside
    · rw [List.getElem?_append_left inside,
        List.getElem?_append_left (Nat.lt_of_succ_lt inside)]
      exact h.next i
    · have last : ¬ (calls[i]? = some (.get key) ∧ (k.refusesGet (n + i) key).isSome) := by
        intro refused
        obtain ⟨token, call⟩ := (h.next i).2 refused
        obtain ⟨bound, -⟩ := List.getElem?_eq_some_iff.1 call
        omega
      rw [List.getElem?_append_right (Nat.le_of_eq meeting.symm), meeting, Nat.sub_self,
        List.getElem?_append_left (by omega)]
      exact iff_of_false (fun ⟨token, call⟩ => h'.first token call) last
    · obtain ⟨j, rfl⟩ := Nat.exists_eq_add_of_le (Nat.le_of_lt_succ outside)
      rw [Nat.add_assoc, List.getElem?_append_right (Nat.le_add_right _ _),
        List.getElem?_append_right (Nat.le_add_right _ _), Nat.add_sub_cancel_left,
        Nat.add_sub_cancel_left, ← Nat.add_assoc n]
      exact h'.next j

/-- What is stored was asked to be. -/
theorem mem_of_mem_stored {token : String} (there : token ∈ k.stored key n calls) :
    Call.store key token ∈ calls := by
  induction calls generalizing n with
  | nil => simp [stored] at there
  | cons call calls ih =>
      cases call <;> simp only [stored] at there <;> grind

/-- Where no question is refused nothing is stored. -/
theorem StoresBlindly.stored_eq_nil (h : k.StoresBlindly key n calls)
    (answered : ∀ i, calls[i]? = some (.get key) → k.refusesGet (n + i) key = none) :
    k.stored key n calls = [] := by
  refine List.eq_nil_iff_forall_not_mem.2 fun token there => ?_
  obtain ⟨i, call⟩ := List.mem_iff_getElem?.1 (mem_of_mem_stored there)
  cases i with
  | zero => exact h.first token call
  | succ i =>
      obtain ⟨question, refused⟩ := (h.next i).1 ⟨token, call⟩
      simp [answered i question] at refused

end Conditions

/-! ## What is done to a secret -/

namespace Bench

variable {μ : Type} {key : String} {b b' b'' : Bench μ}

/-- **What is done to a secret that is there**: it is the last token that the new
calls have stored under its key, and they store one exactly where they are blind. -/
structure Minds (key : String) (b b' : Bench μ) : Prop where
  conditions : b'.conditions = b.conditions
  calls : ∃ new, b'.calls = b.calls ++ new ∧
    ∀ secret, b.secrets.get? key = some secret →
      b'.secrets.get? key = some ((b.conditions.stored key b.time new).getLast?.getD secret) ∧
        b.conditions.StoresBlindly key b.time new

namespace Minds

theorem refl (b : Bench μ) : b.Minds key b :=
  ⟨rfl, [], by simp, fun secret held => ⟨held, Conditions.storesBlindly_nil⟩⟩

/-- One run of calls after another. -/
theorem trans (h : b.Minds key b') (h' : b'.Minds key b'') : b.Minds key b'' := by
  obtain ⟨conditions, new, calls, first⟩ := h
  obtain ⟨conditions', new', calls', rest⟩ := h'
  -- The second record is read from the time at which the first one ends.
  have time : b'.time = b.time + new.length := by simp [Bench.time, calls]
  refine ⟨conditions'.trans conditions, new ++ new',
    by rw [calls', calls, List.append_assoc], ?_⟩
  intro secret held
  obtain ⟨held', blind⟩ := first secret held
  obtain ⟨held'', blind'⟩ := rest _ held'
  rw [conditions, time] at held'' blind'
  refine ⟨?_, blind.append blind'⟩
  rw [held'', Conditions.stored_append, List.getLast?_append]
  cases (b.conditions.stored key (b.time + new.length) new').getLast? <;> simp

instance : Std.Refl (Minds (μ := μ) key) := ⟨refl⟩

instance : Trans (Minds (μ := μ) key) (Minds key) (Minds key) := ⟨trans⟩

/-- A call that stores nothing under the key, and is no refused question for it. -/
theorem of_call {call : Call} (conditions : b'.conditions = b.conditions)
    (calls : b'.calls = b.calls ++ [call])
    (secret : b'.secrets.get? key = b.secrets.get? key)
    (other : ∀ token, call ≠ .store key token)
    (answered : call = .get key → b.conditions.refusesGet b.time key = none) :
    b.Minds key b' := by
  refine ⟨conditions, [call], calls, fun token held => ⟨?_, ?_, ?_⟩⟩
  · have none : b.conditions.stored key b.time [call] = [] := by
      cases call <;> simp [Conditions.stored]
      grind
    simp [none, secret, held]
  · simpa using other
  · rintro (_ | i)
    · simpa using answered
    · simp

/-- A call that stores nothing under the key, and is no refused question for it, is
harmless. -/
theorem called {call : Call} (other : ∀ token, call ≠ .store key token)
    (answered : call = .get key → b.conditions.refusesGet b.time key = none) :
    b.Minds key (b.called call) :=
  of_call rfl rfl rfl other answered

end Minds

/-! ## The calls of a migration -/

variable {store : SettingsStore μ} {cloudDomain : String}

theorem minds_loadSettings :
    Act.Respects (Minds key) (registry store cloudDomain).loadSettings := by
  refine Act.Respects.mapError (respects_guarded (fun b => .called nofun nofun) fun b => ?_) _
  unfold Act.outcome Act.within
  cases store.load (b.called .load).medium <;> exact .of_call rfl rfl rfl nofun nofun

theorem minds_saveSettings (s : Settings) :
    Act.Respects (Minds key) ((registry store cloudDomain).saveSettings s) := by
  refine Act.Respects.mapError (respects_guarded (fun b => .called nofun nofun) fun b => ?_) _
  unfold Act.outcome Act.within
  cases store.save s (b.called .save).medium <;> exact .of_call rfl rfl rfl nofun nofun

theorem minds_isCloud (url : Option String) (b : Bench μ) :
    b.Minds key ((registry store cloudDomain).classifier.isCloud url b).2 :=
  isCloud_leaves (fun _ _ => .called nofun nofun) url b

/-- **What an attempt to store a token leaves**: one more call, which is seen under its
key if it was not refused. -/
structure Attempted (key token : String) (b b' : Bench μ) : Prop where
  conditions : b'.conditions = b.conditions
  calls : b'.calls = b.calls ++ [.store key token]
  secrets : ∀ other, b'.secrets.get? other =
    if other = key ∧ b.conditions.refusesStore b.time key = none then some token
    else b.secrets.get? other

/-- To store a token is one attempt, whether it is refused or not. -/
theorem storeUnder_ensures (key : String) {token : String} (filled : token ≠ "")
    (b : Bench μ) :
    ((registry store cloudDomain).secrets.storeUnder key token).Ensures b fun _ b' =>
      b.Attempted key token b' := by
  unfold SecretStore.storeUnder
  simp only [String.isEmpty_iff, filled, if_false]
  rw [Act.ensures_mapError]
  refine ensures_guarded (fun reason refused => ?_) fun accepted => ?_
  · exact ⟨rfl, rfl, fun other => by simp [refused, Bench.called]⟩
  · refine ⟨rfl, rfl, fun other => ?_⟩
    simp only [accepted, and_true]
    exact Keyed.get?_put key other token b.secrets

/-- A token is stored blindly, or there was no secret under its key. -/
theorem Minds.of_attempted {key' token : String}
    (there :
      ((b.conditions.refusesGet b.time key').isNone && (b.secrets.get? key').isSome) = false)
    (left : (b.called (.get key')).Attempted key' token b') : b.Minds key b' := by
  have time : (b.called (.get key')).time = b.time + 1 := by simp [Bench.time, Bench.called]
  refine ⟨left.conditions, [.get key', .store key' token],
    by simp [left.calls, Bench.called], ?_⟩
  intro secret held
  have seen := left.secrets key
  rw [time] at seen
  by_cases same : key' = key
  -- The secret is there, so that only a refused question can have been answered by no.
  · subst same
    have refused : (b.conditions.refusesGet b.time key').isSome := by simpa [held] using there
    refine ⟨?_, by simp, ?_⟩
    · rw [seen]
      cases stops : b.conditions.refusesStore (b.time + 1) key' <;>
        simp [Conditions.stored, Bench.called, stops, held]
    · rintro (_ | _ | i)
      · simpa using refused
      · simp
      · simp
  · refine ⟨?_, by simp, ?_⟩
    · rw [seen]
      simp [Conditions.stored, Bench.called, same, Ne.symm same, held]
    · rintro (_ | _ | i) <;> simp [same]

/-- **Moving one token.**  Where a secret is there and the question for it is answered,
nothing is stored. -/
theorem minds_moveToken (key' : String) {token : String} (filled : token ≠ "") :
    Act.Respects (Minds key) ((registry store cloudDomain).moveToken key' token) := by
  intro b
  unfold Registry.moveToken
  have answer : Act.Yields (ε := ConnectionError)
      (.ofState ((registry store cloudDomain).secrets.hasUnder key')) b fun there b' =>
        there = ((b.conditions.refusesGet b.time key').isNone &&
          (b.secrets.get? key').isSome) ∧
          b' = b.called (.get key') := by
    rw [Act.yields_ofState, hasUnder_eq]
    exact ⟨rfl, rfl⟩
  refine answer.bind ?_
  rintro there _ ⟨known, rfl⟩
  cases there with
  | true =>
      refine Minds.called nofun fun same => ?_
      rw [Call.get.injEq] at same
      subst same
      simpa using (Bool.and_eq_true_iff.1 known.symm).1
  | false =>
      simp only [Bool.false_eq_true, if_false]
      refine Act.Ensures.bind (storeUnder_ensures key' filled _) ?_ ?_
      · intro _ b' left
        exact Minds.of_attempted known.symm left
      · intro _ b' left
        exact Minds.of_attempted known.symm left

theorem minds_classified (c : Connection) (b : Bench μ) :
    b.Minds key ((registry store cloudDomain).classified c b).2 := by
  unfold Registry.classified
  cases c.cloudFlag with
  | some flag => exact .refl b
  | none =>
      simp only [Act.state_bind, Act.state_pure, Classifier.isCloudConnection]
      exact minds_isCloud c.serverUrl b

theorem minds_completedAll (inCloudList : Bool) (cs : List Connection) (b : Bench μ) :
    b.Minds key ((registry store cloudDomain).completedAll inCloudList cs b).2 := by
  induction cs generalizing b with
  | nil => exact .refl b
  | cons c cs ih =>
      have first : b.Minds key ((registry store cloudDomain).completed inCloudList c b).2 :=
        minds_classified (if inCloudList then c.ofFormerCloud else c).withCleanUrl b
      exact first.trans (ih _)

/-- To move the token of one connection, a secret is asked for before it is stored, so the
key is minded. -/
theorem minds_migratedToken (c : Connection) :
    Act.Respects (Minds key) ((registry store cloudDomain).migratedToken c) := by
  unfold Registry.migratedToken
  cases c.token with
  | none => exact Act.respects_pure _
  | some token =>
      by_cases empty : token = ""
      · simp only [String.isEmpty_iff, empty, if_true]
        exact Act.respects_pure _
      · simp only [String.isEmpty_iff, empty, if_false]
        refine Act.Respects.bind (Act.respects_ofState.2 (minds_classified c)) fun d => ?_
        cases d.storageKey with
        | none => exact Act.respects_pure _
        | some key' =>
            exact (minds_moveToken key' empty).bind fun _ => Act.respects_pure _

/-- The whole first pass minds the key, by induction along the list. -/
theorem minds_migratedTokens (cs : List Connection) :
    Act.Respects (Minds key) ((registry store cloudDomain).migratedTokens cs) := by
  induction cs with
  | nil => exact Act.respects_pure _
  | cons c cs ih =>
      refine (minds_migratedToken c).bind fun p => ?_
      exact ih.bind fun _ => Act.respects_pure _

/-- **What a migration does to a secret**, whatever is refused. -/
theorem minds_migrate : Act.Respects (Minds key) (registry store cloudDomain).migrate := by
  unfold Registry.migrate
  refine minds_loadSettings.bind fun s => ?_
  refine Act.Respects.bind (Act.respects_ofState.2 (minds_completedAll false _))
    fun selfHosted => ?_
  refine Act.Respects.bind (Act.respects_ofState.2 (minds_completedAll true _))
    fun cloud => ?_
  refine (minds_migratedTokens _).bind fun former => ?_
  refine (minds_migratedTokens _).bind fun unified => ?_
  rcases adopt (unified.map Prod.fst) (former.map Prod.fst) with ⟨servers, duplicates⟩
  dsimp only
  split
  · exact (minds_saveSettings _).bind fun _ => Act.respects_pure _
  · exact Act.respects_pure _

end Bench

namespace Registry

variable {μ : Type} {store : SettingsStore μ} {cloudDomain key secret : String} {b : Bench μ}

/-- **When a secret is there after a migration**: exactly if the last token that was
stored under its key, if any was, is the same.  A token is stored under the key exactly
where a question for it was refused, so that the secret is there if none was.  Nothing
is asked of the other calls, nor of how the migration ends. -/
theorem secret_stays_iff_of_migrate (held : b.secrets.get? key = some secret) :
    let b' := ((registry store cloudDomain).migrate.outcome b).2
    ∃ new, b'.calls = b.calls ++ new ∧
      (b'.secrets.get? key = some secret ↔
        ∀ token, (b.conditions.stored key b.time new).getLast? = some token → token = secret) ∧
      b.conditions.StoresBlindly key b.time new ∧
      ((∀ i, new[i]? = some (.get key) → b.conditions.refusesGet (b.time + i) key = none) →
        b'.secrets.get? key = some secret) := by
  intro b'
  have minded : b.Minds key b' := minds_migrate b
  obtain ⟨-, new, calls, minds⟩ := minded
  obtain ⟨after, blind⟩ := minds secret held
  refine ⟨new, calls, ?_, blind, fun answered => ?_⟩
  · rw [after]
    cases (b.conditions.stored key b.time new).getLast? <;> simp
  · rw [after, blind.stored_eq_nil answered]
    rfl

/-- The question for the key is refused, and so is the attempt to store a token: the
migration fails, and the secret is there. -/
theorem secret_stays_iff_of_migrate_both_refused :
    let b : Bench MemorySettings := .fresh
      (.of ⟨⟨[], [], [⟨some "sq", some "https://sq.example", none, some false, false,
        some "stale"⟩]⟩, [], []⟩) [("https://sq.example", "current")]
      { Conditions.calm fun _ => false with
        refusesGet := fun _ _ => some "locked",
        refusesStore := fun _ _ => some "locked" } .nobody
    let b' := ((inMemory "codescan.io").migrate.outcome b).2
    b.secrets.get? "https://sq.example" = some "current" ∧
      ∃ new, b'.calls = b.calls ++ new ∧
        (b'.secrets.get? "https://sq.example" = some "current" ↔
          ∀ token, (b.conditions.stored "https://sq.example" b.time new).getLast? =
            some token →
            token = "current") ∧
        b.conditions.StoresBlindly "https://sq.example" b.time new ∧
        ((∀ i, new[i]? = some (.get "https://sq.example") →
            b.conditions.refusesGet (b.time + i) "https://sq.example" = none) →
          b'.secrets.get? "https://sq.example" = some "current") :=
  ⟨by decide, secret_stays_iff_of_migrate (by decide)⟩

/-- Only the question is refused: the migration succeeds, and the secret is replaced
by the token of the document. -/
theorem secret_replaced_of_migrate_blind :
    let b : Bench MemorySettings := .fresh
      (.of ⟨⟨[], [], [⟨some "sq", some "https://sq.example", none, some false, false,
        some "stale"⟩]⟩, [], []⟩) [("https://sq.example", "current")]
      { Conditions.calm fun _ => false with refusesGet := fun _ _ => some "locked" } .nobody
    let after := (inMemory "codescan.io").migrate.outcome b
    b.secrets.get? "https://sq.example" = some "current" ∧
      after.1.toOption = some ⟨1, 0, 0, 0, 0, true⟩ ∧
        after.2.secrets.get? "https://sq.example" = some "stale" :=
  ⟨by decide, by decide +kernel, by decide +kernel⟩

end Registry

end ServerConnections
