import ServerConnections.Host.Bench
import ServerConnections.Proofs.Action

/-!
# Single calls on a bench

What one call of the registry does to a host on a bench.  Every call is
recorded, and how often calls were made decides which ones are refused; nothing
else depends on the record.  `Bench.unrecorded` forgets it, so that "nothing has
changed" is an equation between hosts.

A single call either is answered, with one answer and one change of the host, or
is refused, with no change at all.  `Bench.Does` says so of an action.  It holds
of every action that makes at most one call, and `Bench.Does.bind` puts such an
action in front of others.

* `Conditions.Unfailing` — nothing is refused
* `Conditions.Answering` — no question is refused
* `Conditions.Steady` — the probe answers the same at all times
* `Conditions.verdict` — the answer of the classifier after some number of calls
* `Bench.Stopped` — what is left by a call that is refused
* `Bench.Does` — one answer and one change, or a refusal
* `Bench.Answers` — one answer and one change, of an action that is never refused
-/

namespace ServerConnections

/-! ## Conditions -/

/-- No call is ever refused. -/
structure Conditions.Unfailing (k : Conditions) : Prop where
  load : ∀ n, k.refusesLoad n = none
  save : ∀ n, k.refusesSave n = none
  get : ∀ n key, k.refusesGet n key = none
  store : ∀ n key, k.refusesStore n key = none
  delete : ∀ n key, k.refusesDelete n key = none

/-- No question is refused.  What is written may be. -/
structure Conditions.Answering (k : Conditions) : Prop where
  load : ∀ n, k.refusesLoad n = none
  get : ∀ n key, k.refusesGet n key = none

/-- Where nothing is refused, no question is. -/
theorem Conditions.Unfailing.answering {k : Conditions} (free : k.Unfailing) : k.Answering :=
  ⟨free.load, free.get⟩

theorem Conditions.unfailing_calm (isUp : String → Bool) : (Conditions.calm isUp).Unfailing :=
  ⟨fun _ => rfl, fun _ => rfl, fun _ _ => rfl, fun _ _ => rfl, fun _ _ => rfl⟩

/-- Whether an address counts as one of the cloud service, when this is asked
after `n` calls. -/
def Conditions.verdict (k : Conditions) (cloudDomain : String) (n : Nat)
    (url : String) : Bool :=
  let url := Address.clean url
  if url.isEmpty then false
  else if Classifier.hasCloudHost cloudDomain url then true
  else k.isUp n url

/-- The probe answers by address, the same at all times. -/
def Conditions.Steady (k : Conditions) : Prop :=
  ∀ n m url, k.isUp n url = k.isUp m url

/-- The probe of a calm host goes by addresses alone. -/
theorem Conditions.steady_calm (isUp : String → Bool) : (Conditions.calm isUp).Steady :=
  fun _ _ _ => rfl

/-- A steady host gives the same verdict at all times. -/
theorem Conditions.Steady.verdict {k : Conditions} (steady : k.Steady) (cloudDomain : String)
    (n : Nat) : k.verdict cloudDomain n = k.verdict cloudDomain 0 := by
  funext url
  simp only [Conditions.verdict, steady n 0]

/-- Whether an error comes from a place where settings or secrets are kept, and
not from what was asked for. -/
def ConnectionError.isFault : ConnectionError → Bool
  | settings _ | secret _ => true
  | _ => false

/-! ## Tables of secrets -/

namespace SecretTable

/-- The token of a connection. -/
def tokenOf (t : SecretTable) (c : Connection) : Option String :=
  c.storageKey.bind fun key => t.get? key

/-- The table after a token was stored for a connection with the key given.  An
absent or empty token changes nothing. -/
def storing (t : SecretTable) (key token : Option String) : SecretTable :=
  match key, nonEmpty? token with
  | some key, some token => t.put key token
  | _, _ => t

/-- What is read after a token was stored: it, under its key, and what was there elsewhere. -/
theorem get?_storing (t : SecretTable) (key token : Option String) (k : String) :
    (t.storing key token).get? k =
      if key = some k then (nonEmpty? token).or (t.get? k) else t.get? k := by
  cases key with
  | none => simp [storing]
  | some key =>
      cases h : nonEmpty? token with
      | none => simp [storing, h]
      | some token => simp [storing, h, Keyed.get?_put, eq_comm]

end SecretTable

/-- The table after the secret of a key was dropped, unless a connection of the
document has the key. -/
def Settings.dropped (s : Settings) (key : Option String) (t : SecretTable) : SecretTable :=
  match key with
  | none => t
  | some key => if s.usesKey key then t else t.remove key

/-- What is read after a secret was dropped: nothing under its key, unless that is in use. -/
theorem Settings.get?_dropped (s : Settings) (key : Option String) (t : SecretTable)
    (k : String) :
    (s.dropped key t).get? k =
      if key = some k ∧ s.usesKey k = false then none else t.get? k := by
  cases key with
  | none => simp [dropped]
  | some key =>
      by_cases used : s.usesKey key
      -- A key in use keeps its secret, whichever key is asked for.
      · by_cases same : key = k <;> simp_all [dropped]
      · by_cases same : key = k
        · subst same
          simp [dropped, used, Keyed.get?_remove]
        · simp [dropped, used, same, Keyed.get?_remove, Ne.symm same]

namespace Bench

variable {μ α β : Type}

/-! ## Hosts without their records -/

/-- The host without its record of calls. -/
def unrecorded (b : Bench μ) : Bench μ := { b with calls := [] }

theorem conditions_of_unrecorded {b k : Bench μ} (left : b.unrecorded = k) :
    b.conditions = k.conditions := by
  subst left
  rfl

theorem secrets_of_unrecorded {b k : Bench μ} (left : b.unrecorded = k) :
    b.secrets = k.secrets := by
  subst left
  rfl

theorem medium_of_unrecorded {b k : Bench μ} (left : b.unrecorded = k) :
    b.medium = k.medium := by
  subst left
  rfl

/-- The host with another table of secrets. -/
def withSecrets (b : Bench μ) (secrets : SecretTable) : Bench μ := { b with secrets }

/-- The same host if nothing is refused. -/
def undisturbed (b : Bench μ) : Bench μ :=
  { b with conditions := { Conditions.calm fun _ => false with isUp := b.conditions.isUp } }

theorem unfailing_undisturbed (b : Bench μ) : b.undisturbed.conditions.Unfailing :=
  ⟨fun _ => rfl, fun _ => rfl, fun _ _ => rfl, fun _ _ => rfl, fun _ _ => rfl⟩

/-- The host after it was told of a token update. -/
def told (b : Bench μ) (event : TokenUpdated) : Bench μ :=
  if b.listener = .present then { b with events := b.events ++ [event] } else b

/-- An announcement reaches a listener that is there, and is recorded. -/
theorem unrecorded_announce (event : TokenUpdated) (b : Bench μ) :
    (announce event b).2.unrecorded = b.unrecorded.told event := by
  cases h : b.listener <;> simp [announce, h, told, unrecorded, called]

@[simp] theorem medium_told (b : Bench μ) (event : TokenUpdated) :
    (b.told event).medium = b.medium := by
  unfold told
  split <;> rfl

@[simp] theorem secrets_told (b : Bench μ) (event : TokenUpdated) :
    (b.told event).secrets = b.secrets := by
  unfold told
  split <;> rfl

@[simp] theorem conditions_told (b : Bench μ) (event : TokenUpdated) :
    (b.told event).conditions = b.conditions := by
  unfold told
  split <;> rfl

/-! ## Refused calls -/

/-- **A call is refused** on a host that keeps `k`: the error is a fault, and
nothing has changed. -/
structure Stopped (k : Bench μ) (e : ConnectionError) (b : Bench μ) : Prop where
  failing : ¬ k.conditions.Unfailing
  fault : e.isFault
  left : b.unrecorded = k

/-- **One answer and one change, or a refusal.** -/
def Does (x : Act (Bench μ) ConnectionError α) (b : Bench μ) (a : α) (k : Bench μ) : Prop :=
  x.Ensures b fun res b' =>
    match res with
    | .ok a' => a' = a ∧ b'.unrecorded = k
    | .error e => b.unrecorded.Stopped e b'

/-- One answer and one change, which cannot be refused. -/
def Answers (x : Act (Bench μ) ConnectionError α) (b : Bench μ) (a : α) (k : Bench μ) : Prop :=
  x.Ensures b fun res b' => res = .ok a ∧ b'.unrecorded = k

/-- To make no call is an answer that changes nothing. -/
theorem answers_pure (b : Bench μ) (a : α) : Answers (pure a) b a b.unrecorded :=
  ⟨rfl, rfl⟩

theorem does_pure (b : Bench μ) (a : α) : Does (pure a) b a b.unrecorded :=
  ⟨rfl, rfl⟩

/-- To leave the secrets alone is a way to change them. -/
theorem does_pure_withSecrets (b : Bench μ) (a : α) :
    Does (pure a) b a (b.unrecorded.withSecrets b.secrets) :=
  ⟨rfl, rfl⟩

/-- An action that cannot fail is answered by what it gives and leaves. -/
theorem answers_ofState_iff {x : StateM (Bench μ) α} {b : Bench μ} {a : α} {k : Bench μ} :
    Answers (.ofState x) b a k ↔ (x b).1 = a ∧ (x b).2.unrecorded = k := by
  simp [Answers]

/-- The action comes first in a sequence. -/
theorem Answers.bind {x : Act (Bench μ) ConnectionError α} {b : Bench μ} {a : α} {k : Bench μ}
    {f : α → Act (Bench μ) ConnectionError β} {Q : Except ConnectionError β → Bench μ → Prop}
    (h : Answers x b a k) (ok : ∀ b', b'.unrecorded = k → (f a).Ensures b' Q) :
    (x >>= f).Ensures b Q := by
  refine Act.Ensures.bind h ?_ nofun
  rintro _ b' ⟨⟨⟩, left⟩
  exact ok b' left

/-- The action comes first in a sequence. -/
theorem Does.bind {x : Act (Bench μ) ConnectionError α} {b : Bench μ} {a : α} {k : Bench μ}
    {f : α → Act (Bench μ) ConnectionError β} {Q : Except ConnectionError β → Bench μ → Prop}
    (h : Does x b a k) (ok : ∀ b', b'.unrecorded = k → (f a).Ensures b' Q)
    (stopped : ∀ e b', b.unrecorded.Stopped e b' → Q (.error e) b') :
    (x >>= f).Ensures b Q := by
  refine Act.Ensures.bind h ?_ stopped
  rintro _ b' ⟨rfl, left⟩
  exact ok b' left

/-- Where nothing is refused there is an answer. -/
theorem Does.answers {x : Act (Bench μ) ConnectionError α} {b : Bench μ} {a : α} {k : Bench μ}
    (h : Does x b a k) (free : b.conditions.Unfailing) : Answers x b a k := by
  refine Act.Ensures.mono h fun res b' ends => ?_
  cases res with
  | ok a' => exact ⟨congrArg _ ends.1, ends.2⟩
  | error e => exact (ends.failing free).elim

/-- An answer, as an equation about the outcome. -/
theorem Answers.outcome {x : Act (Bench μ) ConnectionError α} {b : Bench μ} {a : α}
    {k : Bench μ}
    (h : Answers x b a k) : ∃ b', x.outcome b = (.ok a, b') ∧ b'.unrecorded = k :=
  ⟨_, Prod.ext h.1 rfl, h.2⟩

/-- A call that is recorded and then refused or done. -/
theorem ensures_guarded {ε : Type} {call : Call} {refusal : Bench μ → Option String}
    {toError : String → ε} {x : Act (Bench μ) ε α} {b : Bench μ}
    {Q : Except ε α → Bench μ → Prop}
    (refused : ∀ reason, refusal b = some reason → Q (.error (toError reason)) (b.called call))
    (done : refusal b = none → x.Ensures (b.called call) Q) :
    (guarded call refusal toError x).Ensures b Q := by
  unfold Act.Ensures Act.outcome guarded
  cases answer : refusal b with
  | some reason => exact refused reason answer
  | none => exact done answer

/-- A call respects a relation between hosts that holds of its record and of what it does,
if it is refused as well as if it is done. -/
theorem respects_guarded {ε α : Type} {R : Bench μ → Bench μ → Prop} {call : Call}
    {refusal : Bench μ → Option String} {toError : String → ε} {x : Act (Bench μ) ε α}
    (refused : ∀ b, R b (b.called call)) (done : ∀ b, R b (x.outcome (b.called call)).2) :
    Act.Respects R (guarded call refusal toError x) :=
  fun b => ensures_guarded (fun _ _ => refused b) fun _ => done b

/-- **A guarded call is done or refused**, provided that what refuses it is a failing host
and that the error is a fault. -/
theorem does_guarded {ε : Type} {call : Call} {refusal : Bench μ → Option String}
    {toError : String → ε} {toConnectionError : ε → ConnectionError}
    {x : Act (Bench μ) ε α} {b b' : Bench μ} {a : α} {k : Bench μ}
    (done : x (b.called call) = .ok a b') (left : b'.unrecorded = k)
    (failing : ∀ reason, refusal b = some reason → ¬ b.conditions.Unfailing)
    (fault : ∀ reason, (toConnectionError (toError reason)).isFault) :
    Does ((guarded call refusal toError x).mapError toConnectionError) b a k := by
  rw [Does, Act.ensures_mapError]
  refine ensures_guarded (fun reason refused => ?_) fun _ => ?_
  · exact ⟨failing reason refused, fault reason, rfl⟩
  · unfold Act.Ensures Act.outcome
    rw [done]
    exact ⟨rfl, left⟩

/-! ## The calls of a registry -/

/-- A question that is refused is answered by no. -/
theorem hasUnder_eq {store : SettingsStore μ} {cloudDomain : String} (key : String)
    (b : Bench μ) :
    (registry store cloudDomain).secrets.hasUnder key b =
      ((b.conditions.refusesGet b.time key).isNone && (b.secrets.get? key).isSome,
        b.called (.get key)) := by
  simp only [SecretStore.hasUnder, registry, secretStore, guarded]
  cases b.conditions.refusesGet b.time key <;> rfl

/-- A question to the classifier is answered without a call, or by the probe. -/
theorem isCloud_leaves {R : Bench μ → Bench μ → Prop} [Std.Refl R] {store : SettingsStore μ}
    {cloudDomain : String} (asked : ∀ b url, R b (b.called (.probe url))) (url : Option String)
    (b : Bench μ) : R b ((registry store cloudDomain).classifier.isCloud url b).2 := by
  simp only [Classifier.isCloud, registry]
  by_cases empty : (Address.clean (url.getD "")).isEmpty
  · simp only [empty, if_true]
    exact Std.Refl.refl b
  · by_cases shown : Classifier.hasCloudHost cloudDomain (Address.clean (url.getD ""))
    · simp only [empty, shown, if_true, if_false, Bool.false_eq_true]
      exact Std.Refl.refl b
    · simp only [empty, shown, if_false, Bool.false_eq_true]
      exact asked b _

/-- The registry of a host whose settings are in memory. -/
abbrev inMemory (cloudDomain : String) : Registry (Bench MemorySettings) :=
  registry MemorySettings.store cloudDomain

/-- The document of a host whose settings are in memory. -/
def document (b : Bench MemorySettings) : Settings := b.medium.document

theorem document_of_unrecorded {b k : Bench MemorySettings} (left : b.unrecorded = k) :
    b.document = k.document :=
  congrArg MemorySettings.document (medium_of_unrecorded left)

/-- The host after a document was saved. -/
def saved (b : Bench MemorySettings) (s : Settings) : Bench MemorySettings :=
  { b with medium := b.medium.saved s }

variable {cloudDomain : String} (b : Bench MemorySettings)

/-- To load the document is one call, which answers it. -/
theorem does_loadSettings :
    Does (inMemory cloudDomain).loadSettings b b.document b.unrecorded :=
  does_guarded rfl rfl (fun _ refused free => by simp [free.load] at refused) fun _ => rfl

/-- Where questions are answered, the document is loaded. -/
theorem answers_loadSettings (answering : b.conditions.Answering) :
    Answers (inMemory cloudDomain).loadSettings b b.document b.unrecorded := by
  rw [Answers, Registry.loadSettings, Act.ensures_mapError]
  refine ensures_guarded (fun reason refused => ?_) fun _ => ⟨rfl, rfl⟩
  simp [answering.load] at refused

/-- To save a document is one call, which puts it in the place of the old one. -/
theorem does_saveSettings (s : Settings) :
    Does ((inMemory cloudDomain).saveSettings s) b () (b.unrecorded.saved s) :=
  does_guarded rfl rfl (fun _ refused free => by simp [free.save] at refused) fun _ => rfl

/-- To read a secret is one call, which answers it. -/
theorem does_tokenUnder (key : String) :
    Does ((inMemory cloudDomain).tokenUnder key) b (b.secrets.get? key) b.unrecorded :=
  does_guarded rfl rfl (fun _ refused free => by simp [free.get] at refused) fun _ => rfl

/-- To store a secret is one call, which puts it under its key. -/
theorem does_store (key token : String) :
    Does (((inMemory cloudDomain).secrets.store key token).mapError .secret) b ()
      (b.unrecorded.withSecrets (b.secrets.put key token)) :=
  does_guarded rfl rfl (fun _ refused free => by simp [free.store] at refused) fun _ => rfl

/-- To delete a secret is one call, which leaves nothing under its key. -/
theorem does_deleteUnder (key : String) :
    Does ((inMemory cloudDomain).secrets.deleteUnder key) b ()
      (b.unrecorded.withSecrets (b.secrets.remove key)) :=
  does_guarded rfl rfl (fun _ refused free => by simp [free.delete] at refused) fun _ => rfl

/-! Where it matters which call was refused, a call is seen with its record. -/

/-- The document is refused or loaded, and the call is recorded in either case. -/
theorem ensures_loadSettings
    {Q : Except ConnectionError Settings → Bench MemorySettings → Prop}
    (refused : ∀ reason, b.conditions.refusesLoad b.time = some reason →
      Q (.error (.settings (.file (.refused reason)))) (b.called .load))
    (done : b.conditions.refusesLoad b.time = none → Q (.ok b.document) (b.called .load)) :
    (inMemory cloudDomain).loadSettings.Ensures b Q :=
  Act.ensures_mapError.2 (ensures_guarded refused done)

/-- The document is refused, or is saved after the call was recorded. -/
theorem ensures_saveSettings {s : Settings}
    {Q : Except ConnectionError Unit → Bench MemorySettings → Prop}
    (refused : ∀ reason, b.conditions.refusesSave b.time = some reason →
      Q (.error (.settings (.file (.refused reason)))) (b.called .save))
    (done : b.conditions.refusesSave b.time = none → Q (.ok ()) ((b.called .save).saved s)) :
    ((inMemory cloudDomain).saveSettings s).Ensures b Q :=
  Act.ensures_mapError.2 (ensures_guarded refused done)

/-- The deletion is refused, or is done after the call was recorded. -/
theorem ensures_deleteUnder {key : String}
    {Q : Except ConnectionError Unit → Bench MemorySettings → Prop}
    (refused : ∀ reason, b.conditions.refusesDelete b.time key = some reason →
      Q (.error (.secret (.notRun reason))) (b.called (.delete key)))
    (done : b.conditions.refusesDelete b.time key = none →
      Q (.ok ()) ((b.called (.delete key)).withSecrets (b.secrets.remove key))) :
    ((inMemory cloudDomain).secrets.deleteUnder key).Ensures b Q :=
  Act.ensures_mapError.2 (ensures_guarded refused done)

/-- **The last call was to delete the secret of a key**, and it was refused. -/
structure Undeleted (b : Bench MemorySettings) (key : String)
    (e : ConnectionError) : Prop where
  asked : b.calls.getLast? = some (.delete key)
  refused : ∃ reason, b.conditions.refusesDelete (b.time - 1) key = some reason ∧
    e = .secret (.notRun reason)

/-- Every call takes one step of time. -/
theorem time_called (call : Call) : (b.called call).time = b.time + 1 := List.length_append

/-- A deletion that is refused was the last call. -/
theorem undeleted_called {key reason : String}
    (refused : b.conditions.refusesDelete b.time key = some reason) :
    (b.called (.delete key)).Undeleted key (.secret (.notRun reason)) := by
  refine ⟨List.getLast?_concat, reason, ?_, rfl⟩
  rw [time_called]
  exact refused

/-- A question to the classifier is answered by the verdict of that time. -/
theorem isCloud_eq (url : Option String) :
    ((inMemory cloudDomain).classifier.isCloud url b).1 =
        b.conditions.verdict cloudDomain b.time (url.getD "") ∧
      ((inMemory cloudDomain).classifier.isCloud url b).2.unrecorded = b.unrecorded := by
  simp only [Classifier.isCloud, Conditions.verdict, inMemory, registry]
  -- Only the last of the three cases makes a call.
  by_cases empty : (Address.clean (url.getD "")).isEmpty
  · simp only [empty, if_true]
    exact ⟨rfl, rfl⟩
  · by_cases shown : Classifier.hasCloudHost cloudDomain (Address.clean (url.getD ""))
    · simp only [empty, shown, if_true, Bool.false_eq_true, if_false]
      exact ⟨rfl, rfl⟩
    · simp only [empty, shown, Bool.false_eq_true, if_false]
      exact ⟨rfl, rfl⟩

/-- An announcement is never refused. -/
theorem answers_announce (event : TokenUpdated) :
    Answers (.ofState ((inMemory cloudDomain).announce event)) b ()
      (b.unrecorded.told event) :=
  answers_ofState_iff.2 ⟨rfl, unrecorded_announce event b⟩

end Bench

end ServerConnections
