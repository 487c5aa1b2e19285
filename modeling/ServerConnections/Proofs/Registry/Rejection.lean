import ServerConnections.Proofs.Registry.Session
import ServerConnections.Proofs.Migration.Vault

/-!
# Rejections come first

An edit fails in two ways.  Either the host is at fault, and then it may have got anywhere, or
what was asked for is rejected.  There are many places where this happens: the checks of a new
connection, the search for the one to change, what the two make together, and last of all the
store of secrets, which has no key for a token.

None of them is reached after something was written.  What comes before a rejection are steps
that only ask: they load the document, read a secret, or probe a server.  The token is the
first thing to be written, and where it is rejected nothing is.  All that follows fails by a
fault of the host or not at all.  So a sequence that rejects first consists of steps that ask,
one that rejects before it writes, and then of steps that do not reject.  The rules below put
the operations together in this way.

* `Call.isQuestion` — a call that asks and changes nothing
* `Bench.Consulted` — a host was asked questions, and nothing else has changed
* `Bench.RejectsFirst` — where an action rejects, the host was only consulted
* `Bench.OnlyFaults` — an action does not reject
* `Registry.consulted_of_rejected` — a rejected edit has no effect
-/

namespace ServerConnections

open Bench

/-- Whether a call asks something, and changes nothing. -/
def Call.isQuestion : Call → Bool
  | load | get _ | probe _ => true
  | save | store _ _ | delete _ | announce _ => false

namespace Bench

variable {μ α β : Type}

/-! ## Questions -/

/-- **A host was asked questions**, and nothing has changed besides the record of calls. -/
structure Consulted (b b' : Bench μ) : Prop where
  left : b'.unrecorded = b.unrecorded
  asked : ∃ questions, b'.calls = b.calls ++ questions ∧ ∀ call ∈ questions, call.isQuestion

namespace Consulted

variable {b b' b'' : Bench μ}

theorem refl (b : Bench μ) : b.Consulted b :=
  ⟨rfl, [], by simp, nofun⟩

theorem trans (h : b.Consulted b') (h' : b'.Consulted b'') : b.Consulted b'' := by
  obtain ⟨left, questions, calls, asked⟩ := h
  obtain ⟨left', questions', calls', asked'⟩ := h'
  refine ⟨left'.trans left, questions ++ questions', ?_, ?_⟩
  · rw [calls', calls, List.append_assoc]
  · intro call there
    exact (List.mem_append.1 there).elim (asked call) (asked' call)

instance : Std.Refl (Consulted (μ := μ)) := ⟨refl⟩

instance : Trans (Consulted (μ := μ)) Consulted Consulted := ⟨trans⟩

/-- A question is a call that leaves everything as it is. -/
theorem called {call : Call} (question : call.isQuestion) : b.Consulted (b.called call) :=
  ⟨rfl, [call], rfl, by simpa using question⟩

end Consulted

section Asking

variable {cloudDomain : String}

theorem consulted_loadSettings : Act.Respects Consulted (inMemory cloudDomain).loadSettings :=
  (respects_guarded (fun _ => .called rfl) fun _ => .called rfl).mapError _

theorem consulted_tokenOf (c : Connection) :
    Act.Respects Consulted ((inMemory cloudDomain).tokenOf c) := by
  unfold Registry.tokenOf SecretStore.tokenFor
  refine Act.Respects.mapError ?_ _
  cases c.storageKey with
  | none => exact Act.respects_pure none
  | some key => exact respects_guarded (fun _ => .called rfl) fun _ => .called rfl

/-- To ask a server is a question. -/
theorem consulted_cloudOrAsk (flag : Option Bool) (serverUrl : String) :
    Act.Respects Consulted ((inMemory cloudDomain).cloudOrAsk flag serverUrl) := by
  cases flag with
  | some flag => exact Act.respects_pure flag
  | none =>
      rw [Registry.cloudOrAsk, Act.respects_ofState]
      exact isCloud_leaves (fun _ _ => .called rfl) (some serverUrl)

end Asking

/-! ## Rejections before anything is written -/

/-- **Where an action rejects, the host was only consulted.** -/
def RejectsFirst (x : Act (Bench μ) ConnectionError α) : Prop :=
  ∀ b, x.Ensures b fun res b' => ∀ e, res = .error e → e.isFault = false → b.Consulted b'

/-- **An action does not reject**: if it fails, the host is at fault. -/
def OnlyFaults (x : Act (Bench μ) ConnectionError α) : Prop :=
  ∀ b, x.Ensures b fun res _ => ∀ e, res = .error e → e.isFault

theorem onlyFaults_pure (a : α) : OnlyFaults (pure a : Act (Bench μ) ConnectionError α) := by
  intro b
  rintro e ⟨⟩

theorem onlyFaults_ofState (x : StateM (Bench μ) α) : OnlyFaults (.ofState x) := by
  intro b
  rintro e ⟨⟩

/-- What a host does or refuses can only fail by a fault. -/
theorem onlyFaults_of_does {x : Act (Bench μ) ConnectionError α} {a : Bench μ → α}
    {k : Bench μ → Bench μ} (does : ∀ b, Does x b (a b) (k b)) : OnlyFaults x := by
  intro b
  refine Act.Ensures.mono (does b) ?_
  rintro _ b' ends e rfl
  exact ends.fault

/-- A sequence of such actions. -/
theorem OnlyFaults.bind {x : Act (Bench μ) ConnectionError α}
    {f : α → Act (Bench μ) ConnectionError β} (first : OnlyFaults x)
    (rest : ∀ a, OnlyFaults (f a)) : OnlyFaults (x >>= f) := by
  intro b
  refine Act.Ensures.bind (first b) (fun a b' _ => rest a b') ?_
  rintro e b' fault _ ⟨⟩
  exact fault e rfl

/-- What rejects nothing rejects nothing late. -/
theorem OnlyFaults.rejectsFirst {x : Act (Bench μ) ConnectionError α} (h : OnlyFaults x) :
    RejectsFirst x := by
  intro b
  refine (h b).mono ?_
  rintro _ b' fault e rfl rejected
  rw [fault e rfl] at rejected
  cases rejected

theorem rejectsFirst_throw (e : ConnectionError) :
    RejectsFirst (throw e : Act (Bench μ) ConnectionError α) :=
  fun b _ _ _ => .refl b

/-- Questions come first. -/
theorem RejectsFirst.after_questions {x : Act (Bench μ) ConnectionError α}
    {f : α → Act (Bench μ) ConnectionError β} (first : Act.Respects Consulted x)
    (rest : ∀ a, RejectsFirst (f a)) : RejectsFirst (x >>= f) := by
  intro b
  refine Act.Ensures.bind (first b) ?_ ?_
  · intro a b₁ here
    refine (rest a b₁).mono fun res b' there e failed rejected => ?_
    exact here.trans (there e failed rejected)
  · intro e b' here _ _ _
    exact here

/-- What follows may write, for it does not reject. -/
theorem RejectsFirst.before_faults {x : Act (Bench μ) ConnectionError α}
    {f : α → Act (Bench μ) ConnectionError β} (first : RejectsFirst x)
    (rest : ∀ a, OnlyFaults (f a)) : RejectsFirst (x >>= f) := by
  intro b
  refine Act.Ensures.bind (first b) ?_ ?_
  · intro a b₁ _
    refine (rest a b₁).mono ?_
    rintro _ b' fault e rfl rejected
    rw [fault e rfl] at rejected
    cases rejected
  · rintro e b' consulted _ ⟨⟩ rejected
    exact consulted e rfl rejected

/-- What is answered does not matter. -/
theorem RejectsFirst.map {x : Act (Bench μ) ConnectionError α} (h : RejectsFirst x)
    (f : α → β) : RejectsFirst (f <$> x) := by
  intro b
  refine Act.ensures_map.2 ((h b).mono fun res b' consulted e failed => ?_)
  exact consulted e (Act.error_of_map_eq_error failed)

end Bench

namespace Registry

variable {cloudDomain : String}

/-! ## The steps of an edit -/

/-- The checks of a new connection are questions. -/
theorem consulted_checked (c : Connection) :
    Act.Respects Consulted ((inMemory cloudDomain).checked c) := by
  unfold checked
  cases c.givenUrl? with
  | none => exact .refl
  | some serverUrl =>
      refine (consulted_cloudOrAsk c.cloudFlag serverUrl).bind fun cloud => ?_
      split
      · cases nonEmpty? c.organization <;> exact .refl
      · exact .refl

/-- The checks of a change are questions. -/
theorem consulted_changedConnection (s : Settings) (c existing : Connection) :
    Act.Respects Consulted ((inMemory cloudDomain).changedConnection s c existing) := by
  unfold changedConnection
  have url : Act.Respects Consulted (changedUrl (σ := Bench MemorySettings) c existing) := by
    unfold changedUrl
    split <;> exact .refl
  refine url.bind fun serverUrl => ?_
  refine (consulted_cloudOrAsk _ serverUrl).bind fun cloud => ?_
  split
  · exact .refl
  · dsimp only
    split <;> exact .refl

/-- To find the token that moves along is a question. -/
theorem consulted_changedToken (c existing changed : Connection) :
    Act.Respects Consulted ((inMemory cloudDomain).changedToken c existing changed) := by
  unfold changedToken
  split
  · exact Act.respects_pure _
  · split
    · exact Act.respects_pure none
    · exact consulted_tokenOf existing

/-- A token that there is no key for is rejected instead of being stored. -/
theorem rejectsFirst_storeFor (c : Connection) (token : Option String) :
    RejectsFirst ((inMemory cloudDomain).secrets.storeFor c token) := by
  unfold SecretStore.storeFor
  cases nonEmpty? token with
  | none => exact (onlyFaults_pure ()).rejectsFirst
  | some text =>
      cases c.storageKey with
      | none => exact rejectsFirst_throw _
      | some key =>
          by_cases empty : text.isEmpty
          · simp only [SecretStore.storeUnder, empty, if_true]
            exact (onlyFaults_pure ()).rejectsFirst
          · simp only [SecretStore.storeUnder, empty, if_false, Bool.false_eq_true]
            exact (onlyFaults_of_does fun b => does_store b key text).rejectsFirst

theorem onlyFaults_saveSettings (s : Settings) :
    OnlyFaults ((inMemory cloudDomain).saveSettings s) :=
  onlyFaults_of_does fun b => does_saveSettings b s

/-! ## The edits -/

/-- An addition is rejected before it stores the token. -/
theorem rejectsFirst_add (c : Connection) : RejectsFirst ((inMemory cloudDomain).add c) := by
  unfold add
  refine .after_questions (consulted_checked c) fun kept => ?_
  refine .after_questions consulted_loadSettings fun s => ?_
  split
  · exact rejectsFirst_throw _
  · refine (rejectsFirst_storeFor kept c.token).before_faults fun _ => ?_
    exact (onlyFaults_saveSettings _).bind fun _ => onlyFaults_pure kept

/-- A change is rejected before it stores the token, or for want of a key to store it under. -/
theorem rejectsFirst_update (c : Connection) :
    RejectsFirst ((inMemory cloudDomain).update c) := by
  unfold update
  refine .after_questions consulted_loadSettings fun s => ?_
  dsimp only
  split
  · exact rejectsFirst_throw _
  · next i existing _ =>
    refine .after_questions (consulted_changedConnection s c existing) fun changed => ?_
    refine .after_questions (consulted_changedToken c existing changed) fun token => ?_
    refine (rejectsFirst_storeFor changed token).before_faults fun _ => ?_
    -- The document is announced and saved only when nothing is left to reject.
    refine (onlyFaults_ofState _).bind fun _ => ?_
    refine (onlyFaults_saveSettings _).bind fun _ => ?_
    refine .bind ?_ fun _ => onlyFaults_pure changed
    unfold dropOldKey
    split
    · exact onlyFaults_pure ()
    · split
      · exact onlyFaults_pure ()
      · exact onlyFaults_of_does fun b => does_deleteUnder b _

/-- A submission rejects what the addition or the change does that it comes down to. -/
theorem rejectsFirst_submit (c : Connection) :
    RejectsFirst ((inMemory cloudDomain).submit c) := by
  unfold submit
  refine .after_questions consulted_loadSettings fun s => ?_
  split
  · exact rejectsFirst_update c.submitted
  · exact rejectsFirst_add c.submitted

/-- To remove a connection is not rejected at all. -/
theorem onlyFaults_remove (id : String) (kind : ServerKind) :
    OnlyFaults ((inMemory cloudDomain).remove id kind) := by
  unfold remove
  refine (onlyFaults_of_does does_loadSettings).bind fun s => ?_
  dsimp only
  split
  · exact onlyFaults_pure false
  · refine (onlyFaults_of_does fun b => does_dropToken b _ _).bind fun _ => ?_
    exact (onlyFaults_saveSettings _).bind fun _ => onlyFaults_pure true

/-- **Every edit rejects before it writes.** -/
theorem rejectsFirst_perform (e : Edit) : RejectsFirst ((inMemory cloudDomain).perform e) := by
  cases e with
  | add c => exact (rejectsFirst_add c).map _
  | update c => exact (rejectsFirst_update c).map _
  | submit c => exact (rejectsFirst_submit c).map _
  | remove id kind => exact (onlyFaults_remove id kind).rejectsFirst.map _

/-- **A rejected edit has no effect**, whatever else is refused: the document and the number of
times it was saved, the secrets and the announcements are as before, and the host was not even
asked to change any of them. -/
theorem consulted_of_rejected {edit : Edit} {e : ConnectionError} {b b' : Bench MemorySettings}
    (failed : ((inMemory cloudDomain).perform edit).outcome b = (.error e, b'))
    (rejection : e.isFault = false) : b.Consulted b' :=
  (rejectsFirst_perform edit b).of_outcome failed e rfl rejection

/-- An entry without an address goes to another organization, and thereby out of the cloud.
Its token was read already when there turns out to be no key to store it under. -/
theorem consulted_of_rejected_unkeyed :
    let entry : Connection := ⟨some "x", some "", some "org", some true, false, none⟩
    let b : Bench MemorySettings := .fresh (.of ⟨⟨[], [], [entry]⟩, [], []⟩) [("org", "t")]
      (.calm fun _ => true) .present
    let c : Connection := ⟨some "x", none, some "team", none, false, none⟩
    let b' := (((inMemory "codescan.io").perform (.update c)).outcome b).2
    ((inMemory "codescan.io").perform (.update c)).outcome b =
        (.error (.missingStorageKey "x"), b') ∧
      (ConnectionError.missingStorageKey "x").isFault = false ∧
        b'.calls = [.load, .get "org"] ∧ b.Consulted b' := by
  intro entry b c b'
  have failed : ((inMemory "codescan.io").perform (.update c)).outcome b =
      (.error (.missingStorageKey "x"), b') := rfl
  exact ⟨failed, rfl, rfl, consulted_of_rejected failed rfl⟩

end Registry

end ServerConnections
