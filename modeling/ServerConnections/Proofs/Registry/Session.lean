import ServerConnections.Proofs.Registry.Endings
import ServerConnections.Registry.Migration

/-!
# Sessions and dialogues

A session is a run of edits, each given by a caller who may give anything at all.  In a
dialogue anything that can be asked of a registry is asked: edits, migrations and questions,
each of them on the host that the one before has left, whether it was answered or not.

`Edit.Ends` puts the endings of the edits together, a submission being an addition or a change.
What is true of every edit is proved by cases on it.  An edit can do four things to the
settings document, whatever is refused on the way: leave it as it is, append one connection,
change one, or take one out.  `Settings.Edited` lists them, with all that is known of the
connection concerned.

* `Edit`, `Registry.perform`, `Registry.session` — an edit, what it does, and a run of edits
* `Operation`, `Registry.serve`, `Registry.dialogue` — the same for all that can be asked
* `Edit.Ends`, `Registry.perform_ends` — how an edit ends
* `Settings.Edited` — all that an edit can do to a document
* `Registry.perform_edited` — every edit does one of these
-/

namespace ServerConnections

open Bench

/-- A change that a caller asks for. -/
inductive Edit where
  | add (c : Connection)
  | update (c : Connection)
  | submit (c : Connection)
  | remove (id : String) (kind : ServerKind)
deriving DecidableEq, Repr

/-- What is answered to an edit. -/
inductive Answer where
  /-- The connection as it is kept. -/
  | kept (c : Connection)
  /-- Whether the connection was there. -/
  | removed (there : Bool)
deriving DecidableEq, Repr

/-- What can be asked of a registry: the edits, a migration, and the questions. -/
inductive Operation where
  | edit (e : Edit)
  | migrate
  | list (kind : ServerKind)
  | find (kind : ServerKind) (id : String)
  | findByOrganization (organization : String)
  | tokenUnder (key : String)
  | hasUnmigrated
deriving DecidableEq, Repr

/-- What is answered to an operation. -/
inductive Reply where
  | edited (answer : Answer)
  | migrated (report : MigrationReport)
  | connections (cs : List Connection)
  | connection (c : Option Connection)
  | token (token : Option String)
  | unmigrated (there : Bool)
deriving DecidableEq, Repr

namespace Registry

variable {σ : Type} (r : Registry σ)

/-- Does what a caller asks for. -/
def perform : Edit → Act σ ConnectionError Answer
  | .add c => .kept <$> r.add c
  | .update c => .kept <$> r.update c
  | .submit c => .kept <$> r.submit c
  | .remove id kind => .removed <$> r.remove id kind

/-- **A session**: the outcomes of edits, one after the other. -/
def session (edits : List Edit) : σ → List (Except ConnectionError Answer × σ) :=
  Act.outcomes (edits.map r.perform)

/-- Does what is asked for. -/
def serve : Operation → Act σ ConnectionError Reply
  | .edit e => .edited <$> r.perform e
  | .migrate => .migrated <$> r.migrate
  | .list kind => .connections <$> r.list kind
  | .find kind id => .connection <$> r.find kind id
  | .findByOrganization organization => .connection <$> r.findByOrganization organization
  | .tokenUnder key => .token <$> r.tokenUnder key
  | .hasUnmigrated => .unmigrated <$> r.hasUnmigrated

/-- **A dialogue**: the outcomes of operations, one after the other. -/
def dialogue (operations : List Operation) : σ → List (Except ConnectionError Reply × σ) :=
  Act.outcomes (operations.map r.serve)

end Registry

/-! ## How an edit ends -/

namespace Edit

/-- The token that the caller gave. -/
def givenToken : Edit → Option String
  | add c | update c | submit c => nonEmpty? c.token
  | remove _ _ => none

/-- The entry that is changed, if one is. -/
def existing? (s : Settings) : Edit → Option Connection
  | update c => (s.target? c).map Prod.snd
  | submit c => (s.target? c.submitted).map Prod.snd
  | add _ | remove _ _ => none

/-- **How an edit ends**: as an addition, a change or a removal.  A submission is an
addition or a change of the connection as submitted, unless the document could not
be loaded to tell which. -/
inductive Ends (cloudDomain : String) (k : Bench MemorySettings) (e : Edit) :
    Except ConnectionError Answer → Bench MemorySettings → Prop
  | refused {error : ConnectionError} {b : Bench MemorySettings}
      (stopped : k.Stopped error b) :
      Ends cloudDomain k e (.error error) b
  | added {c : Connection} {res : Except ConnectionError Connection} {b : Bench MemorySettings}
      (given : e.givenToken = nonEmpty? c.token) (new : e.existing? k.document = none)
      (ends : AddEnds cloudDomain k c res b) : Ends cloudDomain k e (res.map .kept) b
  | changed {c : Connection} {res : Except ConnectionError Connection}
      {b : Bench MemorySettings}
      (given : e.givenToken = nonEmpty? c.token)
      (existing : e.existing? k.document = (k.document.target? c).map Prod.snd)
      (ends : UpdateEnds cloudDomain k c res b) : Ends cloudDomain k e (res.map .kept) b
  | removed {id : String} {kind : ServerKind} {res : Except ConnectionError Bool}
      {b : Bench MemorySettings} (asked : e = .remove id kind)
      (ends : RemoveEnds k id kind res b) : Ends cloudDomain k e (res.map .removed) b

end Edit

/-- The default id is all that a submission adds. -/
@[simp] theorem Connection.token_submitted (c : Connection) : c.submitted.token = c.token := by
  cases given : nonEmpty? c.id <;> simp [submitted, given, withId]

/-- A submission ends as the addition or the change that it comes down to. -/
theorem SubmitEnds.ends {cloudDomain : String} {k b : Bench MemorySettings} {c : Connection}
    {res : Except ConnectionError Connection} (ends : SubmitEnds cloudDomain k c res b) :
    (Edit.submit c).Ends cloudDomain k (res.map .kept) b := by
  have given : (Edit.submit c).givenToken = nonEmpty? c.submitted.token := by
    rw [Edit.givenToken, Connection.token_submitted]
  cases ends with
  | refused stopped => exact .refused stopped
  | updated found ends => exact .changed given rfl ends
  | added missing ends => exact .added given (by rw [Edit.existing?, missing]; rfl) ends

/-- **Every edit ends in one of these ways**, on any host. -/
theorem Registry.perform_ends {cloudDomain : String} (b : Bench MemorySettings) (e : Edit) :
    ((inMemory cloudDomain).perform e).Ensures b (e.Ends cloudDomain b.unrecorded) := by
  cases e with
  | add c => exact Act.ensures_map.2 ((add_ends b c).mono fun _ _ => .added rfl rfl)
  | update c => exact Act.ensures_map.2 ((update_ends b c).mono fun _ _ => .changed rfl rfl)
  | submit c => exact Act.ensures_map.2 ((submit_ends b c).mono fun _ _ => SubmitEnds.ends)
  | remove id kind =>
      exact Act.ensures_map.2 ((remove_ends b id kind).mono fun _ _ => .removed rfl)

/-! ## What an edit does to the document -/

/-- **All that an edit can do to a document.** -/
inductive Settings.Edited (s : Settings) : Settings → Prop
  | same : s.Edited s
  | added {c kept : Connection} (admits : s.Admits c kept) : s.Edited (s.added kept)
  | changed {c : Connection} {ch : Change} (allows : s.Allows c ch) : s.Edited (ch.applied s)
  | removed {i : Nat} : s.Edited (s.without i)

section Ends

variable {cloudDomain : String} {k b : Bench MemorySettings} {c : Connection}

theorem Bench.Stopped.document {e : ConnectionError} (stopped : k.Stopped e b) :
    b.document = k.document :=
  document_of_unrecorded stopped.left

/-- An addition appends one connection, or leaves the document as it is. -/
theorem AddEnds.edited {res : Except ConnectionError Connection}
    (ends : AddEnds cloudDomain k c res b) : k.document.Edited b.document := by
  cases ends with
  | refused stopped => exact stopped.document ▸ .same
  | rejected _ left => exact document_of_unrecorded left ▸ .same
  | unsaved _ stopped => exact stopped.document ▸ .same
  | done plan left =>
      exact document_of_unrecorded left ▸ .added (Settings.admits_of_addition plan)

/-- To announce a change is nothing to the document. -/
theorem Change.document_announced (ch : Change) (c : Connection) (k : Bench MemorySettings) :
    (ch.announced c k).document = k.document := by
  simp [announced, Bench.document, withSecrets]

/-- A change replaces the entry that is meant, or leaves the document as it is.  The entry
stays replaced if the old secret cannot be dropped afterwards. -/
theorem UpdateEnds.edited {res : Except ConnectionError Connection}
    (ends : UpdateEnds cloudDomain k c res b) : k.document.Edited b.document := by
  cases ends with
  | refused stopped => exact stopped.document ▸ .same
  | rejected _ left => exact document_of_unrecorded left ▸ .same
  | unkeyed _ _ _ left => exact document_of_unrecorded left ▸ .same
  | unsaved _ _ stopped =>
      rw [stopped.document, Change.document_announced]
      exact .same
  | undropped plan _ stopped =>
      exact stopped.document ▸ .changed (Settings.allows_of_change plan)
  | done plan _ left =>
      exact document_of_unrecorded left ▸ .changed (Settings.allows_of_change plan)

/-- A removal takes one entry out, or leaves the document as it is. -/
theorem RemoveEnds.edited {id : String} {kind : ServerKind} {res : Except ConnectionError Bool}
    (ends : RemoveEnds k id kind res b) : k.document.Edited b.document := by
  cases ends with
  | refused stopped => exact stopped.document ▸ .same
  | missing _ left => exact document_of_unrecorded left ▸ .same
  | unsaved _ _ stopped => exact stopped.document ▸ .same
  | done _ _ left => exact document_of_unrecorded left ▸ .removed

end Ends

/-! ## When a token has no key -/

/-- A new connection always has a key: it has an address, and an organization where it needs
one. -/
theorem Settings.addition_ne_missingStorageKey (s : Settings) (isCloud : String → Bool)
    (c : Connection) (id : String) :
    s.addition isCloud c ≠ .error (.missingStorageKey id) := by
  intro plan
  unfold addition Connection.checkedBy at plan
  cases url : c.givenUrl? with
  | none => simp [url, Except.bind] at plan
  | some serverUrl =>
      simp only [url] at plan
      grind [Except.bind]

/-- The checks of a change do not ask for a key. -/
theorem Settings.change_ne_missingStorageKey (s : Settings) (isCloud : String → Bool)
    (c : Connection) (id : String) : s.change isCloud c ≠ .error (.missingStorageKey id) := by
  intro plan
  unfold change changedBy at plan
  grind [Except.map]

/-- Whether some change is allowed that would leave its connection without a key. -/
def Settings.LosesKey (s : Settings) : Prop :=
  ∃ c ch, s.Allows c ch ∧ ch.changed.storageKey = none

section Ends

variable {cloudDomain : String} {k b : Bench MemorySettings} {c : Connection} {id : String}

theorem Bench.Stopped.not_missingStorageKey (stopped : k.Stopped (.missingStorageKey id) b) :
    False :=
  Bool.false_ne_true stopped.fault

/-- An addition never fails for want of a key. -/
theorem AddEnds.not_missingStorageKey
    (ends : AddEnds cloudDomain k c (.error (.missingStorageKey id)) b) : False := by
  cases ends with
  | refused stopped => exact stopped.not_missingStorageKey
  | rejected plan _ => exact Settings.addition_ne_missingStorageKey _ _ _ _ plan
  | unsaved _ stopped => exact stopped.not_missingStorageKey

/-- A change fails for want of a key only where it is allowed and leaves its connection
without one. -/
theorem UpdateEnds.losesKey
    (ends : UpdateEnds cloudDomain k c (.error (.missingStorageKey id)) b) :
    k.document.LosesKey := by
  cases ends with
  | refused stopped => exact stopped.not_missingStorageKey.elim
  | rejected plan _ => exact (Settings.change_ne_missingStorageKey _ _ _ _ plan).elim
  | unkeyed plan _ unkeyed _ => exact ⟨c, _, Settings.allows_of_change plan, unkeyed⟩
  | unsaved _ _ stopped => exact stopped.not_missingStorageKey.elim
  | undropped _ _ stopped => exact stopped.not_missingStorageKey.elim

theorem RemoveEnds.not_missingStorageKey {name : String} {kind : ServerKind}
    (ends : RemoveEnds k name kind (.error (.missingStorageKey id)) b) : False := by
  cases ends with
  | refused stopped => exact stopped.not_missingStorageKey
  | unsaved _ _ stopped => exact stopped.not_missingStorageKey

end Ends

namespace Registry

variable {cloudDomain : String}

/-- **Every edit does to the document what edits can do.**  It fails for want of a
key only where an allowed change leaves its connection without one. -/
theorem perform_edited (b : Bench MemorySettings) (edit : Edit) :
    ((inMemory cloudDomain).perform edit).Ensures b fun res b' =>
      b.document.Edited b'.document ∧
        ((∃ id, res = .error (.missingStorageKey id)) → b.document.LosesKey) := by
  refine (perform_ends b edit).mono fun res b' ends => ?_
  cases ends with
  | refused stopped =>
      refine ⟨stopped.document ▸ .same, ?_⟩
      rintro ⟨id, ⟨⟩⟩
      exact stopped.not_missingStorageKey.elim
  | added _ _ ends =>
      refine ⟨ends.edited, ?_⟩
      rintro ⟨id, failed⟩
      exact ((Act.error_of_map_eq_error failed ▸ ends).not_missingStorageKey).elim
  | changed _ _ ends =>
      refine ⟨ends.edited, ?_⟩
      rintro ⟨id, failed⟩
      exact (Act.error_of_map_eq_error failed ▸ ends).losesKey
  | removed _ ends =>
      refine ⟨ends.edited, ?_⟩
      rintro ⟨id, failed⟩
      exact ((Act.error_of_map_eq_error failed ▸ ends).not_missingStorageKey).elim

end Registry

end ServerConnections
