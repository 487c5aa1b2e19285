import ServerConnections.Proofs.Registry.Ownership

/-!
# What an edit does where nothing is refused

A host that refuses nothing, and whose probe has one answer for every address, leaves an
edit no choice.  What is answered, and what becomes of the document and of the secrets, are
functions of what the document and the secrets were before.

The four edits share one form.  Each of them means an entry of the unified list, the first
one that fits, if there is one.  The connection that is kept takes the place of this entry,
or comes last where there is none; and where no connection is kept, the entry goes.  A token
is stored under the key that the connection has afterwards, and the secret under the key
that the entry had before is dropped, unless the key is still in use.  Indices are gone from
this form, which is what two edits in sequence need.

* `Connection.revised` — what becomes of the unified list
* `Edit.result` — what is answered
* `Edit.documentAfter`, `Edit.secretsAfter` — what is left behind
* `Registry.perform_acts` — an edit does this, and nothing else
-/

namespace ServerConnections

open Bench

/-! ## Lists -/

namespace Connection

/-- **The list with another connection in place of the first one that is meant.**  Without
another one it is taken out, and where none is meant, the other one comes last. -/
def revised (means : Connection → Bool) (new : Option Connection) :
    List Connection → List Connection
  | [] => new.toList
  | c :: cs => if means c then new.toList ++ cs else c :: revised means new cs

variable {means : Connection → Bool} {new : Option Connection} {cs : List Connection}

/-- Where no entry is meant, the new connection comes last. -/
theorem revised_of_find?_eq_none (h : cs.find? means = none) :
    revised means new cs = cs ++ new.toList := by
  induction cs with
  | nil => rfl
  | cons c cs ih =>
      rw [List.find?_eq_none] at h
      have other : means c = false := by simpa using h c List.mem_cons_self
      have rest : cs.find? means = none :=
        List.find?_eq_none.2 fun d there => h d (List.mem_cons_of_mem c there)
      rw [revised, other, ih rest]
      rfl

/-- Where an entry is meant, it is replaced at its place. -/
theorem revised_eq_set {c d : Connection} {i : Nat} (entry : cs[i]? = some c) (meant : means c)
    (first : ∀ j < i, ∀ e, cs[j]? = some e → means e = false) :
    revised means (some d) cs = cs.set i d := by
  induction cs generalizing i with
  | nil => simp at entry
  | cons e cs ih =>
      cases i with
      | zero =>
          obtain rfl : e = c := by simpa using entry
          simp [revised, meant]
      | succ i =>
          have other : means e = false := first 0 (Nat.zero_lt_succ i) e rfl
          have rest : ∀ j < i, ∀ e, cs[j]? = some e → means e = false :=
            fun j before e there =>
            first (j + 1) (Nat.succ_lt_succ before) e there
          rw [revised, other, List.set_cons_succ, ← ih (by simpa using entry) rest]
          rfl

/-- Where an entry is meant and none comes for it, it is taken out. -/
theorem revised_none_eq_eraseIdx {i : Nat} (found : cs.findIdx? means = some i) :
    revised means none cs = cs.eraseIdx i := by
  induction cs generalizing i with
  | nil => simp at found
  | cons c cs ih =>
      rw [List.findIdx?_cons] at found
      cases meant : means c with
      | true =>
          obtain rfl : 0 = i := by simpa [meant] using found
          simp [revised, meant]
      | false =>
          obtain ⟨j, later, rfl⟩ : ∃ j, cs.findIdx? means = some j ∧ j + 1 = i := by
            simpa [meant] using found
          simp [revised, meant, ih later]

end Connection

/-! ## The effect -/

/-- The connection that an answer shows, if it shows one. -/
def Answer.kept? : Answer → Option Connection
  | kept c => some c
  | removed _ => none

/-- The key of the connection that an answer shows. -/
def Answer.key (answer : Answer) : Option String := answer.kept?.bind Connection.storageKey

namespace Edit

/-- Whether an entry fits an edit.  The first one that does is the one that is meant. -/
def means : Edit → Connection → Bool
  | add _, _ => false
  | update c, entry => c.mayMean entry
  | submit c, entry => c.submitted.mayMean entry
  | remove id kind, entry => entry.isNamed kind id

variable (e : Edit) (s : Settings) (t : SecretTable)

/-- The key that the entry has which is meant. -/
def oldKey : Option String := (e.concerned? s).bind Connection.storageKey

/-- What is answered to an edit, if its token can be stored. -/
def planned (isCloud : String → Bool) : Edit → Except ConnectionError Answer
  | add c => (s.addition isCloud c).map .kept
  | update c => (s.change isCloud c).map fun ch => .kept ch.changed
  | submit c =>
    if (s.target? c.submitted).isSome then
      (s.change isCloud c.submitted).map fun ch => .kept ch.changed
    else (s.addition isCloud c.submitted).map .kept
  | remove id kind => .ok (.removed (s.connections.position? kind id).isSome)

/-- The token that is stored. -/
def storedToken (answer : Answer) : Option String :=
  answer.kept?.bind fun kept => e.givenToken.or (e.movedToken s t kept)

/-- **What is answered to an edit.** -/
def result (isCloud : String → Bool) : Except ConnectionError Answer :=
  match e.planned s isCloud with
  | .ok (.kept kept) =>
    if (e.storedToken s t (.kept kept)).isSome ∧ kept.storageKey = none then
      .error (.missingStorageKey kept.idText)
    else .ok (.kept kept)
  | planned => planned

/-- **The document after an edit** that was answered. -/
def documentAfter (answer : Answer) : Settings :=
  s.withServers (Connection.revised e.means answer.kept? s.servers)

/-- **The secrets after an edit** that was answered. -/
def secretsAfter (answer : Answer) : SecretTable :=
  (e.documentAfter s answer).dropped (e.oldKey s)
    (t.storing answer.key (e.storedToken s t answer))

/-- **An edit acts**: it has an answer, and it leaves what the answer says. -/
structure Acts (isCloud : String → Bool) (answer : Answer) (s' : Settings) (t' : SecretTable) :
    Prop where
  result : e.result s t isCloud = .ok answer
  document : s' = e.documentAfter s answer
  secrets : t' = e.secretsAfter s t answer

end Edit

/-- **An edit is answered exactly if its plan is**, and if there is a key wherever a token
is to be stored. -/
theorem Edit.result_eq_ok_iff {e : Edit} {s : Settings} {t : SecretTable}
    {isCloud : String → Bool} {answer : Answer} :
    e.result s t isCloud = .ok answer ↔ e.planned s isCloud = .ok answer ∧
      ((e.storedToken s t answer).isSome → answer.key.isSome) := by
  unfold result
  cases e.planned s isCloud with
  | error error => simp
  | ok planned =>
      cases planned with
      | removed there =>
          -- No token is stored for a connection that goes.
          constructor
          · rintro ⟨⟩
            exact ⟨rfl, nofun⟩
          · rintro ⟨⟨⟩, -⟩
            rfl
      | kept kept =>
          show (if (e.storedToken s t (.kept kept)).isSome ∧ kept.storageKey = none then _
            else _) = _ ↔ _
          by_cases unkeyed : (e.storedToken s t (.kept kept)).isSome ∧ kept.storageKey = none
          · rw [if_pos unkeyed]
            refine iff_of_false nofun ?_
            rintro ⟨⟨⟩, keyed⟩
            exact Option.isSome_iff_ne_none.1 (keyed unkeyed.1) unkeyed.2
          · rw [if_neg unkeyed]
            refine ⟨?_, And.left⟩
            rintro ⟨⟩
            refine ⟨rfl, fun filled => Option.isSome_iff_ne_none.2 fun none => ?_⟩
            exact unkeyed ⟨filled, none⟩

/-! ## The entry that is meant -/

/-- The target of a change is the first entry that its connection may mean. -/
theorem Settings.map_snd_target? (s : Settings) (c : Connection) :
    (s.target? c).map Prod.snd = s.servers.find? c.mayMean := by
  rw [target?, positionAny?_eq, List.find?_eq_bind_findIdx?_getElem?, Option.map_bind]
  congr 1
  funext i
  rw [Function.comp_apply, Option.map_map]
  exact Option.map_id'

/-- **The entry that is meant is the first one that fits**, for all edits alike. -/
theorem Edit.concerned?_eq (e : Edit) (s : Settings) :
    e.concerned? s = s.servers.find? e.means := by
  cases e with
  | add c => exact (List.find?_eq_none.2 fun _ _ => Bool.false_ne_true).symm
  | update c => exact s.map_snd_target? c
  | submit c => exact s.map_snd_target? c.submitted
  | remove id kind => rfl

/-- Where no entry is meant, none is changed. -/
theorem Edit.existing?_of_concerned {e : Edit} {s : Settings} (h : e.concerned? s = none) :
    e.existing? s = none := by
  cases existing : e.existing? s with
  | none => rfl
  | some c => simp [concerned?_of_existing existing] at h

/-! Where no entry is meant, the connection comes last. -/

section New

variable {e : Edit} {s : Settings} {t : SecretTable} {kept : Connection}
  (new : e.concerned? s = none)

include new

theorem Edit.documentAfter_of_new : e.documentAfter s (.kept kept) = s.added kept := by
  rw [documentAfter, Connection.revised_of_find?_eq_none (e.concerned?_eq s ▸ new)]
  rfl

/-- There is no token that could move along, so the one that is given is stored. -/
theorem Edit.storedToken_of_new : e.storedToken s t (.kept kept) = e.givenToken := by
  have moved : e.movedToken s t kept = none := movedToken_of_new (existing?_of_concerned new)
  rw [storedToken, Answer.kept?, Option.bind_some, moved, Option.or_none]

theorem Edit.secretsAfter_of_new :
    e.secretsAfter s t (.kept kept) = t.storing kept.storageKey e.givenToken := by
  rw [secretsAfter, oldKey, new, storedToken_of_new new]
  rfl

end New

/-! ## There is no other effect -/

/-- To store a token that is present is to store it. -/
theorem SecretTable.storing_nonEmpty? (t : SecretTable) (key token : Option String) :
    t.storing key (nonEmpty? token) = t.storing key token := by
  simp [storing]

section Ends

variable {cloudDomain : String} {k b : Bench MemorySettings} {e : Edit} {c : Connection}

/-- What an edit has done to the host `k`, by its outcome. -/
structure Edit.Performed (cloudDomain : String) (k : Bench MemorySettings) (e : Edit)
    (res : Except ConnectionError Answer) (b : Bench MemorySettings) : Prop where
  result : res = e.result k.document k.secrets (k.conditions.verdict cloudDomain 0)
  left : ∀ answer, res = .ok answer → b.document = e.documentAfter k.document answer ∧
    b.secrets = e.secretsAfter k.document k.secrets answer ∧ b.conditions = k.conditions

/-- An addition does what its effect says.  The edit is any that adds `c`: an addition
itself, or a submission that finds no entry. -/
theorem AddEnds.performed {res : Except ConnectionError Connection}
    (free : k.conditions.Unfailing) (steady : k.conditions.Steady)
    (given : e.givenToken = nonEmpty? c.token) (new : e.concerned? k.document = none)
    (planned : ∀ isCloud, e.planned k.document isCloud =
      (k.document.addition isCloud c).map .kept)
    (ends : AddEnds cloudDomain k c res b) : e.Performed cloudDomain k (res.map .kept) b := by
  cases ends with
  | refused stopped => exact stopped.elim free
  | unsaved _ stopped => exact stopped.elim free
  | rejected plan _ =>
      rw [steady.verdict] at plan
      exact ⟨by simp [Edit.result, planned, plan, Except.map], nofun⟩
  | @done n kept _ plan left =>
      have key : kept.storageKey ≠ none :=
        Option.isSome_iff_ne_none.1 (Registry.storageKey_isSome_of_addition plan)
      rw [steady.verdict] at plan
      refine ⟨by simp [Edit.result, planned, plan, Except.map, key], ?_⟩
      rintro _ ⟨⟩
      refine ⟨?_, ?_, (conditions_of_unrecorded left).trans rfl⟩
      · rw [document_of_unrecorded left, Edit.documentAfter_of_new new]
        rfl
      · rw [secrets_of_unrecorded left, Edit.secretsAfter_of_new new, given,
          SecretTable.storing_nonEmpty?]
        rfl

/-- A change does what its effect says.  The edit is any that changes the entry that `c`
means: a change itself, or a submission that finds the entry. -/
theorem UpdateEnds.performed {res : Except ConnectionError Connection}
    (free : k.conditions.Unfailing) (steady : k.conditions.Steady)
    (given : e.givenToken = nonEmpty? c.token)
    (existing : e.existing? k.document = (k.document.target? c).map Prod.snd)
    (means : e.means = c.mayMean)
    (planned : ∀ isCloud, e.planned k.document isCloud =
      (k.document.change isCloud c).map fun ch => .kept ch.changed)
    (ends : UpdateEnds cloudDomain k c res b) :
    e.Performed cloudDomain k (res.map .kept) b := by
  have stored : ∀ {ch : Change}, k.document.Allows c ch →
      e.storedToken k.document k.secrets (.kept ch.changed) =
        nonEmpty? (ch.token c k.secrets) := by
    intro ch allows
    rw [allows.target?] at existing
    exact Edit.givenToken_or_movedToken given existing
  cases ends with
  | refused stopped => exact stopped.elim free
  | @unsaved _ ch _ _ _ _ stopped =>
      exact stopped.elim ((ch.conditions_announced c k).symm ▸ free)
  | @undropped _ ch _ _ _ _ stopped =>
      exact stopped.elim ((ch.conditions_saved c k).symm ▸ free)
  | rejected plan _ =>
      rw [steady.verdict] at plan
      exact ⟨by simp [Edit.result, planned, plan, Except.map], nofun⟩
  | @unkeyed n ch _ plan filled unkeyed _ =>
      have allows := Settings.allows_of_change plan
      rw [steady.verdict] at plan
      refine ⟨?_, nofun⟩
      simp [Edit.result, planned, plan, Except.map, stored allows, filled, unkeyed]
  | @done n ch _ plan keyed left =>
      have allows := Settings.allows_of_change plan
      rw [steady.verdict] at plan
      have able : ¬ ((nonEmpty? (ch.token c k.secrets)).isSome ∧
          ch.changed.storageKey = none) := by
        rintro ⟨filled, unkeyed⟩
        simpa [unkeyed] using keyed filled
      refine ⟨by simp [Edit.result, planned, plan, Except.map, stored allows, able], ?_⟩
      rintro _ ⟨⟩
      have concerned : e.concerned? k.document = some ch.existing := by
        rw [allows.target?] at existing
        exact Edit.concerned?_of_existing existing
      have document : ch.applied k.document =
          e.documentAfter k.document (.kept ch.changed) := by
        rw [Edit.documentAfter, means, Answer.kept?,
          Connection.revised_eq_set allows.entry allows.meant allows.first]
        rfl
      refine ⟨(document_of_unrecorded left).trans document, ?_,
        (conditions_of_unrecorded left).trans (ch.conditions_finished c k)⟩
      rw [secrets_of_unrecorded left, Edit.secretsAfter, Edit.oldKey, concerned, stored allows,
        SecretTable.storing_nonEmpty?, ← document]
      rfl

theorem RemoveEnds.performed {id : String} {kind : ServerKind}
    {res : Except ConnectionError Bool}
    (free : k.conditions.Unfailing) (ends : RemoveEnds k id kind res b) :
    (Edit.remove id kind).Performed cloudDomain k (res.map .removed) b := by
  have unstored : ∀ there, (Edit.remove id kind).storedToken k.document k.secrets
      (.removed there) = none := fun _ => rfl
  cases ends with
  | refused stopped => exact stopped.elim free
  | unsaved _ _ stopped => exact stopped.elim free
  | missing absent left =>
      have nobody : k.document.connections.find? kind id = none := by
        rw [ConnectionLists.find?, List.find?_eq_none]
        intro c there
        simp [List.findIdx?_eq_none_iff.1 absent c there]
      have untouched :
          Connection.revised (Connection.isNamed kind id) none k.document.servers =
          k.document.servers :=
        (Connection.revised_of_find?_eq_none nobody).trans (List.append_nil _)
      refine ⟨by simp [Edit.result, Edit.planned, absent, Except.map], ?_⟩
      rintro _ ⟨⟩
      refine ⟨?_, ?_, (conditions_of_unrecorded left).trans rfl⟩
      · show b.document = k.document.withServers
          (Connection.revised (Connection.isNamed kind id) none k.document.servers)
        rw [untouched]
        exact document_of_unrecorded left
      · rw [secrets_of_unrecorded left, Edit.secretsAfter, Edit.oldKey, Edit.concerned?,
          nobody, unstored]
        rfl
  | @done i removed _ found entry left =>
      have without : Connection.revised (Connection.isNamed kind id) none k.document.servers =
          k.document.servers.eraseIdx i := Connection.revised_none_eq_eraseIdx found
      have document : k.document.without i =
          (Edit.remove id kind).documentAfter k.document (.removed true) := by
        show k.document.without i = k.document.withServers
          (Connection.revised (Connection.isNamed kind id) none k.document.servers)
        rw [without]
        rfl
      refine ⟨by simp [Edit.result, Edit.planned, found, Except.map], ?_⟩
      rintro _ ⟨⟩
      refine ⟨(document_of_unrecorded left).trans document, ?_,
        (conditions_of_unrecorded left).trans rfl⟩
      rw [secrets_of_unrecorded left, Edit.secretsAfter, Edit.oldKey, Edit.concerned?,
        ConnectionLists.find?_of_position? found entry, unstored, ← document]
      rfl

end Ends

namespace Registry

variable {cloudDomain : String} {b b' : Bench MemorySettings} {e : Edit} {answer : Answer}

/-- **Every edit has the outcome and the effect that were computed**, by cases on the edit. -/
theorem perform_performed (free : b.conditions.Unfailing) (steady : b.conditions.Steady)
    (e : Edit) :
    ((inMemory cloudDomain).perform e).Ensures b (e.Performed cloudDomain b.unrecorded) := by
  have calm : b.unrecorded.conditions.Unfailing := free
  have fixed : b.unrecorded.conditions.Steady := steady
  cases e with
  | add c =>
      refine Act.ensures_map.2 ((add_ends b c).mono fun _ _ ends => ?_)
      exact ends.performed calm fixed rfl rfl fun _ => rfl
  | update c =>
      refine Act.ensures_map.2 ((update_ends b c).mono fun _ _ ends => ?_)
      exact ends.performed calm fixed rfl rfl rfl fun _ => rfl
  | submit c =>
      have given : (Edit.submit c).givenToken = nonEmpty? c.submitted.token := by
        rw [Edit.givenToken, Connection.token_submitted]
      refine Act.ensures_map.2 ((submit_ends b c).mono fun _ _ ends => ?_)
      cases ends with
      | refused stopped => exact stopped.elim calm
      | updated found ends =>
          exact ends.performed calm fixed given rfl rfl fun _ => if_pos found
      | added missing ends =>
          have new : (Edit.submit c).concerned? b.unrecorded.document = none := by
            simp only [Edit.concerned?, Edit.existing?, missing, Option.map_none]
          exact ends.performed calm fixed given new fun _ => if_neg (by simp [missing])
  | remove id kind =>
      exact Act.ensures_map.2 ((remove_ends b id kind).mono fun _ _ ends =>
        ends.performed calm)

/-- **An edit that is answered acts**, on a host that refuses nothing. -/
theorem perform_acts (free : b.conditions.Unfailing) (steady : b.conditions.Steady)
    (answered : ((inMemory cloudDomain).perform e).outcome b = (.ok answer, b')) :
    e.Acts b.document b.secrets (b.conditions.verdict cloudDomain 0) answer b'.document
        b'.secrets ∧ b'.conditions = b.conditions := by
  obtain ⟨result, left⟩ := (perform_performed free steady e).of_outcome answered
  obtain ⟨document, secrets, conditions⟩ := left answer rfl
  exact ⟨⟨result.symm, document, secrets⟩, conditions⟩

/-- **An edit that may act is answered.** -/
theorem perform_of_result (free : b.conditions.Unfailing) (steady : b.conditions.Steady)
    (result : e.result b.document b.secrets (b.conditions.verdict cloudDomain 0) =
      .ok answer) :
    ∃ b', ((inMemory cloudDomain).perform e).outcome b = (.ok answer, b') := by
  have performed : e.Performed cloudDomain b.unrecorded _ _ := perform_performed free steady e
  exact ⟨_, Prod.ext (performed.result.trans result) rfl⟩

end Registry

end ServerConnections
