import ServerConnections.Proofs.Registry.Steps

/-!
# How changes end

Adding, changing and removing a connection make several calls, one after the
other, and any of them may be refused.  What a host is left with depends on which
one was.  Each operation has a relation here that lists all of its endings, by the
answer and the host left behind: `AddEnds`, `UpdateEnds`, `SubmitEnds` and
`RemoveEnds`.  The host `k` at which it starts is one without its record of calls.

The plan of an operation is the same in all of its endings; they differ in how far
it was carried out.  An ending that a refusal has brought about says where the
host stood at that moment, as `Bench.Stopped` of that host.

A change is decided on after one call, so that its plan is known from the start.  What is left
then is to carry it out, and `Change.Ends` lists how this ends.

* `Registry.update_eq` — a change is decided on and then carried out
* `Registry.add_ends`, `Registry.update_ends`, `Registry.submit_ends`,
  `Registry.remove_ends` — there are no other endings
* `Registry.update_ends_of_plan` — how a change ends, given its plan
-/

namespace ServerConnections

open Bench

/-! ## Hosts on the way -/

namespace Change

variable (ch : Change) (c : Connection) (k : Bench MemorySettings)

/-- The host once the token of a changed connection is stored and announced. -/
def announced : Bench MemorySettings :=
  (k.withSecrets (ch.stored c k.secrets)).told ⟨c.idText, ch.changed.kind⟩

/-- The host once the changed document is saved, too. -/
def saved : Bench MemorySettings :=
  (ch.announced c k).saved (ch.applied k.document)

@[simp] theorem secrets_saved : (ch.saved c k).secrets = ch.stored c k.secrets :=
  secrets_told _ _

/-- The host once the old key is dropped, too. -/
def finished : Bench MemorySettings :=
  (ch.saved c k).withSecrets
    ((ch.applied k.document).dropped ch.existing.storageKey (ch.stored c k.secrets))

-- What is refused on the host, and what its probe answers, is not up to a change.

@[simp] theorem conditions_announced : (ch.announced c k).conditions = k.conditions :=
  conditions_told _ _

@[simp] theorem conditions_saved : (ch.saved c k).conditions = k.conditions :=
  ch.conditions_announced c k

@[simp] theorem conditions_finished : (ch.finished c k).conditions = k.conditions :=
  ch.conditions_saved c k

end Change

namespace Registry

variable {σ : Type} (r : Registry σ)

/-- What a change does once it was decided on. -/
def carriedOut (s : Settings) (c : Connection) (ch : Change) :
    Act σ ConnectionError Connection := do
  let token ← r.changedToken c ch.existing ch.changed
  r.secrets.storeFor ch.changed token
  .ofState (r.announce ⟨c.idText, ch.changed.kind⟩)
  r.saveSettings (ch.applied s)
  r.dropOldKey (ch.applied s) ch.existing ch.changed
  return ch.changed

/-- **A change is decided on and then carried out**, if there is a connection to change. -/
theorem update_eq (c : Connection) :
    r.update c = r.loadSettings >>= fun s =>
      match s.target? c with
      | none => throw (.notFound c.idText)
      | some (i, existing) => r.changedConnection s c existing >>= fun changed =>
          r.carriedOut s c ⟨i, existing, changed⟩ :=
  rfl

end Registry

/-! ## Endings -/

section Endings

variable (cloudDomain : String) (k : Bench MemorySettings) (c : Connection)

/-- **How adding a connection ends.** -/
inductive AddEnds : Except ConnectionError Connection → Bench MemorySettings → Prop
  | refused {e : ConnectionError} {b : Bench MemorySettings} (stopped : k.Stopped e b) :
      AddEnds (.error e) b
  | rejected {n : Nat} {e : ConnectionError} {b : Bench MemorySettings}
      (plan : k.document.addition (k.conditions.verdict cloudDomain n) c = .error e)
      (left : b.unrecorded = k) : AddEnds (.error e) b
  | unsaved {n : Nat} {kept : Connection} {e : ConnectionError} {b : Bench MemorySettings}
      (plan : k.document.addition (k.conditions.verdict cloudDomain n) c = .ok kept)
      (stopped : (k.withSecrets (k.secrets.storing kept.storageKey c.token)).Stopped e b) :
      AddEnds (.error e) b
  | done {n : Nat} {kept : Connection} {b : Bench MemorySettings}
      (plan : k.document.addition (k.conditions.verdict cloudDomain n) c = .ok kept)
      (left : b.unrecorded =
        (k.withSecrets (k.secrets.storing kept.storageKey c.token)).saved
          (k.document.added kept)) : AddEnds (.ok kept) b

/-- **How changing a connection ends.** -/
inductive UpdateEnds : Except ConnectionError Connection → Bench MemorySettings → Prop
  | refused {e : ConnectionError} {b : Bench MemorySettings} (stopped : k.Stopped e b) :
      UpdateEnds (.error e) b
  | rejected {n : Nat} {e : ConnectionError} {b : Bench MemorySettings}
      (plan : k.document.change (k.conditions.verdict cloudDomain n) c = .error e)
      (left : b.unrecorded = k) : UpdateEnds (.error e) b
  /-- There is a token, but no key that it could be stored under. -/
  | unkeyed {n : Nat} {ch : Change} {b : Bench MemorySettings}
      (plan : k.document.change (k.conditions.verdict cloudDomain n) c = .ok ch)
      (given : (nonEmpty? (ch.token c k.secrets)).isSome)
      (unkeyed : ch.changed.storageKey = none)
      (left : b.unrecorded = k) : UpdateEnds (.error (.missingStorageKey ch.changed.idText)) b
  | unsaved {n : Nat} {ch : Change} {e : ConnectionError} {b : Bench MemorySettings}
      (plan : k.document.change (k.conditions.verdict cloudDomain n) c = .ok ch)
      (keyed : (nonEmpty? (ch.token c k.secrets)).isSome → ch.changed.storageKey.isSome)
      (stopped : (ch.announced c k).Stopped e b) : UpdateEnds (.error e) b
  /-- The change was saved, but its old key could not be dropped. -/
  | undropped {n : Nat} {ch : Change} {e : ConnectionError} {b : Bench MemorySettings}
      (plan : k.document.change (k.conditions.verdict cloudDomain n) c = .ok ch)
      (keyed : (nonEmpty? (ch.token c k.secrets)).isSome → ch.changed.storageKey.isSome)
      (stopped : (ch.saved c k).Stopped e b)
      (kept : ∃ key, ch.existing.storageKey = some key ∧
        (ch.applied k.document).usesKey key = false ∧ b.Undeleted key e) :
      UpdateEnds (.error e) b
  | done {n : Nat} {ch : Change} {b : Bench MemorySettings}
      (plan : k.document.change (k.conditions.verdict cloudDomain n) c = .ok ch)
      (keyed : (nonEmpty? (ch.token c k.secrets)).isSome → ch.changed.storageKey.isSome)
      (left : b.unrecorded = ch.finished c k) : UpdateEnds (.ok ch.changed) b

/-- **How carrying out a change ends**, once it was decided on. -/
inductive Change.Ends (ch : Change) (c : Connection) (k : Bench MemorySettings) :
    Except ConnectionError Connection → Bench MemorySettings → Prop
  | refused {e : ConnectionError} {b : Bench MemorySettings} (stopped : k.Stopped e b) :
      Ends ch c k (.error e) b
  | unkeyed {b : Bench MemorySettings} (given : (nonEmpty? (ch.token c k.secrets)).isSome)
      (unkeyed : ch.changed.storageKey = none) (left : b.unrecorded = k) :
      Ends ch c k (.error (.missingStorageKey ch.changed.idText)) b
  | unsaved {e : ConnectionError} {b : Bench MemorySettings}
      (keyed : (nonEmpty? (ch.token c k.secrets)).isSome → ch.changed.storageKey.isSome)
      (stopped : (ch.announced c k).Stopped e b) : Ends ch c k (.error e) b
  | undropped {e : ConnectionError} {b : Bench MemorySettings}
      (keyed : (nonEmpty? (ch.token c k.secrets)).isSome → ch.changed.storageKey.isSome)
      (stopped : (ch.saved c k).Stopped e b)
      (kept : ∃ key, ch.existing.storageKey = some key ∧
        (ch.applied k.document).usesKey key = false ∧ b.Undeleted key e) :
      Ends ch c k (.error e) b
  | done {b : Bench MemorySettings}
      (keyed : (nonEmpty? (ch.token c k.secrets)).isSome → ch.changed.storageKey.isSome)
      (left : b.unrecorded = ch.finished c k) : Ends ch c k (.ok ch.changed) b

/-- **How submitting a connection ends**: like a change if there is a connection
to change, and like an addition if there is none. -/
inductive SubmitEnds : Except ConnectionError Connection → Bench MemorySettings → Prop
  | refused {e : ConnectionError} {b : Bench MemorySettings} (stopped : k.Stopped e b) :
      SubmitEnds (.error e) b
  | updated {res : Except ConnectionError Connection} {b : Bench MemorySettings}
      (found : (k.document.target? c.submitted).isSome)
      (ends : UpdateEnds cloudDomain k c.submitted res b) : SubmitEnds res b
  | added {res : Except ConnectionError Connection} {b : Bench MemorySettings}
      (missing : k.document.target? c.submitted = none)
      (ends : AddEnds cloudDomain k c.submitted res b) : SubmitEnds res b

end Endings

/-- **How removing a connection ends.** -/
inductive RemoveEnds (k : Bench MemorySettings) (id : String) (kind : ServerKind) :
    Except ConnectionError Bool → Bench MemorySettings → Prop
  | refused {e : ConnectionError} {b : Bench MemorySettings} (stopped : k.Stopped e b) :
      RemoveEnds k id kind (.error e) b
  | missing {b : Bench MemorySettings}
      (absent : k.document.connections.position? kind id = none)
      (left : b.unrecorded = k) : RemoveEnds k id kind (.ok false) b
  | unsaved {i : Nat} {removed : Connection} {e : ConnectionError} {b : Bench MemorySettings}
      (found : k.document.connections.position? kind id = some i)
      (entry : k.document.servers[i]? = some removed)
      (stopped : (k.withSecrets ((k.document.without i).dropped removed.storageKey
        k.secrets)).Stopped e b) : RemoveEnds k id kind (.error e) b
  | done {i : Nat} {removed : Connection} {b : Bench MemorySettings}
      (found : k.document.connections.position? kind id = some i)
      (entry : k.document.servers[i]? = some removed)
      (left : b.unrecorded = (k.withSecrets ((k.document.without i).dropped removed.storageKey
        k.secrets)).saved (k.document.without i)) : RemoveEnds k id kind (.ok true) b

namespace Registry

variable {cloudDomain : String} (b : Bench MemorySettings)

/-! ## There are no other endings -/

/-- A planned addition has a key for its token. -/
theorem storageKey_isSome_of_addition {s : Settings} {isCloud : String → Bool}
    {c kept : Connection} (plan : s.addition isCloud c = .ok kept) :
    kept.storageKey.isSome := by
  have admits := Settings.admits_of_addition plan
  cases cloud : kept.isCloud with
  | true =>
      rw [Connection.storageKey_of_cloud cloud, admits.organization]
      simpa [cloud] using admits.organization_isSome cloud
  | false =>
      have given := admits.serverUrl_isSome
      rw [Connection.storageKey_of_not_cloud cloud, admits.serverUrl]
      rw [Connection.givenUrl?] at given ⊢
      rwa [nonEmpty?_nonEmpty?]

/-- **An addition ends in one of these ways**, call by call. -/
theorem add_ends (c : Connection) :
    ((inMemory cloudDomain).add c).Ensures b (AddEnds cloudDomain b.unrecorded c) := by
  unfold add
  refine Act.Ensures.bind (checked_ensures b c) ?_ ?_
  · rintro kept b₁ ⟨left₁, n, checks⟩
    refine (does_loadSettings b₁).bind ?_ fun e b' stopped => .refused (left₁ ▸ stopped)
    intro b₂ left₂
    rw [left₁] at left₂
    have document : b₁.document = b.unrecorded.document := document_of_unrecorded left₁
    -- The checks came before the document was loaded, and both are part of the plan.
    have planned :
        b.unrecorded.document.addition (b.unrecorded.conditions.verdict cloudDomain n) c
        = if (b₁.document.connections.position? kept.kind kept.idText).isSome then
            .error (.alreadyExists kept.kind kept.idText) else .ok kept := by
      rw [document, Settings.addition]
      simp only [unrecorded] at checks ⊢
      rw [← checks]
      rfl
    by_cases taken : (b₁.document.connections.position? kept.kind kept.idText).isSome
    · simp only [taken, if_true] at planned ⊢
      exact .rejected planned left₂
    · simp only [taken, if_false, Bool.false_eq_true] at planned ⊢
      refine (does_storeFor b₂ fun _ => storageKey_isSome_of_addition planned).bind ?_
        fun e b' stopped => .refused (left₂ ▸ stopped)
      intro b₃ left₃
      rw [left₂, secrets_of_unrecorded left₂] at left₃
      rw [document]
      refine (does_saveSettings b₃ _).bind ?_ fun e b' stopped =>
        .unsaved planned (left₃ ▸ stopped)
      intro b₄ left₄
      rw [left₃] at left₄
      exact .done planned left₄
  · rintro e b' ⟨left, n, checks⟩
    refine .rejected (n := n) ?_ left
    rw [Settings.addition]
    simp only [unrecorded]
    rw [← checks]
    rfl

/-- A change that was decided on is carried out from a host that differs from the
first one in its record of calls only. -/
theorem carriedOut_ends (c : Connection) {b₁ : Bench MemorySettings}
    (left₁ : b₁.unrecorded = b.unrecorded) {ch : Change} (allows : b.document.Allows c ch) :
    ((inMemory cloudDomain).carriedOut b.document c ch).Ensures b₁
      (ch.Ends c b.unrecorded) := by
  unfold carriedOut
  refine (does_changedToken b₁ c ch).bind ?_ fun e b' stopped => .refused (left₁ ▸ stopped)
  intro b₂ left₂
  rw [left₁] at left₂
  rw [secrets_of_unrecorded left₁]
  -- From here on a token that is to be stored has a key, or there was an error.
  by_cases unkeyed : (nonEmpty? (ch.token c b.unrecorded.secrets)).isSome ∧
      ch.changed.storageKey = none
  · rw [storeFor_of_unkeyed _ unkeyed.1 unkeyed.2]
    exact .unkeyed unkeyed.1 unkeyed.2 left₂
  · have keyed : (nonEmpty? (ch.token c b.unrecorded.secrets)).isSome →
        ch.changed.storageKey.isSome := fun given =>
      Option.isSome_iff_ne_none.2 fun none => unkeyed ⟨given, none⟩
    refine (does_storeFor b₂ keyed).bind ?_ fun e b' stopped => .refused (left₂ ▸ stopped)
    intro b₃ left₃
    rw [left₂, secrets_of_unrecorded left₂] at left₃
    refine (answers_announce b₃ _).bind ?_
    intro b₄ left₄
    replace left₄ : b₄.unrecorded = ch.announced c b.unrecorded := by
      rw [left₄, left₃]
      rfl
    refine (does_saveSettings b₄ _).bind ?_
      fun e b' stopped => .unsaved keyed (left₄ ▸ stopped)
    intro b₅ left₅
    replace left₅ : b₅.unrecorded = ch.saved c b.unrecorded := by
      rw [left₅, left₄]
      rfl
    refine Act.Ensures.bind (Act.Ensures.and (does_dropOldKey b₅ allows.changed_mem)
      (undeleted_of_dropOldKey b₅ _ _ _)) ?_ ?_
    · rintro _ b₆ ⟨⟨-, left₆⟩, -⟩
      rw [left₅, secrets_of_unrecorded left₅, Change.secrets_saved] at left₆
      exact .done keyed left₆
    · rintro e b' ⟨stopped, kept⟩
      exact .undropped keyed (left₅ ▸ stopped) (kept e rfl)

/-- **A change is decided on once the document is loaded**, by the verdict of that moment, and
then it is carried out. -/
theorem update_ends_of_plan (c : Connection) :
    ((inMemory cloudDomain).update c).Ensures b fun res b' =>
      (∃ e, res = .error e ∧ b.unrecorded.Stopped e b') ∨
        match b.document.change (b.conditions.verdict cloudDomain (b.time + 1)) c with
        | .error e => res = .error e ∧ b'.unrecorded = b.unrecorded
        | .ok ch => ch.Ends c b.unrecorded res b' := by
  have one : (inMemory cloudDomain).loadSettings.Ensures b fun _ b₁ => b₁.time = b.time + 1 :=
    ensures_loadSettings b (fun _ _ => time_called b .load) fun _ => time_called b .load
  rw [update_eq]
  refine Act.Ensures.bind (Act.Ensures.and (does_loadSettings b) one) ?_
    fun e b' stopped => .inl ⟨e, rfl, stopped.1⟩
  rintro _ b₁ ⟨⟨rfl, left₁⟩, time⟩
  have conditions : b₁.conditions = b.conditions := (conditions_of_unrecorded left₁).trans rfl
  cases target : b.document.target? c with
  | none =>
      have plan : b.document.change (b.conditions.verdict cloudDomain (b.time + 1)) c =
          .error (.notFound c.idText) := by simp [Settings.change, target]
      rw [plan]
      exact .inr ⟨rfl, left₁⟩
  | some meant =>
      obtain ⟨i, existing⟩ := meant
      have decided := @changedConnection_ensures cloudDomain b₁ b.document c existing
      rw [conditions, time, left₁] at decided
      refine Act.Ensures.bind decided ?_ ?_
      · rintro changed b₂ ⟨left₂, become⟩
        have plan : b.document.change (b.conditions.verdict cloudDomain (b.time + 1)) c =
            .ok ⟨i, existing, changed⟩ := by
          simp only [Settings.change, target]
          exact become ▸ rfl
        rw [plan]
        refine (carriedOut_ends b c left₂ (Settings.allows_of_change plan)).mono ?_
        exact fun res b' ends => .inr ends
      · rintro e b₂ ⟨left₂, become⟩
        have plan : b.document.change (b.conditions.verdict cloudDomain (b.time + 1)) c =
            .error e := by
          simp only [Settings.change, target]
          exact become ▸ rfl
        rw [plan]
        exact .inr ⟨rfl, left₂⟩

/-- **A change ends in one of these ways.** -/
theorem update_ends (c : Connection) :
    ((inMemory cloudDomain).update c).Ensures b (UpdateEnds cloudDomain b.unrecorded c) := by
  refine (update_ends_of_plan b c).mono fun res b' ends => ?_
  rcases ends with ⟨e, rfl, stopped⟩ | ends
  · exact .refused stopped
  cases plan : b.document.change (b.conditions.verdict cloudDomain (b.time + 1)) c with
  | error e =>
      rw [plan] at ends
      obtain ⟨rfl, left⟩ := ends
      exact .rejected plan left
  | ok ch =>
      rw [plan] at ends
      cases ends with
      | refused stopped => exact .refused stopped
      | unkeyed given unkeyed left => exact .unkeyed plan given unkeyed left
      | unsaved keyed stopped => exact .unsaved plan keyed stopped
      | undropped keyed stopped kept => exact .undropped plan keyed stopped kept
      | done keyed left => exact .done plan keyed left

/-- **A submission ends as an addition or as a change.** -/
theorem submit_ends (c : Connection) :
    ((inMemory cloudDomain).submit c).Ensures b (SubmitEnds cloudDomain b.unrecorded c) := by
  unfold submit
  refine (does_loadSettings b).bind ?_ fun e b' stopped => .refused stopped
  intro b₁ left₁
  -- Either operation loads the document again, and finds the one that was looked at here.
  have same := Settings.target?_isSome b.unrecorded.document c.submitted
  by_cases found : (b.document.connections.positionAny? c.submitted.askedKind
      c.submitted.idText).isSome
  · simp only [found, if_true]
    refine (update_ends b₁ c.submitted).mono fun res b' ends => ?_
    exact .updated (same.trans found) (left₁ ▸ ends)
  · simp only [found, Bool.false_eq_true, if_false]
    refine (add_ends b₁ c.submitted).mono fun res b' ends => ?_
    refine .added ?_ (left₁ ▸ ends)
    rw [← Option.not_isSome_iff_eq_none, same]
    exact found

/-- **A removal ends in one of these ways.** -/
theorem remove_ends (id : String) (kind : ServerKind) :
    ((inMemory cloudDomain).remove id kind).Ensures b (RemoveEnds b.unrecorded id kind) := by
  unfold remove
  refine (does_loadSettings b).bind ?_ fun e b' stopped => .refused stopped
  intro b₁ left₁
  cases found : b.document.connections.position? kind id with
  | none => exact .missing found left₁
  | some i =>
      obtain ⟨bound, -⟩ := List.findIdx?_eq_some_iff_getElem.1 found
      have entry : b.document.servers[i]? = some b.document.servers[i] :=
        List.getElem?_eq_getElem bound
      simp only [Option.bind_some, entry, Option.map_some]
      refine (does_dropToken b₁ _ _).bind ?_ fun e b' stopped => .refused (left₁ ▸ stopped)
      intro b₂ left₂
      rw [left₁, secrets_of_unrecorded left₁] at left₂
      refine (does_saveSettings b₂ _).bind ?_
        fun e b' stopped => .unsaved found entry (left₂ ▸ stopped)
      intro b₃ left₃
      rw [left₂] at left₃
      exact .done found entry left₃

end Registry

end ServerConnections
