import ServerConnections.Proofs.Registry.Failure

/-!
# What an operation leaves alone

Every operation that saves the document saves a copy of the whole, which it has loaded before.
The document is shared with other programs, and written by hand.  What an operation has no
business with must be in the copy as it was.

An edit is about one entry of the unified list.  It appends the entry, puts another one of the
same id in its place, or takes it out, and the place is the one that was searched for.  All
other entries stay as they are, and in their order, whatever they look like: an edit does not
complete them, and does not move their tokens.  A migration may do all of this, and still it
keeps what the document holds besides the connections.

* `Edit.resolved` — a submission is an addition or a change
* `Edit.Rewrites` — what an edit does to the document, with what is answered
* `Connection.SameButOne` — two lists with the same entries but for one place
* `Registry.withConnections_of_mem_dialogue` — what a run of operations leaves alone
* `Operation.Leaves`, `Registry.leaves_of_serve` — what any operation leaves alone
-/

namespace ServerConnections

open Bench

/-! ## Lists -/

namespace Connection

/-- **Two lists have the same entries in the same order, but for one place**, where either of
them has one entry at most. -/
def SameButOne (cs ds : List Connection) : Prop :=
  ∃ (front back : List Connection) (old new : Option Connection),
    cs = front ++ old.toList ++ back ∧ ds = front ++ new.toList ++ back

variable {cs : List Connection} {i : Nat}

theorem SameButOne.refl (cs : List Connection) : SameButOne cs cs :=
  ⟨cs, [], none, none, by simp, by simp⟩

theorem sameButOne_append (c : Connection) : SameButOne cs (cs ++ [c]) :=
  ⟨cs, [], none, some c, by simp, by simp⟩

/-- A list around one of its entries. -/
theorem eq_take_append_drop {c : Connection} (entry : cs[i]? = some c) :
    cs = cs.take i ++ [c] ++ cs.drop (i + 1) := by
  obtain ⟨bound, rfl⟩ := List.getElem?_eq_some_iff.1 entry
  rw [List.append_assoc, List.singleton_append, List.getElem_cons_drop, List.take_append_drop]

/-- To replace an entry leaves the others. -/
theorem sameButOne_set {c : Connection} (entry : cs[i]? = some c) (d : Connection) :
    SameButOne cs (cs.set i d) := by
  obtain ⟨bound, -⟩ := List.getElem?_eq_some_iff.1 entry
  refine ⟨cs.take i, cs.drop (i + 1), some c, some d, eq_take_append_drop entry, ?_⟩
  rw [List.set_eq_take_append_cons_drop, if_pos bound, Option.toList_some, List.append_assoc]
  rfl

/-- To take an entry out leaves the others. -/
theorem sameButOne_eraseIdx {c : Connection} (entry : cs[i]? = some c) :
    SameButOne cs (cs.eraseIdx i) := by
  refine ⟨cs.take i, cs.drop (i + 1), some c, none, eq_take_append_drop entry, ?_⟩
  rw [List.eraseIdx_eq_take_drop_succ, Option.toList_none, List.append_nil]

end Connection

/-! ## Edits -/

/-- **The edit that a submission amounts to**: a change, if there is a connection to change,
and an addition otherwise. -/
def Edit.resolved (s : Settings) : Edit → Edit
  | submit c => if (s.target? c.submitted).isSome then update c.submitted else add c.submitted
  | e => e

/-- **What an edit that is no submission does to a document**, with what is answered.  A change
may have been saved although there was an error. -/
inductive Edit.Rewrites (s : Settings) : Edit → Except ConnectionError Answer → Settings → Prop
  | refused {e : Edit} {error : ConnectionError} : Rewrites s e (.error error) s
  | missing {id : String} {kind : ServerKind}
      (absent : s.connections.position? kind id = none) :
      Rewrites s (.remove id kind) (.ok (.removed false)) s
  | appended {c kept : Connection} :
      Rewrites s (.add c) (.ok (.kept kept)) (s.withServers (s.servers ++ [kept]))
  | changed {c existing changed : Connection} {i : Nat} {res : Except ConnectionError Answer}
      (target : s.target? c = some (i, existing)) (id : changed.id = existing.id)
      (answered : ∀ answer, res = .ok answer → answer = .kept changed) :
      Rewrites s (.update c) res (s.withServers (s.servers.set i changed))
  | dropped {id : String} {kind : ServerKind} {i : Nat}
      (found : s.connections.position? kind id = some i) :
      Rewrites s (.remove id kind) (.ok (.removed true)) (s.withServers (s.servers.eraseIdx i))

namespace Edit.Rewrites

variable {s s' : Settings} {e : Edit} {res : Except ConnectionError Answer}

/-- Only the unified list may be another one. -/
theorem withServers (rewrites : e.Rewrites s res s') : s' = s.withServers s'.servers := by
  cases rewrites <;> rfl

/-- All other entries stay. -/
theorem sameButOne (rewrites : e.Rewrites s res s') :
    Connection.SameButOne s.servers s'.servers := by
  cases rewrites with
  | refused => exact .refl s.servers
  | missing absent => exact .refl s.servers
  | @appended c kept => exact Connection.sameButOne_append kept
  | @changed c existing changed i _ target _ _ =>
      exact Connection.sameButOne_set (Settings.target?_eq_some_iff.1 target).1 changed
  | @dropped id kind i found =>
      obtain ⟨bound, -⟩ := List.findIdx?_eq_some_iff_getElem.1 found
      exact Connection.sameButOne_eraseIdx (List.getElem?_eq_getElem bound)

end Edit.Rewrites

section Ends

variable {cloudDomain : String} {k b : Bench MemorySettings} {c : Connection}

/-- An addition appends to the unified list, or rewrites nothing. -/
theorem AddEnds.rewrites {res : Except ConnectionError Connection}
    (ends : AddEnds cloudDomain k c res b) :
    (Edit.add c).Rewrites k.document (res.map .kept) b.document := by
  cases ends with
  | refused stopped => exact stopped.document ▸ .refused
  | rejected _ left => exact document_of_unrecorded left ▸ .refused
  | unsaved _ stopped => exact stopped.document ▸ .refused
  | done _ left => exact document_of_unrecorded left ▸ .appended

/-- A change rewrites the entry that is meant, or nothing. -/
theorem UpdateEnds.rewrites {res : Except ConnectionError Connection}
    (ends : UpdateEnds cloudDomain k c res b) :
    (Edit.update c).Rewrites k.document (res.map .kept) b.document := by
  cases ends with
  | refused stopped => exact stopped.document ▸ .refused
  | rejected _ left => exact document_of_unrecorded left ▸ .refused
  | unkeyed _ _ _ left => exact document_of_unrecorded left ▸ .refused
  | unsaved _ _ stopped =>
      rw [stopped.document, Change.document_announced]
      exact .refused
  | undropped plan _ stopped =>
      have allows := Settings.allows_of_change plan
      rw [stopped.document]
      exact .changed allows.target? allows.id nofun
  | done plan _ left =>
      have allows := Settings.allows_of_change plan
      rw [document_of_unrecorded left]
      refine .changed allows.target? allows.id ?_
      rintro _ ⟨⟩
      rfl

/-- A removal takes out the entry of its name, or nothing. -/
theorem RemoveEnds.rewrites {id : String} {kind : ServerKind}
    {res : Except ConnectionError Bool}
    (ends : RemoveEnds k id kind res b) :
    (Edit.remove id kind).Rewrites k.document (res.map .removed) b.document := by
  cases ends with
  | refused stopped => exact stopped.document ▸ .refused
  | missing absent left =>
      rw [document_of_unrecorded left]
      exact .missing absent
  | unsaved _ _ stopped => exact stopped.document ▸ .refused
  | done found _ left =>
      rw [document_of_unrecorded left]
      exact .dropped found

/-- A submission rewrites what the edit rewrites that it comes down to. -/
theorem SubmitEnds.rewrites {res : Except ConnectionError Connection}
    (ends : SubmitEnds cloudDomain k c res b) :
    ((Edit.submit c).resolved k.document).Rewrites k.document (res.map .kept) b.document := by
  cases ends with
  | refused stopped => exact stopped.document ▸ .refused
  | updated found ends =>
      rw [Edit.resolved, if_pos found]
      exact ends.rewrites
  | added missing ends =>
      rw [Edit.resolved, missing]
      exact ends.rewrites

end Ends

namespace Registry

variable {cloudDomain : String} (b : Bench MemorySettings)

/-- **Every edit rewrites one entry at most.** -/
theorem perform_rewrites (e : Edit) :
    ((inMemory cloudDomain).perform e).Ensures b fun res b' =>
      (e.resolved b.document).Rewrites b.document res b'.document := by
  cases e with
  | add c => exact Act.ensures_map.2 ((add_ends b c).mono fun _ _ ends => ends.rewrites)
  | update c => exact Act.ensures_map.2 ((update_ends b c).mono fun _ _ ends => ends.rewrites)
  | submit c => exact Act.ensures_map.2 ((submit_ends b c).mono fun _ _ ends => ends.rewrites)
  | remove id kind =>
      exact Act.ensures_map.2 ((remove_ends b id kind).mono fun _ _ ends => ends.rewrites)

/-! ## Migrations -/

/-- A migration changes no more than the connections of a document. -/
theorem migrate_withConnections :
    (inMemory cloudDomain).migrate.Ensures b fun _ b' =>
      b'.document = b.document.withConnections b'.document.connections := by
  have calls := @callsMatch_medium cloudDomain b.medium
  have kept : ∀ k : Bench MemorySettings, k.medium = b.medium →
      k.document = b.document.withConnections k.document.connections := by
    intro k same
    have document : k.document = b.document := congrArg MemorySettings.document same
    rw [document]
    rfl
  unfold migrate
  rw [Act.ensures_bind]
  refine ensures_loadSettings b (fun _ _ => kept _ rfl) fun _ => ?_
  -- What is saved in the end was loaded here, and the passes make no call on the settings.
  dsimp only
  refine Act.Ensures.bind ((calls.completedAll false _).keeps _ rfl) ?_ fun _ k same =>
    kept k same
  intro selfHosted k₁ same₁
  refine Act.Ensures.bind ((calls.completedAll true _).keeps k₁ same₁) ?_
    fun _ k same => kept k same
  intro cloud k₂ same₂
  refine Act.Ensures.bind ((calls.migratedTokens _).keeps k₂ same₂) ?_ fun _ k same =>
    kept k same
  intro former k₃ same₃
  refine Act.Ensures.bind ((calls.migratedTokens _).keeps k₃ same₃) ?_ fun _ k same =>
    kept k same
  intro unified k₄ same₄
  split
  · rw [Act.ensures_bind]
    exact ensures_saveSettings k₄ (fun _ _ => kept _ same₄) fun _ => rfl
  · exact kept k₄ same₄

end Registry

/-! ## All operations -/

/-- Whether an operation asks for nothing but an answer. -/
def Operation.isQuestion : Operation → Bool
  | edit _ | migrate => false
  | _ => true

/-- **What an operation leaves alone**, the document being `s` before and `s'` afterwards. -/
structure Operation.Leaves (op : Operation) (s : Settings) (res : Except ConnectionError Reply)
    (s' : Settings) : Prop where
  others : s'.others = s.others
  modeOthers : s'.modeOthers = s.modeOthers
  /-- Only a migration touches the former lists. -/
  former : op ≠ .migrate →
    s'.connections.legacySelfHosted = s.connections.legacySelfHosted ∧
      s'.connections.legacyCloud = s.connections.legacyCloud
  entries : op ≠ .migrate → Connection.SameButOne s.servers s'.servers
  edited : ∀ e, op = .edit e → ∃ answer, res = answer.map .edited ∧
    (e.resolved s).Rewrites s answer s'
  asked : op.isQuestion → s' = s

namespace Operation.Leaves

variable {s s' : Settings} {op : Operation} {res : Except ConnectionError Reply}

theorem of_edit {e : Edit} {answer : Except ConnectionError Answer}
    (rewrites : (e.resolved s).Rewrites s answer s') :
    (Operation.edit e).Leaves s (answer.map .edited) s' where
  others := by rw [rewrites.withServers]; rfl
  modeOthers := by rw [rewrites.withServers]; rfl
  former _ := by rw [rewrites.withServers]; exact ⟨rfl, rfl⟩
  entries _ := rewrites.sameButOne
  edited := by
    rintro _ ⟨⟩
    exact ⟨answer, rfl, rewrites⟩
  asked := nofun

theorem of_migrate (same : s' = s.withConnections s'.connections) :
    Operation.migrate.Leaves s res s' where
  others := by rw [same]; rfl
  modeOthers := by rw [same]; rfl
  former := fun other => absurd rfl other
  entries := fun other => absurd rfl other
  edited := nofun
  asked := nofun

theorem of_question (question : op.isQuestion) (same : s' = s) : op.Leaves s res s' where
  others := by rw [same]
  modeOthers := by rw [same]
  former _ := by rw [same]; exact ⟨rfl, rfl⟩
  entries _ := same ▸ .refl s.servers
  edited := by
    rintro e rfl
    cases question
  asked _ := same

end Operation.Leaves

namespace Registry

variable {cloudDomain : String}

/-- A question keeps the settings. -/
theorem keeps_serve {m : MemorySettings} {op : Operation} (question : op.isQuestion) :
    Act.Keeps (fun b => b.medium = m) ((inMemory cloudDomain).serve op) := by
  cases op with
  | edit e => cases question
  | migrate => cases question
  | list kind => exact (keeps_loadSettings.bind fun s => Act.keeps_pure _).map _
  | find kind id => exact (keeps_find kind id).map _
  | findByOrganization organization =>
      exact (keeps_loadSettings.bind fun s => Act.keeps_pure _).map _
  | tokenUnder key => exact (callsMatch_medium.tokenUnder key).keeps.map _
  | hasUnmigrated => exact keeps_hasUnmigrated.map _

/-- Whatever is asked for, the document keeps all that is not a list of connections. -/
theorem serve_withConnections (b : Bench MemorySettings) (op : Operation) :
    ((inMemory cloudDomain).serve op).Ensures b fun _ b' =>
      b'.document = b.document.withConnections b'.document.connections := by
  by_cases question : op.isQuestion
  · refine (keeps_serve question b rfl).mono fun _ b' same => ?_
    have document : b'.document = b.document := congrArg MemorySettings.document same
    rw [document]
    rfl
  · cases op with
    | edit e =>
        refine Act.ensures_map.2 ((perform_rewrites b e).mono fun _ b' rewrites => ?_)
        rw [rewrites.withServers]
        rfl
    | migrate => exact Act.ensures_map.2 (migrate_withConnections b)
    | _ => exact absurd rfl question

/-- **In a dialogue a document keeps all that it holds besides the connections**, whatever is
asked for and whatever is refused. -/
theorem withConnections_of_mem_dialogue (b : Bench MemorySettings)
    (operations : List Operation) :
    ∀ o ∈ (inMemory cloudDomain).dialogue operations b,
      o.2.document = b.document.withConnections o.2.document.connections := by
  intro o there
  refine (Act.forall_mem_outcomes
    (fun k : Bench MemorySettings =>
      k.document = b.document.withConnections k.document.connections)
    (fun _ => True) rfl ?_ o there).1
  intro x there k inv
  obtain ⟨op, -, rfl⟩ := List.mem_map.1 there
  refine (serve_withConnections k op).mono fun _ k' same => ⟨?_, trivial⟩
  rw [same, inv]
  rfl

/-- **What any operation leaves alone**, whatever is refused on the way. -/
theorem leaves_of_serve (b : Bench MemorySettings) (op : Operation) :
    ((inMemory cloudDomain).serve op).Ensures b fun res b' =>
      op.Leaves b.document res b'.document := by
  by_cases question : op.isQuestion
  · refine (keeps_serve question b rfl).mono fun _ _ same => .of_question question ?_
    exact congrArg MemorySettings.document same
  · cases op with
    | edit e => exact Act.ensures_map.2 ((perform_rewrites b e).mono fun _ _ => .of_edit)
    | migrate =>
        exact Act.ensures_map.2 ((migrate_withConnections b).mono fun _ _ => .of_migrate)
    | _ => exact absurd rfl question

end Registry

end ServerConnections
