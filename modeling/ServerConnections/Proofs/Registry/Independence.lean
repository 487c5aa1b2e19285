import ServerConnections.Proofs.Registry.Effect

/-!
# Edits that have nothing to do with each other

Two edits that act on different ids, and touch the secrets under different keys, may be asked
for in either order.  An edit sees little of what there is: of the unified list the entries of
its own id, of the secrets those under the keys that its connection has before and after it,
and of all other connections whether they have one of these keys.  The other edit leaves all
of this alone, so that the same is decided on and the same is answered.

What is left behind is the same, too, but for one thing.  Connections that are added come
last, and so two of them stand in the order in which they were added.

* `Settings.SameAt` — two documents have the same entries of an id
* `Edit.touches` — the keys whose secrets an edit may touch
* `Edit.Acts.sameAt`, `Edit.Acts.get?_eq`, `Edit.Acts.usesKey_eq` — what an edit leaves alone
* `Edit.result_congr` — what an edit sees
* `Registry.perform_comm` — two edits in either order
-/

namespace ServerConnections

open Bench

/-! ## Lists -/

namespace Connection

variable {p q : Connection → Bool} {m n : Option Connection} {cs : List Connection}

/-- A search does not notice that an entry of another kind was replaced. -/
theorem find?_revised (apart : ∀ c, p c → q c = false) (other : ∀ c ∈ m, p c = false) :
    (revised q m cs).find? p = cs.find? p := by
  have front : ∀ ds : List Connection, (m.toList ++ ds).find? p = ds.find? p := by
    intro ds
    cases m with
    | none => rfl
    | some d => simp [other d rfl]
  induction cs with
  | nil =>
      have alone := front []
      rwa [List.append_nil] at alone
  | cons c cs ih =>
      cases meant : q c with
      | true =>
          have unsought : p c = false := Bool.eq_false_iff.2 fun sought => by
            simp [apart c sought] at meant
          simp [revised, meant, front, unsought]
      | false =>
          rw [revised, meant]
          simp [List.find?_cons, ih]

/-- Nor does a test that the entry fails, and the one in its place. -/
theorem any_revised {f : Connection → Bool} (gone : ∀ c ∈ cs.find? q, f c = false)
    (new : ∀ c ∈ m, f c = false) : (revised q m cs).any f = cs.any f := by
  have front : m.toList.any f = false := by
    cases m with
    | none => rfl
    | some d => simp [new d rfl]
  induction cs with
  | nil => simpa [revised] using front
  | cons c cs ih =>
      cases meant : q c with
      | true =>
          have fails : f c = false := gone c (by simp [meant])
          simp [revised, meant, front, fails]
      | false =>
          have rest : ∀ c ∈ cs.find? q, f c = false := fun d there =>
            gone d (by simpa [meant] using there)
          simp [revised, meant, ih rest]

/-- **Two entries that have nothing to do with each other** are replaced in either order,
unless both new ones come last. -/
theorem revised_comm (apart : ∀ c, p c → q c = false) (new : ∀ c ∈ n, q c = false)
    (other : ∀ c ∈ m, p c = false)
    (placed : n = none ∨ m = none ∨ (cs.find? p).isSome ∨ (cs.find? q).isSome) :
    revised p n (revised q m cs) = revised q m (revised p n cs) := by
  have pass : ∀ (p : Connection → Bool) (n m : Option Connection) (ds : List Connection),
      (∀ c ∈ m, p c = false) → revised p n (m.toList ++ ds) = m.toList ++ revised p n ds := by
    intro p n m ds other
    cases m with
    | none => rfl
    | some d => simp [revised, other d rfl]
  induction cs with
  | nil =>
      rcases placed with rfl | rfl | found | found
      · simpa [revised] using pass p none m [] other
      · simpa [revised] using (pass q none n [] new).symm
      · cases found
      · cases found
  | cons c cs ih =>
      cases first : p c with
      | true => simp [revised, first, apart c first, pass q m n cs new]
      | false =>
          cases second : q c with
          | true => simp [revised, first, second, pass p n m cs other]
          | false =>
              have later := placed
              simp only [List.find?_cons, first, second] at later
              simp [revised, first, second, ih later]

/-- In any case the same connections are left. -/
theorem revised_perm (apart : ∀ c, p c → q c = false) (new : ∀ c ∈ n, q c = false)
    (other : ∀ c ∈ m, p c = false) :
    (revised p n (revised q m cs)).Perm (revised q m (revised p n cs)) := by
  by_cases placed : n = none ∨ m = none ∨ (cs.find? p).isSome ∨ (cs.find? q).isSome
  · rw [revised_comm apart new other placed]
  · simp only [not_or, Option.not_isSome_iff_eq_none] at placed
    obtain ⟨-, -, first, second⟩ := placed
    have swapped : ∀ c, q c → p c = false := by
      intro c meant
      refine Bool.eq_false_iff.2 fun sought => ?_
      simp [apart c sought] at meant
    -- Both come last, in the order in which they were added.
    have left : revised p n (revised q m cs) = revised q m cs ++ n.toList :=
      revised_of_find?_eq_none ((find?_revised apart other).trans first)
    have right : revised q m (revised p n cs) = revised p n cs ++ m.toList :=
      revised_of_find?_eq_none ((find?_revised swapped new).trans second)
    rw [left, right, revised_of_find?_eq_none first, revised_of_find?_eq_none second,
      List.append_assoc, List.append_assoc]
    exact List.perm_append_comm.append_left cs

end Connection

/-! ## What is seen of a document -/

/-- **Two documents have the same entries of an id**: a search among them has the same result
in both. -/
def Settings.SameAt (id : Option String) (s s' : Settings) : Prop :=
  ∀ p : Connection → Bool, (∀ c, p c → c.id = id) → s'.servers.find? p = s.servers.find? p

namespace Settings

variable {s s' : Settings} {isCloud : String → Bool} {c existing kept : Connection}

theorem SameAt.symm {id : Option String} (same : SameAt id s s') : SameAt id s' s :=
  fun p only => (same p only).symm

theorem position?_isSome_eq (s : Settings) (kind : ServerKind) (id : String) :
    (s.connections.position? kind id).isSome =
      (s.servers.find? (Connection.isNamed kind id)).isSome := by
  rw [ConnectionLists.position?, List.findIdx?_isSome, Bool.eq_iff_iff, List.any_eq_true,
    List.find?_isSome]
  rfl

theorem SameAt.position?_isSome {id : String} (same : SameAt (some id) s s')
    (kind : ServerKind) :
    (s'.connections.position? kind id).isSome = (s.connections.position? kind id).isSome := by
  rw [position?_isSome_eq, position?_isSome_eq, same]
  intro c named
  exact congrArg Prod.snd (Connection.isNamed_iff.1 named)

theorem SameAt.find?_mayMean (same : SameAt (some c.idText) s s') :
    s'.servers.find? c.mayMean = s.servers.find? c.mayMean :=
  same c.mayMean fun _ meant => Connection.id_of_mayMean meant

theorem isSome_target?_eq (s : Settings) (c : Connection) :
    (s.target? c).isSome = (s.servers.find? c.mayMean).isSome := by
  rw [← map_snd_target?, Option.isSome_map]

/-- A key is in use in the former lists, or in the unified one. -/
theorem usesKey_eq (s : Settings) (key : String) :
    s.usesKey key =
      ((s.connections.legacySelfHosted ++ s.connections.legacyCloud).any
          (fun c => c.storageKey == some key) ||
        s.servers.any fun c => c.storageKey == some key) :=
  List.any_append

theorem SameAt.changedBy_eq (same : SameAt (some c.idText) s s') :
    s'.changedBy isCloud c existing = s.changedBy isCloud c existing := by
  simp only [changedBy, same.position?_isSome]

/-- What a change makes of the entry that is meant. -/
theorem map_change_eq (s : Settings) (isCloud : String → Bool) (c : Connection) :
    ((s.change isCloud c).map fun ch => Answer.kept ch.changed) =
      match s.servers.find? c.mayMean with
      | none => .error (.notFound c.idText)
      | some existing => (s.changedBy isCloud c existing).map .kept := by
  rw [← map_snd_target?, change]
  cases s.target? c with
  | none => rfl
  | some target =>
      show ((s.changedBy isCloud c target.2).map fun changed =>
        (⟨target.1, target.2, changed⟩ : Change)).map _ = (s.changedBy isCloud c target.2).map _
      cases s.changedBy isCloud c target.2 <;> rfl

theorem SameAt.map_change_eq (same : SameAt (some c.idText) s s') :
    ((s'.change isCloud c).map fun ch => Answer.kept ch.changed) =
      (s.change isCloud c).map fun ch => Answer.kept ch.changed := by
  rw [Settings.map_change_eq, Settings.map_change_eq, same.find?_mayMean]
  simp only [same.changedBy_eq]

theorem SameAt.addition_eq_ok (same : SameAt kept.id s s')
    (plan : s.addition isCloud c = .ok kept) : s'.addition isCloud c = .ok kept := by
  obtain ⟨checked, free⟩ := addition_eq_ok_iff.1 plan
  obtain ⟨id, present, -⟩ := (admits_of_addition plan).id
  refine addition_eq_ok_iff.2 ⟨checked, ?_⟩
  have text : kept.idText = id := by rw [Connection.idText, present]; rfl
  rw [present] at same
  rw [text] at free ⊢
  rwa [← Option.not_isSome_iff_eq_none, same.position?_isSome, Option.not_isSome_iff_eq_none]

end Settings

/-! ## The id that an edit acts on -/

/-- The id of the connection that an edit is about, given its answer. -/
def Edit.actsOn (e : Edit) : Answer → Option String
  | .kept c => c.id
  | .removed _ => match e with
    | remove id _ => some id
    | _ => none

theorem Connection.id_submitted (c : Connection) :
    ∃ id, nonEmpty? c.submitted.id = some id ∧ c.submitted.idText = id := by
  cases given : nonEmpty? c.id with
  | some id =>
      have present := (nonEmpty?_eq_some_iff.1 given).1
      have same : c.submitted.id = c.id := by simp [submitted, given]
      exact ⟨id, same ▸ given, by rw [idText, same, present]; rfl⟩
  | none =>
      have default : ∃ d : Connection, c.submitted.id = some d.defaultId :=
        ⟨{ c with serverUrl := c.serverUrl.map Address.clean },
          by simp [submitted, given, withId]⟩
      obtain ⟨d, id⟩ := default
      refine ⟨d.defaultId, nonEmpty?_eq_some_iff.2 ⟨id, d.defaultId_ne_empty⟩, ?_⟩
      rw [idText, id]
      rfl

/-- A connection that is added keeps the id that it was given. -/
theorem Settings.id_of_addition {s : Settings} {isCloud : String → Bool} {c kept : Connection}
    {id : String} (given : nonEmpty? c.id = some id) (plan : s.addition isCloud c = .ok kept) :
    kept.id = some id := by
  obtain ⟨checked, -⟩ := addition_eq_ok_iff.1 plan
  obtain ⟨serverUrl, cloud, -, -, -, rfl⟩ := Connection.checkedBy_eq_ok checked
  simp [Connection.kept, given]

/-- A connection that is changed keeps its id. -/
theorem Settings.id_of_change {s : Settings} {isCloud : String → Bool} {c : Connection}
    {answer : Answer}
    (plan : ((s.change isCloud c).map fun ch => Answer.kept ch.changed) = .ok answer) :
    ∃ kept, answer = .kept kept ∧ kept.id = some c.idText := by
  obtain ⟨ch, change, rfl⟩ := Act.ok_of_map_eq_ok plan
  have allows := allows_of_change change
  exact ⟨ch.changed, rfl, allows.id.trans (Connection.id_of_mayMean allows.meant)⟩

namespace Edit

variable {e : Edit} {s s' : Settings} {t t' : SecretTable} {isCloud : String → Bool}
  {answer : Answer} {key : String}

/-- All entries that fit an edit have the id that it acts on. -/
theorem id_of_means (planned : e.planned s isCloud = .ok answer) {c : Connection}
    (meant : e.means c) : c.id = e.actsOn answer := by
  cases e with
  | add d => cases meant
  | update d =>
      obtain ⟨kept, rfl, id⟩ := Settings.id_of_change planned
      exact (Connection.id_of_mayMean meant).trans id.symm
  | submit d =>
      have own : c.id = some d.submitted.idText := Connection.id_of_mayMean meant
      rw [Edit.planned] at planned
      split at planned
      · obtain ⟨kept, rfl, id⟩ := Settings.id_of_change planned
        exact own.trans id.symm
      · obtain ⟨kept, plan, rfl⟩ := Act.ok_of_map_eq_ok planned
        obtain ⟨id, given, rfl⟩ := d.id_submitted
        exact own.trans (Settings.id_of_addition given plan).symm
  | remove id kind =>
      cases planned
      exact congrArg Prod.snd (Connection.isNamed_iff.1 meant)

/-- So does the connection that is kept. -/
theorem id_of_kept {c : Connection} (kept : c ∈ answer.kept?) : c.id = e.actsOn answer := by
  cases answer with
  | kept d =>
      obtain rfl : d = c := Option.some.inj kept
      rfl
  | removed there => cases kept

/-! ## What an edit leaves alone -/

/-- **The keys whose secrets an edit may touch**: the one of the entry that is meant, and the
one of the connection that is kept. -/
def touches (e : Edit) (s : Settings) (answer : Answer) : List String :=
  (e.oldKey s).toList ++ answer.key.toList

theorem oldKey_ne (untouched : key ∉ e.touches s answer) : e.oldKey s ≠ some key := by
  intro same
  exact untouched (List.mem_append_left _ (by simp [same]))

theorem key_ne (untouched : key ∉ e.touches s answer) : answer.key ≠ some key := by
  intro same
  exact untouched (List.mem_append_right _ (by simp [same]))

/-- The secret under a key after an edit. -/
theorem Acts.get?_eq_ite (acts : e.Acts s t isCloud answer s' t') (key : String) :
    t'.get? key =
      if e.oldKey s = some key ∧ s'.usesKey key = false then none
      else if answer.key = some key then
        (nonEmpty? (e.storedToken s t answer)).or (t.get? key)
      else t.get? key := by
  rw [acts.secrets, secretsAfter, Settings.get?_dropped, SecretTable.get?_storing,
    ← acts.document]

theorem Acts.get?_eq (acts : e.Acts s t isCloud answer s' t')
    (untouched : key ∉ e.touches s answer) : t'.get? key = t.get? key := by
  rw [acts.get?_eq_ite key, if_neg (fun gone => oldKey_ne untouched gone.1),
    if_neg (key_ne untouched)]

/-- Whether a key is in use does not depend on the connections of an edit that does not touch
its secret. -/
theorem Acts.usesKey_eq (acts : e.Acts s t isCloud answer s' t')
    (untouched : key ∉ e.touches s answer) : s'.usesKey key = s.usesKey key := by
  have gone : ∀ c ∈ s.servers.find? e.means, (c.storageKey == some key) = false := by
    intro c found
    rw [← e.concerned?_eq] at found
    have old : e.oldKey s = c.storageKey := by rw [oldKey, found]; rfl
    exact beq_eq_false_iff_ne.2 (old ▸ oldKey_ne untouched)
  have new : ∀ c ∈ answer.kept?, (c.storageKey == some key) = false := by
    intro c kept
    have own : answer.key = c.storageKey := by rw [Answer.key, kept]; rfl
    exact beq_eq_false_iff_ne.2 (own ▸ key_ne untouched)
  have servers : s'.servers.any (fun c => c.storageKey == some key) =
      s.servers.any fun c => c.storageKey == some key := by
    rw [acts.document]
    exact Connection.any_revised gone new
  have former : s'.connections.legacySelfHosted ++ s'.connections.legacyCloud =
      s.connections.legacySelfHosted ++ s.connections.legacyCloud := by
    rw [acts.document]
    rfl
  rw [Settings.usesKey_eq, Settings.usesKey_eq, former, servers]

/-- The entries of other ids stay. -/
theorem Acts.sameAt (acts : e.Acts s t isCloud answer s' t') {id : Option String}
    (other : id ≠ e.actsOn answer) : s.SameAt id s' := by
  intro p only
  have planned := (result_eq_ok_iff.1 acts.result).1
  rw [acts.document]
  refine Connection.find?_revised (fun c sought => ?_) fun c kept => ?_
  · refine Bool.eq_false_iff.2 fun meant => other ?_
    exact (only c sought).symm.trans (id_of_means planned meant)
  · refine Bool.eq_false_iff.2 fun sought => other ?_
    exact (only c sought).symm.trans (id_of_kept kept)

/-! ## What an edit sees -/

theorem planned_congr (same : s.SameAt (e.actsOn answer) s')
    (planned : e.planned s isCloud = .ok answer) : e.planned s' isCloud = .ok answer := by
  cases e with
  | add c =>
      obtain ⟨kept, plan, rfl⟩ := Act.ok_of_map_eq_ok planned
      rw [Edit.planned, same.addition_eq_ok plan]
      rfl
  | update c =>
      obtain ⟨kept, rfl, id⟩ := Settings.id_of_change planned
      rw [actsOn, id] at same
      rw [Edit.planned] at planned ⊢
      rw [same.map_change_eq, planned]
  | submit c =>
      have seen : s.SameAt (some c.submitted.idText) s' →
          (s'.target? c.submitted).isSome = (s.target? c.submitted).isSome := by
        intro same
        rw [Settings.isSome_target?_eq, Settings.isSome_target?_eq, same.find?_mayMean]
      rw [Edit.planned] at planned ⊢
      split at planned
      · rename_i found
        obtain ⟨kept, rfl, id⟩ := Settings.id_of_change planned
        rw [actsOn, id] at same
        rw [seen same, if_pos found, same.map_change_eq, planned]
      · rename_i missing
        obtain ⟨kept, plan, rfl⟩ := Act.ok_of_map_eq_ok planned
        obtain ⟨id, given, text⟩ := c.id_submitted
        have own : (Edit.submit c).actsOn (.kept kept) = some c.submitted.idText := by
          rw [text]
          exact Settings.id_of_addition given plan
        rw [seen (own ▸ same), if_neg missing, same.addition_eq_ok plan]
        rfl
  | remove id kind =>
      cases planned
      rw [Edit.planned, same.position?_isSome]

theorem concerned?_congr (same : s.SameAt (e.actsOn answer) s')
    (planned : e.planned s isCloud = .ok answer) : e.concerned? s' = e.concerned? s := by
  rw [e.concerned?_eq, e.concerned?_eq]
  exact same e.means fun c meant => id_of_means planned meant

theorem existing?_congr (concerned : e.concerned? s' = e.concerned? s) :
    e.existing? s' = e.existing? s := by
  cases e with
  | add c => rfl
  | update c => exact concerned
  | submit c => exact concerned
  | remove id kind => rfl

/-- The token that is stored comes from the caller, or it was under the old key. -/
theorem storedToken_congr (concerned : e.concerned? s' = e.concerned? s)
    (secrets : ∀ key ∈ e.touches s answer, t'.get? key = t.get? key) :
    e.storedToken s' t' answer = e.storedToken s t answer := by
  have moved : ∀ kept, e.movedToken s' t' kept = e.movedToken s t kept := by
    intro kept
    rw [movedToken, movedToken, existing?_congr concerned]
    cases existing : e.existing? s with
    | none => rfl
    | some c =>
        have old : e.oldKey s = c.storageKey := by
          rw [oldKey, concerned?_of_existing existing]
          rfl
        have own : t'.tokenOf c = t.tokenOf c := by
          unfold SecretTable.tokenOf
          cases keyed : c.storageKey with
          | none => rfl
          | some key =>
              refine secrets key (List.mem_append_left _ ?_)
              rw [old, keyed]
              exact List.mem_singleton.2 rfl
        simp only [Option.bind_some, own]
  simp only [storedToken, moved]

/-- **An edit sees no more than this**: the entries of its id, and the secrets that it may
touch. -/
theorem result_congr (same : s.SameAt (e.actsOn answer) s')
    (secrets : ∀ key ∈ e.touches s answer, t'.get? key = t.get? key)
    (result : e.result s t isCloud = .ok answer) : e.result s' t' isCloud = .ok answer := by
  obtain ⟨planned, keyed⟩ := result_eq_ok_iff.1 result
  have concerned := concerned?_congr same planned
  refine result_eq_ok_iff.2 ⟨planned_congr same planned, ?_⟩
  rwa [storedToken_congr concerned secrets]

theorem touches_congr (same : s.SameAt (e.actsOn answer) s')
    (planned : e.planned s isCloud = .ok answer) :
    e.touches s' answer = e.touches s answer := by
  rw [touches, touches, oldKey, oldKey, concerned?_congr same planned]

/-- **What an edit does to a secret depends on no more than this**, and on whether the key is
in use afterwards. -/
theorem Acts.get?_congr {u u' : Settings} {v v' : SecretTable}
    (acts : e.Acts s t isCloud answer s' t') (again : e.Acts u v isCloud answer u' v')
    (same : s.SameAt (e.actsOn answer) u)
    (secrets : ∀ key ∈ e.touches s answer, v.get? key = t.get? key)
    (here : v.get? key = t.get? key) (used : u'.usesKey key = s'.usesKey key) :
    v'.get? key = t'.get? key := by
  have concerned := concerned?_congr same (result_eq_ok_iff.1 acts.result).1
  have old : e.oldKey u = e.oldKey s := by rw [oldKey, oldKey, concerned]
  rw [acts.get?_eq_ite, again.get?_eq_ite, old, used, here,
    storedToken_congr concerned secrets]

/-! ## Either order -/

/-- **Two edits that have nothing to do with each other**, by what is answered to them: they
act on different ids, and they touch secrets under different keys. -/
structure Apart (x y : Edit) (s : Settings) (ax ay : Answer) : Prop where
  ids : x.actsOn ax ≠ y.actsOn ay
  keys : ∀ key ∈ x.touches s ax, key ∉ y.touches s ay

/-- Whether an edit appends a connection, if it is answered. -/
def adds (s : Settings) : Edit → Bool
  | add _ => true
  | submit c => (s.target? c.submitted).isNone
  | _ => false

/-- Any other edit that keeps a connection finds an entry that it means. -/
theorem placed_of_planned (planned : e.planned s isCloud = .ok answer) (present : ¬e.adds s) :
    answer.kept? = none ∨ (s.servers.find? e.means).isSome := by
  have changed : ∀ {c : Connection},
      ((s.change isCloud c).map fun ch => Answer.kept ch.changed) = .ok answer →
        (s.servers.find? c.mayMean).isSome := by
    intro c plan
    obtain ⟨ch, change, -⟩ := Act.ok_of_map_eq_ok plan
    rw [← Settings.isSome_target?_eq, (Settings.allows_of_change change).target?]
    rfl
  cases e with
  | add c => exact absurd rfl present
  | update c => exact .inr (changed planned)
  | submit c =>
      have found : (s.target? c.submitted).isSome := by
        simpa [adds, Option.isSome_iff_ne_none] using present
      rw [Edit.planned, if_pos found] at planned
      exact .inr (changed planned)
  | remove id kind =>
      cases planned
      exact .inl rfl

section Apart

variable {x y : Edit} {ax ay : Answer} {sx sy sxy syx : Settings} {tx ty txy tyx : SecretTable}

theorem Apart.symm (apart : x.Apart y s ax ay) : y.Apart x s ay ax where
  ids := apart.ids.symm
  keys key touched own := apart.keys key own touched

/-- What was answered to an edit is answered to it after the other one, too. -/
theorem Apart.result_after (apart : x.Apart y s ax ay) (acts : y.Acts s t isCloud ay sy ty)
    (result : x.result s t isCloud = .ok ax) : x.result sy ty isCloud = .ok ax :=
  result_congr (acts.sameAt apart.ids)
    (fun key touched => acts.get?_eq (apart.keys key touched))
    result

/-- And what is answered to it after the other one would have been answered before. -/
theorem Apart.result_before (apart : x.Apart y s ax ay) (acts : x.Acts s t isCloud ax sx tx)
    (result : y.result sx tx isCloud = .ok ay) : y.result s t isCloud = .ok ay := by
  have same : sx.SameAt (y.actsOn ay) s := (acts.sameAt apart.ids.symm).symm
  have touched : y.touches s ay = y.touches sx ay :=
    touches_congr same (result_eq_ok_iff.1 result).1
  refine result_congr same (fun key there => ?_) result
  rw [← touched] at there
  exact (acts.get?_eq (apart.symm.keys key there)).symm

/-- An edit fits no entry that the other one fits, and not the connection that it keeps. -/
theorem Apart.means_eq_false (apart : x.Apart y s ax ay) (hx : x.Acts s t isCloud ax sx tx)
    (hy : y.Acts s t isCloud ay sy ty) :
    (∀ c, x.means c → y.means c = false) ∧ ∀ c ∈ ax.kept?, y.means c = false := by
  have plan := (result_eq_ok_iff.1 hx.result).1
  have other := (result_eq_ok_iff.1 hy.result).1
  constructor
  · intro c meant
    refine Bool.eq_false_iff.2 fun sought => apart.ids ?_
    exact (id_of_means plan meant).symm.trans (id_of_means other sought)
  · intro c kept
    refine Bool.eq_false_iff.2 fun sought => apart.ids ?_
    exact (id_of_kept kept).symm.trans (id_of_means other sought)

theorem Apart.servers_perm (apart : x.Apart y s ax ay) (hx : x.Acts s t isCloud ax sx tx)
    (hy : y.Acts s t isCloud ay sy ty) (hxy : y.Acts sx tx isCloud ay sxy txy)
    (hyx : x.Acts sy ty isCloud ax syx tyx) : syx.servers.Perm sxy.servers := by
  rw [hyx.document, hy.document, hxy.document, hx.document]
  exact Connection.revised_perm (apart.means_eq_false hx hy).1 (apart.means_eq_false hx hy).2
    (apart.symm.means_eq_false hy hx).2

theorem Apart.document_eq (apart : x.Apart y s ax ay) (hx : x.Acts s t isCloud ax sx tx)
    (hy : y.Acts s t isCloud ay sy ty) (hxy : y.Acts sx tx isCloud ay sxy txy)
    (hyx : x.Acts sy ty isCloud ax syx tyx) (once : ¬(x.adds s ∧ y.adds s)) : syx = sxy := by
  have placed : ax.kept? = none ∨ ay.kept? = none ∨ (s.servers.find? x.means).isSome ∨
      (s.servers.find? y.means).isSome := by
    rcases Decidable.not_and_iff_or_not.1 once with present | present
    · have hold := placed_of_planned (result_eq_ok_iff.1 hx.result).1 present
      exact hold.imp id fun found => .inr (.inl found)
    · have hold := placed_of_planned (result_eq_ok_iff.1 hy.result).1 present
      exact .inr (hold.imp id .inr)
  rw [hyx.document, hy.document, hxy.document, hx.document]
  exact congrArg s.withServers
    (Connection.revised_comm (apart.means_eq_false hx hy).1 (apart.means_eq_false hx hy).2
      (apart.symm.means_eq_false hy hx).2 placed)

/-- A secret that the first edit does not touch is what the second one makes of it. -/
theorem Apart.get?_eq_of_not_mem (apart : x.Apart y s ax ay) (hx : x.Acts s t isCloud ax sx tx)
    (hy : y.Acts s t isCloud ay sy ty) (hxy : y.Acts sx tx isCloud ay sxy txy)
    (hyx : x.Acts sy ty isCloud ax syx tyx) (untouched : key ∉ x.touches s ax)
    (used : syx.usesKey key = sxy.usesKey key) : tyx.get? key = txy.get? key := by
  have again : key ∉ x.touches sy ax := by
    rwa [touches_congr (hy.sameAt apart.ids) (result_eq_ok_iff.1 hx.result).1]
  have late : txy.get? key = ty.get? key :=
    hy.get?_congr hxy (hx.sameAt apart.ids.symm)
      (fun k touched => hx.get?_eq (apart.symm.keys k touched)) (hx.get?_eq untouched)
      (used.symm.trans (hyx.usesKey_eq again))
  rw [late, hyx.get?_eq again]

/-- **The secrets are the same in either order.** -/
theorem Apart.get?_eq (apart : x.Apart y s ax ay) (hx : x.Acts s t isCloud ax sx tx)
    (hy : y.Acts s t isCloud ay sy ty) (hxy : y.Acts sx tx isCloud ay sxy txy)
    (hyx : x.Acts sy ty isCloud ax syx tyx) (key : String) : tyx.get? key = txy.get? key := by
  have used : syx.usesKey key = sxy.usesKey key := by
    have former : syx.connections.legacySelfHosted ++ syx.connections.legacyCloud =
        sxy.connections.legacySelfHosted ++ sxy.connections.legacyCloud := by
      rw [hyx.document, hy.document, hxy.document, hx.document]
      rfl
    rw [Settings.usesKey_eq, Settings.usesKey_eq, former,
      (apart.servers_perm hx hy hxy hyx).any_eq]
  -- One of the two edits leaves the key alone.
  by_cases touched : key ∈ x.touches s ax
  · exact (apart.symm.get?_eq_of_not_mem hy hx hyx hxy (apart.keys key touched) used.symm).symm
  · exact apart.get?_eq_of_not_mem hx hy hxy hyx touched used

end Apart

end Edit

namespace Registry

variable {cloudDomain : String} {b b₁ b₂ : Bench MemorySettings} {x y : Edit} {ax ay : Answer}

/-- **Edits that have nothing to do with each other commute.**  If both are answered, then
they are answered alike in the other order, and leave the same secrets and the same document;
only where both add a connection, the two connections stand in the other order. -/
theorem perform_comm (free : b.conditions.Unfailing) (steady : b.conditions.Steady)
    (first : ((inMemory cloudDomain).perform x).outcome b = (.ok ax, b₁))
    (second : ((inMemory cloudDomain).perform y).outcome b₁ = (.ok ay, b₂))
    (apart : x.Apart y b.document ax ay) :
    ∃ b₁' b₂', ((inMemory cloudDomain).perform y).outcome b = (.ok ay, b₁') ∧
      ((inMemory cloudDomain).perform x).outcome b₁' = (.ok ax, b₂') ∧
      (∀ key, b₂'.secrets.get? key = b₂.secrets.get? key) ∧
      b₂'.document = b₂.document.withServers b₂'.document.servers ∧
      b₂'.document.servers.Perm b₂.document.servers ∧
      (¬(x.adds b.document ∧ y.adds b.document) → b₂'.document = b₂.document) := by
  obtain ⟨hx, calm⟩ := perform_acts free steady first
  obtain ⟨hxy, -⟩ := perform_acts (calm ▸ free) (calm ▸ steady) second
  rw [calm] at hxy
  -- The other order, one edit after the other.
  obtain ⟨b₁', first'⟩ := perform_of_result free steady (apart.result_before hx hxy.result)
  obtain ⟨hy, calm'⟩ := perform_acts free steady first'
  have late := apart.result_after hy hx.result
  rw [← calm'] at late
  obtain ⟨b₂', second'⟩ := perform_of_result (calm' ▸ free) (calm' ▸ steady) late
  obtain ⟨hyx, -⟩ := perform_acts (calm' ▸ free) (calm' ▸ steady) second'
  rw [calm'] at hyx
  refine ⟨b₁', b₂', first', second', apart.get?_eq hx hy hxy hyx, ?_,
    apart.servers_perm hx hy hxy hyx, apart.document_eq hx hy hxy hyx⟩
  rw [hyx.document, hy.document, hxy.document, hx.document]
  rfl

/-- A connection goes to another organization, its secret moving along, and the one in front
of it is removed. -/
theorem perform_comm_moved_removed :
    let front : Connection :=
      ⟨some "front", some "https://sq.example", none, some false, false, none⟩
    let entry : Connection :=
      ⟨some "a", some "https://app.codescan.io", some "org", some true, false, none⟩
    let b : Bench MemorySettings := .fresh (.of ⟨⟨[], [], [front, entry]⟩, [], []⟩)
      [("org", "t"), ("https://sq.example", "u")] (.calm fun _ => false) .present
    let x : Edit := .update ⟨some "a", none, some "team", none, false, none⟩
    let y : Edit := .remove "front" .selfHosted
    let ax : Answer := .kept { entry with organization := some "team" }
    let ay : Answer := .removed true
    ∃ b₁ b₂, ((inMemory "codescan.io").perform x).outcome b = (.ok ax, b₁) ∧
      ((inMemory "codescan.io").perform y).outcome b₁ = (.ok ay, b₂) ∧
      x.Apart y b.document ax ay ∧
      ∃ b₁' b₂', ((inMemory "codescan.io").perform y).outcome b = (.ok ay, b₁') ∧
        ((inMemory "codescan.io").perform x).outcome b₁' = (.ok ax, b₂') ∧
        (∀ key, b₂'.secrets.get? key = b₂.secrets.get? key) ∧
        b₂'.document = b₂.document.withServers b₂'.document.servers ∧
        b₂'.document.servers.Perm b₂.document.servers ∧
        (¬(x.adds b.document ∧ y.adds b.document) → b₂'.document = b₂.document) := by
  intro front entry b x y ax ay
  have first : ((inMemory "codescan.io").perform x).outcome b =
      (.ok ax, (((inMemory "codescan.io").perform x).outcome b).2) := rfl
  have second : ((inMemory "codescan.io").perform y).outcome
      (((inMemory "codescan.io").perform x).outcome b).2 = (.ok ay, _) := rfl
  have apart : x.Apart y b.document ax ay := ⟨by decide, by decide⟩
  exact ⟨_, _, first, second, apart, perform_comm (Conditions.unfailing_calm _)
    (Conditions.steady_calm _) first second apart⟩

end Registry

end ServerConnections
