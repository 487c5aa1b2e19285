import ServerConnections.Proofs.Json.Taking

/-!
# What reading keeps

A value that was read is one that can be read again: the members of its objects are in the
order of their keys, for they were put together one by one, and it is nested no deeper than
the depth allowed.  The same holds of the members that a record keeps, and none of them is
named like a field.

Each fact is an invariant of the loop over entries, carried through the accumulator.

* `entriesOf_invariant` — invariants of the loop
* `value_ok` — values as such
* `Record.keepingEntry_ok`, `Record.readKeeping_ok` — a record with its other members
-/

namespace ServerConnections.Json

variable {α β δ : Type}

/-! ## Results of readings -/

/-- A sequence that answers is one of two readings that do. -/
theorem Reading.andThen_eq_ok {r : Reading α} {next : α → List Char → Reading β} {y : β}
    {rest : List Char} (read : r.andThen next = .ok (y, rest)) :
    ∃ x s, r = .ok (x, s) ∧ next x s = .ok (y, rest) := by
  cases r with
  | error e => cases read
  | ok p => exact ⟨p.1, p.2, rfl, read⟩

/-- A result that is mapped was read. -/
theorem Reading.mapResult_eq_ok {r : Reading α} {f : α → β} {y : β} {rest : List Char}
    (read : r.mapResult f = .ok (y, rest)) : ∃ x, r = .ok (x, rest) ∧ f x = y := by
  cases r with
  | error e => cases read
  | ok p =>
      obtain ⟨x, s⟩ := p
      cases read
      exact ⟨x, rfl, rfl⟩

theorem Form.map_read_eq_ok {f : Form α} {g : α → β} {depth : Nat} {s rest : List Char} {y : β}
    (read : (f.map g).read depth s = .ok (y, rest)) :
    ∃ x, f.read depth s = .ok (x, rest) ∧ g x = y :=
  Reading.mapResult_eq_ok (r := f.read depth s) read

theorem Field.of_read_eq_ok {name : String} {f : Form α} {set : α → δ → δ} {draft draft' : δ}
    {depth : Nat} {s rest : List Char}
    (read : (Field.of name f set).read draft depth s = .ok (draft', rest)) :
    ∃ x, f.read depth s = .ok (x, rest) ∧ set x draft = draft' :=
  Reading.mapResult_eq_ok (r := f.read depth s) read

/-- The value of a member is read behind the colon. -/
theorem memberValue_eq_ok {r : List Char → Reading α} {s rest : List Char} {x : α}
    (read : memberValue r s = .ok (x, rest)) : ∃ s', r s' = .ok (x, rest) := by
  rw [memberValue] at read
  split at read
  · cases read
  · exact ⟨_, read⟩

/-! ## Entries -/

section Entries

variable {close : Char} {entry : β → List Char → Reading β}

/-- What every entry keeps is kept by all of them, by induction on the rounds. -/
theorem entries_invariant {kept : β → Prop}
    (step : ∀ acc s acc' rest, kept acc → entry acc s = .ok (acc', rest) → kept acc')
    {rounds : Nat} {first : Bool} {acc last : β} {s rest : List Char} (start : kept acc)
    (read : entries close entry rounds first acc s = .ok (last, rest)) : kept last := by
  induction rounds generalizing first acc s with
  | zero => cases read
  | succ rounds ih =>
      rw [entries] at read
      split at read
      · cases read
      split at read
      · cases read
        exact start
      split at read
      · obtain ⟨mid, s, entered, read⟩ := Reading.andThen_eq_ok read
        exact ih (step _ _ _ _ start entered) read
      split at read
      · obtain ⟨mid, s, entered, read⟩ := Reading.andThen_eq_ok read
        exact ih (step _ _ _ _ start entered) read
      · cases read

/-- **What each entry preserves, all entries preserve.** -/
theorem entriesOf_invariant (kept : β → Prop)
    (step : ∀ acc s acc' rest, kept acc → entry acc s = .ok (acc', rest) → kept acc')
    {acc last : β} {s rest : List Char} (start : kept acc)
    (read : entriesOf close entry acc s = .ok (last, rest)) : kept last :=
  entries_invariant step start read

end Entries

/-! ## Values as such -/

/-- A value as reading leaves it: in order, and nested no deeper than allowed. -/
def Value.Tidy (depth : Nat) (v : Value) : Prop := v.Ordered ∧ v.Within depth

/-- Members as reading leaves them. -/
def TidyMembers (depth : Nat) (members : Members) : Prop :=
  Keyed.Sorted members ∧ ∀ m ∈ members, m.2.Tidy depth

/-- A tidy member may be put among tidy ones. -/
theorem TidyMembers.put {depth : Nat} {members : Members} (tidy : TidyMembers depth members)
    (k : String) {v : Value} (new : v.Tidy depth) :
    TidyMembers depth (Keyed.put k v members) := by
  refine ⟨Keyed.sorted_put tidy.1, fun m there => ?_⟩
  rcases Keyed.eq_or_mem_of_mem_put there with rfl | old
  · exact new
  · exact tidy.2 m old

/-- A value is nothing, a flag, a number or a text, or was read as an array or an object. -/
theorem valueWith_ok {array object : List Char → Reading Value} {s rest : List Char}
    {v : Value}
    (read : valueWith array object s = .ok (v, rest)) :
    (∀ depth, v.Tidy depth) ∨ (∃ s', array s' = .ok (v, rest)) ∨
      ∃ s', object s' = .ok (v, rest) := by
  have word : ∀ {ws : List Char} {x : Value} {s : List Char},
      wordFor ws x s = .ok (v, rest) → v = x := by
    intro ws x s read
    rw [wordFor] at read
    cases eq : Json.word ws s with
    | error e => rw [eq] at read; cases read
    | ok s => rw [eq] at read; cases read; rfl
  rw [valueWith] at read
  split at read
  · cases read
  split at read
  · cases word read
    exact .inl fun depth => ⟨.null, by simp [Value.Within]⟩
  split at read
  · cases word read
    exact .inl fun depth => ⟨.bool _, by simp [Value.Within]⟩
  split at read
  · cases word read
    exact .inl fun depth => ⟨.bool _, by simp [Value.Within]⟩
  split at read
  · obtain ⟨s, -, rfl⟩ := Reading.mapResult_eq_ok read
    exact .inl fun depth => ⟨.text s, by simp [Value.Within]⟩
  split at read
  · exact .inr (.inl ⟨_, read⟩)
  split at read
  · exact .inr (.inr ⟨_, read⟩)
  split at read
  · obtain ⟨n, -, rfl⟩ := Reading.mapResult_eq_ok read
    exact .inl fun depth => ⟨.number n, by simp [Value.Within]⟩
  · cases read

/-- **A value that was read is in order and not nested too deep.** -/
theorem value_ok {depth : Nat} {s rest : List Char} {v : Value}
    (read : value depth s = .ok (v, rest)) : v.Tidy depth := by
  induction depth generalizing s rest v with
  | zero =>
      rcases valueWith_ok read with tidy | ⟨_, read⟩ | ⟨_, read⟩
      · exact tidy 0
      · cases read
      · cases read
  | succ depth ih =>
      rcases valueWith_ok read with tidy | ⟨_, read⟩ | ⟨_, read⟩
      · exact tidy _
      · obtain ⟨items, entered, rfl⟩ := Reading.mapResult_eq_ok read
        have tidy : ∀ v ∈ items, v.Tidy depth := by
          refine entriesOf_invariant (fun items => ∀ v ∈ items, v.Tidy depth) ?_ nofun entered
          intro before s items rest tidy entered
          obtain ⟨v, item, rfl⟩ := Reading.mapResult_eq_ok entered
          simpa [or_imp, forall_and] using ⟨tidy, ih item⟩
        exact ⟨.array fun v there => (tidy v there).1, fun v there => (tidy v there).2⟩
      · obtain ⟨members, entered, rfl⟩ := Reading.mapResult_eq_ok read
        have tidy : TidyMembers depth members := by
          refine entriesOf_invariant (TidyMembers depth) ?_ ⟨Keyed.sorted_nil, nofun⟩ entered
          intro before s members rest tidy entered
          obtain ⟨k, s, -, entered⟩ := Reading.andThen_eq_ok entered
          obtain ⟨v, member, rfl⟩ := Reading.mapResult_eq_ok entered
          obtain ⟨s, item⟩ := memberValue_eq_ok member
          exact tidy.put k (ih item)
        exact ⟨.object tidy.1 fun m there => (tidy.2 m there).1,
          fun m there => (tidy.2 m there).2⟩

/-! ## Records that keep other members -/

namespace Record

variable {r : Record δ α}

/-- The members that a record keeps: as reading leaves them, under names that no field
has. -/
def Keepable (r : Record δ α) (depth : Nat) (others : Members) : Prop :=
  TidyMembers depth others ∧ ∀ m ∈ others, r.field? m.1 = none

theorem keepable_nil (depth : Nat) : r.Keepable depth [] :=
  ⟨⟨Keyed.sorted_nil, nofun⟩, nofun⟩

/-- A member that is no field may be kept. -/
theorem Keepable.put {depth : Nat} {others : Members} (keepable : r.Keepable depth others)
    {name : String} (unnamed : r.field? name = none) {v : Value} (new : v.Tidy depth) :
    r.Keepable depth (Keyed.put name v others) := by
  refine ⟨keepable.1.put name new, fun m there => ?_⟩
  rcases Keyed.eq_or_mem_of_mem_put there with rfl | old
  · exact unnamed
  · exact keepable.2 m old

/-- A field that is read is read behind its name. -/
theorem fieldEntry_eq_ok {depth : Nat} {f : Field δ} {seen seen' : List String}
    {draft draft' : δ} {s rest : List Char}
    (entered : fieldEntry depth f seen draft s = .ok ((seen', draft'), rest)) :
    ∃ s', f.read draft depth s' = .ok (draft', rest) := by
  rw [fieldEntry] at entered
  split at entered
  · cases entered
  · obtain ⟨_, member, eq⟩ := Reading.mapResult_eq_ok entered
    cases eq
    exact memberValue_eq_ok member

section Drafts

variable {drafted : δ → Prop} {depth : Nat} {s rest : List Char}

/-- One member leaves a draft with the property that the fields preserve, and members that
can be read again. -/
theorem keepingEntry_ok
    (fields : ∀ f ∈ r.fields, ∀ draft s draft' rest, drafted draft →
      f.read draft depth s = .ok (draft', rest) → drafted draft')
    {state state' : (List String × δ) × Members} (fits : drafted state.1.2)
    (keepable : r.Keepable depth state.2)
    (entered : r.keepingEntry depth state s = .ok (state', rest)) :
    drafted state'.1.2 ∧ r.Keepable depth state'.2 := by
  obtain ⟨name, s, -, entered⟩ := Reading.andThen_eq_ok entered
  split at entered
  · rename_i f named
    obtain ⟨known, field, rfl⟩ := Reading.mapResult_eq_ok entered
    obtain ⟨s, read⟩ := fieldEntry_eq_ok field
    exact ⟨fields f (List.mem_of_find?_eq_some named) _ _ _ _ fits read, keepable⟩
  · rename_i unnamed
    obtain ⟨v, member, rfl⟩ := Reading.mapResult_eq_ok entered
    obtain ⟨s, item⟩ := memberValue_eq_ok member
    exact ⟨fits, keepable.put unnamed (value_ok item)⟩

variable (drafted) in
/-- **What a record keeps can be read again**; the draft that the record is made of has
every property that its fields preserve. -/
theorem readKeeping_ok (blank : drafted r.blank)
    (fields : ∀ f ∈ r.fields, ∀ draft s draft' rest, drafted draft →
      f.read draft depth s = .ok (draft', rest) → drafted draft')
    {x : α} {others : Members}
    (read : r.readKeeping (depth + 1) s = .ok ((x, others), rest)) :
    (∃ draft, drafted draft ∧ r.finish draft = some x) ∧ r.Keepable depth others := by
  rw [readKeeping] at read
  split at read
  · cases read
  split at read
  · obtain ⟨⟨⟨seen, draft⟩, kept⟩, s, entered, read⟩ := Reading.andThen_eq_ok read
    have invariant : drafted draft ∧ r.Keepable depth kept :=
      entriesOf_invariant (fun state => drafted state.1.2 ∧ r.Keepable depth state.2)
        (fun _ _ _ _ fits entered => keepingEntry_ok fields fits.1 fits.2 entered)
        ⟨blank, keepable_nil depth⟩ entered
    obtain ⟨_, completed, eq⟩ := Reading.mapResult_eq_ok read
    cases eq
    rw [complete] at completed
    split at completed
    · cases completed
      exact ⟨⟨draft, invariant.1, ‹_›⟩, invariant.2⟩
    · cases completed
  · cases read

end Drafts

end Record

end ServerConnections.Json
