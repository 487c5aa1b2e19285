import ServerConnections.Json.Form
import ServerConnections.Proofs.Json.Reading

/-!
# What forms take values for

A form takes a value for `x` if it reads each spelling of the value as `x`.  There is one
rule for each way of making forms, so that what a type is written as is taken for what was
written by going along its form.

A record is taken from its fields in order, of which those that have a default may be
missing.  With the forms that keep other members, these stand behind the fields, in the
order of their keys and under names that no field has.

* `Form.Takes` — what a form takes a value for, with its rules
* `Fills` — what the members of an object make of a draft
* `Record.takes_form`, `Record.takes_keeping` — records
* `Form.Takes.parse` — both printed texts of a value
-/

namespace ServerConnections.Json

variable {α β δ : Type}

/-! ## Forms -/

/-- **A form takes a value for `x`**: it reads each spelling of the value as `x`. -/
def Form.Takes (f : Form α) (v : Value) (x : α) : Prop :=
  ∀ depth cs, Spells depth v cs → Reads (f.read depth) cs x

/-- With `f`'s value put into it, a draft becomes another. -/
def Field.Takes (f : Field δ) (draft : δ) (v : Value) (draft' : δ) : Prop :=
  ∀ depth cs, Spells depth v cs → Reads (f.read draft depth) cs draft'

namespace Form

variable {f : Form α} {v : Value} {x : α}

theorem takes_text (s : String) : text.Takes (.text s) s := by
  intro depth cs spelt gap rest blank _
  obtain rfl : cs = quoted s := by simpa only [Spells] using spelt
  rw [quoted, List.cons_append, List.append_assoc, List.singleton_append]
  simp [text, Json.text, skipBlanks_gap blank (by decide : isJsonBlank '"' = false),
    textTail_quotedTail]

theorem takes_flag (b : Bool) : flag.Takes (.bool b) b := by
  intro depth cs spelt gap rest blank _
  obtain rfl : cs = flagText b := by simpa only [Spells] using spelt
  cases b with
  | true =>
      rw [flagText, if_pos rfl, List.cons_append]
      simp only [flag, Json.flag, skipBlanks_gap blank (by decide : isJsonBlank 't' = false)]
      exact wordFor_append ['r', 'u', 'e'] _ rest
  | false =>
      rw [flagText, if_neg (by decide), List.cons_append]
      simp only [flag, Json.flag, skipBlanks_gap blank (by decide : isJsonBlank 'f' = false)]
      exact wordFor_append ['a', 'l', 's', 'e'] _ rest

theorem takes_count (n : Nat) : count.Takes (.number (.int n)) n := by
  intro depth cs spelt gap rest blank ends
  obtain ⟨fits, rfl⟩ : Is64Bit n ∧ cs = intText n := by simpa only [Spells] using spelt
  have number := number_intText fits ends
  obtain ⟨c, tail, first, begins⟩ := intText_cons n
  obtain ⟨visible, -⟩ := ne_of_beginsNumber begins
  rw [first, List.cons_append] at number
  rw [first, List.cons_append]
  simp only [count, Json.count, skipBlanks_gap blank visible, begins, if_true, number,
    Reading.andThen_ok]

/-- What is present is taken by the optional form. -/
theorem Takes.some (takes : f.Takes v x) (present : v ≠ .null) :
    (optional f).Takes v (Option.some x) := by
  intro depth cs spelt gap rest blank ends
  have read := (takes depth cs spelt).plain ends
  obtain ⟨c, tail, rfl, opens, notNull⟩ := spelt.cons
  rw [List.cons_append] at read ⊢
  simp only [optional, Json.optional, skipBlanks_gap blank opens.1, notNull present, if_false,
    read, Reading.mapResult_ok]

/-- A list is taken if its items are. -/
theorem takes_listOf {vs : List Value} {xs : List α} (each : List.Forall₂ f.Takes vs xs) :
    (listOf f).Takes (.array vs) xs := by
  intro depth cs spelt gap rest blank _
  cases depth with
  | zero => exact spelt.elim
  | succ depth =>
      obtain ⟨inside, listed, rfl⟩ := spelt
      have items := entriesOf_items (each.imp fun _ _ takes => takes depth) listed rest
      rw [List.cons_append]
      simp only [listOf, Json.listOf,
        skipBlanks_gap blank (by decide : isJsonBlank '[' = false), if_true, nested, items]

/-- A value is taken by its name. -/
theorem takes_choice {variants : List (String × α)} {name : String}
    (named : variants.lookup name = Option.some x) :
    (choice variants).Takes (.text name) x := by
  intro depth cs spelt gap rest blank _
  obtain rfl : cs = quoted name := by simpa only [Spells] using spelt
  rw [quoted, List.cons_append, List.append_assoc, List.singleton_append]
  simp [choice, Json.choice, skipBlanks_gap blank (by decide : isJsonBlank '"' = false),
    variantTail, textTail_quotedTail, named]

/-- What is taken may be mapped. -/
theorem Takes.map (takes : f.Takes v x) (g : α → β) : (f.map g).Takes v (g x) := by
  intro depth cs spelt gap rest blank ends
  rw [Form.map]
  simp only [takes depth cs spelt gap rest blank ends, Reading.mapResult_ok]

end Form

/-! ## Fields -/

theorem Field.takes_of {f : Form α} {v : Value} {x : α} (takes : f.Takes v x) (name : String)
    (set : α → δ → δ) (draft : δ) : (Field.of name f set).Takes draft v (set x draft) := by
  intro depth cs spelt gap rest blank ends
  simp only [Field.of, takes depth cs spelt gap rest blank ends, Reading.mapResult_ok]

/-- **What members make of a draft**, if they give the fields in order; a field that is not
given is passed over. -/
inductive Fills : List (Field δ) → Members → δ → δ → Prop
  | nil {draft : δ} : Fills [] [] draft draft
  | skip {f : Field δ} {fields : List (Field δ)} {members : Members} {draft last : δ} :
      Fills fields members draft last → Fills (f :: fields) members draft last
  | fill {f : Field δ} {fields : List (Field δ)} {v : Value} {members : Members}
      {draft mid last : δ} :
      f.Takes draft v mid → Fills fields members mid last →
        Fills (f :: fields) ((f.name, v) :: members) draft last

namespace Fills

/-- Fields one after the other fill what the first ones have left. -/
theorem append {fields fields' : List (Field δ)} {members members' : Members}
    {draft mid last : δ} (front : Fills fields members draft mid)
    (back : Fills fields' members' mid last) :
    Fills (fields ++ fields') (members ++ members') draft last := by
  induction front with
  | nil => exact back
  | skip _ ih => exact .skip (ih back)
  | fill takes _ ih => exact .fill takes (ih back)

/-- A field that is given. -/
theorem given {f : Form α} {v : Value} {x : α} (takes : f.Takes v x) (name : String)
    (set : α → δ → δ) (draft : δ) : Fills [.of name f set] [(name, v)] draft (set x draft) :=
  .fill (Field.takes_of takes name set draft) .nil

/-- A field that is not given, because what the draft has is what would be put there. -/
theorem absent {f : Form α} {x : α} {name : String} {set : α → δ → δ} {draft : δ}
    (default : set x draft = draft) : Fills [.of name f set] [] draft (set x draft) :=
  default.symm ▸ .skip .nil

end Fills

namespace Record

variable {r : Record δ α}

/-- A member that fills a field which was not filled before. -/
def Known (r : Record δ α) (state : List String × δ) (m : String × Value)
    (state' : List String × δ) : Prop :=
  ∃ f, r.field? m.1 = some f ∧ f.name ∉ state.1 ∧ f.Takes state.2 m.2 state'.2 ∧
    state'.1 = f.name :: state.1

/-- A member that no field is named by, and that is kept. -/
def Other (r : Record δ α) (m : String × Value) : Prop :=
  r.field? m.1 = none ∧ m.2.Ordered

/-- What a member does to a draft with the members that were kept so far. -/
inductive Keeps (r : Record δ α) :
    (List String × δ) × Members → String × Value → (List String × δ) × Members → Prop
  | known {known known' : List String × δ} {m : String × Value} {others : Members} :
      r.Known known m known' → Keeps r (known, others) m (known', others)
  | other {known : List String × δ} {m : String × Value} {others : Members} :
      r.Other m → Keeps r (known, others) m (known, Keyed.put m.1 m.2 others)

/-- Where names differ, a field is found by its name. -/
theorem field?_name {f : Field δ} (nodup : (r.fields.map Field.name).Nodup)
    (there : f ∈ r.fields) :
    r.field? f.name = some f := by
  rw [field?, List.find?_eq_some_iff_append]
  obtain ⟨before, after, split⟩ := List.append_of_mem there
  refine ⟨by simp, before, after, split, fun g early => ?_⟩
  rw [split, List.map_append, List.map_cons, List.nodup_append] at nodup
  have ne := nodup.2.2 g.name (List.mem_map_of_mem early) f.name (.head _)
  simpa using ne

/-- Members in the order of the fields are all read. -/
theorem threads_fills (nodup : (r.fields.map Field.name).Nodup) {fields : List (Field δ)}
    {members : Members} {draft last : δ} (fills : Fills fields members draft last)
    (part : fields.Sublist r.fields) (seen : List String)
    (fresh : ∀ f ∈ fields, f.name ∉ seen) :
    ∃ seen', Threads r.Known (seen, draft) members (seen', last) := by
  induction fills generalizing seen with
  | nil => exact ⟨seen, .nil⟩
  | skip _ ih =>
      exact ih ((List.sublist_cons_self _ _).trans part) seen fun f there =>
        fresh f (.tail _ there)
  | @fill f fields v members draft mid last takes _ ih =>
      have known : r.Known (seen, draft) (f.name, v) (f.name :: seen, mid) :=
        ⟨f, field?_name nodup (part.subset (.head _)), fresh f (.head _), takes, rfl⟩
      have distinct : ((f :: fields).map Field.name).Nodup := nodup.sublist (part.map _)
      obtain ⟨seen', threads⟩ := ih ((List.sublist_cons_self _ _).trans part) (f.name :: seen)
        fun g there => by
          have ne : g.name ≠ f.name := fun same =>
            (List.nodup_cons.1 distinct).1 (same ▸ List.mem_map_of_mem there)
          exact List.mem_cons.not.2 (not_or.2 ⟨ne, fresh g (.tail _ there)⟩)
      exact ⟨seen', .cons known threads⟩

/-- The value of a field that was not read before. -/
theorem fieldEntry_fresh {f : Field δ} {seen : List String} (fresh : f.name ∉ seen)
    (depth : Nat) (draft : δ) (s : List Char) :
    fieldEntry depth f seen draft s =
      Reading.mapResult (memberValue (f.read draft depth) s) fun draft =>
        (f.name :: seen, draft) := by
  rw [fieldEntry, if_neg (by simpa using fresh)]

section Entries

variable {depth : Nat} {known known' : List String × δ} {m : String × Value} {cs : List Char}

/-- A member that is a field fills it. -/
theorem reads_memberEntry (fills : r.Known known m known')
    (spelt : MemberSpells (Spells depth) m cs) :
    Reads (r.memberEntry depth known) cs known' := by
  obtain ⟨f, named, fresh, takes, seen⟩ := fills
  have eq : known' = (f.name :: known.1, known'.2) := Prod.ext seen rfl
  rw [eq]
  exact reads_member (f := fun draft => (f.name :: known.1, draft)) spelt
    (fun s => by simp only [named, fieldEntry_fresh fresh]) (takes depth)

/-- A member that is no field is kept. -/
theorem reads_keepingEntry {state state' : (List String × δ) × Members}
    (keeps : r.Keeps state m state') (spelt : MemberSpells (Spells depth) m cs) :
    Reads (r.keepingEntry depth state) cs state' := by
  cases keeps with
  | @known known known' m others fills =>
      obtain ⟨f, named, fresh, takes, seen⟩ := fills
      have eq : known' = (f.name :: known.1, known'.2) := Prod.ext seen rfl
      have entry : ∀ s, Reading.mapResult (fieldEntry depth f known.1 known.2 s)
          (fun known => (known, others)) =
            Reading.mapResult (memberValue (f.read known.2 depth) s)
            fun draft => ((f.name :: known.1, draft), others) := by
        intro s
        rw [fieldEntry_fresh fresh]
        cases memberValue (f.read known.2 depth) s <;> rfl
      rw [eq]
      exact reads_member (f := fun draft => ((f.name :: known.1, draft), others)) spelt
        (fun s => by simp only [named, entry]) (takes depth)
  | @other known m others other =>
      obtain ⟨unnamed, ordered⟩ := other
      exact reads_member (f := fun v => (known, Keyed.put m.1 v others)) spelt
        (fun s => by simp only [unnamed]) fun cs spelt => reads_value ordered spelt

end Entries

variable {members others : Members} {draft : δ} {x : α}

/-- **A record is taken from its fields**, given in order; those that are not given have
their defaults. -/
theorem takes_form (nodup : (r.fields.map Field.name).Nodup)
    (fills : Fills r.fields members r.blank draft) (finished : r.finish draft = some x) :
    r.form.Takes (.object members) x := by
  intro depth cs spelt gap rest blank _
  cases depth with
  | zero => exact spelt.elim
  | succ depth =>
      obtain ⟨inside, listed, rfl⟩ := spelt
      obtain ⟨seen, threads⟩ := threads_fills nodup fills (.refl _) [] (by simp)
      have read := entriesOf_listed (.inr rfl) listed threads (fun _ _ spelt => spelt.cons)
        (fun _ _ _ _ known spelt => reads_memberEntry known spelt) rest
      rw [List.cons_append]
      simp [form, Record.read, skipBlanks_gap blank (by decide : isJsonBlank '{' = false),
        nested, read, complete, finished]

/-- **A record is taken with its other members**, given behind its fields. -/
theorem takes_keeping (nodup : (r.fields.map Field.name).Nodup)
    (fills : Fills r.fields members r.blank draft) (finished : r.finish draft = some x)
    (sorted : Keyed.Sorted others) (other : ∀ m ∈ others, r.Other m) :
    r.keeping.Takes (.object (members ++ others)) (x, others) := by
  intro depth cs spelt gap rest blank _
  cases depth with
  | zero => exact spelt.elim
  | succ depth =>
      obtain ⟨inside, listed, rfl⟩ := spelt
      obtain ⟨seen, known⟩ := threads_fills nodup fills (.refl _) [] (by simp)
      have front : Threads r.Keeps (([], r.blank), []) members ((seen, draft), []) :=
        known.lift (fun known => (known, [])) .known
      have back : Threads r.Keeps ((seen, draft), []) others ((seen, draft), others) := by
        have puts := threads_put [] sorted other
        refine puts.lift (fun others => ((seen, draft), others)) ?_
        rintro others m _ ⟨other, rfl⟩
        exact .other other
      have read := entriesOf_listed (.inr rfl) listed (front.append back)
        (fun _ _ spelt => spelt.cons)
        (fun _ _ _ _ keeps spelt => reads_keepingEntry keeps spelt) rest
      rw [List.cons_append]
      simp [keeping, readKeeping, skipBlanks_gap blank (by decide : isJsonBlank '{' = false),
        nested, read, complete, finished]

end Record

/-! ## Texts -/

/-- **A value is read back from both of its printed texts.** -/
theorem Form.Takes.parse {f : Form α} {v : Value} {x : α} (takes : f.Takes v x)
    (whole : v.Whole) (within : v.Within nestingLimit) :
    f.parse v.compact = .ok x ∧ f.parse v.pretty = .ok x := by
  have read : ∀ cs, Spells nestingLimit v cs → f.parse (String.ofList cs) = .ok x := by
    intro cs spelt
    have plain := (takes _ cs spelt).plain ends_nil
    rw [List.append_nil] at plain
    simp [Form.parse, Json.parse, plain, skipBlanks]
  exact ⟨read _ (Value.layout_compact.spells whole within 0),
    read _ (Value.layout_pretty.spells whole within 0)⟩

end ServerConnections.Json
