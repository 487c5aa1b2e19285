import ServerConnections.Proofs.Json.Lexical

/-!
# The spellings of a value

A value can be written in more than one way, for blanks may stand in front of each part.
`Spells` says which texts are ways of writing it, so that what is proved of reading holds
of every printer at once.  The relation is by recursion on the depth, the number of arrays
and objects that may be open at the same time; numbers other than integers are left out.

Both printers spell the values whose numbers are integers and whose nesting the depth
allows: they differ in their layout alone, which is a matter of blanks.

* `Listed` — the spellings of the entries of an array or an object
* `Spells` — the spellings of a value
* `Value.Whole`, `Value.Within` — which values are written
* `Value.Layout.spells` — a printer with a layout spells them
* `Value.layout_compact`, `Value.layout_pretty` — the printers have one
-/

namespace ServerConnections.Json

variable {α : Type}

/-! ## Entries -/

/-- **The spellings of some entries**, up to the closing character.  Each entry but the
first has a comma before it, and blanks may stand in front of an entry and of the closing
character. -/
inductive Listed (close : Char) (entry : α → List Char → Prop) :
    (first : Bool) → List α → List Char → Prop
  | nil {first : Bool} {gap : List Char} :
      Blank gap → Listed close entry first [] (gap ++ [close])
  | head {gap cs rest : List Char} {x : α} {xs : List α} :
      Blank gap → entry x cs → Listed close entry false xs rest →
        Listed close entry true (x :: xs) (gap ++ (cs ++ rest))
  | cons {gap cs rest : List Char} {x : α} {xs : List α} :
      Blank gap → entry x cs → Listed close entry false xs rest →
        Listed close entry false (x :: xs) (',' :: (gap ++ (cs ++ rest)))

/-- A printer that writes a comma, the same blanks and the text of each entry lists them. -/
theorem Listed.of_print {close : Char} {entry : α → List Char → Prop}
    (print : List α → List Char) {text : α → List Char} {gap last : List Char}
    (blank : Blank gap) (lastBlank : Blank last) (nil : print [] = last ++ [close])
    (cons : ∀ x xs, print (x :: xs) = ',' :: (gap ++ (text x ++ print xs)))
    {xs : List α} (each : ∀ x ∈ xs, entry x (text x)) :
    Listed close entry false xs (print xs) := by
  induction xs with
  | nil => exact nil ▸ .nil lastBlank
  | cons x xs ih =>
      rw [cons]
      exact .cons blank (each x (.head _)) (ih fun y there => each y (.tail _ there))

/-- The spellings of a member: its key, a colon, and its value behind blanks. -/
def MemberSpells (spells : Value → List Char → Prop) (m : String × Value) (cs : List Char) :
    Prop :=
  ∃ gap text, Blank gap ∧ spells m.2 text ∧ cs = quoted m.1 ++ ':' :: (gap ++ text)

/-! ## Values -/

/-- The word for nothing. -/
def nullText : List Char := ['n', 'u', 'l', 'l']

/-- **The spellings of a value**, with at most `depth` arrays and objects open at once. -/
def Spells : (depth : Nat) → Value → List Char → Prop
  | _, .null, cs => cs = nullText
  | _, .bool b, cs => cs = flagText b
  | _, .number (.int i), cs => Is64Bit i ∧ cs = intText i
  | _, .number (.float _), _ => False
  | _, .text s, cs => cs = quoted s
  | 0, .array _, _ => False
  | 0, .object _, _ => False
  | depth + 1, .array items, cs =>
      ∃ inside, Listed ']' (Spells depth) true items inside ∧ cs = '[' :: inside
  | depth + 1, .object members, cs =>
      ∃ inside, Listed '}' (MemberSpells (Spells depth)) true members inside ∧
        cs = '{' :: inside

namespace Value

/-- **The numbers of a value are integers of 64 bits**, those of its parts as well. -/
inductive Whole : Value → Prop
  | null : Whole .null
  | bool (b : Bool) : Whole (.bool b)
  | int {i : Int} : Is64Bit i → Whole (.number (.int i))
  | text (s : String) : Whole (.text s)
  | array {items : List Value} : (∀ v ∈ items, Whole v) → Whole (.array items)
  | object {members : Members} : (∀ m ∈ members, Whole m.2) → Whole (.object members)

/-- At most `depth` arrays and objects of a value are open at once. -/
def Within : (depth : Nat) → Value → Prop
  | _, .null => True
  | _, .bool _ => True
  | _, .number _ => True
  | _, .text _ => True
  | 0, .array _ => False
  | 0, .object _ => False
  | depth + 1, .array items => ∀ v ∈ items, Within depth v
  | depth + 1, .object members => ∀ m ∈ members, Within depth m.2

/-! ## Printers -/

/-- **A printer with a layout**: it puts `gap level` in front of what stands at a level, and
`space` between the colon of a member and its value. -/
structure Layout (chars : Nat → Value → List Char) (items : Nat → List Value → List Char)
    (members : Nat → Members → List Char) (gap : Nat → List Char) (space : List Char) :
    Prop where
  blank_gap (level : Nat) : Blank (gap level)
  blank_space : Blank space
  scalar (level : Nat) {v : Value} : v.Within 0 → chars level v = v.compactChars
  array_nil (level : Nat) : chars level (.array []) = ['[', ']']
  array_cons (level : Nat) (v : Value) (vs : List Value) :
    chars level (.array (v :: vs)) =
      '[' :: (gap (level + 1) ++ (chars (level + 1) v ++ items level vs))
  items_nil (level : Nat) : items level [] = gap level ++ [']']
  items_cons (level : Nat) (v : Value) (vs : List Value) :
    items level (v :: vs) = ',' :: (gap (level + 1) ++ (chars (level + 1) v ++ items level vs))
  object_nil (level : Nat) : chars level (.object []) = ['{', '}']
  object_cons (level : Nat) (m : String × Value) (ms : Members) :
    chars level (.object (m :: ms)) = '{' :: (gap (level + 1) ++
      (quoted m.1 ++ ':' :: (space ++ chars (level + 1) m.2) ++ members level ms))
  members_nil (level : Nat) : members level [] = gap level ++ ['}']
  members_cons (level : Nat) (m : String × Value) (ms : Members) :
    members level (m :: ms) = ',' :: (gap (level + 1) ++
      (quoted m.1 ++ ':' :: (space ++ chars (level + 1) m.2) ++ members level ms))

namespace Layout

variable {chars : Nat → Value → List Char} {items : Nat → List Value → List Char}
  {members : Nat → Members → List Char} {gap : Nat → List Char} {space : List Char}

/-- A value without others inside is spelt by every printer. -/
theorem spells_scalar (layout : Layout chars items members gap space) {v : Value}
    (whole : v.Whole) (single : v.Within 0) (depth level : Nat) :
    Spells depth v (chars level v) := by
  rw [layout.scalar level single]
  cases whole with
  | int fits => cases depth <;> exact ⟨fits, rfl⟩
  | array _ | object _ => exact single.elim
  | _ => cases depth <;> rfl

/-- **A printer with a layout spells values**, at every level of indentation. -/
theorem spells (layout : Layout chars items members gap space) {depth : Nat} {v : Value}
    (whole : v.Whole) (within : v.Within depth) (level : Nat) :
    Spells depth v (chars level v) := by
  induction depth generalizing v level with
  | zero => exact layout.spells_scalar whole within 0 level
  | succ depth ih =>
      have outer := layout.blank_gap level
      have inner := layout.blank_gap (level + 1)
      have scalar := fun single => layout.spells_scalar whole single (depth + 1) level
      cases whole with
      | @array vs whole =>
          have each : ∀ v ∈ vs, Spells depth v (chars (level + 1) v) := fun v there =>
            ih (whole v there) (within v there) (level + 1)
          cases vs with
          | nil => exact ⟨_, .nil blank_nil, layout.array_nil level⟩
          | cons v vs =>
              have behind : Listed ']' (Spells depth) false vs (items level vs) :=
                .of_print (items level) inner outer (layout.items_nil level)
                  (layout.items_cons level) fun v there => each v (.tail _ there)
              exact ⟨_, .head inner (each v (.head _)) behind, layout.array_cons level v vs⟩
      | @object ms whole =>
          have each : ∀ m ∈ ms, MemberSpells (Spells depth) m
              (quoted m.1 ++ ':' :: (space ++ chars (level + 1) m.2)) := fun m there =>
            ⟨space, _, layout.blank_space,
              ih (whole m there) (within m there) (level + 1), rfl⟩
          cases ms with
          | nil => exact ⟨_, .nil blank_nil, layout.object_nil level⟩
          | cons m ms =>
              have behind : Listed '}' (MemberSpells (Spells depth)) false ms
                  (members level ms) :=
                .of_print (members level) inner outer (layout.members_nil level)
                  (layout.members_cons level) fun m there => each m (.tail _ there)
              exact ⟨_, .head inner (each m (.head _)) behind, layout.object_cons level m ms⟩
      | _ => exact scalar trivial

end Layout

/-- The compact printer puts nothing between the entries. -/
theorem layout_compact :
    Layout (fun _ => compactChars) (fun _ => compactItems) (fun _ => compactMembers)
      (fun _ => []) [] where
  blank_gap _ := blank_nil
  blank_space := blank_nil
  scalar _ _ _ := rfl
  array_nil _ := rfl
  array_cons _ _ _ := rfl
  items_nil _ := rfl
  items_cons _ _ _ := rfl
  object_nil _ := rfl
  object_cons _ _ _ := rfl
  members_nil _ := rfl
  members_cons _ _ _ := rfl

theorem blank_newLine (level : Nat) : Blank (newLine level) := by
  intro c there
  rcases List.mem_cons.1 there with rfl | there
  · rfl
  · exact (List.eq_of_mem_replicate there) ▸ rfl

theorem blank_space : Blank [' '] := by
  rintro c (_ | ⟨_, ⟨⟩⟩)
  rfl

/-- The other printer puts a new line between them, with blanks for the level. -/
theorem layout_pretty : Layout prettyChars prettyItems prettyMembers newLine [' '] where
  blank_gap := blank_newLine
  blank_space := blank_space
  scalar _ v within := by
    cases v with
    | array _ | object _ => exact within.elim
    | _ => rfl
  array_nil _ := rfl
  array_cons _ _ _ := by simp [prettyChars]
  items_nil _ := rfl
  items_cons _ _ _ := by simp [prettyItems]
  object_nil _ := rfl
  object_cons _ _ _ := by simp [prettyChars]
  members_nil _ := rfl
  members_cons _ _ _ := by simp [prettyMembers]

end Value

end ServerConnections.Json
