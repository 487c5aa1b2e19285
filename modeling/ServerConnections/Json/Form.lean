import ServerConnections.Json.Read

/-!
# Forms of typed values

A `Form` says how the values of a type are given in JSON: in text, where faults
are told apart and come in reading order, and as a value, which fits or does not.
Both readings accept the same forms.

A record is given as an object or as an array of its fields in order. Fields have
their defaults in a draft; `Record.finish` makes the record of it, or nothing if
a field without default is missing. A member that no field is named by is passed
over, or kept with the forms made by `Record.keeping`.
-/

namespace ServerConnections.Json

variable {α β δ : Type}

/-- How the values of a type are given in JSON. -/
structure Form (α : Type) where
  read : Reader α
  fit : Value → Option α

namespace Form

/-- A text. -/
def text : Form String := ⟨Json.text, Value.text?⟩

/-- A flag. -/
def flag : Form Bool := ⟨Json.flag, Value.flag?⟩

/-- An integer from 0 to 2^64 − 1. -/
def count : Form Nat :=
  ⟨Json.count, fun
    | .number (.int (.ofNat n)) => some n
    | _ => none⟩

/-- `null` or a value. -/
def optional (f : Form α) : Form (Option α) :=
  ⟨Json.optional f.read, fun
    | .null => some none
    | v => (f.fit v).map some⟩

/-- An array of values. -/
def listOf (f : Form α) : Form (List α) :=
  ⟨Json.listOf f.read, fun v => v.items?.bind fun items => items.mapM f.fit⟩

/-- One of some named variants. -/
def choice (variants : List (String × α)) : Form α :=
  ⟨Json.choice variants, fun
    | .text name => variants.lookup name
    | .object [(name, .null)] => variants.lookup name
    | _ => none⟩

/-- The form of a type whose values another type describes. -/
def map (f : Form α) (g : α → β) : Form β :=
  ⟨fun depth s => Reading.mapResult (f.read depth s) g, fun v => (f.fit v).map g⟩

/-- Reads a text that holds one value of the form. -/
def parse (f : Form α) (s : String) : Except Fault α :=
  Json.parse f.read s

end Form

/-! ### Records -/

/-- A field of a record: its name, and how its value gets into a draft. -/
structure Field (δ : Type) where
  name : String
  read : δ → Reader δ
  fit : δ → Value → Option δ

/-- A field of a form, whose value is put into the draft by `set`. -/
def Field.of (name : String) (f : Form α) (set : α → δ → δ) : Field δ where
  name
  read draft depth s := Reading.mapResult (f.read depth s) fun x => set x draft
  fit draft v := (f.fit v).map fun x => set x draft

/-- How a record is read: its fields in order, the draft before any is read, and
the record that a draft makes, if no field without default is missing. -/
structure Record (δ α : Type) where
  fields : List (Field δ)
  blank : δ
  finish : δ → Option α

namespace Record

/-- The record that a draft makes. -/
def complete (r : Record δ α) (draft : δ) (s : List Char) : Reading α :=
  match r.finish draft with
  | some x => .ok (x, s)
  | none => .error .misfit

/-- The field of a name. -/
def field? (r : Record δ α) (name : String) : Option (Field δ) :=
  r.fields.find? fun f => f.name == name

/-- Reads the value of a field, behind its key, unless the field was read
before. -/
def fieldEntry (depth : Nat) (f : Field δ) (seen : List String) (draft : δ) (s : List Char) :
    Reading (List String × δ) :=
  if seen.contains f.name then .error .misfit
  else Reading.mapResult (memberValue (f.read draft depth) s) fun draft =>
    (f.name :: seen, draft)

/-- Reads one member into a draft; a member that is no field is skipped. -/
def memberEntry (r : Record δ α) (depth : Nat) (state : List String × δ) (s : List Char) :
    Reading (List String × δ) :=
  Reading.andThen (key s) fun name rest =>
    match r.field? name with
    | some f => fieldEntry depth f state.1 state.2 rest
    | none => Reading.mapResult (memberValue skip rest) fun _ => state

/-- Reads the fields in order, up to the end of an array. Fields that the array
is too short for keep their defaults. -/
def positional (depth : Nat) : (fields : List (Field δ)) → (first : Bool) → δ → List Char →
    Reading δ
  | [], _, draft, s =>
    match skipBlanks s with
    | [] => .error .cutShort
    | c :: rest => if c = ']' then .ok (draft, rest) else .error .malformed
  | f :: fields, first, draft, s =>
    match skipBlanks s with
    | [] => .error .cutShort
    | c :: rest =>
      if c = ']' then .ok (draft, rest)
      else if first then
        Reading.andThen (f.read draft depth (c :: rest)) (positional depth fields false)
      else if c = ',' then
        Reading.andThen (f.read draft depth rest) (positional depth fields false)
      else .error .malformed

/-- **Reads a record**, from an object or from an array of its fields. -/
def read (r : Record δ α) : Reader α := fun depth s =>
  match skipBlanks s with
  | [] => .error .cutShort
  | c :: rest =>
    if c = '[' then
      nested depth fun depth =>
        Reading.andThen (positional depth r.fields true r.blank rest) r.complete
    else if c = '{' then
      nested depth fun depth =>
        Reading.andThen (entriesOf '}' (r.memberEntry depth) ([], r.blank) rest)
          fun state => r.complete state.2
    else .error (misplaced (c :: rest))

/-- Reads one member into a draft; a member that is no field is kept. -/
def keepingEntry (r : Record δ α) (depth : Nat) (state : (List String × δ) × Members)
    (s : List Char) : Reading ((List String × δ) × Members) :=
  Reading.andThen (key s) fun name rest =>
    match r.field? name with
    | some f =>
      Reading.mapResult (fieldEntry depth f state.1.1 state.1.2 rest) fun known =>
        (known, state.2)
    | none =>
      Reading.mapResult (memberValue (value depth) rest) fun v =>
        (state.1, Keyed.put name v state.2)

/-- **Reads a record with its other members**, from an object only. -/
def readKeeping (r : Record δ α) : Reader (α × Members) := fun depth s =>
  match skipBlanks s with
  | [] => .error .cutShort
  | c :: rest =>
    if c = '{' then
      nested depth fun depth =>
        Reading.andThen (entriesOf '}' (r.keepingEntry depth) (([], r.blank), []) rest)
          fun state rest =>
            Reading.mapResult (r.complete state.1.2 rest) fun x => (x, state.2)
    else .error (misplaced (c :: rest))

/-! ### Records in values -/

/-- Puts those fields into a draft that an object has. -/
def fitMembers (members : Members) : List (Field δ) → δ → Option δ
  | [], draft => some draft
  | f :: fields, draft =>
    match Keyed.get? f.name members with
    | none => fitMembers members fields draft
    | some v => (f.fit draft v).bind (fitMembers members fields)

/-- Puts the items of an array into a draft, in the order of the fields. -/
def fitItems : List (Field δ) → List Value → δ → Option δ
  | _, [], draft => some draft
  | [], _ :: _, _ => none
  | f :: fields, v :: vs, draft => (f.fit draft v).bind (fitItems fields vs)

/-- The record that a value is. -/
def fit (r : Record δ α) (v : Value) : Option α :=
  match v with
  | .object members => (fitMembers members r.fields r.blank).bind r.finish
  | .array items => (fitItems r.fields items r.blank).bind r.finish
  | _ => none

/-- The record that an object is, with its other members. -/
def fitKeeping (r : Record δ α) (v : Value) : Option (α × Members) :=
  match v with
  | .object members =>
    ((fitMembers members r.fields r.blank).bind r.finish).map fun x =>
      (x, Keyed.without (r.fields.map Field.name) members)
  | _ => none

/-- The form of a record whose other members are passed over. -/
def form (r : Record δ α) : Form α := ⟨r.read, r.fit⟩

/-- The form of a record whose other members are kept. -/
def keeping (r : Record δ α) : Form (α × Members) := ⟨r.readKeeping, r.fitKeeping⟩

end Record

end ServerConnections.Json
