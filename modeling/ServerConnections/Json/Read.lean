import ServerConnections.Json.Scan

/-!
# Reading JSON text

A `Reader` reads a value of one type and stops at the first fault in reading
order. This file has the readers for JSON values as such, kept or skipped, and
those for values of the simple types: texts, flags, counts, lists, choices.

Design notes:

* Nesting is bounded by a budget, `depth`: the number of arrays and objects that
  may still be opened. Reading of kept values is by structural recursion on it.
  Skipped values are not bounded; for them the budget is the length of the text.
* Arrays and objects are both `entries`, a loop over comma-separated entries
  that threads an accumulator. Its count of rounds is the length of the text,
  which no text needs, for every entry takes at least one character.
-/

namespace ServerConnections.Json

/-- Reads a value of type `α`; `depth` arrays and objects may still be opened. -/
abbrev Reader (α : Type) := (depth : Nat) → (s : List Char) → Reading α

variable {α β : Type}

/-- The number of arrays and objects that may be open at once. -/
def nestingLimit : Nat := 127

/-- Opens an array or object, if the budget allows it. -/
def nested (depth : Nat) (inside : Nat → Reading α) : Reading α :=
  match depth with
  | 0 => .error .malformed
  | depth + 1 => inside depth

/-- Goes on with the result of a reading. -/
def Reading.andThen (r : Reading α) (next : α → List Char → Reading β) : Reading β :=
  match r with
  | .ok (x, s) => next x s
  | .error e => .error e

/-- Changes the result of a reading. -/
def Reading.mapResult (r : Reading α) (f : α → β) : Reading β :=
  r.map fun p => (f p.1, p.2)

@[simp] theorem Reading.andThen_ok (x : α) (s : List Char)
    (next : α → List Char → Reading β) :
    Reading.andThen (.ok (x, s)) next = next x s := rfl

@[simp] theorem Reading.mapResult_ok (x : α) (s : List Char) (f : α → β) :
    Reading.mapResult (.ok (x, s)) f = .ok (f x, s) := rfl

/-- The rest of a word as a reading of the value that the word stands for. -/
def wordFor (ws : List Char) (x : α) (s : List Char) : Reading α :=
  (word ws s).map fun rest => (x, rest)

/-- A text, behind its opening quote. -/
def textTail (s : List Char) : Reading String :=
  Reading.mapResult (textChars .plain s) String.ofList

/-! ### Entries -/

/-- Reads comma-separated entries up to the closing character. -/
def entries (close : Char) (entry : β → List Char → Reading β) :
    (rounds : Nat) → (first : Bool) → β → List Char → Reading β
  | 0, _, _, _ => .error .cutShort
  | rounds + 1, first, acc, s =>
    match skipBlanks s with
    | [] => .error .cutShort
    | c :: rest =>
      if c = close then .ok (acc, rest)
      else if first then
        Reading.andThen (entry acc (c :: rest)) (entries close entry rounds false)
      else if c = ',' then
        Reading.andThen (entry acc rest) (entries close entry rounds false)
      else .error .malformed

/-- Reads all entries behind an opening character. -/
def entriesOf (close : Char) (entry : β → List Char → Reading β) (acc : β)
    (s : List Char) : Reading β :=
  entries close entry (s.length + 1) true acc s

/-- Reads the key of a member. -/
def key (s : List Char) : Reading String :=
  match skipBlanks s with
  | [] => .error .cutShort
  | c :: rest => if c = '"' then textTail rest else .error .malformed

/-- Reads the colon behind a key. -/
def colon (s : List Char) : Except Fault (List Char) :=
  match skipBlanks s with
  | [] => .error .cutShort
  | c :: rest => if c = ':' then .ok rest else .error .malformed

/-- Reads the colon and the value of a member. -/
def memberValue (r : List Char → Reading α) (s : List Char) : Reading α :=
  match colon s with
  | .error e => .error e
  | .ok rest => r rest

/-! ### Values as such -/

/-- Reads a value, given how the insides of arrays and objects are read. -/
def valueWith (array object : List Char → Reading Value) (s : List Char) : Reading Value :=
  match skipBlanks s with
  | [] => .error .cutShort
  | c :: rest =>
    if c = 'n' then wordFor ['u', 'l', 'l'] .null rest
    else if c = 't' then wordFor ['r', 'u', 'e'] (.bool true) rest
    else if c = 'f' then wordFor ['a', 'l', 's', 'e'] (.bool false) rest
    else if c = '"' then Reading.mapResult (textTail rest) .text
    else if c = '[' then array rest
    else if c = '{' then object rest
    else if c = '-' ∨ isDigit c then Reading.mapResult (number (c :: rest)) .number
    else .error .malformed

/-- Reads one item into an array. -/
def arrayEntry (item : List Char → Reading α) (items : List α) (s : List Char) :
    Reading (List α) :=
  Reading.mapResult (item s) fun x => items ++ [x]

/-- Reads one member into an object: the last of two members with one key
counts. -/
def objectEntry (item : List Char → Reading Value) (members : Members) (s : List Char) :
    Reading Members :=
  Reading.andThen (key s) fun k rest =>
    Reading.mapResult (memberValue item rest) fun v => Keyed.put k v members

/-- Reads a value that is kept. -/
def value : (depth : Nat) → List Char → Reading Value
  | 0 => valueWith (fun _ => .error .malformed) (fun _ => .error .malformed)
  | depth + 1 =>
    valueWith
      (fun s => Reading.mapResult (entriesOf ']' (arrayEntry (value depth)) [] s) .array)
      (fun s => Reading.mapResult (entriesOf '}' (objectEntry (value depth)) [] s) .object)

/-- Passes over a value, given how the insides of arrays and objects are passed
over. -/
def skipWith (array object : List Char → Reading Unit) (s : List Char) : Reading Unit :=
  match skipBlanks s with
  | [] => .error .cutShort
  | c :: rest =>
    if c = 'n' then wordFor ['u', 'l', 'l'] () rest
    else if c = 't' then wordFor ['r', 'u', 'e'] () rest
    else if c = 'f' then wordFor ['a', 'l', 's', 'e'] () rest
    else if c = '"' then (skipText .plain rest).map fun rest => ((), rest)
    else if c = '[' then array rest
    else if c = '{' then object rest
    else if c = '-' ∨ isDigit c then (skipNumber (c :: rest)).map fun rest => ((), rest)
    else .error .malformed

/-- Passes over the key of a member that is skipped. -/
def skipKey (s : List Char) : Except Fault (List Char) :=
  match skipBlanks s with
  | [] => .error .cutShort
  | c :: rest => if c = '"' then skipText .plain rest else .error .malformed

/-- Passes over a member. -/
def skipMember (item : List Char → Reading Unit) (s : List Char) : Reading Unit :=
  match skipKey s with
  | .error e => .error e
  | .ok rest => memberValue item rest

/-- Passes over a value with at most `levels` arrays and objects open at once. -/
def skipLevels : (levels : Nat) → List Char → Reading Unit
  | 0 => skipWith (fun _ => .error .malformed) (fun _ => .error .malformed)
  | levels + 1 =>
    skipWith (entriesOf ']' (fun _ => skipLevels levels) ())
      (entriesOf '}' (fun _ => skipMember (skipLevels levels)) ())

/-- **Passes over a value that is not kept.** It must be well formed, but its
texts may hold unpaired surrogates, its numbers may be out of range, and its
nesting is not limited. -/
def skip (s : List Char) : Reading Unit :=
  skipLevels s.length s

/-! ### Typed values -/

/-- The fault of a reading that should have failed: a value that can be read is
a misfit where a value of another form is asked for. -/
def faultOf : Except Fault α → Fault
  | .error e => e
  | .ok _ => .misfit

/-- **The fault of a value of another form than asked for**, where `s` starts
with it. Scalars are read first, so a broken one is malformed or cut short; an
array or object is a misfit at its first character. -/
def misplaced (s : List Char) : Fault :=
  match s with
  | [] => .cutShort
  | c :: rest =>
    if c = 'n' then faultOf (word ['u', 'l', 'l'] rest)
    else if c = 't' then faultOf (word ['r', 'u', 'e'] rest)
    else if c = 'f' then faultOf (word ['a', 'l', 's', 'e'] rest)
    else if c = '"' then faultOf (textTail rest)
    else if c = '[' ∨ c = '{' then .misfit
    else if c = '-' ∨ isDigit c then faultOf (number (c :: rest))
    else .malformed

/-- Reads a text. -/
def text : Reader String := fun _ s =>
  match skipBlanks s with
  | [] => .error .cutShort
  | c :: rest => if c = '"' then textTail rest else .error (misplaced (c :: rest))

/-- Reads `true` or `false`. -/
def flag : Reader Bool := fun _ s =>
  match skipBlanks s with
  | [] => .error .cutShort
  | c :: rest =>
    if c = 't' then wordFor ['r', 'u', 'e'] true rest
    else if c = 'f' then wordFor ['a', 'l', 's', 'e'] false rest
    else .error (misplaced (c :: rest))

/-- Reads an integer from 0 to 2^64 − 1, written without point and exponent. -/
def count : Reader Nat := fun _ s =>
  match skipBlanks s with
  | [] => .error .cutShort
  | c :: rest =>
    if c = '-' ∨ isDigit c then
      Reading.andThen (number (c :: rest)) fun n rest =>
        match n with
        | .int (.ofNat k) => .ok (k, rest)
        | _ => .error .misfit
    else .error (misplaced (c :: rest))

/-- Reads `null` or a value. -/
def optional (r : Reader α) : Reader (Option α) := fun depth s =>
  match skipBlanks s with
  | [] => .error .cutShort
  | c :: rest =>
    if c = 'n' then wordFor ['u', 'l', 'l'] none rest
    else Reading.mapResult (r depth (c :: rest)) some

/-- Reads an array of values. -/
def listOf (r : Reader α) : Reader (List α) := fun depth s =>
  match skipBlanks s with
  | [] => .error .cutShort
  | c :: rest =>
    if c = '[' then nested depth fun depth => entriesOf ']' (arrayEntry (r depth)) [] rest
    else .error (misplaced (c :: rest))

/-- Reads `null` and nothing else. -/
def unit : Reader Unit := fun _ s =>
  match skipBlanks s with
  | [] => .error .cutShort
  | c :: rest =>
    if c = 'n' then wordFor ['u', 'l', 'l'] () rest else .error (misplaced (c :: rest))

/-- Reads the name of one of some variants, behind its opening quote. -/
def variantTail (variants : List (String × α)) (s : List Char) : Reading α :=
  Reading.andThen (textTail s) fun name rest =>
    match variants.lookup name with
    | some x => .ok (x, rest)
    | none => .error .misfit

/-- Reads the end of an object that has one member. -/
def closeObject (x : α) (s : List Char) : Reading α :=
  match skipBlanks s with
  | [] => .error .cutShort
  | c :: rest => if c = '}' then .ok (x, rest) else .error .malformed

/-- Reads the inside of an object whose only member names a variant and is
`null`. -/
def variantObject (variants : List (String × α)) (depth : Nat) (s : List Char) : Reading α :=
  match skipBlanks s with
  | [] => .error .cutShort
  | c :: rest =>
    if c = '"' then
      Reading.andThen (variantTail variants rest) fun x rest =>
        Reading.andThen (memberValue (unit depth) rest) fun _ => closeObject x
    else .error (misplaced (c :: rest))

/-- **Reads one of some named variants**, as a text or as an object with one
member of value `null`. -/
def choice (variants : List (String × α)) : Reader α := fun depth s =>
  match skipBlanks s with
  | [] => .error .cutShort
  | c :: rest =>
    if c = '"' then variantTail variants rest
    else if c = '{' then nested depth fun depth => variantObject variants depth rest
    else .error .malformed

/-- **Reads a text that holds one value** and blanks around it. -/
def parse (r : Reader α) (s : String) : Except Fault α :=
  match r nestingLimit s.toList with
  | .error e => .error e
  | .ok (x, rest) => if (skipBlanks rest).isEmpty then .ok x else .error .malformed

end ServerConnections.Json
