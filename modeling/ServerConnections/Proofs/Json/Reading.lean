import Mathlib.Data.List.Forall2
import ServerConnections.Json.Read
import ServerConnections.Proofs.Json.Spelling
import ServerConnections.Proofs.Keyed

/-!
# Spellings are read back

Each spelling of a value is read as that value, with whatever may stand behind it.  Arrays
and objects are one loop over entries, and the loop is followed entry by entry: what an
entry does to the accumulator is a relation, `Threads` chains it, and `entriesOf_punctuated`
says that the loop ends with the last accumulator.  A spelling has no blanks before its
commas, but the loop allows them; `Punctuated` has both.

An object that was read has its members in the order of their keys, so only such values
come back as they are.  Their members are put behind those that were read before.

* `Reads` — some characters are read as a result
* `Punctuated` — a sequence of entries, with all the blanks that may stand in it
* `entriesOf_punctuated`, `entriesOf_listed` — the loop over entries
* `reads_member` — a member, by its key and its value
* `reads_value` — values as such
-/

namespace ServerConnections.Json

variable {α β δ : Type}

/-! ## Readings -/

/-- **Some characters are read as `x`**, with blanks before them and behind them whatever
does not go on with a number. -/
def Reads (r : List Char → Reading α) (cs : List Char) (x : α) : Prop :=
  ∀ gap rest, Blank gap → Ends rest → r (gap ++ (cs ++ rest)) = .ok (x, rest)

theorem Reads.plain {r : List Char → Reading α} {cs : List Char} {x : α} (reads : Reads r cs x)
    {rest : List Char} (ends : Ends rest) : r (cs ++ rest) = .ok (x, rest) :=
  reads [] rest blank_nil ends

/-- A reader sees through the blanks at which it begins. -/
theorem skipBlanks_gap {gap : List Char} (blank : Blank gap) {c : Char}
    (visible : isJsonBlank c = false) (s : List Char) :
    skipBlanks (gap ++ c :: s) = c :: s := by
  rw [skipBlanks_append blank, skipBlanks_cons visible]

theorem wordFor_append (ws : List Char) (x : α) (s : List Char) :
    wordFor ws x (ws ++ s) = .ok (x, s) := by
  rw [wordFor, word_append]
  rfl

/-! ## How spellings begin -/

/-- A character that a value or a key may begin with. -/
def Opens (c : Char) : Prop := isJsonBlank c = false ∧ c ≠ ']' ∧ c ≠ '}'

instance (c : Char) : Decidable (Opens c) := inferInstanceAs (Decidable (_ ∧ _))

theorem opens_quote : Opens '"' := by decide

/-- An integer begins with its sign or with a digit. -/
theorem intText_cons (i : Int) : ∃ c tail, intText i = c :: tail ∧ (c = '-' ∨ isDigit c) := by
  cases i with
  | ofNat n =>
      cases digits : Nat.toDigits 10 n with
      | nil => exact (Nat.toDigits_ne_nil digits).elim
      | cons c tail =>
          have there : c ∈ Nat.toDigits 10 n := digits ▸ .head _
          exact ⟨c, tail, digits, .inr (Numeral.isDigit_of_mem_toDigits there)⟩
  | negSucc n => exact ⟨'-', _, rfl, .inl rfl⟩

/-- The sign and the digits are none of the characters that other values begin with. -/
theorem ne_of_beginsNumber {c : Char} (begins : c = '-' ∨ isDigit c) :
    isJsonBlank c = false ∧ ∀ d ∈ ['n', 't', 'f', '"', '[', ']', '{', '}'], c ≠ d := by
  have digit : ∀ d ∈ [' ', '\t', '\n', '\r', 'n', 't', 'f', '"', '[', ']', '{', '}'],
      d ≠ '-' ∧ isDigit d = false := by simp [isDigit]
  have other : ∀ d ∈ [' ', '\t', '\n', '\r', 'n', 't', 'f', '"', '[', ']', '{', '}'],
      c ≠ d := by
    rintro d there rfl
    rcases begins with rfl | begins
    · exact (digit _ there).1 rfl
    · exact absurd begins (by rw [(digit _ there).2]; decide)
  refine ⟨?_, fun d there => other d (List.mem_append_right [' ', '\t', '\n', '\r'] there)⟩
  simp [isJsonBlank, other]

/-- **The first character of a spelling.** -/
theorem Spells.cons {depth : Nat} {v : Value} {cs : List Char} (spelt : Spells depth v cs) :
    ∃ c tail, cs = c :: tail ∧ Opens c ∧ (v ≠ .null → c ≠ 'n') := by
  cases v with
  | null =>
      obtain rfl : cs = nullText := by simpa [Spells] using spelt
      exact ⟨_, _, rfl, by decide, fun ne => (ne rfl).elim⟩
  | bool b =>
      obtain rfl : cs = flagText b := by simpa [Spells] using spelt
      cases b <;> exact ⟨_, _, rfl, by decide, fun _ => by decide⟩
  | number n =>
      cases n with
      | float x => simp [Spells] at spelt
      | int i =>
          obtain ⟨-, rfl⟩ : Is64Bit i ∧ cs = intText i := by simpa [Spells] using spelt
          obtain ⟨c, tail, first, begins⟩ := intText_cons i
          obtain ⟨visible, others⟩ := ne_of_beginsNumber begins
          exact ⟨c, tail, first, ⟨visible, others _ (by decide), others _ (by decide)⟩,
            fun _ => others _ (by decide)⟩
  | text s =>
      obtain rfl : cs = quoted s := by simpa [Spells] using spelt
      exact ⟨_, _, rfl, opens_quote, fun _ => by decide⟩
  | array items =>
      cases depth with
      | zero => exact spelt.elim
      | succ depth =>
          obtain ⟨inside, -, rfl⟩ := spelt
          exact ⟨_, _, rfl, by decide, fun _ => by decide⟩
  | object members =>
      cases depth with
      | zero => exact spelt.elim
      | succ depth =>
          obtain ⟨inside, -, rfl⟩ := spelt
          exact ⟨_, _, rfl, by decide, fun _ => by decide⟩

theorem MemberSpells.cons {spells : Value → List Char → Prop} {m : String × Value}
    {cs : List Char} (spelt : MemberSpells spells m cs) :
    ∃ c tail, cs = c :: tail ∧ Opens c := by
  obtain ⟨gap, text, -, -, rfl⟩ := spelt
  exact ⟨'"', _, rfl, opens_quote⟩

/-! ## Entries -/

/-- **A sequence of entries** up to the closing character.  Each entry but the first has a
comma before it, and blanks may stand around each. -/
inductive Punctuated (close : Char) (text : α → List Char → Prop) :
    (first : Bool) → List α → List Char → Prop
  | nil {first : Bool} {gap : List Char} :
      Blank gap → Punctuated close text first [] (gap ++ [close])
  | head {gap cs more : List Char} {x : α} {xs : List α} :
      Blank gap → text x cs → Punctuated close text false xs more →
        Punctuated close text true (x :: xs) (gap ++ (cs ++ more))
  | cons {gap gap' cs more : List Char} {x : α} {xs : List α} :
      Blank gap → Blank gap' → text x cs → Punctuated close text false xs more →
        Punctuated close text false (x :: xs) (gap ++ ',' :: (gap' ++ (cs ++ more)))

/-- **What some entries do to an accumulator**, one after the other. -/
inductive Threads (step : β → α → β → Prop) : β → List α → β → Prop
  | nil {acc : β} : Threads step acc [] acc
  | cons {acc mid last : β} {x : α} {xs : List α} :
      step acc x mid → Threads step mid xs last → Threads step acc (x :: xs) last

namespace Threads

variable {step : β → α → β → Prop} {acc mid last : β} {xs ys : List α}

theorem append (front : Threads step acc xs mid) (back : Threads step mid ys last) :
    Threads step acc (xs ++ ys) last := by
  induction front with
  | nil => exact back
  | cons first _ ih => exact .cons first (ih back)

/-- Steps on a part of the accumulator are steps on the whole. -/
theorem lift {γ : Type} {step' : γ → α → γ → Prop} (f : β → γ)
    (lifts : ∀ {acc x mid}, step acc x mid → step' (f acc) x (f mid))
    (threads : Threads step acc xs last) : Threads step' (f acc) xs (f last) := by
  induction threads with
  | nil => exact .nil
  | cons first _ ih => exact .cons (lifts first) ih

end Threads

/-- A blank does not go on with a number. -/
theorem continuesNumber_of_isJsonBlank {c : Char} (blank : isJsonBlank c) :
    continuesNumber c = false := by
  simp only [isJsonBlank, Bool.or_eq_true, beq_iff_eq] at blank
  rcases blank with ((rfl | rfl) | rfl) | rfl <;> decide

/-- Blanks end a number. -/
theorem ends_gap {gap : List Char} (blank : Blank gap) {s : List Char} (ends : Ends s) :
    Ends (gap ++ s) := by
  cases gap with
  | nil => exact ends
  | cons c gap => exact ends_cons (continuesNumber_of_isJsonBlank (blank c (.head _))) _

section Entries

variable {close : Char} {text : α → List Char → Prop}

/-- What stands behind an entry ends a number. -/
theorem Punctuated.ends (closes : continuesNumber close = false) {xs : List α} {cs : List Char}
    (punctuated : Punctuated close text false xs cs) (rest : List Char) :
    Ends (cs ++ rest) := by
  cases punctuated with
  | nil blank =>
      rw [List.append_assoc]
      exact ends_gap blank (ends_cons closes _)
  | cons blank =>
      rw [List.append_assoc]
      exact ends_gap blank (ends_cons (by decide) _)

/-- Each entry takes at least one character, so there are rounds enough in the length of the
text. -/
theorem Punctuated.length_lt {xs : List α} {cs : List Char} {first : Bool}
    (punctuated : Punctuated close text first xs cs) :
    xs.length + (if first then 0 else 1) ≤ cs.length := by
  induction punctuated with
  | @nil first gap _ => cases first <;> simp
  | head _ _ _ ih =>
      simp only [List.length_append, List.length_cons, Bool.false_eq_true, if_false,
        if_true] at ih ⊢
      omega
  | cons _ _ _ _ ih =>
      simp only [List.length_append, List.length_cons, Bool.false_eq_true, if_false] at ih ⊢
      omega

variable {entry : β → List Char → Reading β} {step : β → α → β → Prop}

/-- The loop over entries, given rounds enough. -/
theorem entries_punctuated (closes : close = ']' ∨ close = '}') {first : Bool} {xs : List α}
    {cs : List Char} (punctuated : Punctuated close text first xs cs)
    (opens : ∀ x cs, text x cs → x ∈ xs → ∃ c tail, cs = c :: tail ∧ Opens c)
    (reads : ∀ x ∈ xs, ∀ acc mid cs, step acc x mid → text x cs → Reads (entry acc) cs mid)
    {acc last : β} (threads : Threads step acc xs last) {rounds : Nat}
    (enough : xs.length < rounds) (rest : List Char) :
    entries close entry rounds first acc (cs ++ rest) = .ok (last, rest) := by
  have visible : isJsonBlank close = false := by rcases closes with rfl | rfl <;> decide
  have stops : continuesNumber close = false := by rcases closes with rfl | rfl <;> decide
  have noComma : ',' ≠ close := by rcases closes with rfl | rfl <;> decide
  induction punctuated generalizing acc rounds with
  | nil blank =>
      cases threads
      obtain ⟨rounds, rfl⟩ := Nat.exists_eq_succ_of_ne_zero (Nat.ne_zero_of_lt enough)
      rw [entries, List.append_assoc, List.singleton_append, skipBlanks_gap blank visible]
      exact if_pos rfl
  | @head gap cs tail x xs blank spelt behind ih =>
      cases threads with
      | cons first threads =>
      obtain ⟨rounds, rfl⟩ := Nat.exists_eq_succ_of_ne_zero (Nat.ne_zero_of_lt enough)
      have read := (reads _ (.head _) _ _ _ first spelt).plain (behind.ends stops rest)
      obtain ⟨c, text, rfl, visible, noBracket, noBrace⟩ := opens _ _ spelt (.head _)
      have notClose : c ≠ close := by rcases closes with rfl | rfl <;> assumption
      rw [List.cons_append] at read
      rw [entries, List.append_assoc, List.append_assoc, List.cons_append,
        skipBlanks_gap blank visible]
      simp only [notClose, if_false, if_true, read, Reading.andThen_ok]
      exact ih (fun y cs spelt there => opens y cs spelt (.tail _ there))
        (fun y there => reads y (.tail _ there)) threads (Nat.lt_of_succ_lt_succ enough)
  | @cons gap gap' cs tail x xs blank blank' spelt behind ih =>
      cases threads with
      | cons first threads =>
      obtain ⟨rounds, rfl⟩ := Nat.exists_eq_succ_of_ne_zero (Nat.ne_zero_of_lt enough)
      have read := reads _ (.head _) _ _ _ first spelt gap' _ blank' (behind.ends stops rest)
      rw [entries, List.append_assoc, List.cons_append, List.append_assoc, List.append_assoc,
        skipBlanks_gap blank (by decide)]
      simp only [noComma, Bool.false_eq_true, if_false, if_true, read, Reading.andThen_ok]
      exact ih (fun y cs spelt there => opens y cs spelt (.tail _ there))
        (fun y there => reads y (.tail _ there)) threads (Nat.lt_of_succ_lt_succ enough)

/-- **A sequence of entries that are read is read**, one step of the accumulator for each. -/
theorem entriesOf_punctuated (closes : close = ']' ∨ close = '}') {xs : List α}
    {cs : List Char} (punctuated : Punctuated close text true xs cs)
    (opens : ∀ x cs, text x cs → x ∈ xs → ∃ c tail, cs = c :: tail ∧ Opens c)
    (reads : ∀ x ∈ xs, ∀ acc mid cs, step acc x mid → text x cs → Reads (entry acc) cs mid)
    {acc last : β} (threads : Threads step acc xs last) (rest : List Char) :
    entriesOf close entry acc (cs ++ rest) = .ok (last, rest) := by
  have length := punctuated.length_lt
  refine entries_punctuated closes punctuated opens reads threads ?_ rest
  simp only [if_true, List.length_append] at length ⊢
  omega

/-- A printer that writes its commas without blanks before them writes such a sequence. -/
theorem Listed.punctuated {first : Bool} {xs : List α} {cs : List Char}
    (listed : Listed close text first xs cs) : Punctuated close text first xs cs := by
  induction listed with
  | nil blank => exact .nil blank
  | head blank spelt _ ih => exact .head blank spelt ih
  | cons blank spelt _ ih => exact .cons blank_nil blank spelt ih

/-- **All entries that are listed are read**, one step of the accumulator for each. -/
theorem entriesOf_listed (closes : close = ']' ∨ close = '}') {xs : List α} {cs : List Char}
    (listed : Listed close text true xs cs) {acc last : β} (threads : Threads step acc xs last)
    (opens : ∀ x cs, text x cs → ∃ c tail, cs = c :: tail ∧ Opens c)
    (reads : ∀ acc x mid cs, step acc x mid → text x cs → Reads (entry acc) cs mid)
    (rest : List Char) :
    entriesOf close entry acc (cs ++ rest) = .ok (last, rest) :=
  entriesOf_punctuated closes listed.punctuated (fun x cs spelt _ => opens x cs spelt)
    (fun x _ acc mid cs => reads acc x mid cs) threads rest

end Entries

/-! ### Items -/

/-- Items are read into a list, each as what it stands for. -/
theorem entriesOf_items {depth : Nat} {item : List Char → Reading α} {vs : List Value}
    {xs : List α}
    (each : List.Forall₂ (fun v x => ∀ cs, Spells depth v cs → Reads item cs x) vs xs)
    {inside : List Char} (listed : Listed ']' (Spells depth) true vs inside)
    (rest : List Char) :
    entriesOf ']' (arrayEntry item) [] (inside ++ rest) = .ok (xs, rest) := by
  have threads : ∀ before : List α, Threads
      (fun acc v mid => ∃ x, (∀ cs, Spells depth v cs → Reads item cs x) ∧ mid = acc ++ [x])
      before vs (before ++ xs) := by
    clear listed
    induction each with
    | nil => exact fun before => (List.append_nil before).symm ▸ .nil
    | @cons v x vs xs first _ ih =>
        intro before
        have behind := ih (before ++ [x])
        rw [List.append_assoc, List.singleton_append] at behind
        exact .cons ⟨x, first, rfl⟩ behind
  refine entriesOf_listed (.inl rfl) listed (threads []) (fun _ _ spelt => ?_) ?_ rest
  · obtain ⟨c, tail, eq, opens, -⟩ := spelt.cons
    exact ⟨c, tail, eq, opens⟩
  · rintro acc v _ cs ⟨x, read, rfl⟩ spelt gap rest blank ends
    rw [arrayEntry, read cs spelt gap rest blank ends, Reading.mapResult_ok]

/-! ### Members -/

theorem key_quoted {gap : List Char} (blank : Blank gap) (k : String) (s : List Char) :
    key (gap ++ (quoted k ++ s)) = .ok (k, s) := by
  rw [key, quoted, List.cons_append, skipBlanks_gap blank (by decide)]
  simp only [if_true, List.append_assoc, List.singleton_append]
  exact textTail_quotedTail k s

/-- **A member is read** by its key and then as its value is. -/
theorem reads_member {spells : Value → List Char → Prop} {m : String × Value} {cs : List Char}
    (spelt : MemberSpells spells m cs) {read : String → List Char → Reading α}
    {r : List Char → Reading β} {f : β → α}
    (same : ∀ s, read m.1 s = Reading.mapResult (memberValue r s) f) {x : β}
    (reads : ∀ cs, spells m.2 cs → Reads r cs x) :
    Reads (fun s => Reading.andThen (key s) read) cs (f x) := by
  obtain ⟨gap, text, blank, spelt, rfl⟩ := spelt
  intro before rest blankBefore ends
  have value := reads text spelt gap rest blank ends
  dsimp only
  rw [List.append_assoc, key_quoted blankBefore, Reading.andThen_ok, same, memberValue, colon,
    List.cons_append, List.append_assoc, skipBlanks_cons (by decide)]
  simp only [if_true, value, Reading.mapResult_ok]

/-! ## Values as such -/

namespace Value

/-- **The members of all objects in a value are in the order of their keys.** -/
inductive Ordered : Value → Prop
  | null : Ordered .null
  | bool (b : Bool) : Ordered (.bool b)
  | number (n : Number) : Ordered (.number n)
  | text (s : String) : Ordered (.text s)
  | array {items : List Value} : (∀ v ∈ items, Ordered v) → Ordered (.array items)
  | object {members : Members} :
      Keyed.Sorted members → (∀ m ∈ members, Ordered m.2) → Ordered (.object members)

end Value

/-- A value that holds no others is read, however arrays and objects are. -/
theorem reads_scalar {array object : List Char → Reading Value} {v : Value} {cs : List Char}
    (spelt : Spells 0 v cs) : Reads (valueWith array object) cs v := by
  intro gap rest blank ends
  cases v with
  | null =>
      obtain rfl : cs = nullText := spelt
      rw [nullText, List.cons_append, valueWith, skipBlanks_gap blank (by decide)]
      exact wordFor_append ['u', 'l', 'l'] _ rest
  | bool b =>
      obtain rfl : cs = flagText b := spelt
      cases b with
      | true =>
          rw [flagText, if_pos rfl, List.cons_append, valueWith,
            skipBlanks_gap blank (by decide)]
          exact wordFor_append ['r', 'u', 'e'] _ rest
      | false =>
          rw [flagText, if_neg (by decide), List.cons_append, valueWith,
            skipBlanks_gap blank (by decide)]
          exact wordFor_append ['a', 'l', 's', 'e'] _ rest
  | number n =>
      cases n with
      | float x => exact spelt.elim
      | int i =>
          obtain ⟨fits, rfl⟩ : Is64Bit i ∧ cs = intText i := spelt
          have number := number_intText fits ends
          obtain ⟨c, tail, first, begins⟩ := intText_cons i
          obtain ⟨visible, others⟩ := ne_of_beginsNumber begins
          rw [first, List.cons_append] at number
          rw [first, List.cons_append, valueWith, skipBlanks_gap blank visible]
          simp [others, begins, number]
  | text s =>
      obtain rfl : cs = quoted s := spelt
      rw [quoted, List.cons_append, valueWith, skipBlanks_gap blank (by decide),
        List.append_assoc, List.singleton_append]
      simp [textTail_quotedTail]
  | array _ => exact spelt.elim
  | object _ => exact spelt.elim

/-- Members in the order of their keys are put together as they are. -/
theorem threads_put {kept : String × Value → Prop} (before : Members) {members : Members}
    (sorted : Keyed.Sorted (before ++ members)) (each : ∀ m ∈ members, kept m) :
    Threads (fun acc m mid => kept m ∧ mid = Keyed.put m.1 m.2 acc) before members
      (before ++ members) := by
  induction members generalizing before with
  | nil => exact (List.append_nil before).symm ▸ .nil
  | cons m members ih =>
      have last : Keyed.put m.1 m.2 before = before ++ [m] :=
        Keyed.put_of_forall_lt fun p there =>
          (List.pairwise_append.1 sorted).2.2 p there m (.head _)
      have split : before ++ m :: members = (before ++ [m]) ++ members := by simp
      rw [split] at sorted ⊢
      exact .cons ⟨each m (.head _), last.symm⟩
        (ih _ sorted fun p there => each p (.tail _ there))

/-- **The spellings of a value are read as that value**, if its members are in order. -/
theorem reads_value {depth : Nat} {v : Value} {cs : List Char} (ordered : v.Ordered)
    (spelt : Spells depth v cs) : Reads (value depth) cs v := by
  induction depth generalizing v cs with
  | zero => exact reads_scalar spelt
  | succ depth ih =>
      cases ordered with
      | null | bool _ | text _ => exact reads_scalar (by simpa only [Spells] using spelt)
      | number n =>
          cases n with
          | int i => exact reads_scalar (by simpa only [Spells] using spelt)
          | float x => exact spelt.elim
      | @array items ordered =>
          obtain ⟨inside, listed, rfl⟩ := spelt
          have each : List.Forall₂
              (fun v x => ∀ cs, Spells depth v cs → Reads (value depth) cs x) items items :=
            List.forall₂_same.2 fun v there cs => ih (ordered v there)
          intro gap rest blank _
          rw [List.cons_append, value, valueWith, skipBlanks_gap blank (by decide)]
          simp [entriesOf_items each listed]
      | @object members sorted ordered =>
          obtain ⟨inside, listed, rfl⟩ := spelt
          have threads : Threads
              (fun acc m mid => Value.Ordered m.2 ∧ mid = Keyed.put m.1 m.2 acc)
              [] members members :=
            threads_put [] sorted ordered
          have read : ∀ rest, entriesOf '}' (objectEntry (value depth)) [] (inside ++ rest) =
              .ok (members, rest) :=
            entriesOf_listed (.inr rfl) listed threads (fun _ _ spelt => spelt.cons)
              fun acc m mid cs step spelt => by
                obtain ⟨ordered, rfl⟩ := step
                exact reads_member (f := fun v => Keyed.put m.1 v acc) spelt (fun _ => rfl)
                  fun cs => ih ordered
          intro gap rest blank _
          rw [List.cons_append, value, valueWith, skipBlanks_gap blank (by decide)]
          simp [read]

end ServerConnections.Json
