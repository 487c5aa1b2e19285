import ServerConnections.Json.Print
import ServerConnections.Json.Read

/-!
# Words, texts and numbers are read back

What is written of a value that holds no others is read back as that value, whatever is
behind it.  A text ends at its closing quote, and its escapes are undone one character at
a time.  A number has no end of its own: it is read as far as it goes, so what is behind
it must not go on with it.

* `textChars_escapeChar` — one character of a text
* `textTail_quotedTail` — a text, behind its opening quote
* `number_intText` — an integer of 64 bits
-/

namespace ServerConnections.Json

/-! ## Blanks -/

/-- Some characters are blanks. -/
def Blank (s : List Char) : Prop := ∀ c ∈ s, isJsonBlank c

theorem blank_nil : Blank [] := nofun

/-- Blanks in front are skipped. -/
theorem skipBlanks_append {gap : List Char} (blank : Blank gap) (s : List Char) :
    skipBlanks (gap ++ s) = skipBlanks s :=
  List.dropWhile_append_of_pos blank

theorem skipBlanks_cons {c : Char} (visible : isJsonBlank c = false) (s : List Char) :
    skipBlanks (c :: s) = c :: s := by
  simp [skipBlanks, visible]

/-! ## Words -/

/-- A word that is there is read. -/
theorem word_append (ws s : List Char) : word ws (ws ++ s) = .ok s := by
  induction ws with
  | nil => rfl
  | cons w ws ih => simpa [word] using ih

/-! ## Texts -/

theorem hexDigit?_hexDigit : ∀ n < 16, hexDigit? (hexDigit n) = some n := by decide

/-- The escape of a control character by its number is undone. -/
theorem textChars_unicodeEscape {c : Char} (control : c.toNat < 0x20) (s : List Char) :
    textChars .plain ('\\' :: 'u' :: '0' :: '0' :: hexDigit (c.toNat / 16) ::
        hexDigit (c.toNat % 16) :: s) =
      (textChars .plain s).map fun (cs, rest) => (c :: cs, rest) := by
  have zero : hexDigit? '0' = some 0 := by decide
  have high := hexDigit?_hexDigit (c.toNat / 16) (by omega)
  have low := hexDigit?_hexDigit (c.toNat % 16) (by omega)
  have unit : (c.toNat / 16) * 16 + c.toNat % 16 = c.toNat := by omega
  have meant : escapeUnit none c.toNat = .ok (.inl c) := by
    have noTrail : ¬ (0xDC00 ≤ c.toNat ∧ c.toNat ≤ 0xDFFF) := by omega
    have noLead : ¬ (0xD800 ≤ c.toNat ∧ c.toNat ≤ 0xDBFF) := by omega
    simp only [escapeUnit, noTrail, noLead, if_false, Char.ofNat_toNat]
  simp [textChars, zero, high, low, unit, meant]

/-- **The escape of a character is undone.** -/
theorem textChars_escapeChar (c : Char) (s : List Char) :
    textChars .plain (escapeChar c ++ s) =
      (textChars .plain s).map fun (cs, rest) => (c :: cs, rest) := by
  unfold escapeChar
  split
  · subst c; rfl
  split
  · subst c; rfl
  split
  · subst c; rfl
  split
  · subst c; rfl
  split
  · subst c; rfl
  split
  · subst c; rfl
  split
  · subst c; rfl
  split
  · exact textChars_unicodeEscape ‹_› s
  -- Any other character stands for itself.
  · simp [textChars, *]

/-- **A text is read back**, behind its opening quote. -/
theorem textTail_quotedTail (s : String) (rest : List Char) :
    textTail (s.toList.flatMap escapeChar ++ '"' :: rest) = .ok (s, rest) := by
  have chars : ∀ cs : List Char,
      textChars .plain (cs.flatMap escapeChar ++ '"' :: rest) = .ok (cs, rest) := by
    intro cs
    induction cs with
    | nil => rfl
    | cons c cs ih =>
        rw [List.flatMap_cons, List.append_assoc, textChars_escapeChar, ih]
        rfl
  rw [textTail, chars, Reading.mapResult_ok, String.ofList_toList]

/-! ## Numbers -/

/-- An integer of 64 bits, signed or not: one from −2^63 to 2^64 − 1. -/
def Is64Bit (i : Int) : Prop := -9223372036854775808 ≤ i ∧ i < UInt64.size

instance (i : Int) : Decidable (Is64Bit i) := inferInstanceAs (Decidable (_ ∧ _))

/-- A character that may go on with a number. -/
def continuesNumber (c : Char) : Bool := isDigit c || c == '.' || c == 'e' || c == 'E'

/-- **What may stand behind a value**: it does not go on with a number. -/
def Ends (rest : List Char) : Prop := ∀ c ∈ rest.head?, continuesNumber c = false

theorem ends_nil : Ends [] := nofun

theorem ends_cons {c : Char} (stops : continuesNumber c = false) (rest : List Char) :
    Ends (c :: rest) := by
  rintro _ ⟨⟩
  exact stops

namespace Numeral

theorem isDigit_of_mem_toDigits {n : Nat} {c : Char} (there : c ∈ Nat.toDigits 10 n) :
    isDigit c := by
  have digit := Nat.isDigit_of_mem_toDigits (by decide) (by decide) there
  simp only [Char.isDigit, Bool.and_eq_true, decide_eq_true_eq] at digit
  simp only [isDigit, Bool.and_eq_true, decide_eq_true_eq]
  exact digit

/-- Digits are read as far as they go. -/
theorem digitRun_append_of {digits rest : List Char} (some : digits ≠ [])
    (all : ∀ c ∈ digits, isDigit c) (ends : ∀ c ∈ rest.head?, isDigit c = false) :
    digitRun (digits ++ rest) = .ok (digits, rest) := by
  have stop : rest.takeWhile isDigit = [] ∧ rest.dropWhile isDigit = rest := by
    cases rest with
    | nil => exact ⟨rfl, rfl⟩
    | cons c rest => simp [ends c rfl]
  cases digits with
  | nil => exact (some rfl).elim
  | cons c digits =>
      have first := all c (.head _)
      rw [List.cons_append, digitRun, if_pos first, ← List.cons_append,
        List.takeWhile_append_of_pos all, List.dropWhile_append_of_pos all, stop.1, stop.2,
        List.append_nil]

/-- A run of digits is taken up to where a number ends. -/
theorem digitRun_append {digits rest : List Char} (some : digits ≠ [])
    (all : ∀ c ∈ digits, isDigit c) (ends : Ends rest) :
    digitRun (digits ++ rest) = .ok (digits, rest) := by
  refine digitRun_append_of some all fun c first => ?_
  have no := ends c first
  simp only [continuesNumber, Bool.or_eq_false_iff] at no
  exact no.1.1.1

/-- The first digit of a number other than zero is not a zero. -/
theorem head?_toDigits {n : Nat} (pos : 0 < n) : (Nat.toDigits 10 n).head? ≠ some '0' := by
  induction n using Nat.strongRecOn with
  | ind n ih =>
      by_cases small : n < 10
      · have digit : ∀ m < 10, 0 < m → [m.digitChar].head? ≠ some '0' := by decide
        rw [Nat.toDigits_of_lt_base small]
        exact digit n small pos
      · have before := ih (n / 10) (by omega) (by omega)
        rw [Nat.toDigits_of_base_le (by decide) (by omega)]
        cases digits : Nat.toDigits 10 (n / 10) with
        | nil => exact (Nat.toDigits_ne_nil digits).elim
        | cons c cs => rwa [digits] at before

/-- The digits of a number are a whole part. -/
theorem wholePart_toDigits (n : Nat) {rest : List Char} (ends : Ends rest) :
    wholePart (Nat.toDigits 10 n ++ rest) = .ok (Nat.toDigits 10 n, rest) := by
  have noZero : ¬ ((Nat.toDigits 10 n).head? = some '0' ∧ 1 < (Nat.toDigits 10 n).length) := by
    rintro ⟨zero, long⟩
    rcases Nat.eq_zero_or_pos n with rfl | pos
    · exact absurd long (by decide)
    · exact head?_toDigits pos zero
  rw [wholePart, digitRun_append Nat.toDigits_ne_nil (fun _ => isDigit_of_mem_toDigits) ends]
  exact if_neg noZero

/-- What may stand behind a value is neither a point nor an exponent. -/
theorem fractionPart_ends {rest : List Char} (ends : Ends rest) :
    fractionPart rest = .ok (none, rest) := by
  unfold fractionPart
  split
  · exact absurd (ends '.' rfl) (by decide)
  · rfl

theorem exponentPart_ends {rest : List Char} (ends : Ends rest) :
    exponentPart rest = .ok (none, rest) := by
  unfold exponentPart
  split
  · rename_i c rest
    have no := ends c rfl
    simp only [continuesNumber, Bool.or_eq_false_iff, beq_eq_false_iff_ne] at no
    exact if_neg (not_or.2 ⟨no.1.2, no.2⟩)
  · rfl

/-- The sign that an integer is written with. -/
def sign (negative : Bool) : List Char := if negative then ['-'] else []

/-- A sign is taken, and none is taken from the first digit. -/
theorem signPart_toDigits (negative : Bool) (n : Nat) (rest : List Char) :
    signPart (sign negative ++ (Nat.toDigits 10 n ++ rest)) =
      (negative, Nat.toDigits 10 n ++ rest) := by
  cases negative with
  | true => rfl
  | false =>
      have noMinus : '-' ∉ Nat.toDigits 10 n := fun there =>
        absurd (isDigit_of_mem_toDigits there) (by decide)
      rw [sign, if_neg (by decide), List.nil_append, signPart]
      intro tail minus
      cases digits : Nat.toDigits 10 n with
      | nil => exact Nat.toDigits_ne_nil digits
      | cons c cs =>
          rw [digits] at minus noMinus
          injection minus with first
          exact noMinus (first ▸ .head _)

/-- **A written integer is taken apart into its sign and its digits.** -/
theorem scan_toDigits (negative : Bool) (n : Nat) {rest : List Char} (ends : Ends rest) :
    scan (sign negative ++ (Nat.toDigits 10 n ++ rest)) =
      .ok (⟨negative, Nat.toDigits 10 n, none, none⟩, rest) := by
  simp only [scan, signPart_toDigits, wholePart_toDigits n ends, fractionPart_ends ends,
    exponentPart_ends ends]

/-- The value of digits, whatever was read before them, is not less than that. -/
theorem le_ofDigitChars (cs : List Char) (n : Nat) : n ≤ Nat.ofDigitChars 10 cs n := by
  induction cs generalizing n with
  | nil => exact Nat.le_refl n
  | cons c cs ih =>
      rw [Nat.ofDigitChars_cons]
      exact Nat.le_trans (by omega) (ih _)

/-- Digits whose value is in range are all used. -/
theorem accumulate_ofDigitChars {cs : List Char} {n : Nat}
    (inRange : Nat.ofDigitChars 10 cs n ≤ greatest) :
    accumulate n cs = (Nat.ofDigitChars 10 cs n, cs.length, false) := by
  induction cs generalizing n with
  | nil => rfl
  | cons c cs ih =>
      rw [Nat.ofDigitChars_cons, Nat.mul_comm] at inRange ⊢
      have next : ¬ greatest < n * 10 + (c.toNat - '0'.toNat) :=
        Nat.not_lt.2 (Nat.le_trans (le_ofDigitChars cs _) inRange)
      rw [accumulate]
      simp only [next, if_false, ih inRange, List.length_cons]

/-- The digits of a number in range come to the number. -/
theorem accumulate_toDigits {n : Nat} (inRange : n ≤ greatest) :
    accumulate 0 (Nat.toDigits 10 n) = (n, (Nat.toDigits 10 n).length, false) := by
  have value : Nat.ofDigitChars 10 (Nat.toDigits 10 n) 0 = n :=
    Nat.ofDigitChars_toDigits (by decide) (by decide)
  rw [accumulate_ofDigitChars (by rwa [value]), value]

end Numeral

open Numeral in
/-- **An integer of 64 bits is read back**, if nothing behind it goes on with it. -/
theorem number_intText {i : Int} (fits : Is64Bit i) {rest : List Char} (ends : Ends rest) :
    number (intText i ++ rest) = .ok (.int i, rest) := by
  obtain ⟨above, below⟩ := fits
  cases i with
  | ofNat n =>
      have inRange : n ≤ greatest := by
        simp only [greatest, Nat.pow_eq, UInt64.size, Int.ofNat_eq_natCast] at below ⊢
        omega
      have scanned := scan_toDigits false n ends
      simp only [sign, Bool.false_eq_true, if_false, List.nil_append] at scanned
      simp [number, intText, scanned, toNumber?, isInteger, accumulate_toDigits inRange]
  | negSucc n =>
      have small : n + 1 ≤ Nat.pow 2 63 := by
        simp only [Nat.pow_eq] at above ⊢
        omega
      have inRange : n + 1 ≤ greatest := Nat.le_trans small (by decide)
      have scanned := scan_toDigits true (n + 1) ends
      simp only [sign, if_true, List.cons_append, List.nil_append] at scanned
      have value : (-((n : Int) + 1)) = Int.negSucc n := rfl
      simp [number, intText, scanned, toNumber?, isInteger, accumulate_toDigits inRange, small,
        value]

end ServerConnections.Json
