import ServerConnections.Proofs.Json.Kept

/-!
# The grammar of texts

Texts are given here by the productions of their grammar, without a word on how they are read.
There are two grammars: one for the form of a text alone, where an escape may be half of a pair
of surrogates, and one that also says which characters a text stands for, where it may not.
Either reading accepts what its grammar describes, and nothing else.

* `TextForm`, `skipText_plain_eq_ok_iff` — texts that are passed over
* `TextOf`, `textChars_plain_eq_ok_iff` — texts that are kept, with what they stand for
-/

namespace ServerConnections.Json

/-! ## Words -/

/-- A word that is read was there. -/
theorem word_eq_ok {ws s rest : List Char} (read : word ws s = .ok rest) : s = ws ++ rest := by
  induction ws generalizing s with
  | nil =>
    cases read
    rfl
  | cons w ws ih =>
    cases s with
    | nil => cases read
    | cons c s =>
      rw [word] at read
      split at read
      · subst c
        rw [ih read, List.cons_append]
      · cases read

/-! ## Texts -/

/-- A character that stands for itself in a text. -/
def IsPlain (c : Char) : Prop := c ≠ '"' ∧ c ≠ '\\' ∧ 0x20 ≤ c.toNat

/-- The number that hexadecimal digits stand for, `value` being that of the digits before. -/
def hexValue? (value : Nat) : List Char → Option Nat
  | [] => some value
  | c :: cs => (hexDigit? c).bind fun d => hexValue? (value * 16 + d) cs

/-- **Four hexadecimal digits** and the number that they stand for. -/
def FourDigits (unit : Nat) (ds : List Char) : Prop :=
  ds.length = 4 ∧ hexValue? 0 ds = some unit

/-- **The form of a text** behind its opening quote. -/
inductive TextForm : List Char → Prop
  | close : TextForm ['"']
  | plain {c : Char} {cs : List Char} : IsPlain c → TextForm cs → TextForm (c :: cs)
  | escape {c : Char} {cs : List Char} :
      (escaped? c).isSome → TextForm cs → TextForm ('\\' :: c :: cs)
  | unicode {unit : Nat} {ds cs : List Char} :
      FourDigits unit ds → TextForm cs → TextForm ('\\' :: 'u' :: (ds ++ cs))

/-- The first half of a pair of surrogates. -/
def IsLead (unit : Nat) : Prop := 0xD800 ≤ unit ∧ unit ≤ 0xDBFF

/-- The second half of a pair of surrogates. -/
def IsTrail (unit : Nat) : Prop := 0xDC00 ≤ unit ∧ unit ≤ 0xDFFF

/-- The character that a pair of surrogates stands for. -/
def pairChar (high low : Nat) : Char :=
  Char.ofNat (0x10000 + (high - 0xD800) * 0x400 + (low - 0xDC00))

/-- **A text with the characters that it stands for**, behind its opening quote.  Surrogates
are in pairs. -/
inductive TextOf : (value : List Char) → List Char → Prop
  | close : TextOf [] ['"']
  | plain {c : Char} {value cs : List Char} :
      IsPlain c → TextOf value cs → TextOf (c :: value) (c :: cs)
  | escape {c d : Char} {value cs : List Char} :
      escaped? c = some d → TextOf value cs → TextOf (d :: value) ('\\' :: c :: cs)
  | unicode {unit : Nat} {ds value cs : List Char} :
      FourDigits unit ds → ¬ IsLead unit → ¬ IsTrail unit → TextOf value cs →
        TextOf (Char.ofNat unit :: value) ('\\' :: 'u' :: (ds ++ cs))
  | pair {high low : Nat} {ds ds' value cs : List Char} :
      FourDigits high ds → IsLead high → FourDigits low ds' → IsTrail low → TextOf value cs →
        TextOf (pairChar high low :: value)
          ('\\' :: 'u' :: (ds ++ '\\' :: 'u' :: (ds' ++ cs)))

/-- What stands for characters has the form of a text. -/
theorem TextOf.form {value cs : List Char} (spelt : TextOf value cs) : TextForm cs := by
  induction spelt with
  | close => exact .close
  | plain plain _ ih => exact .plain plain ih
  | escape known _ ih => exact .escape (by simp [known]) ih
  | unicode four _ _ _ ih => exact .unicode four ih
  | pair four _ four' _ _ ih => exact .unicode four (.unicode four' ih)

/-! ### Four-digit escapes -/

/-- Some digits stand before what is left, and the number that they stand for and what is left
are as asked for. -/
def DigitsThen (behind : Nat → List Char → Prop) (n value : Nat) (s : List Char) : Prop :=
  ∃ unit ds tail, ds.length = n ∧ hexValue? value ds = some unit ∧ s = ds ++ tail ∧
    behind unit tail

section DigitsThen

variable {behind : Nat → List Char → Prop} {n value : Nat} {c : Char} {s : List Char}

theorem digitsThen_zero_iff : DigitsThen behind 0 value s ↔ behind value s := by
  constructor
  · rintro ⟨unit, ds, tail, none, spelt, rfl, there⟩
    rw [List.length_eq_zero_iff.1 none] at spelt ⊢
    cases spelt
    exact there
  · exact fun there => ⟨value, [], s, rfl, rfl, rfl, there⟩

theorem not_digitsThen_nil : ¬ DigitsThen behind (n + 1) value [] := by
  rintro ⟨unit, ds, tail, some, -, none, -⟩
  rw [(List.append_eq_nil_iff.1 none.symm).1] at some
  cases some

/-- A digit more, and one less to read. -/
theorem digitsThen_cons_iff : DigitsThen behind (n + 1) value (c :: s) ↔
    ∃ d, hexDigit? c = some d ∧ DigitsThen behind n (value * 16 + d) s := by
  constructor
  · rintro ⟨unit, ds, tail, long, spelt, eq, there⟩
    cases ds with
    | nil => cases long
    | cons c' ds =>
      obtain ⟨rfl, rfl⟩ := List.cons_eq_cons.1 eq
      obtain ⟨d, digit, spelt⟩ := Option.bind_eq_some_iff.1 spelt
      exact ⟨d, digit, unit, ds, tail, Nat.succ.inj long, spelt, rfl, there⟩
  · rintro ⟨d, digit, unit, ds, tail, long, spelt, rfl, there⟩
    refine ⟨unit, c :: ds, tail, by simp [long], ?_, rfl, there⟩
    rw [hexValue?, digit]
    exact spelt

end DigitsThen

/-! ### Passing over texts -/

/-- Digits are passed over one after the other, whatever they stand for. -/
theorem skipText_digits_iff {lead : Option Nat} {start value read n : Nat} {s rest : List Char}
    (four : read + (n + 1) = 4) : skipText (.digits lead read start) s = .ok rest ↔
      DigitsThen (fun _ tail => skipText .plain tail = .ok rest) (n + 1) value s := by
  induction n generalizing read value s with
  | zero =>
    obtain rfl : read = 3 := by omega
    cases s with
    | nil => exact iff_of_false nofun not_digitsThen_nil
    | cons c s =>
      rw [skipText, digitsThen_cons_iff]
      cases hexDigit? c <;> simp [digitsThen_zero_iff]
  | succ n ih =>
    cases s with
    | nil => exact iff_of_false nofun not_digitsThen_nil
    | cons c s =>
      have more : read < 3 := by omega
      rw [skipText, digitsThen_cons_iff]
      cases hexDigit? c with
      | none => simp
      | some d =>
        have later : skipText (.digits lead (read + 1) start) s = .ok rest ↔
            DigitsThen _ (n + 1) (value * 16 + d) s := ih (by omega)
        simp [more, later]

/-- What may follow a backslash. -/
theorem skipText_escape_iff {c : Char} {s rest : List Char} :
    skipText .escape (c :: s) = .ok rest ↔
      (c = 'u' ∧ DigitsThen (fun _ tail => skipText .plain tail = .ok rest) 4 0 s) ∨
        (c ≠ 'u' ∧ (escaped? c).isSome ∧ skipText .plain s = .ok rest) := by
  have digits : skipText (.digits none 0 0) s = .ok rest ↔
      DigitsThen (fun _ tail => skipText .plain tail = .ok rest) 4 0 s :=
    skipText_digits_iff (by rfl : 0 + (3 + 1) = 4)
  rw [skipText]
  by_cases unicode : c = 'u'
  · simp [unicode, digits]
  · by_cases known : (escaped? c).isSome <;> simp [unicode, known]

/-- The three things that a text goes on with: its end, an escape, and a plain character. -/
theorem skipText_plain_cons_iff {c : Char} {s rest : List Char} :
    skipText .plain (c :: s) = .ok rest ↔
      (c = '"' ∧ s = rest) ∨ (c = '\\' ∧ skipText .escape s = .ok rest) ∨
        (IsPlain c ∧ skipText .plain s = .ok rest) := by
  simp only [skipText]
  by_cases quote : c = '"'
  · simp [quote, IsPlain]
  by_cases backslash : c = '\\'
  · simp [backslash, IsPlain]
  by_cases control : c.toNat < 0x20
  · have hidden : ¬ 0x20 ≤ c.toNat := Nat.not_le.2 control
    simp [quote, backslash, control, hidden, IsPlain]
  · have visible : 0x20 ≤ c.toNat := Nat.le_of_not_lt control
    simp [quote, backslash, control, visible, IsPlain]

/-- **A text is passed over exactly if it has the form of one**, up to its closing quote. -/
theorem skipText_plain_eq_ok_iff {s rest : List Char} :
    skipText .plain s = .ok rest ↔ ∃ cs, TextForm cs ∧ s = cs ++ rest := by
  constructor
  · intro read
    induction len : s.length using Nat.strongRecOn generalizing s with
    | ind n ih =>
      cases s with
      | nil => cases read
      | cons c s =>
        rcases skipText_plain_cons_iff.1 read with ⟨rfl, rfl⟩ | ⟨rfl, escape⟩ | ⟨plain, later⟩
        · exact ⟨['"'], .close, rfl⟩
        · cases s with
          | nil => cases escape
          | cons c s =>
            rcases skipText_escape_iff.1 escape with
              ⟨rfl, unit, ds, tail, four, spelt, rfl, later⟩ | ⟨-, known, later⟩
            · obtain ⟨cs, form, rfl⟩ := ih tail.length (by simp at len; omega) later rfl
              exact ⟨_, .unicode ⟨four, spelt⟩ form, by simp⟩
            · obtain ⟨cs, form, rfl⟩ := ih s.length (by simp at len; omega) later rfl
              exact ⟨_, .escape known form, rfl⟩
        · obtain ⟨cs, form, rfl⟩ := ih s.length (by simp at len; omega) later rfl
          exact ⟨_, .plain plain form, rfl⟩
  · rintro ⟨cs, form, rfl⟩
    induction form with
    | close => rfl
    | plain plain _ ih => exact skipText_plain_cons_iff.2 (.inr (.inr ⟨plain, ih⟩))
    | @escape c cs known _ ih =>
      have noUnicode : c ≠ 'u' := by
        rintro rfl
        cases known
      exact skipText_plain_cons_iff.2
        (.inr (.inl ⟨rfl, skipText_escape_iff.2 (.inr ⟨noUnicode, known, ih⟩)⟩))
    | @unicode unit ds cs four _ ih =>
      refine skipText_plain_cons_iff.2 (.inr (.inl ⟨rfl, skipText_escape_iff.2 (.inl ⟨rfl, ?_⟩)⟩))
      exact ⟨unit, ds, _, four.1, four.2, List.append_assoc .., ih⟩

/-! ### Reading texts -/

/-- What is read where the number of an escape is known. -/
def ReadBehind (lead : Option Nat) (value rest : List Char) (unit : Nat) (tail : List Char) :
    Prop :=
  match escapeUnit lead unit with
  | .error _ => False
  | .ok (.inl c) => ∃ later, value = c :: later ∧ textChars .plain tail = .ok (later, rest)
  | .ok (.inr high) => textChars (.surrogate high) tail = .ok (value, rest)

theorem map_cons_eq_ok_iff {r : Reading (List Char)} {c : Char} {value rest : List Char} :
    (r.map fun p => (c :: p.1, p.2)) = .ok (value, rest) ↔
      ∃ later, value = c :: later ∧ r = .ok (later, rest) := by
  cases r with
  | error e => simp [Except.map]
  | ok p =>
    obtain ⟨later, rest'⟩ := p
    simp only [Except.map, Except.ok.injEq, Prod.mk.injEq]
    constructor
    · rintro ⟨rfl, rfl⟩
      exact ⟨later, rfl, rfl, rfl⟩
    · rintro ⟨_, rfl, rfl, rfl⟩
      exact ⟨rfl, rfl⟩

/-- The digits of an escape are read like those that are passed over, up to what follows
them. -/
theorem textChars_digits_iff {lead : Option Nat} {start read n : Nat}
    {s value rest : List Char}
    (four : read + (n + 1) = 4) : textChars (.digits lead read start) s = .ok (value, rest) ↔
      DigitsThen (ReadBehind lead value rest) (n + 1) start s := by
  induction n generalizing read start s with
  | zero =>
    obtain rfl : read = 3 := by omega
    cases s with
    | nil => exact iff_of_false (fun read => by cases read) not_digitsThen_nil
    | cons c s =>
      rw [textChars, digitsThen_cons_iff]
      cases hexDigit? c with
      | none => simp
      | some d =>
        simp only [Nat.lt_irrefl, if_false, Option.some.injEq, exists_eq_left',
          digitsThen_zero_iff, ReadBehind]
        rcases escapeUnit lead (start * 16 + d) with e | c | high
        · simp
        · exact map_cons_eq_ok_iff
        · rfl
  | succ n ih =>
    cases s with
    | nil => exact iff_of_false (fun read => by cases read) not_digitsThen_nil
    | cons c s =>
      have more : read < 3 := by omega
      rw [textChars, digitsThen_cons_iff]
      cases hexDigit? c with
      | none => simp
      | some d =>
        have later :
            textChars (.digits lead (read + 1) (start * 16 + d)) s = .ok (value, rest) ↔
            DigitsThen _ (n + 1) (start * 16 + d) s := ih (by omega)
        simp [more, later]

/-- The same three things, with what they stand for. -/
theorem textChars_plain_cons_iff {c : Char} {s value rest : List Char} :
    textChars .plain (c :: s) = .ok (value, rest) ↔
      (c = '"' ∧ value = [] ∧ s = rest) ∨
      (c = '\\' ∧ textChars .escape s = .ok (value, rest)) ∨
      (IsPlain c ∧ ∃ later, value = c :: later ∧ textChars .plain s = .ok (later, rest)) := by
  rw [textChars]
  by_cases quote : c = '"'
  · simp [quote, IsPlain, eq_comm]
  by_cases backslash : c = '\\'
  · simp [backslash, IsPlain]
  by_cases control : c.toNat < 0x20
  · have hidden : ¬ 0x20 ≤ c.toNat := Nat.not_le.2 control
    simp [quote, backslash, control, hidden, IsPlain]
  · have visible : 0x20 ≤ c.toNat := Nat.le_of_not_lt control
    simp only [quote, backslash, control, visible, IsPlain, if_false, map_cons_eq_ok_iff]
    simp [quote, backslash]

/-- What an escape stands for. -/
theorem textChars_escape_iff {c : Char} {s value rest : List Char} :
    textChars .escape (c :: s) = .ok (value, rest) ↔
      (c = 'u' ∧ DigitsThen (ReadBehind none value rest) 4 0 s) ∨
        (c ≠ 'u' ∧ ∃ d later, escaped? c = some d ∧ value = d :: later ∧
          textChars .plain s = .ok (later, rest)) := by
  have digits : textChars (.digits none 0 0) s = .ok (value, rest) ↔
      DigitsThen (ReadBehind none value rest) 4 0 s :=
    textChars_digits_iff (by rfl : 0 + (3 + 1) = 4)
  rw [textChars]
  by_cases unicode : c = 'u'
  · simp [unicode, digits]
  · cases escaped? c with
    | none => simp [unicode]
    | some d =>
      simp only [unicode, if_false, map_cons_eq_ok_iff]
      simp [unicode]

/-- The second half of a pair must stand right behind the first one. -/
theorem textChars_surrogate_iff {high : Nat} {s value rest : List Char} :
    textChars (.surrogate high) s = .ok (value, rest) ↔
      ∃ tail, s = '\\' :: 'u' :: tail ∧
        DigitsThen (ReadBehind (some high) value rest) 4 0 tail := by
  have digits (tail : List Char) :
      textChars (.digits (some high) 0 0) tail = .ok (value, rest) ↔
      DigitsThen (ReadBehind (some high) value rest) 4 0 tail :=
    textChars_digits_iff (by rfl : 0 + (3 + 1) = 4)
  rcases s with _ | ⟨c, _ | ⟨d, s⟩⟩
  · exact iff_of_false nofun (by simp)
  · rw [textChars]
    by_cases backslash : c = '\\' <;> simp [backslash, textChars]
  · rw [textChars]
    by_cases backslash : c = '\\'
    · rw [if_pos backslash, textChars]
      by_cases unicode : d = 'u' <;> simp [backslash, unicode, digits]
    · simp [backslash]

/-- A unit by itself stands for a character, or leads a pair.  One that ends a pair cannot
come first. -/
theorem readBehind_none_iff {value rest tail : List Char} {unit : Nat} :
    ReadBehind none value rest unit tail ↔
      (¬ IsLead unit ∧ ¬ IsTrail unit ∧
        ∃ later, value = Char.ofNat unit :: later ∧
          textChars .plain tail = .ok (later, rest)) ∨
      (IsLead unit ∧ textChars (.surrogate unit) tail = .ok (value, rest)) := by
  by_cases trail : IsTrail unit
  · have noLead : ¬ IsLead unit := fun lead => by
      simp only [IsTrail, IsLead] at trail lead
      omega
    have refused : escapeUnit none unit = .error .malformed := if_pos trail
    simp [ReadBehind, refused, trail, noLead]
  · by_cases lead : IsLead unit
    · have half : escapeUnit none unit = .ok (.inr unit) := (if_neg trail).trans (if_pos lead)
      simp [ReadBehind, half, lead]
    · have whole : escapeUnit none unit = .ok (.inl (Char.ofNat unit)) :=
        (if_neg trail).trans (if_neg lead)
      simp [ReadBehind, whole, trail, lead]

/-- Behind a unit that leads a pair, only one that ends it can follow. -/
theorem readBehind_some_iff {high low : Nat} {value rest tail : List Char} :
    ReadBehind (some high) value rest low tail ↔ IsTrail low ∧
      ∃ later, value = pairChar high low :: later ∧
        textChars .plain tail = .ok (later, rest) := by
  by_cases trail : IsTrail low
  · have whole : escapeUnit (some high) low = .ok (.inl (pairChar high low)) := if_pos trail
    simp [ReadBehind, whole, trail]
  · have refused : escapeUnit (some high) low = .error .malformed := if_neg trail
    simp [ReadBehind, refused, trail]

/-- **A text is read exactly if it is spelled so**, up to its closing quote. -/
theorem textChars_plain_eq_ok_iff {s value rest : List Char} :
    textChars .plain s = .ok (value, rest) ↔ ∃ cs, TextOf value cs ∧ s = cs ++ rest := by
  constructor
  · intro read
    induction len : s.length using Nat.strongRecOn generalizing s value with
    | ind n ih =>
      cases s with
      | nil => cases read
      | cons c s =>
        rcases textChars_plain_cons_iff.1 read with
          ⟨rfl, rfl, rfl⟩ | ⟨rfl, escape⟩ | ⟨plain, later, rfl, behind⟩
        · exact ⟨['"'], .close, rfl⟩
        · cases s with
          | nil => cases escape
          | cons c s =>
            rcases textChars_escape_iff.1 escape with
              ⟨rfl, unit, ds, tail, four, spelt, rfl, meant⟩ | ⟨-, d, later, known, rfl, behind⟩
            · rcases readBehind_none_iff.1 meant with
                ⟨noLead, noTrail, later, rfl, behind⟩ | ⟨lead, second⟩
              · obtain ⟨cs, form, rfl⟩ := ih tail.length (by simp at len; omega) behind rfl
                exact ⟨_, .unicode ⟨four, spelt⟩ noLead noTrail form, by simp⟩
              · obtain ⟨tail, rfl, low, ds', tail, four', spelt', rfl, paired⟩ :=
                  textChars_surrogate_iff.1 second
                obtain ⟨trail, later, rfl, behind⟩ := readBehind_some_iff.1 paired
                obtain ⟨cs, form, rfl⟩ := ih tail.length (by simp at len; omega) behind rfl
                exact ⟨_, .pair ⟨four, spelt⟩ lead ⟨four', spelt'⟩ trail form, by simp⟩
            · obtain ⟨cs, form, rfl⟩ := ih s.length (by simp at len; omega) behind rfl
              exact ⟨_, .escape known form, rfl⟩
        · obtain ⟨cs, form, rfl⟩ := ih s.length (by simp at len; omega) behind rfl
          exact ⟨_, .plain plain form, rfl⟩
  · rintro ⟨cs, form, rfl⟩
    induction form with
    | close => rfl
    | plain plain _ ih => exact textChars_plain_cons_iff.2 (.inr (.inr ⟨plain, _, rfl, ih⟩))
    | @escape c d value cs known _ ih =>
      have noUnicode : c ≠ 'u' := by
        rintro rfl
        cases known
      exact textChars_plain_cons_iff.2
        (.inr (.inl ⟨rfl, textChars_escape_iff.2 (.inr ⟨noUnicode, d, _, known, rfl, ih⟩)⟩))
    | @unicode unit ds value cs four noLead noTrail _ ih =>
      refine textChars_plain_cons_iff.2
        (.inr (.inl ⟨rfl, textChars_escape_iff.2 (.inl ⟨rfl, ?_⟩)⟩))
      exact ⟨unit, ds, _, four.1, four.2, List.append_assoc ..,
        readBehind_none_iff.2 (.inl ⟨noLead, noTrail, _, rfl, ih⟩)⟩
    | @pair high low ds ds' value cs four lead four' trail _ ih =>
      refine textChars_plain_cons_iff.2
        (.inr (.inl ⟨rfl, textChars_escape_iff.2 (.inl ⟨rfl, ?_⟩)⟩))
      refine ⟨high, ds, _, four.1, four.2, List.append_assoc ..,
        readBehind_none_iff.2 (.inr ⟨lead, textChars_surrogate_iff.2 ⟨_, rfl, ?_⟩⟩)⟩
      exact ⟨low, ds', _, four'.1, four'.2, List.append_assoc ..,
        readBehind_some_iff.2 ⟨trail, _, rfl, ih⟩⟩

/-- **A text is read exactly if it is spelt.** -/
theorem textTail_eq_ok_iff {s rest : List Char} {value : String} :
    textTail s = .ok (value, rest) ↔ ∃ cs, TextOf value.toList cs ∧ s = cs ++ rest := by
  rw [← textChars_plain_eq_ok_iff, textTail]
  constructor
  · intro read
    obtain ⟨chars, spelt, rfl⟩ := Reading.mapResult_eq_ok read
    rwa [String.toList_ofList]
  · intro read
    rw [read, Reading.mapResult_ok, String.ofList_toList]

end ServerConnections.Json
