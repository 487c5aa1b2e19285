import Mathlib.Data.List.TakeWhile
import ServerConnections.Proofs.Json.Lexical

/-!
# The grammar of numbers

A number has a sign, digits before the point, and perhaps a point with digits and an exponent.
The scanner takes each part as far as it goes, so what stands behind a number must not go on
with it.  Then a number that is passed over is one that the grammar describes.

* `IsNumeral` — the grammar
* `exists_of_skipNumber`, `skipNumber_append` — what is passed over
-/

namespace ServerConnections.Json

namespace Numeral

/-! ## The grammar -/

/-- A run of at least one digit. -/
def IsDigits (cs : List Char) : Prop := cs ≠ [] ∧ ∀ c ∈ cs, isDigit c

/-- The digits before the point: nothing stands behind a zero at their start. -/
def IsWhole (cs : List Char) : Prop := IsDigits cs ∧ ¬ (cs.head? = some '0' ∧ 1 < cs.length)

/-- A point with the digits behind it, or nothing. -/
inductive IsFraction : List Char → Prop
  | none : IsFraction []
  | point {cs : List Char} : IsDigits cs → IsFraction ('.' :: cs)

/-- The mark of an exponent. -/
def IsMark (c : Char) : Prop := c = 'e' ∨ c = 'E'

/-- An exponent, with or without a sign, or nothing. -/
inductive IsExponent : List Char → Prop
  | none : IsExponent []
  | plain {mark : Char} {cs : List Char} : IsMark mark → IsDigits cs → IsExponent (mark :: cs)
  | signed {mark sign : Char} {cs : List Char} : IsMark mark → (sign = '-' ∨ sign = '+') →
      IsDigits cs → IsExponent (mark :: sign :: cs)

end Numeral

open Numeral in
/-- **A number as it may be written.** -/
inductive IsNumeral : List Char → Prop
  | mk (negative : Bool) {whole fraction exponent : List Char} :
      IsWhole whole → IsFraction fraction → IsExponent exponent →
        IsNumeral (sign negative ++ (whole ++ (fraction ++ exponent)))

namespace Numeral

/-! ## What is taken is a number -/

/-- A run of digits that is taken is one. -/
theorem exists_of_digitRun {s digits rest : List Char}
    (read : digitRun s = .ok (digits, rest)) :
    IsDigits digits ∧ s = digits ++ rest := by
  cases s with
  | nil => cases read
  | cons c s =>
    rw [digitRun] at read
    split at read
    · rename_i digit
      cases read
      refine ⟨⟨by simp [digit], fun c there => List.mem_takeWhile_imp there⟩, ?_⟩
      exact List.takeWhile_append_dropWhile.symm
    · cases read

theorem exists_of_map {α : Type} {r : Reading (List Char)} {f : List Char → α} {x : α}
    {rest : List Char}
    (read : (r.map fun (digits, rest) => (f digits, rest)) = .ok (x, rest)) :
    ∃ digits, r = .ok (digits, rest) := by
  cases r with
  | error e => cases read
  | ok p =>
    cases read
    exact ⟨p.1, rfl⟩

/-- A whole part that is taken is one: a zero alone, or digits without a zero in front. -/
theorem exists_of_wholePart {s digits rest : List Char}
    (read : wholePart s = .ok (digits, rest)) : IsWhole digits ∧ s = digits ++ rest := by
  rw [wholePart] at read
  split at read
  · cases read
  · rename_i run
    split at read
    · cases read
    · rename_i noZero
      cases read
      obtain ⟨digits, eq⟩ := exists_of_digitRun run
      exact ⟨⟨digits, noZero⟩, eq⟩

/-- A fraction that is taken is one, or nothing. -/
theorem exists_of_fractionPart {s rest : List Char} {f : Option (List Char)}
    (read : fractionPart s = .ok (f, rest)) : ∃ cs, IsFraction cs ∧ s = cs ++ rest := by
  unfold fractionPart at read
  split at read
  · obtain ⟨digits, run⟩ := exists_of_map read
    obtain ⟨digits, rfl⟩ := exists_of_digitRun run
    exact ⟨_, .point digits, rfl⟩
  · cases read
    exact ⟨[], .none, rfl⟩

/-- An exponent that is taken is one, or nothing. -/
theorem exists_of_exponentPart {s rest : List Char} {e : Option (Bool × List Char)}
    (read : exponentPart s = .ok (e, rest)) : ∃ cs, IsExponent cs ∧ s = cs ++ rest := by
  unfold exponentPart at read
  split at read
  · split at read
    · rename_i mark
      split at read
      · obtain ⟨digits, run⟩ := exists_of_map (f := fun digits => some (true, digits)) read
        obtain ⟨digits, rfl⟩ := exists_of_digitRun run
        exact ⟨_, .signed mark (.inl rfl) digits, rfl⟩
      · obtain ⟨digits, run⟩ := exists_of_map (f := fun digits => some (false, digits)) read
        obtain ⟨digits, rfl⟩ := exists_of_digitRun run
        exact ⟨_, .signed mark (.inr rfl) digits, rfl⟩
      · obtain ⟨digits, run⟩ := exists_of_map (f := fun digits => some (false, digits)) read
        obtain ⟨digits, rfl⟩ := exists_of_digitRun run
        exact ⟨_, .plain mark digits, rfl⟩
    · cases read
      exact ⟨[], .none, rfl⟩
  · cases read
    exact ⟨[], .none, rfl⟩

/-- A sign that is taken and what it leaves make up the text. -/
theorem sign_append_signPart (s : List Char) : sign (signPart s).1 ++ (signPart s).2 = s := by
  unfold signPart
  split <;> rfl

/-- **What is taken is a number**: its sign, its whole part, its fraction and its exponent. -/
theorem exists_of_scan {s rest : List Char} {n : Numeral} (read : scan s = .ok (n, rest)) :
    ∃ cs, IsNumeral cs ∧ s = cs ++ rest := by
  rw [scan] at read
  split at read
  · cases read
  · rename_i before
    split at read
    · cases read
    · rename_i point
      split at read
      · cases read
      · rename_i exponent
        cases read
        obtain ⟨whole, eq⟩ := exists_of_wholePart before
        obtain ⟨fraction, isFraction, rfl⟩ := exists_of_fractionPart point
        obtain ⟨exponent, isExponent, rfl⟩ := exists_of_exponentPart exponent
        refine ⟨_, .mk (signPart s).1 whole isFraction isExponent, ?_⟩
        rw [List.append_assoc, List.append_assoc, List.append_assoc, ← eq,
          sign_append_signPart]

/-! ## Numbers are taken -/

/-- No digit stands at the start. -/
def NoDigit (s : List Char) : Prop := ∀ c ∈ s.head?, isDigit c = false

theorem noDigit_of_ends {rest : List Char} (ends : Ends rest) : NoDigit rest := by
  intro c first
  have stops := ends c first
  simp only [continuesNumber, Bool.or_eq_false_iff] at stops
  exact stops.1.1.1

/-- A run of digits is taken to its end. -/
theorem digitRun_digits {digits rest : List Char} (run : IsDigits digits)
    (ends : NoDigit rest) :
    digitRun (digits ++ rest) = .ok (digits, rest) :=
  digitRun_append_of run.1 run.2 ends

theorem IsDigits.exists_cons {cs : List Char} (run : IsDigits cs) :
    ∃ c tail, cs = c :: tail ∧ isDigit c := by
  obtain ⟨c, tail, rfl⟩ := List.exists_cons_of_ne_nil run.1
  exact ⟨c, tail, rfl, run.2 c (.head _)⟩

/-- A whole part is taken as long as no digit follows. -/
theorem wholePart_append {digits rest : List Char} (whole : IsWhole digits)
    (ends : NoDigit rest) :
    wholePart (digits ++ rest) = .ok (digits, rest) := by
  rw [wholePart, digitRun_digits whole.1 ends]
  exact if_neg whole.2

/-- An exponent begins with a letter. -/
theorem IsExponent.head {exponent rest : List Char} (isExponent : IsExponent exponent)
    (ends : Ends rest) : NoDigit (exponent ++ rest) ∧ (exponent ++ rest).head? ≠ some '.' := by
  have marks : ∀ {mark : Char}, IsMark mark → isDigit mark = false ∧ mark ≠ '.' := by
    rintro mark (rfl | rfl) <;> decide
  cases isExponent with
  | none =>
    refine ⟨noDigit_of_ends ends, fun point => ?_⟩
    exact absurd (ends '.' point) (by decide)
  | plain mark _ | signed mark _ _ =>
    refine ⟨?_, fun point => (marks mark).2 (Option.some.inj point)⟩
    rintro _ ⟨⟩
    exact (marks mark).1

/-- A fraction is taken, and nothing is taken for none, as long as no digit and no point
follows. -/
theorem fractionPart_append {fraction tail : List Char} (isFraction : IsFraction fraction)
    (noDigit : NoDigit tail) (noPoint : tail.head? ≠ some '.') :
    (∃ f, fractionPart (fraction ++ tail) = .ok (f, tail)) ∧ NoDigit (fraction ++ tail) := by
  cases isFraction with
  | none =>
    refine ⟨⟨none, ?_⟩, noDigit⟩
    rw [List.nil_append]
    unfold fractionPart
    split
    · exact (noPoint rfl).elim
    · rfl
  | @point digits run =>
    refine ⟨⟨some digits, ?_⟩, ?_⟩
    · rw [List.cons_append, fractionPart, digitRun_digits run noDigit]
      rfl
    · rintro _ ⟨⟩
      decide

/-- An exponent is taken, and nothing is taken for none, at the end of a number. -/
theorem exponentPart_append {exponent rest : List Char} (isExponent : IsExponent exponent)
    (ends : Ends rest) : ∃ e, exponentPart (exponent ++ rest) = .ok (e, rest) := by
  cases isExponent with
  | none => exact ⟨none, exponentPart_ends ends⟩
  | @plain mark digits isMark run =>
    have read := digitRun_digits run (noDigit_of_ends ends)
    obtain ⟨c, tail, rfl, digit⟩ := run.exists_cons
    have noMinus : c ≠ '-' := by rintro rfl; cases digit
    have noPlus : c ≠ '+' := by rintro rfl; cases digit
    refine ⟨some (false, c :: tail), ?_⟩
    rw [List.cons_append] at read
    rw [List.cons_append, List.cons_append, exponentPart]
    · exact (if_pos isMark).trans (by rw [read]; rfl)
    · exact fun _ minus => noMinus (List.cons_eq_cons.1 minus).1
    · exact fun _ plus => noPlus (List.cons_eq_cons.1 plus).1
  | @signed mark s digits isMark isSign run =>
    have read := digitRun_digits run (noDigit_of_ends ends)
    rcases isSign with rfl | rfl
    · refine ⟨some (true, digits), ?_⟩
      rw [List.cons_append, List.cons_append, exponentPart]
      exact (if_pos isMark).trans (by rw [read]; rfl)
    · refine ⟨some (false, digits), ?_⟩
      rw [List.cons_append, List.cons_append, exponentPart]
      exact (if_pos isMark).trans (by rw [read]; rfl)

/-- A sign is taken, and none is taken from the first digit of a whole part. -/
theorem signPart_append (negative : Bool) {whole : List Char} (isWhole : IsWhole whole)
    (tail : List Char) :
    signPart (sign negative ++ (whole ++ tail)) = (negative, whole ++ tail) := by
  cases negative with
  | true => rfl
  | false =>
    obtain ⟨c, cs, rfl, digit⟩ := isWhole.1.exists_cons
    have noMinus : c ≠ '-' := by rintro rfl; cases digit
    simp [sign, signPart, noMinus]

/-- **A number is taken**, part by part, as long as nothing follows that would go on with
it. -/
theorem scan_append {cs : List Char} (numeral : IsNumeral cs) {rest : List Char}
    (ends : Ends rest) : ∃ n, scan (cs ++ rest) = .ok (n, rest) := by
  cases numeral with
  | @mk negative whole fraction exponent isWhole isFraction isExponent =>
    obtain ⟨noDigit, noPoint⟩ := isExponent.head ends
    obtain ⟨⟨f, point⟩, ended⟩ := fractionPart_append isFraction noDigit noPoint
    obtain ⟨e, power⟩ := exponentPart_append isExponent ends
    have before := wholePart_append isWhole ended
    refine ⟨⟨negative, whole, f, e⟩, ?_⟩
    simp only [scan, List.append_assoc, signPart_append negative isWhole, before, point, power]

end Numeral

/-- A number begins with a minus or with a digit. -/
theorem IsNumeral.exists_cons {cs : List Char} (numeral : IsNumeral cs) :
    ∃ c tail, cs = c :: tail ∧ (c = '-' ∨ isDigit c) := by
  cases numeral with
  | @mk negative whole fraction exponent isWhole _ _ =>
    obtain ⟨c, tail, rfl, digit⟩ := isWhole.1.exists_cons
    cases negative with
    | true => exact ⟨'-', _, rfl, .inl rfl⟩
    | false => exact ⟨c, _, rfl, .inr digit⟩

/-- **What is passed over as a number is one.** -/
theorem exists_of_skipNumber {s rest : List Char} (read : skipNumber s = .ok rest) :
    ∃ cs, IsNumeral cs ∧ s = cs ++ rest := by
  rw [skipNumber] at read
  split at read
  · cases read
  · rename_i scanned
    cases read
    exact Numeral.exists_of_scan scanned

/-- **A number is passed over**, if nothing behind it goes on with it. -/
theorem skipNumber_append {cs : List Char} (numeral : IsNumeral cs) {rest : List Char}
    (ends : Ends rest) : skipNumber (cs ++ rest) = .ok rest := by
  obtain ⟨n, scanned⟩ := Numeral.scan_append numeral ends
  rw [skipNumber, scanned]

end ServerConnections.Json
