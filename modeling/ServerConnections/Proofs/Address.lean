import Mathlib.Data.List.DropRight
import Mathlib.Data.List.TakeWhile
import Mathlib.Logic.Function.Iterate
import ServerConnections.Connection.Basic

/-!
# Clean addresses

An address is cleaned in two passes, one after the other: blanks are dropped at both ends, and
then slashes at the end.  Neither pass leaves anything that it would drop itself.  But where
the slashes at the end stand behind a blank, the second pass uncovers the blank when the first
one is over.  So a clean address never begins with a blank and never ends in a slash, but it
may end in a blank.  Another cleaning drops that one, with the slashes before it, and may
uncover the next.

What cleaning is after is an address in normal form: one without blanks at its ends and without
slashes at its end.  These are the addresses that cleaning leaves as they are.  One cleaning
brings an address there unless it hides a blank behind its slashes, and several of them always
do.

* `Address.IsNormal` — no blanks at the ends, and no slash at the end
* `Address.clean_eq_self_iff` — which addresses stay as they are
* `Address.HidesBlank` — a blank stands before the slashes at the end
* `Address.isNormal_clean_iff`, `Address.clean_clean_eq_iff` — when one cleaning is enough
* `Address.exists_isNormal_iterate` — several are always enough
-/

namespace ServerConnections

/-! ## What passes leave as it is -/

namespace Text

variable {p : Char → Bool} {cs : List Char}

/-- Two passes that only drop characters leave a text as it is exactly if each of them does. -/
theorem comp_eq_self_iff {f g : List Char → List Char} (outer : ∀ cs, (f cs).Sublist cs)
    (inner : ∀ cs, (g cs).Sublist cs) : f (g cs) = cs ↔ g cs = cs ∧ f cs = cs := by
  constructor
  · intro same
    have length : cs.length ≤ (g cs).length := by
      calc cs.length = (f (g cs)).length := by rw [same]
        _ ≤ (g cs).length := (outer _).length_le
    have stays : g cs = cs := (inner cs).eq_of_length_le length
    exact ⟨stays, by rwa [stays] at same⟩
  · rintro ⟨stays, same⟩
    rw [stays, same]

theorem dropWhile_eq_self_iff_head? : cs.dropWhile p = cs ↔ ∀ c ∈ cs.head?, p c = false := by
  rw [List.dropWhile_eq_self_iff]
  cases cs <;> simp

theorem dropWhileEnd_eq_self_iff :
    dropWhileEnd p cs = cs ↔ ∀ c ∈ cs.getLast?, p c = false := by
  have reversed : dropWhileEnd p cs = cs ↔ cs.reverse.dropWhile p = cs.reverse :=
    List.reverse_eq_iff
  rw [reversed, dropWhile_eq_self_iff_head?, List.head?_reverse]

theorem dropWhileEnd_eq_nil_iff : dropWhileEnd p cs = [] ↔ ∀ c ∈ cs, p c :=
  List.rdropWhile_eq_nil_iff

theorem dropWhileEnd_sublist (p : Char → Bool) (cs : List Char) :
    (dropWhileEnd p cs).Sublist cs :=
  (dropWhileEnd_isPrefix p cs).sublist

theorem trimChars_sublist (cs : List Char) : (trimChars cs).Sublist cs :=
  (dropWhileEnd_sublist _ _).trans (List.dropWhile_sublist _)

/-- What a pass drops at the end. -/
theorem exists_dropWhileEnd_append (p : Char → Bool) (cs : List Char) :
    ∃ dropped, dropWhileEnd p cs ++ dropped = cs ∧ ∀ c ∈ dropped, p c :=
  ⟨cs.rtakeWhile p, List.rdropWhile_append_rtakeWhile, fun _ => List.mem_rtakeWhile_imp⟩

/-- What is dropped around a text. -/
theorem exists_trimChars_append (cs : List Char) :
    ∃ before behind, before ++ trimChars cs ++ behind = cs ∧ ∀ c ∈ behind, isBlank c := by
  obtain ⟨behind, parts, blank⟩ := exists_dropWhileEnd_append isBlank (cs.dropWhile isBlank)
  refine ⟨cs.takeWhile isBlank, behind, ?_, blank⟩
  calc cs.takeWhile isBlank ++ trimChars cs ++ behind
      = cs.takeWhile isBlank ++ (trimChars cs ++ behind) := List.append_assoc _ _ _
    _ = cs.takeWhile isBlank ++ cs.dropWhile isBlank := by rw [trimChars, parts]
    _ = cs := List.takeWhile_append_dropWhile

theorem trimChars_eq_self_iff : trimChars cs = cs ↔
    (∀ c ∈ cs.head?, isBlank c = false) ∧ ∀ c ∈ cs.getLast?, isBlank c = false := by
  rw [← dropWhile_eq_self_iff_head?, ← dropWhileEnd_eq_self_iff]
  exact comp_eq_self_iff (dropWhileEnd_sublist isBlank) fun _ => List.dropWhile_sublist _

end Text

namespace Address

variable {url : String} {c : Char}

/-! ## Normal forms -/

/-- **An address is in normal form**: there is no blank at either end, and no slash at
its end. -/
structure IsNormal (url : String) : Prop where
  begins : ∀ c ∈ url.toList.head?, Text.isBlank c = false
  ends : ∀ c ∈ url.toList.getLast?, Text.isBlank c = false
  unslashed : ∀ c ∈ url.toList.getLast?, isSlash c = false

/-- **The addresses in normal form are those that cleaning leaves as they are.** -/
theorem clean_eq_self_iff : clean url = url ↔ IsNormal url := by
  rw [← String.toList_inj, toList_clean,
    Text.comp_eq_self_iff (Text.dropWhileEnd_sublist isSlash) Text.trimChars_sublist,
    Text.trimChars_eq_self_iff, Text.dropWhileEnd_eq_self_iff]
  constructor
  · rintro ⟨⟨begins, ends⟩, unslashed⟩
    exact ⟨begins, ends, unslashed⟩
  · rintro ⟨begins, ends, unslashed⟩
    exact ⟨⟨begins, ends⟩, unslashed⟩

/-- A clean address does not begin with a blank. -/
theorem isBlank_of_head?_clean (first : (clean url).toList.head? = some c) :
    Text.isBlank c = false := by
  rw [toList_clean] at first
  obtain ⟨rest, parts⟩ :=
    (Text.dropWhileEnd_isPrefix isSlash (Text.trimChars url.toList)).trans
    (Text.dropWhileEnd_isPrefix Text.isBlank (url.toList.dropWhile Text.isBlank))
  have front := List.head?_dropWhile_not Text.isBlank url.toList
  rw [← parts, List.head?_append, first] at front
  simpa using front

/-- A clean address does not end in a slash. -/
theorem isSlash_of_getLast?_clean (last : (clean url).toList.getLast? = some c) :
    isSlash c = false := by
  rw [toList_clean] at last
  exact Text.not_of_getLast?_dropWhileEnd last

/-- A blank at its end is all that a clean address can lack its normal form for. -/
theorem isNormal_clean_iff_getLast? :
    IsNormal (clean url) ↔ ∀ c ∈ (clean url).toList.getLast?, Text.isBlank c = false :=
  ⟨IsNormal.ends, fun ends =>
    ⟨fun _ => isBlank_of_head?_clean, ends, fun _ => isSlash_of_getLast?_clean⟩⟩

/-! ## When one cleaning is enough -/

/-- **A blank is hidden**: it stands before the slashes at the end, the blanks behind these not
counted, and it is not one of those at the beginning. -/
def HidesBlank (url : String) : Prop :=
  ∃ front blank slashes behind, url.toList = front ++ blank :: (slashes ++ behind) ∧
    (∃ c ∈ front, Text.isBlank c = false) ∧ Text.isBlank blank ∧
    slashes ≠ [] ∧ (∀ c ∈ slashes, isSlash c) ∧ ∀ c ∈ behind, Text.isBlank c

theorem isBlank_of_isSlash (slash : isSlash c) : Text.isBlank c = false := by
  obtain rfl : c = '/' := by simpa [isSlash] using slash
  rfl

/-- A blank that is hidden is the end of the clean address. -/
theorem getLast?_clean_of_hidesBlank (hides : HidesBlank url) :
    ∃ blank, (clean url).toList.getLast? = some blank ∧ Text.isBlank blank := by
  obtain ⟨front, blank, slashes, behind, parts, ⟨c, there, inked⟩, isBlank, present, allSlashes,
    allBlank⟩ := hides
  have begins : front.dropWhile Text.isBlank ≠ [] := by
    intro none
    have := List.dropWhile_eq_nil_iff.1 none c there
    simp [inked] at this
  -- The first pass stops at the slashes, and the second one at the blank.
  have first : Text.trimChars url.toList =
      (front.dropWhile Text.isBlank ++ [blank]) ++ slashes := by
    have kept : ∀ c ∈ (front.dropWhile Text.isBlank ++ blank :: slashes).getLast?,
        Text.isBlank c = false := by
      intro c last
      rw [List.getLast?_append_cons, List.getLast?_cons_of_ne_nil present] at last
      exact isBlank_of_isSlash (allSlashes c (List.mem_of_getLast? last))
    rw [Text.trimChars, parts, List.dropWhile_append, if_neg (by simpa using begins),
      ← List.cons_append, ← List.append_assoc, Text.dropWhileEnd_append kept,
      Text.dropWhileEnd_eq_nil_iff.2 allBlank]
    simp
  have second : (clean url).toList = front.dropWhile Text.isBlank ++ [blank] := by
    have kept :
        ∀ c ∈ (front.dropWhile Text.isBlank ++ [blank]).getLast?, isSlash c = false := by
      intro c last
      rw [List.getLast?_concat] at last
      obtain rfl := Option.some_inj.1 last
      by_contra slash
      simp [isBlank_of_isSlash (by simpa using slash)] at isBlank
    rw [toList_clean, first, Text.dropWhileEnd_append kept,
      Text.dropWhileEnd_eq_nil_iff.2 allSlashes, List.append_nil]
  exact ⟨blank, by rw [second, List.getLast?_concat], isBlank⟩

/-- A clean address ends in a blank only if that was hidden. -/
theorem hidesBlank_of_getLast?_clean (last : (clean url).toList.getLast? = some c)
    (isBlank : Text.isBlank c) : HidesBlank url := by
  obtain ⟨front, ends⟩ := List.getLast?_eq_some_iff.1 last
  obtain ⟨before, behind, outer, allBlank⟩ := Text.exists_trimChars_append url.toList
  obtain ⟨slashes, inner, allSlashes⟩ :=
    Text.exists_dropWhileEnd_append isSlash (Text.trimChars url.toList)
  rw [← toList_clean, ends] at inner
  refine ⟨before ++ front, c, slashes, behind, ?_, ?_, isBlank, ?_, allSlashes, allBlank⟩
  · calc url.toList = before ++ (front ++ [c] ++ slashes) ++ behind := by rw [inner, outer]
      _ = before ++ front ++ c :: (slashes ++ behind) := by simp
  · -- The clean address does not begin with a blank, so `c` is not all of it.
    cases front with
    | nil =>
        have first : (clean url).toList.head? = some c := by rw [ends]; rfl
        simp [isBlank_of_head?_clean first] at isBlank
    | cons d front =>
        have first : (clean url).toList.head? = some d := by rw [ends]; rfl
        exact ⟨d, List.mem_append_right _ (.head _), isBlank_of_head?_clean first⟩
  · -- The first pass has left no blank at the end, so the second one has dropped something.
    intro none
    rw [none, List.append_nil] at inner
    have trimmed : (Text.trimChars url.toList).getLast? = some c := by
      rw [← inner, List.getLast?_concat]
    simp [Text.not_of_getLast?_dropWhileEnd trimmed] at isBlank

/-- **One cleaning brings an address to its normal form exactly if no blank is hidden in
it.** -/
theorem isNormal_clean_iff : IsNormal (clean url) ↔ ¬ HidesBlank url := by
  rw [isNormal_clean_iff_getLast?]
  constructor
  · intro ends hides
    obtain ⟨blank, last, isBlank⟩ := getLast?_clean_of_hidesBlank hides
    simp [ends blank last] at isBlank
  · intro shown c last
    by_contra blank
    exact shown (hidesBlank_of_getLast?_clean last (by simpa using blank))

/-- **Another cleaning changes nothing exactly if no blank was hidden.** -/
theorem clean_clean_eq_iff : clean (clean url) = clean url ↔ ¬ HidesBlank url :=
  clean_eq_self_iff.trans isNormal_clean_iff

/-! ## When several are -/

/-- An address that is not in normal form gets shorter. -/
theorem length_clean_lt (rough : ¬ IsNormal url) : (clean url).length < url.length := by
  have drops : (clean url).toList.Sublist url.toList := by
    rw [toList_clean]
    exact (Text.dropWhileEnd_sublist _ _).trans (Text.trimChars_sublist _)
  rw [← String.length_toList, ← String.length_toList]
  refine Nat.lt_of_le_of_ne drops.length_le fun same => rough ?_
  exact clean_eq_self_iff.1 (String.toList_inj.1 (drops.eq_of_length same))

/-- **An address that is cleaned often enough gets to its normal form.** -/
theorem exists_isNormal_iterate (url : String) : ∃ n, IsNormal (clean^[n] url) := by
  by_cases normal : IsNormal url
  · exact ⟨0, normal⟩
  · have shorter := length_clean_lt normal
    obtain ⟨n, normal⟩ := exists_isNormal_iterate (clean url)
    exact ⟨n + 1, by rwa [Function.iterate_succ_apply]⟩
termination_by url.length

end Address

end ServerConnections
