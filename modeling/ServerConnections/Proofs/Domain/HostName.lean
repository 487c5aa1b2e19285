import ServerConnections.Url.Authority

/-!
# Host names of letters and digits

Most host names need none of the rules for names beyond ASCII: their labels are letters and
digits, and the last one begins with a letter.  Such a name holds no character that a host may
not hold, no hyphen and so no encoded label, and its last label is no number, so it is not
taken for an IP address.  Its ASCII form is the name in small letters, and it is the host of a
web address in that form.

* `IsNameChar.toNat` — where the characters of host names stand
* `toAscii?_of_isNameChar` — names of such characters are valid
* `HostName.isAddress_text` — a host name is not taken for an IP address
* `HostName.ofDomain?_text` — the host that it names
-/

namespace ServerConnections.Domain

/-! ## Letters and digits -/

theorem isUpper_iff {c : Char} : c.isUpper ↔ 65 ≤ c.toNat ∧ c.toNat ≤ 90 := by
  have spelt : c.isUpper = decide (c.val ≥ 'A'.val ∧ c.val ≤ 'Z'.val) := rfl
  simp [spelt, UInt32.le_iff_toNat_le, ← Char.toNat_val]

theorem isLower_iff {c : Char} : c.isLower ↔ 97 ≤ c.toNat ∧ c.toNat ≤ 122 := by
  have spelt : c.isLower = (decide (c.val ≥ 'a'.val) && decide (c.val ≤ 'z'.val)) := rfl
  simp [spelt, UInt32.le_iff_toNat_le, ← Char.toNat_val]

theorem isAlpha_iff {c : Char} : c.isAlpha ↔
    (65 ≤ c.toNat ∧ c.toNat ≤ 90) ∨ (97 ≤ c.toNat ∧ c.toNat ≤ 122) := by
  have spelt : c.isAlpha = (c.isUpper || c.isLower) := rfl
  rw [spelt, Bool.or_eq_true, isUpper_iff, isLower_iff]

theorem isDigit_iff {c : Char} : c.isDigit ↔ 48 ≤ c.toNat ∧ c.toNat ≤ 57 := by
  simp [Char.isDigit, UInt32.le_iff_toNat_le, ← Char.toNat_val]

/-- The small letters follow the capitals at a distance of 32. -/
theorem toNat_toLower (c : Char) : c.toLower.toNat =
    if 65 ≤ c.toNat ∧ c.toNat ≤ 90 then c.toNat + 32 else c.toNat := by
  have upper : c.val ≥ 'A'.val ∧ c.val ≤ 'Z'.val ↔ 65 ≤ c.toNat ∧ c.toNat ≤ 90 := by
    simp [UInt32.le_iff_toNat_le, ← Char.toNat_val]
  by_cases h : 65 ≤ c.toNat ∧ c.toNat ≤ 90
  · have raised : c.toLower.val = c.val + 32 := congrArg Char.val (dif_pos (upper.2 h))
    rw [if_pos h, ← Char.toNat_val, raised, UInt32.toNat_add, Char.toNat_val]
    change (c.toNat + 32) % 2 ^ 32 = _
    omega
  · have same : c.toLower = c := dif_neg (mt upper.1 h)
    rw [same, if_neg h]

/-- A name without capitals is in small letters already. -/
theorem lowercase_of_small {name : List Char} (small : ∀ c ∈ name, c.isUpper = false) :
    lowercase name = name := by
  have same : ∀ c ∈ name, c.toLower = c := fun c there => by
    have noCapital := small c there
    exact dif_neg (of_decide_eq_false noCapital)
  rw [lowercase, List.map_congr_left same, List.map_id']

/-- A letter made small is a letter. -/
theorem isAlpha_toLower {c : Char} (letter : c.isAlpha) : c.toLower.isAlpha := by
  rw [isAlpha_iff] at letter ⊢
  rw [toNat_toLower]
  split <;> omega

/-- A letter or digit made small is one. -/
theorem isAlphanum_toLower {c : Char} (plain : c.isAlphanum) :
    c.toLower.isAlphanum := by
  rw [Char.isAlphanum, Bool.or_eq_true, isAlpha_iff, isDigit_iff] at plain ⊢
  rw [toNat_toLower]
  split <;> omega

/-- The characters of a host name: letters, digits and dots. -/
def IsNameChar (c : Char) : Prop := c.isAlphanum ∨ c = '.'

/-- **Where the characters of host names stand** among all characters. -/
theorem IsNameChar.toNat {c : Char} (plain : IsNameChar c) : c.toNat = 46 ∨
    (48 ≤ c.toNat ∧ c.toNat ≤ 57) ∨ (65 ≤ c.toNat ∧ c.toNat ≤ 90) ∨
      (97 ≤ c.toNat ∧ c.toNat ≤ 122) := by
  rcases plain with plain | rfl
  · rw [Char.isAlphanum, Bool.or_eq_true, isAlpha_iff, isDigit_iff] at plain
    omega
  · decide

/-- None of some characters is a character of host names if none of their numbers is. -/
theorem IsNameChar.notMem {c : Char} (plain : IsNameChar c) (cs : List Char)
    (others : cs.all fun d => d.toNat < 46 ∨ d.toNat = 47 ∨ (57 < d.toNat ∧ d.toNat < 65) ∨
      (90 < d.toNat ∧ d.toNat < 97) ∨ 122 < d.toNat) : c ∉ cs := by
  intro there
  have := of_decide_eq_true (List.all_eq_true.1 others c there)
  have := plain.toNat
  omega

/-- No character of a name is forbidden in hosts. -/
theorem IsNameChar.isForbidden {c : Char} (plain : IsNameChar c) : isForbidden c = false := by
  have place := plain.toNat
  have absent : c ∉ ['%', '#', '/', ':', '<', '>', '?', '@', '[', '\\', ']', '^', '|'] :=
    plain.notMem _ (by decide)
  simp only [Domain.isForbidden, Bool.or_eq_false_iff, decide_eq_false_iff_not,
    beq_eq_false_iff_ne, List.contains_eq_mem]
  exact ⟨⟨by omega, by omega⟩, absent⟩

/-- Small letters stand for their capitals. -/
theorem IsNameChar.toLower {c : Char} (plain : IsNameChar c) : IsNameChar c.toLower := by
  rcases plain with plain | rfl
  · exact .inl (isAlphanum_toLower plain)
  · exact .inr rfl

/-! ## Names of such characters -/

section

variable {name : List Char} (plain : ∀ c ∈ name, IsNameChar c)
include plain

/-- No label is encoded, for none has a hyphen. -/
theorem isPlain_of_isNameChar : isPlain name := by
  rw [isPlain, Bool.and_eq_true, List.all_eq_true, List.all_eq_true]
  refine ⟨fun c there => ?_, fun l listed => ?_⟩
  · have := (plain c there).toNat
    simp only [isAscii, decide_eq_true_eq]
    omega
  · rw [Bool.not_eq_true', Bool.eq_false_iff, ne_eq, List.isPrefixOf_iff_prefix]
    intro mark
    have hyphen : '-' ∈ lowercase name :=
      Text.mem_of_mem_fields listed (mark.subset (by decide))
    obtain ⟨c, there, lower⟩ := List.mem_map.1 hyphen
    exact (plain c there).toLower.notMem ['-'] (by decide) (by simp [lower])

/-- **Names of letters, digits and dots are valid**, and their ASCII form is in small
letters. -/
theorem toAscii?_of_isNameChar : toAscii? name = some (lowercase name) := by
  have allowed : name.any isForbidden = false := by
    rw [List.any_eq_false]
    exact fun c there => by simp [(plain c there).isForbidden]
  rw [toAscii?, if_pos (isPlain_of_isNameChar plain), if_neg (by simp [allowed])]

/-- A name of letters, digits and dots is read as its ASCII form. -/
theorem ofDomain?_of_isNameChar :
    Url.Host.ofDomain? name = Url.Host.ofAscii? (lowercase name) := by
  have noPercent : '%' ∉ name := fun there =>
    (plain _ there).notMem ['%'] (by decide) (by simp)
  have noBracket : name.head? ≠ some '[' := fun head =>
    (plain _ (List.mem_of_head? head)).notMem ['['] (by decide) (by simp)
  rw [Url.Host.ofDomain?, if_neg noBracket, Url.decoded?_of_not_mem noPercent,
    Option.bind_some, toAscii?_of_isNameChar plain, Option.bind_some]

end

/-! ## Host names -/

/-- **A host name of letters and digits**: its labels are not empty, and the last one begins
with a letter. -/
structure HostName where
  labels : List (List Char)
  ne_nil : ∀ l ∈ labels, l ≠ []
  isAlphanum : ∀ l ∈ labels, l.all Char.isAlphanum
  endsWithName : (labels.getLast?.bind List.head?).any Char.isAlpha

namespace HostName

/-- The name as it is written. -/
def text (h : HostName) : List Char := Text.joined ['.'] h.labels

/-- The last label begins with a letter, so the name is no number. -/
theorem exists_last (h : HostName) :
    ∃ front c rest, h.labels = front ++ [c :: rest] ∧ c.isAlpha := by
  have ends := h.endsWithName
  rcases List.eq_nil_or_concat h.labels with none | ⟨front, last, some⟩
  · simp [none] at ends
  · rw [List.concat_eq_append] at some
    rw [some, List.getLast?_concat] at ends
    cases last with
    | nil => simp at ends
    | cons c rest => exact ⟨front, c, rest, some, by simpa using ends⟩

theorem labels_ne_nil (h : HostName) : h.labels ≠ [] := by
  obtain ⟨front, c, rest, labels, -⟩ := h.exists_last
  simp [labels]

/-- All labels are of letters and digits. -/
theorem isAlphanum_of_mem {h : HostName} {l : List Char} (listed : l ∈ h.labels) {c : Char}
    (inside : c ∈ l) : c.isAlphanum :=
  List.all_eq_true.1 (h.isAlphanum l listed) c inside

/-- **A host name holds letters, digits and dots only.** -/
theorem isNameChar_of_mem {h : HostName} {c : Char} (there : c ∈ h.text) : IsNameChar c := by
  rcases Text.mem_joined there with ⟨l, listed, inside⟩ | dot
  · exact .inl (isAlphanum_of_mem listed inside)
  · exact .inr (by simpa using dot)

/-- **The labels are read off the text.**  No label holds a dot. -/
theorem fields_text (h : HostName) : Text.fields Url.isDot h.text = h.labels := by
  refine Text.fields_joined rfl h.labels_ne_nil fun l listed c inside => ?_
  have plain := isAlphanum_of_mem listed inside
  simp only [Url.isDot, beq_eq_false_iff_ne]
  rintro rfl
  simp at plain

/-- The name in small letters. -/
def lower (h : HostName) : HostName where
  labels := h.labels.map lowercase
  ne_nil := by simpa [lowercase] using h.ne_nil
  isAlphanum := by
    simp only [List.mem_map, forall_exists_index, and_imp, forall_apply_eq_imp_iff₂, lowercase,
      List.all_eq_true]
    exact fun l listed c inside => isAlphanum_toLower (isAlphanum_of_mem listed inside)
  endsWithName := by
    obtain ⟨front, c, rest, labels, letter⟩ := h.exists_last
    simpa [labels, lowercase] using isAlpha_toLower letter

/-- Letters may be made small before or after the labels are joined. -/
theorem text_lower (h : HostName) : h.lower.text = lowercase h.text := by
  rw [text, text, lowercase, Text.map_joined]
  rfl

theorem exists_head (h : HostName) : ∃ c rest, h.text = c :: rest ∧ c.isAlphanum := by
  obtain ⟨l, ls, labels⟩ := List.exists_cons_of_ne_nil h.labels_ne_nil
  have listed : l ∈ h.labels := by simp [labels]
  obtain ⟨c, cs, rfl⟩ := List.exists_cons_of_ne_nil (h.ne_nil l listed)
  have plain : c.isAlphanum := isAlphanum_of_mem listed (by simp)
  rw [text, labels]
  cases ls with
  | nil => exact ⟨c, cs, rfl, plain⟩
  | cons m ls => exact ⟨c, _, rfl, plain⟩

theorem text_ne_nil (h : HostName) : h.text ≠ [] := by
  obtain ⟨c, rest, text, -⟩ := h.exists_head
  simp [text]

/-- The parts of the address that the text could be are its labels, for none of them is
empty. -/
theorem parts_text (h : HostName) : Url.Ipv4.parts h.text = h.labels := by
  obtain ⟨front, c, rest, labels, -⟩ := h.exists_last
  simp [Url.Ipv4.parts, h.fields_text, labels]

/-- **A host name is not taken for an IP address**, for its last label is no number. -/
theorem isAddress_text (h : HostName) : Url.Ipv4.isAddress h.text = false := by
  obtain ⟨front, c, rest, labels, letter⟩ := h.exists_last
  have noDigit : Url.digit? 10 c = none := by
    rw [isAlpha_iff] at letter
    rw [Url.digit?_ten, if_neg (by omega)]
  have noDecimal : Url.isDecimal c = false := by simp [Url.isDecimal, noDigit]
  have noValue : Url.Ipv4.partValue? (c :: rest) = none := by
    have noZero : c ≠ '0' := by
      rintro rfl
      simp at letter
    rw [Url.Ipv4.partValue?.eq_4 _ (by simp) (by simp [noZero]) (by simp [noZero]),
      Url.digitsValue?, noDigit, Option.bind_none]
  simp [Url.Ipv4.isAddress, h.parts_text, labels, Url.Ipv4.isNumeric, noDecimal, noValue]

/-- **The host that a name stands for.** -/
theorem ofDomain?_text (h : HostName) :
    Url.Host.ofDomain? h.text = some (.name h.lower.text) := by
  rw [ofDomain?_of_isNameChar fun _ => isNameChar_of_mem, ← text_lower, Url.Host.ofAscii?,
    if_neg (by simp [h.lower.text_ne_nil]), if_neg (by simp [h.lower.isAddress_text])]

end HostName

end ServerConnections.Domain
