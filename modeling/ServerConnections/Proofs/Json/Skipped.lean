import ServerConnections.Proofs.Json.Numerals
import ServerConnections.Proofs.Json.Texts

/-!
# The grammar of values, and what is passed over

A value that is not kept is passed over if and only if it is well formed.  Well-formed values
are given by the productions of the grammar: arrays and objects are sequences of entries with a
comma between each two, and blanks may stand around each entry.  Their nesting is not limited,
their texts may hold unpaired surrogates, and their numbers may be out of range.

The loop over entries is the same for all entries.  What it accepts is a sequence whose entries
are accepted one by one, `exists_of_entriesOf`; and such a sequence it accepts,
`entriesOf_punctuated`.

* `IsValue` — the grammar
* `exists_of_skip` — what is passed over is well formed
* `reads_skip` — what is well formed is passed over
-/

namespace ServerConnections.Json

variable {α β : Type}

/-! ## The grammar -/

/-- A member: its name behind a quote, a colon, and its value. -/
def MemberText (name value cs : List Char) : Prop :=
  ∃ gap gap', Blank gap ∧ Blank gap' ∧ cs = '"' :: (name ++ (gap ++ ':' :: (gap' ++ value)))

/-- **A well-formed value.** -/
inductive IsValue : List Char → Prop
  | null : IsValue nullText
  | flag (b : Bool) : IsValue (flagText b)
  | text {cs : List Char} : TextForm cs → IsValue ('"' :: cs)
  | number {cs : List Char} : IsNumeral cs → IsValue cs
  | array {items : List (List Char)} {inside : List Char} :
      Punctuated ']' (fun item cs => cs = item) true items inside →
        (∀ item ∈ items, IsValue item) → IsValue ('[' :: inside)
  | object {members : List (List Char × List Char)} {inside : List Char} :
      Punctuated '}' (fun m cs => MemberText m.1 m.2 cs) true members inside →
        (∀ m ∈ members, TextForm m.1) → (∀ m ∈ members, IsValue m.2) →
          IsValue ('{' :: inside)

/-! ## Entries -/

/-- What stands before the first character that is not blank. -/
theorem exists_of_skipBlanks {s s' : List Char} (skipped : skipBlanks s = s') :
    ∃ gap, Blank gap ∧ s = gap ++ s' := by
  refine ⟨s.takeWhile isJsonBlank, fun c there => List.mem_takeWhile_imp there, ?_⟩
  rw [← skipped, skipBlanks, List.takeWhile_append_dropWhile]

/-- Nothing is left of blanks, and of nothing else. -/
theorem skipBlanks_eq_nil_iff {s : List Char} : skipBlanks s = [] ↔ Blank s :=
  List.dropWhile_eq_nil_iff

theorem Blank.append {gap gap' : List Char} (blank : Blank gap) (blank' : Blank gap') :
    Blank (gap ++ gap') := by
  intro c there
  rcases List.mem_append.1 there with first | second
  · exact blank c first
  · exact blank' c second

/-- **An entry accepts certain texts only**, behind blanks, and each does something to the
accumulator. -/
def Accepts (entry : β → List Char → Reading β) (text : α → List Char → Prop)
    (step : β → α → β → Prop) : Prop :=
  ∀ acc s mid rest, entry acc s = .ok (mid, rest) →
    ∃ gap x cs, Blank gap ∧ text x cs ∧ step acc x mid ∧ s = gap ++ (cs ++ rest)

section Entries

variable {close : Char} {entry : β → List Char → Reading β} {text : α → List Char → Prop}
  {step : β → α → β → Prop}

/-- **Entries that are read are spelt with what belongs between them**, and each of them
takes the state one step further.  The induction is on the rounds. -/
theorem exists_of_entries (accepts : Accepts entry text step)
    {rounds : Nat} {first : Bool} {acc last : β} {s rest : List Char}
    (read : entries close entry rounds first acc s = .ok (last, rest)) :
    ∃ xs cs, Punctuated close text first xs cs ∧ Threads step acc xs last ∧
      s = cs ++ rest := by
  induction rounds generalizing first acc s with
  | zero => cases read
  | succ rounds ih =>
    rw [entries] at read
    split at read
    · cases read
    rename_i c tail shown
    obtain ⟨gap, blank, rfl⟩ := exists_of_skipBlanks shown
    split at read
    · rename_i closed
      cases read
      exact ⟨[], gap ++ [c], closed ▸ .nil blank, .nil, by simp⟩
    split at read
    · rename_i isFirst
      obtain ⟨mid, s, entered, behind⟩ := Reading.andThen_eq_ok read
      obtain ⟨gap', x, cs, blank', spelt, stepped, eq⟩ := accepts _ _ _ _ entered
      obtain ⟨xs, more, punctuated, threads, rfl⟩ := ih behind
      rw [isFirst]
      refine ⟨x :: xs, _, .head (blank.append blank') spelt punctuated,
        .cons stepped threads, ?_⟩
      simp [eq]
    split at read
    · rename_i notFirst isComma
      obtain ⟨mid, s, entered, behind⟩ := Reading.andThen_eq_ok read
      obtain ⟨gap', x, cs, blank', spelt, stepped, rfl⟩ := accepts _ _ _ _ entered
      obtain ⟨xs, more, punctuated, threads, rfl⟩ := ih behind
      rw [isComma, Bool.eq_false_iff.2 notFirst]
      exact ⟨x :: xs, _, .cons blank blank' spelt punctuated, .cons stepped threads, by simp⟩
    · cases read

/-- **What is read as entries is a sequence of them**, each of which is accepted. -/
theorem exists_of_entriesOf (accepts : Accepts entry text step)
    {acc last : β} {s rest : List Char}
    (read : entriesOf close entry acc s = .ok (last, rest)) :
    ∃ xs cs, Punctuated close text true xs cs ∧ Threads step acc xs last ∧ s = cs ++ rest :=
  exists_of_entries accepts read

/-- A sequence of entries is one of other entries that have the same texts. -/
theorem Punctuated.exists_map {γ : Type} {text' : γ → List Char → Prop}
    {related : α → γ → Prop}
    (each : ∀ x cs, text x cs → ∃ y, text' y cs ∧ related x y) {first : Bool} {xs : List α}
    {cs : List Char} (punctuated : Punctuated close text first xs cs) :
    ∃ ys, Punctuated close text' first ys cs ∧ ∀ y ∈ ys, ∃ x ∈ xs, related x y := by
  have extended : ∀ {x xs y ys}, related x y → (∀ y ∈ ys, ∃ x ∈ xs, related x y) →
      ∀ z ∈ y :: ys, ∃ x' ∈ x :: xs, related x' z := fun same rest z there => by
    rcases List.mem_cons.1 there with rfl | later
    · exact ⟨_, .head _, same⟩
    · obtain ⟨x', there', same'⟩ := rest z later
      exact ⟨x', .tail _ there', same'⟩
  induction punctuated with
  | nil blank => exact ⟨[], .nil blank, nofun⟩
  | head blank spelt _ ih =>
    obtain ⟨y, spelt', same⟩ := each _ _ spelt
    obtain ⟨ys, behind, rest⟩ := ih
    exact ⟨y :: ys, .head blank spelt' behind, extended same rest⟩
  | cons blank blank' spelt _ ih =>
    obtain ⟨y, spelt', same⟩ := each _ _ spelt
    obtain ⟨ys, behind, rest⟩ := ih
    exact ⟨y :: ys, .cons blank blank' spelt' behind, extended same rest⟩

/-- The text of an entry is shorter than the sequence. -/
theorem Punctuated.exists_text {xs : List α} {cs : List Char} {first : Bool}
    (punctuated : Punctuated close text first xs cs) {x : α} (there : x ∈ xs) :
    ∃ cs', text x cs' ∧ cs'.length < cs.length := by
  have filled : ∀ {xs cs}, Punctuated close text false xs cs → 0 < cs.length :=
    fun listed => by
    have := listed.length_lt
    simp only [Bool.false_eq_true, if_false] at this
    omega
  induction punctuated with
  | nil => cases there
  | head _ spelt behind ih | cons _ _ spelt behind ih =>
    have := filled behind
    rcases List.mem_cons.1 there with rfl | later
    · refine ⟨_, spelt, ?_⟩
      simp only [List.length_append, List.length_cons]
      omega
    · obtain ⟨cs', spelt, shorter⟩ := ih later
      refine ⟨cs', spelt, ?_⟩
      simp only [List.length_append, List.length_cons]
      omega

end Entries

theorem Threads.forall_mem {kept : α → Prop} {acc last : β} {xs : List α}
    (threads : Threads (fun _ x _ => kept x) acc xs last) : ∀ x ∈ xs, kept x := by
  induction threads with
  | nil => exact nofun
  | cons first _ ih => exact List.forall_mem_cons.2 ⟨first, ih⟩

theorem threads_of_forall_mem {kept : α → Prop} {xs : List α} (each : ∀ x ∈ xs, kept x) :
    Threads (fun _ x _ => kept x) () xs () := by
  induction xs with
  | nil => exact .nil
  | cons x xs ih => exact .cons (each x (.head _)) (ih fun y there => each y (.tail _ there))

/-! ## Members -/

theorem exists_of_colon {s rest : List Char} (read : colon s = .ok rest) :
    ∃ gap, Blank gap ∧ s = gap ++ ':' :: rest := by
  rw [colon] at read
  split at read
  · cases read
  · rename_i c tail shown
    obtain ⟨gap, blank, rfl⟩ := exists_of_skipBlanks shown
    split at read
    · rename_i isColon
      cases read
      exact ⟨gap, blank, by rw [isColon]⟩
    · cases read

theorem colon_append {gap : List Char} (blank : Blank gap) (s : List Char) :
    colon (gap ++ ':' :: s) = .ok s := by
  rw [colon, skipBlanks_gap blank (by decide)]
  exact if_pos rfl

/-- The value of a member stands behind a colon. -/
theorem exists_of_memberValue {r : List Char → Reading α} {s rest : List Char} {x : α}
    (read : memberValue r s = .ok (x, rest)) :
    ∃ gap s', Blank gap ∧ s = gap ++ ':' :: s' ∧ r s' = .ok (x, rest) := by
  rw [memberValue] at read
  split at read
  · cases read
  · rename_i s' found
    obtain ⟨gap, blank, rfl⟩ := exists_of_colon found
    exact ⟨gap, s', blank, rfl, read⟩

/-- Behind a colon the value is read. -/
theorem memberValue_append {r : List Char → Reading α} {gap : List Char} (blank : Blank gap)
    (s : List Char) : memberValue r (gap ++ ':' :: s) = r s := by
  rw [memberValue, colon_append blank]

/-- A name that is passed over is a text. -/
theorem exists_of_skipKey {s rest : List Char} (read : skipKey s = .ok rest) :
    ∃ gap name, Blank gap ∧ TextForm name ∧ s = gap ++ '"' :: (name ++ rest) := by
  rw [skipKey] at read
  split at read
  · cases read
  · rename_i c tail shown
    obtain ⟨gap, blank, rfl⟩ := exists_of_skipBlanks shown
    split at read
    · rename_i isQuote
      obtain ⟨name, form, rfl⟩ := skipText_plain_eq_ok_iff.1 read
      exact ⟨gap, name, blank, form, by rw [isQuote]⟩
    · cases read

/-- A text is passed over as a name. -/
theorem skipKey_append {gap name : List Char} (blank : Blank gap) (form : TextForm name)
    (rest : List Char) : skipKey (gap ++ '"' :: (name ++ rest)) = .ok rest := by
  rw [skipKey, skipBlanks_gap blank (by decide)]
  exact (if_pos rfl).trans (skipText_plain_eq_ok_iff.2 ⟨name, form, rfl⟩)

/-- A name that is read is spelt by a text. -/
theorem exists_of_key {s rest : List Char} {k : String} (read : key s = .ok (k, rest)) :
    ∃ gap name, Blank gap ∧ TextOf k.toList name ∧ s = gap ++ '"' :: (name ++ rest) := by
  rw [key] at read
  split at read
  · cases read
  · rename_i c tail shown
    obtain ⟨gap, blank, rfl⟩ := exists_of_skipBlanks shown
    split at read
    · rename_i isQuote
      obtain ⟨name, spelt, rfl⟩ := textTail_eq_ok_iff.1 read
      exact ⟨gap, name, blank, spelt, by rw [isQuote]⟩
    · cases read

/-- A name that is spelt is read. -/
theorem key_append {gap name : List Char} (blank : Blank gap) {k : String}
    (spelt : TextOf k.toList name) (rest : List Char) :
    key (gap ++ '"' :: (name ++ rest)) = .ok (k, rest) := by
  rw [key, skipBlanks_gap blank (by decide)]
  exact (if_pos rfl).trans (textTail_eq_ok_iff.2 ⟨name, spelt, rfl⟩)

/-! ## Values -/

/-- A word that is read was there, and stands for its value. -/
theorem exists_of_wordFor {ws s rest : List Char} {x y : α}
    (read : wordFor ws x s = .ok (y, rest)) : y = x ∧ s = ws ++ rest := by
  rw [wordFor] at read
  cases eq : word ws s with
  | error e =>
    rw [eq] at read
    cases read
  | ok rest' =>
    rw [eq] at read
    cases read
    exact ⟨rfl, word_eq_ok eq⟩

theorem exists_of_map_unit {r : Except Fault (List Char)} {rest : List Char}
    (read : (r.map fun rest => ((), rest)) = .ok ((), rest)) : r = .ok rest := by
  cases r with
  | error e => cases read
  | ok rest' =>
    cases read
    rfl

/-- A value that is passed over is well formed, if those that begin with a bracket are. -/
theorem exists_of_skipWith {array object : List Char → Reading Unit}
    (arrays : ∀ s rest, array s = .ok ((), rest) → ∃ cs, IsValue ('[' :: cs) ∧ s = cs ++ rest)
    (objects : ∀ s rest, object s = .ok ((), rest) →
      ∃ cs, IsValue ('{' :: cs) ∧ s = cs ++ rest)
    {s rest : List Char} (read : skipWith array object s = .ok ((), rest)) :
    ∃ gap cs, Blank gap ∧ IsValue cs ∧ s = gap ++ (cs ++ rest) := by
  rw [skipWith] at read
  split at read
  · cases read
  rename_i c tail shown
  obtain ⟨gap, blank, rfl⟩ := exists_of_skipBlanks shown
  split at read
  · rename_i first
    exact ⟨gap, _, blank, .null, by rw [first, (exists_of_wordFor read).2]; rfl⟩
  split at read
  · rename_i first
    exact ⟨gap, _, blank, .flag true, by rw [first, (exists_of_wordFor read).2]; rfl⟩
  split at read
  · rename_i first
    exact ⟨gap, _, blank, .flag false, by rw [first, (exists_of_wordFor read).2]; rfl⟩
  split at read
  · rename_i first
    obtain ⟨cs, form, rfl⟩ := skipText_plain_eq_ok_iff.1 (exists_of_map_unit read)
    exact ⟨gap, _, blank, .text form, by rw [first]; rfl⟩
  split at read
  · rename_i first
    obtain ⟨cs, value, rfl⟩ := arrays _ _ read
    exact ⟨gap, _, blank, value, by rw [first]; rfl⟩
  split at read
  · rename_i first
    obtain ⟨cs, value, rfl⟩ := objects _ _ read
    exact ⟨gap, _, blank, value, by rw [first]; rfl⟩
  split at read
  · obtain ⟨cs, numeral, eq⟩ := exists_of_skipNumber (exists_of_map_unit read)
    exact ⟨gap, cs, blank, .number numeral, by rw [eq]⟩
  · cases read

/-- **What is passed over on some level is a value**, by induction on the levels: what
stands inside an array or object is passed over on the level below. -/
theorem exists_of_skipLevels {levels : Nat} {s rest : List Char}
    (read : skipLevels levels s = .ok ((), rest)) :
    ∃ gap cs, Blank gap ∧ IsValue cs ∧ s = gap ++ (cs ++ rest) := by
  induction levels generalizing s rest with
  | zero =>
    exact exists_of_skipWith (fun _ _ read => by cases read)
      (fun _ _ read => by cases read) read
  | succ levels ih =>
    refine exists_of_skipWith (fun s rest read => ?_) (fun s rest read => ?_) read
    · have accepts : Accepts (fun _ : Unit => skipLevels levels) (fun item cs => cs = item)
          (fun _ item _ => IsValue item) := fun _ s _ rest read => by
        obtain ⟨gap, cs, blank, value, eq⟩ := ih read
        exact ⟨gap, cs, cs, blank, rfl, value, eq⟩
      obtain ⟨items, cs, punctuated, threads, rfl⟩ := exists_of_entriesOf accepts read
      exact ⟨cs, .array punctuated threads.forall_mem, rfl⟩
    · have accepts : Accepts (fun _ : Unit => skipMember (skipLevels levels))
          (fun (m : List Char × List Char) cs => MemberText m.1 m.2 cs)
          (fun _ m _ => TextForm m.1 ∧ IsValue m.2) := fun _ s _ rest read => by
        simp only [skipMember] at read
        split at read
        · cases read
        · rename_i behind keyed
          obtain ⟨gap, name, blank, form, rfl⟩ := exists_of_skipKey keyed
          obtain ⟨gap₁, s', blank₁, rfl, skipped⟩ := exists_of_memberValue read
          obtain ⟨gap₂, cs, blank₂, value, rfl⟩ := ih skipped
          exact ⟨gap, (name, cs), _, blank, ⟨gap₁, gap₂, blank₁, blank₂, rfl⟩, ⟨form, value⟩,
            by simp⟩
      obtain ⟨members, cs, punctuated, threads, rfl⟩ := exists_of_entriesOf accepts read
      have each := threads.forall_mem
      exact ⟨cs, .object punctuated (fun m there => (each m there).1)
        (fun m there => (each m there).2), rfl⟩

/-- **What is passed over is well formed.** -/
theorem exists_of_skip {s rest : List Char} (read : skip s = .ok ((), rest)) :
    ∃ gap cs, Blank gap ∧ IsValue cs ∧ s = gap ++ (cs ++ rest) :=
  exists_of_skipLevels read

/-! ### Well-formed values are passed over -/

/-- Scalars are passed over whatever is done with arrays and objects. -/
theorem reads_skipWith_word {array object : List Char → Reading Unit} :
    Reads (skipWith array object) nullText () ∧
      ∀ b, Reads (skipWith array object) (flagText b) () := by
  constructor
  · intro gap rest blank ends
    rw [skipWith, nullText, List.cons_append, skipBlanks_gap blank (by decide)]
    exact wordFor_append ['u', 'l', 'l'] () rest
  · intro b gap rest blank ends
    cases b
    · rw [skipWith, flagText, if_neg (by decide), List.cons_append,
        skipBlanks_gap blank (by decide)]
      exact wordFor_append ['a', 'l', 's', 'e'] () rest
    · rw [skipWith, flagText, if_pos rfl, List.cons_append, skipBlanks_gap blank (by decide)]
      exact wordFor_append ['r', 'u', 'e'] () rest

/-- A text is passed over. -/
theorem reads_skipWith_text {array object : List Char → Reading Unit} {cs : List Char}
    (form : TextForm cs) : Reads (skipWith array object) ('"' :: cs) () := by
  intro gap rest blank ends
  have passed : skipText .plain (cs ++ rest) = .ok rest :=
    skipText_plain_eq_ok_iff.2 ⟨cs, form, rfl⟩
  rw [skipWith, List.cons_append, skipBlanks_gap blank (by decide)]
  simp [passed, Except.map]

/-- A number is passed over. -/
theorem reads_skipWith_number {array object : List Char → Reading Unit} {cs : List Char}
    (numeral : IsNumeral cs) : Reads (skipWith array object) cs () := by
  intro gap rest blank ends
  have passed := skipNumber_append numeral ends
  obtain ⟨c, tail, rfl, begins⟩ := numeral.exists_cons
  obtain ⟨visible, other⟩ := ne_of_beginsNumber begins
  rw [skipWith, List.cons_append, skipBlanks_gap blank visible]
  rw [List.cons_append] at passed
  simp [other, begins, passed, Except.map]

/-- An array is passed over if its inside is. -/
theorem reads_skipWith_array {array object : List Char → Reading Unit} {inside : List Char}
    (arrays : ∀ rest, array (inside ++ rest) = .ok ((), rest)) :
    Reads (skipWith array object) ('[' :: inside) () := by
  intro gap rest blank ends
  rw [skipWith, List.cons_append, skipBlanks_gap blank (by decide)]
  simp [arrays]

/-- An object is passed over if its inside is. -/
theorem reads_skipWith_object {array object : List Char → Reading Unit} {inside : List Char}
    (objects : ∀ rest, object (inside ++ rest) = .ok ((), rest)) :
    Reads (skipWith array object) ('{' :: inside) () := by
  intro gap rest blank ends
  rw [skipWith, List.cons_append, skipBlanks_gap blank (by decide)]
  simp [objects]

/-- **The first character of a value.** -/
theorem IsValue.exists_cons {cs : List Char} (value : IsValue cs) :
    ∃ c tail, cs = c :: tail ∧ Opens c := by
  cases value with
  | null => exact ⟨_, _, rfl, by decide⟩
  | flag b => cases b <;> exact ⟨_, _, rfl, by decide⟩
  | text _ | array _ _ | object _ _ _ => exact ⟨_, _, rfl, by decide⟩
  | number numeral =>
    obtain ⟨c, tail, rfl, begins⟩ := numeral.exists_cons
    obtain ⟨visible, other⟩ := ne_of_beginsNumber begins
    exact ⟨c, tail, rfl, visible, other _ (by decide), other _ (by decide)⟩

theorem skipLevels_eq_skipWith (levels : Nat) :
    ∃ array object, skipLevels levels = skipWith array object := by
  cases levels <;> exact ⟨_, _, rfl⟩

/-- A member whose value is passed over is passed over. -/
theorem reads_skipMember {item : List Char → Reading Unit} {name value cs : List Char}
    (form : TextForm name) (reads : Reads item value ()) (member : MemberText name value cs) :
    Reads (skipMember item) cs () := by
  obtain ⟨gap₁, gap₂, blank₁, blank₂, rfl⟩ := member
  intro gap rest blank ends
  have keyed := skipKey_append blank form (gap₁ ++ ':' :: (gap₂ ++ (value ++ rest)))
  have passed := reads gap₂ rest blank₂ ends
  simp only [List.cons_append, List.append_assoc]
  rw [skipMember, keyed]
  exact (memberValue_append blank₁ _).trans passed

/-- A value is passed over if as many may be open as it has characters. -/
theorem reads_skipLevels {cs : List Char} (value : IsValue cs) :
    ∀ {levels : Nat}, cs.length ≤ levels → Reads (skipLevels levels) cs () := by
  induction value with
  | null =>
    intro levels _
    obtain ⟨array, object, eq⟩ := skipLevels_eq_skipWith levels
    exact eq ▸ reads_skipWith_word.1
  | flag b =>
    intro levels _
    obtain ⟨array, object, eq⟩ := skipLevels_eq_skipWith levels
    exact eq ▸ reads_skipWith_word.2 b
  | text form =>
    intro levels _
    obtain ⟨array, object, eq⟩ := skipLevels_eq_skipWith levels
    exact eq ▸ reads_skipWith_text form
  | number numeral =>
    intro levels _
    obtain ⟨array, object, eq⟩ := skipLevels_eq_skipWith levels
    exact eq ▸ reads_skipWith_number numeral
  | @array items inside punctuated values ih =>
    intro levels enough
    obtain ⟨levels, rfl⟩ := Nat.exists_eq_succ_of_ne_zero (Nat.ne_zero_of_lt enough)
    refine reads_skipWith_array fun rest => ?_
    refine entriesOf_punctuated (.inl rfl) punctuated ?_ ?_ (threads_of_forall_mem values) rest
    · rintro item _ rfl there
      exact (values _ there).exists_cons
    · rintro item there acc mid _ - rfl
      obtain ⟨_, rfl, shorter⟩ := punctuated.exists_text there
      exact ih _ there (by simp at enough; omega)
  | @object members inside punctuated names values ih =>
    intro levels enough
    obtain ⟨levels, rfl⟩ := Nat.exists_eq_succ_of_ne_zero (Nat.ne_zero_of_lt enough)
    refine reads_skipWith_object fun rest => ?_
    refine entriesOf_punctuated (.inr rfl) punctuated ?_ ?_ (threads_of_forall_mem values) rest
    · rintro m _ ⟨_, _, -, -, rfl⟩ there
      exact ⟨_, _, rfl, by decide⟩
    · rintro m there _ _ cs - member
      refine reads_skipMember (names m there) (ih m there ?_) member
      obtain ⟨_, ⟨_, _, -, -, rfl⟩, shorter⟩ := punctuated.exists_text there
      simp at enough shorter
      omega

/-- **What is well formed is passed over.** -/
theorem reads_skip {cs : List Char} (value : IsValue cs) : Reads skip cs () := by
  intro gap rest blank ends
  exact reads_skipLevels value (by simp; omega) gap rest blank ends

end ServerConnections.Json
