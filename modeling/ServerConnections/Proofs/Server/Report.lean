import ServerConnections.Proofs.Json.Skipped
import ServerConnections.Server.Classifier

/-!
# Reports that say that a server is up

A health report is read from its status alone.  Here is which texts say that a server is up,
given by their grammar: objects with one member of the name of the status and the value `UP`,
whatever their other members are, as long as these are well formed; and arrays whose only item
is the text `UP`.  No other text does, whether it is JSON or not.

What one member does to what was read before is a relation, `Notes`.  A status is noted once,
and other members leave everything as it was; so all members together note the status that one
of them gives, if there is just one.

* `HealthReport.isUp_iff` — the texts that say that a server is up
* `HealthReport.SaysUp.isValue` — all of them are well formed
-/

namespace ServerConnections.HealthReport

open Json

/-! ## The grammar -/

/-- The name of the member that gives the status. -/
def statusName : String := "status"

/-- A value that is the text of some characters. -/
def IsTextOf (s : String)
    (cs : List Char) : Prop := ∃ body, TextOf s.toList body ∧ cs = '"' :: body

/-- A member with the name that it is read under and the text of its value. -/
def NamedText (m : String × List Char) (cs : List Char) : Prop :=
  ∃ name, TextOf m.1.toList name ∧ MemberText name m.2 cs

/-- **A member that says nothing of the status**: it has another name, and its value is well
formed. -/
def IsOther (m : String × List Char) : Prop := m.1 ≠ statusName ∧ IsValue m.2

/-- **An object that says that a server is up**: one of its members is the status, with the
value `UP`, and no other has its name. -/
def IsUpObject (cs : List Char) : Prop :=
  ∃ front value back inside, cs = '{' :: inside ∧
    Punctuated '}' NamedText true (front ++ (statusName, value) :: back) inside ∧
      IsTextOf upStatus value ∧ ∀ m ∈ front ++ back, IsOther m

/-- **An array that says so**: its only item is the text `UP`. -/
def IsUpArray (cs : List Char) : Prop :=
  ∃ item inside, cs = '[' :: inside ∧
    Punctuated ']' (fun item cs => cs = item) true [item] inside ∧ IsTextOf upStatus item

/-- **A text that says that a server is up.** -/
def SaysUp (text : List Char) : Prop :=
  ∃ before value behind, Blank before ∧ Blank behind ∧ text = before ++ (value ++ behind) ∧
    (IsUpObject value ∨ IsUpArray value)

/-! ### They are well formed -/

theorem IsTextOf.isValue {s : String} {cs : List Char} (spelt : IsTextOf s cs) :
    IsValue cs := by
  obtain ⟨body, spelt, rfl⟩ := spelt
  exact .text spelt.form

/-- An object that says so is a value: the names of its members are texts, and all their
values are well formed, the status and the others. -/
theorem IsUpObject.isValue {cs : List Char} (isUp : IsUpObject cs) : IsValue cs := by
  obtain ⟨front, value, back, inside, rfl, punctuated, spelt, others⟩ := isUp
  have values : ∀ m ∈ front ++ (statusName, value) :: back, IsValue m.2 := fun m there => by
    rcases List.mem_append.1 there with before | here
    · exact (others m (List.mem_append_left _ before)).2
    · rcases List.mem_cons.1 here with rfl | behind
      · exact spelt.isValue
      · exact (others m (List.mem_append_right _ behind)).2
  have unnamed : ∀ (m : String × List Char) cs, NamedText m cs → ∃ m' : List Char × List Char,
      MemberText m'.1 m'.2 cs ∧ (TextForm m'.1 ∧ m'.2 = m.2) := by
    rintro ⟨_, text⟩ cs ⟨name, named, member⟩
    exact ⟨(name, text), member, named.form, rfl⟩
  obtain ⟨members, punctuated, related⟩ := punctuated.exists_map unnamed
  refine .object punctuated (fun m there => ?_) fun m there => ?_
  · obtain ⟨_, -, form, -⟩ := related m there
    exact form
  · obtain ⟨m', there', -, same⟩ := related m there
    exact same ▸ values m' there'

theorem IsUpArray.isValue {cs : List Char} (isUp : IsUpArray cs) : IsValue cs := by
  obtain ⟨item, inside, rfl, punctuated, spelt⟩ := isUp
  exact .array punctuated fun _ there => List.mem_singleton.1 there ▸ spelt.isValue

/-- **A text that says that a server is up is JSON**: a well-formed value with blanks around
it. -/
theorem SaysUp.isValue {text : List Char} (reported : SaysUp text) : ∃ before value behind,
    Blank before ∧ Blank behind ∧ text = before ++ (value ++ behind) ∧ IsValue value := by
  obtain ⟨before, value, behind, blank, blank', eq, isUp⟩ := reported
  exact ⟨before, value, behind, blank, blank', eq,
    isUp.elim IsUpObject.isValue IsUpArray.isValue⟩

/-! ## The status -/

/-- How a status is given: as nothing or as a text. -/
def StatusText : Option String → List Char → Prop
  | none, cs => cs = nullText
  | some s, cs => IsTextOf s cs

theorem exists_of_text {depth : Nat} {s rest : List Char} {value : String}
    (read : Json.text depth s = .ok (value, rest)) :
    ∃ gap cs, Blank gap ∧ IsTextOf value cs ∧ s = gap ++ (cs ++ rest) := by
  rw [Json.text] at read
  split at read
  · cases read
  rename_i c tail shown
  obtain ⟨gap, blank, rfl⟩ := exists_of_skipBlanks shown
  split at read
  · rename_i quote
    obtain ⟨body, spelt, rfl⟩ := textTail_eq_ok_iff.1 read
    exact ⟨gap, _, blank, ⟨body, spelt, rfl⟩, by rw [quote]; rfl⟩
  · cases read

/-- What is read as a status was spelt as one, with blanks before it. -/
theorem exists_of_status {depth : Nat} {s rest : List Char} {status : Option String}
    (read : Json.optional Json.text depth s = .ok (status, rest)) :
    ∃ gap cs, Blank gap ∧ StatusText status cs ∧ s = gap ++ (cs ++ rest) := by
  rw [Json.optional] at read
  split at read
  · cases read
  rename_i c tail shown
  obtain ⟨gap, blank, rfl⟩ := exists_of_skipBlanks shown
  split at read
  · rename_i first
    obtain ⟨rfl, rfl⟩ := exists_of_wordFor read
    exact ⟨gap, nullText, blank, rfl, by rw [first]; rfl⟩
  · obtain ⟨value, given, rfl⟩ := Reading.mapResult_eq_ok read
    obtain ⟨gap', cs, blank', spelt, eq⟩ := exists_of_text given
    exact ⟨gap ++ gap', cs, blank.append blank', spelt, by rw [eq, List.append_assoc]⟩

/-- Whatever is spelt as a status is read as that status. -/
theorem reads_status {depth : Nat} {cs : List Char} {status : Option String}
    (spelt : StatusText status cs) : Reads (Json.optional Json.text depth) cs status := by
  intro gap rest blank ends
  cases status with
  | none =>
    obtain rfl : cs = nullText := spelt
    rw [Json.optional, nullText, List.cons_append, skipBlanks_gap blank (by decide)]
    exact wordFor_append ['u', 'l', 'l'] none rest
  | some value =>
    obtain ⟨body, spelt, rfl⟩ := spelt
    have kept : textTail (body ++ rest) = .ok (value, rest) :=
      textTail_eq_ok_iff.2 ⟨body, spelt, rfl⟩
    rw [Json.optional, List.cons_append, skipBlanks_gap blank (by decide)]
    simp [Json.text, skipBlanks_cons (by decide : isJsonBlank '"' = false), kept]

/-- The field that the status is read as. -/
def statusField : Json.Field HealthReport := .of statusName (.optional .text) fun x _ => ⟨x⟩

/-- The status is the only field that is known by its name. -/
theorem field?_record (name : String) :
    record.field? name = if name = statusName then some statusField else none := by
  by_cases named : name = statusName
  · subst named
    rfl
  · have other : (statusName == name) = false := by simpa using Ne.symm named
    rw [if_neg named]
    simp [Record.field?, record, Field.of, ← statusName.eq_def, other]

/-- A report whose field was read has the status that was spelt there, whatever it had
before. -/
theorem exists_of_statusField {depth : Nat} {report report' : HealthReport}
    {s rest : List Char}
    (read : statusField.read report depth s = .ok (report', rest)) : ∃ status gap cs,
      report' = ⟨status⟩ ∧ Blank gap ∧ StatusText status cs ∧ s = gap ++ (cs ++ rest) := by
  obtain ⟨status, given, rfl⟩ := Field.of_read_eq_ok read
  have shown : Json.optional Json.text depth s = .ok (status, rest) := given
  obtain ⟨gap, cs, blank, spelt, rfl⟩ := exists_of_status shown
  exact ⟨status, gap, cs, rfl, blank, spelt, rfl⟩

/-- A status that is spelt is read into the field. -/
theorem reads_statusField {depth : Nat} {report : HealthReport} {cs : List Char}
    {status : Option String} (spelt : StatusText status cs) :
    Reads (statusField.read report depth) cs ⟨status⟩ := by
  intro gap rest blank ends
  change Reading.mapResult (Json.optional Json.text depth _) _ = _
  rw [reads_status spelt gap rest blank ends]
  rfl

/-! ## Members -/

/-- **What a member does to what was read before.**  The names of the fields that were read are
noted with the report. -/
inductive Notes : List String × HealthReport → String × List Char →
    List String × HealthReport → Prop
  | status {seen : List String} {report : HealthReport} {status : Option String}
      {cs : List Char} : statusName ∉ seen → StatusText status cs →
        Notes (seen, report) (statusName, cs) (statusName :: seen, ⟨status⟩)
  | other {state : List String × HealthReport} {m : String × List Char} :
      IsOther m → Notes state m state

/-- **A member that is read does what its text says**: it notes the status once, or it is
well formed and is passed over. -/
theorem accepts_memberEntry (depth : Nat) :
    Accepts (record.memberEntry depth) NamedText Notes := by
  rintro ⟨seen, report⟩ s mid rest read
  rw [Record.memberEntry] at read
  obtain ⟨name, behind, keyed, noted⟩ := Reading.andThen_eq_ok read
  obtain ⟨gap, nameText, blank, spelt, rfl⟩ := exists_of_key keyed
  rw [field?_record] at noted
  by_cases named : name = statusName
  · rw [if_pos named] at noted
    change Record.fieldEntry depth statusField seen report behind = _ at noted
    rw [Record.fieldEntry] at noted
    split at noted
    · cases noted
    · rename_i fresh
      subst named
      obtain ⟨report', valued, rfl⟩ := Reading.mapResult_eq_ok noted
      obtain ⟨gap₁, s', blank₁, rfl, given⟩ := exists_of_memberValue valued
      obtain ⟨status, gap₂, cs, rfl, blank₂, spelt', rfl⟩ := exists_of_statusField given
      exact ⟨gap, (statusName, cs), _, blank,
        ⟨nameText, spelt, gap₁, gap₂, blank₁, blank₂, rfl⟩,
        .status (by simpa [statusField, Field.of] using fresh) spelt', by simp⟩
  · rw [if_neg named] at noted
    obtain ⟨⟨⟩, valued, rfl⟩ := Reading.mapResult_eq_ok noted
    obtain ⟨gap₁, s', blank₁, rfl, skipped⟩ := exists_of_memberValue valued
    obtain ⟨gap₂, cs, blank₂, value, rfl⟩ := exists_of_skip skipped
    exact ⟨gap, (name, cs), _, blank, ⟨nameText, spelt, gap₁, gap₂, blank₁, blank₂, rfl⟩,
      .other ⟨named, value⟩, by simp⟩

/-- **A member that may be noted is read.** -/
theorem reads_memberEntry {depth : Nat} {state mid : List String × HealthReport}
    {m : String × List Char} {cs : List Char} (notes : Notes state m mid)
    (spelt : NamedText m cs) : Reads (record.memberEntry depth state) cs mid := by
  obtain ⟨name, named, gap₁, gap₂, blank₁, blank₂, rfl⟩ := spelt
  intro gap rest blank ends
  have keyed := key_append blank named (gap₁ ++ ':' :: (gap₂ ++ (m.2 ++ rest)))
  simp only [List.cons_append, List.append_assoc]
  rw [Record.memberEntry, keyed, Reading.andThen_ok, field?_record]
  cases notes with
  | status fresh spelt =>
    rw [if_pos rfl]
    change Record.fieldEntry depth statusField _ _ _ = _
    rw [Record.fieldEntry_fresh fresh, memberValue_append blank₁,
      reads_statusField spelt gap₂ rest blank₂ ends]
    rfl
  | other isOther =>
    rw [if_neg isOther.1]
    change Reading.mapResult (memberValue skip _) _ = _
    rw [memberValue_append blank₁, reads_skip isOther.2 gap₂ rest blank₂ ends]
    rfl

/-! ## All members -/

/-- Behind the status all members are others. -/
theorem others_of_threads {seen seen' : List String} {report report' : HealthReport}
    {ms : List (String × List Char)} (known : statusName ∈ seen)
    (threads : Threads Notes (seen, report) ms (seen', report')) :
    report' = report ∧ ∀ m ∈ ms, IsOther m := by
  induction ms generalizing seen report with
  | nil =>
    cases threads
    exact ⟨rfl, nofun⟩
  | cons m ms ih =>
    cases threads with
    | cons first rest =>
      cases first with
      | status fresh _ => exact (fresh known).elim
      | other isOther =>
        obtain ⟨same, others⟩ := ih known rest
        exact ⟨same, List.forall_mem_cons.2 ⟨isOther, others⟩⟩

/-- Members that say nothing of the status leave everything as it was. -/
theorem threads_of_others {state : List String × HealthReport} {ms : List (String × List Char)}
    (others : ∀ m ∈ ms, IsOther m) : Threads Notes state ms state := by
  induction ms with
  | nil => exact .nil
  | cons m ms ih =>
    obtain ⟨isOther, others⟩ := List.forall_mem_cons.1 others
    exact .cons (.other isOther) (ih others)

/-- **What all members of a report come to**: they are all others, or one gives the status. -/
theorem exists_of_threads {seen seen' : List String} {report report' : HealthReport}
    {ms : List (String × List Char)}
    (threads : Threads Notes (seen, report) ms (seen', report')) :
    report' = report ∨ ∃ front cs back, ms = front ++ (statusName, cs) :: back ∧
      StatusText report'.status cs ∧ ∀ m ∈ front ++ back, IsOther m := by
  induction ms generalizing seen report with
  | nil =>
    cases threads
    exact .inl rfl
  | cons m ms ih =>
    cases threads with
    | cons first rest =>
      cases first with
      | @status _ _ status cs _ spelt =>
        obtain ⟨rfl, others⟩ := others_of_threads (.head _) rest
        exact .inr ⟨[], cs, ms, rfl, spelt, others⟩
      | other isOther =>
        rcases ih rest with same | ⟨front, cs, back, rfl, spelt, others⟩
        · exact .inl same
        · exact .inr ⟨m :: front, cs, back, rfl, spelt,
            List.forall_mem_cons.2 ⟨isOther, others⟩⟩

/-! ## Objects -/

/-- The inside of an object, read into a report. -/
def readObject (depth : Nat) (s : List Char) : Reading HealthReport :=
  Reading.andThen (entriesOf '}' (record.memberEntry depth) ([], record.blank) s)
    fun state => record.complete state.2

/-- An object that is read into a report that the server is up says so. -/
theorem isUpObject_of_read {depth : Nat} {s rest : List Char} {report : HealthReport}
    (read : readObject depth s = .ok (report, rest)) (up : report.status = some upStatus) :
    ∃ cs, IsUpObject ('{' :: cs) ∧ s = cs ++ rest := by
  obtain ⟨⟨seen, report'⟩, behind, entered, ended⟩ := Reading.andThen_eq_ok read
  cases ended
  obtain ⟨ms, cs, punctuated, threads, rfl⟩ :=
    exists_of_entriesOf (accepts_memberEntry depth) entered
  rcases exists_of_threads threads with same | ⟨front, value, back, rfl, spelt, others⟩
  · rw [same] at up
    cases up
  · rw [up] at spelt
    exact ⟨cs, ⟨front, value, back, cs, rfl, punctuated, spelt, others⟩, rfl⟩

/-- An object that says so is read into such a report, whatever stands behind it. -/
theorem readObject_append (depth : Nat) {cs : List Char} (isUp : IsUpObject ('{' :: cs))
    (rest : List Char) : readObject depth (cs ++ rest) = .ok (⟨some upStatus⟩, rest) := by
  obtain ⟨front, value, back, inside, eq, punctuated, spelt, others⟩ := isUp
  obtain ⟨-, rfl⟩ := List.cons_eq_cons.1 eq
  have before : ∀ m ∈ front, IsOther m :=
    fun m there => others m (List.mem_append_left _ there)
  have behind : ∀ m ∈ back, IsOther m :=
    fun m there => others m (List.mem_append_right _ there)
  have given : StatusText (some upStatus) value := spelt
  have threads : Threads Notes ([], record.blank) (front ++ (statusName, value) :: back)
      ([statusName], ⟨some upStatus⟩) :=
    (threads_of_others before).append (.cons (.status nofun given) (threads_of_others behind))
  have entered : entriesOf '}' (record.memberEntry depth) ([], record.blank) (cs ++ rest) =
      .ok (([statusName], ⟨some upStatus⟩), rest) := by
    refine entriesOf_punctuated (.inr rfl) punctuated ?_ ?_ threads rest
    · rintro m _ ⟨name, -, _, _, -, -, rfl⟩ -
      exact ⟨_, _, rfl, by decide⟩
    · exact fun m _ _ _ cs notes named => reads_memberEntry notes named
  rw [readObject, entered]
  rfl

/-! ## Arrays -/

/-- The inside of an array, read into a report. -/
def readArray (depth : Nat) (s : List Char) : Reading HealthReport :=
  Reading.andThen (Record.positional depth record.fields true record.blank s) record.complete

/-- An array that is read into a report that the server is up says so.  Its first item is the
status, and no other may follow. -/
theorem isUpArray_of_read {depth : Nat} {s rest : List Char} {report : HealthReport}
    (read : readArray depth s = .ok (report, rest)) (up : report.status = some upStatus) :
    ∃ cs, IsUpArray ('[' :: cs) ∧ s = cs ++ rest := by
  obtain ⟨report', behind, entered, ended⟩ := Reading.andThen_eq_ok read
  cases ended
  change Record.positional depth [statusField] true ⟨none⟩ s = _ at entered
  rw [Record.positional] at entered
  split at entered
  · cases entered
  rename_i c tail shown
  obtain ⟨gap, blank, rfl⟩ := exists_of_skipBlanks shown
  split at entered
  · cases entered
    cases up
  rw [if_pos rfl] at entered
  obtain ⟨_, s, given, closed⟩ := Reading.andThen_eq_ok entered
  obtain ⟨status, gap₁, item, rfl, blank₁, spelt, eq⟩ := exists_of_statusField given
  rw [Record.positional] at closed
  split at closed
  · cases closed
  rename_i d tail' shown'
  obtain ⟨gap₂, blank₂, rfl⟩ := exists_of_skipBlanks shown'
  split at closed
  · rename_i close
    cases closed
    obtain rfl : status = some upStatus := up
    refine ⟨(gap ++ gap₁) ++ (item ++ (gap₂ ++ [']'])), ⟨item, _, rfl, ?_, spelt⟩, ?_⟩
    · exact .head (blank.append blank₁) rfl (.nil blank₂)
    · simp [eq, close]
  · cases closed

theorem readArray_append (depth : Nat) {cs : List Char} (isUp : IsUpArray ('[' :: cs))
    (rest : List Char) : readArray depth (cs ++ rest) = .ok (⟨some upStatus⟩, rest) := by
  obtain ⟨item, inside, eq, punctuated, spelt⟩ := isUp
  obtain ⟨-, rfl⟩ := List.cons_eq_cons.1 eq
  cases punctuated with
  | @head gap item more _ _ blank same behind =>
    subst same
    cases behind with
    | @nil _ gap' blank' =>
      have given : StatusText (some upStatus) item := spelt
      have ends : Ends (gap' ++ ']' :: rest) := ends_gap blank' (ends_cons (by decide) rest)
      have read : statusField.read record.blank depth (item ++ (gap' ++ ']' :: rest)) =
          .ok (⟨some upStatus⟩, gap' ++ ']' :: rest) := (reads_statusField given).plain ends
      obtain ⟨body, -, rfl⟩ := spelt
      have closed : Record.positional depth [] false (⟨some upStatus⟩ : HealthReport)
          (gap' ++ ']' :: rest) = .ok (⟨some upStatus⟩, rest) := by
        rw [Record.positional, skipBlanks_gap blank' (by decide)]
        exact if_pos rfl
      rw [List.cons_append] at read
      rw [readArray]
      change Reading.andThen (Record.positional depth [statusField] true record.blank _) _ = _
      simp only [List.append_assoc, List.cons_append, List.nil_append]
      rw [Record.positional, skipBlanks_gap blank (by decide)]
      simp only [read, closed, Reading.andThen_ok]
      rfl

/-! ## Reports -/

/-- A report begins with a bracket or a brace. -/
theorem read_succ (depth : Nat) (s : List Char) : record.read (depth + 1) s =
    match skipBlanks s with
    | [] => .error .cutShort
    | c :: rest =>
      if c = '[' then readArray depth rest
      else if c = '{' then readObject depth rest
      else .error (misplaced (c :: rest)) := rfl

/-- A text says that a server is up if such a report is read of it, with blanks behind. -/
theorem isUp_eq_true_iff {text : String} : isUp text ↔
    ∃ rest, record.read nestingLimit text.toList = .ok (⟨some upStatus⟩, rest) ∧
      Blank rest := by
  have parsed : form.parse text = Json.parse record.read text := rfl
  rw [isUp, parsed, Json.parse]
  cases record.read nestingLimit text.toList with
  | error e => simp
  | ok p =>
    obtain ⟨⟨status⟩, rest⟩ := p
    by_cases blank : Blank rest
    · simp [skipBlanks_eq_nil_iff, blank]
    · simp [skipBlanks_eq_nil_iff, blank]

/-- **The texts that say that a server is up.** -/
theorem isUp_iff (text : String) : isUp text ↔ SaysUp text.toList := by
  rw [isUp_eq_true_iff]
  constructor
  · rintro ⟨behind, read, blankBehind⟩
    rw [nestingLimit, read_succ] at read
    split at read
    · cases read
    rename_i c tail shown
    obtain ⟨gap, blank, eq⟩ := exists_of_skipBlanks shown
    split at read
    · rename_i bracket
      obtain ⟨cs, isUp, rfl⟩ := isUpArray_of_read read rfl
      exact ⟨gap, _, behind, blank, blankBehind, by rw [eq, bracket]; rfl, .inr isUp⟩
    split at read
    · rename_i brace
      obtain ⟨cs, isUp, rfl⟩ := isUpObject_of_read read rfl
      exact ⟨gap, _, behind, blank, blankBehind, by rw [eq, brace]; rfl, .inl isUp⟩
    · cases read
  · rintro ⟨before, value, behind, blank, blankBehind, eq, isUp | isUp⟩
    · obtain ⟨cs, rfl⟩ : ∃ cs, value = '{' :: cs := by
        obtain ⟨_, _, _, inside, rfl, -⟩ := isUp
        exact ⟨inside, rfl⟩
      refine ⟨behind, ?_, blankBehind⟩
      rw [nestingLimit, read_succ, eq, List.cons_append, skipBlanks_gap blank (by decide)]
      exact readObject_append _ isUp behind
    · obtain ⟨cs, rfl⟩ : ∃ cs, value = '[' :: cs := by
        obtain ⟨_, inside, rfl, -⟩ := isUp
        exact ⟨inside, rfl⟩
      refine ⟨behind, ?_, blankBehind⟩
      rw [nestingLimit, read_succ, eq, List.cons_append, skipBlanks_gap blank (by decide)]
      exact readArray_append _ isUp behind

end ServerConnections.HealthReport
