import ServerConnections.Proofs.Json.Kept
import ServerConnections.Registry.Basic
import ServerConnections.Settings.Options
import ServerConnections.Settings.Document

/-!
# What is written is read back

Connections, their lists, options and events are read back from what they are written as:
each form takes the value of a thing for that thing, field by field.  What is left out is
what the draft has from the beginning.

A settings document has other members besides, on two levels, and they come back if they
are of the kind that reading leaves: in order, nested no deeper than allowed, and named
like no field.  Other connections change nothing about that.  Of the numbers in them only
integers are looked at here.

* `Connection.takes_toValue`, `ConnectionLists.takes_toValue` — connections
* `Settings.Restorable` — the documents that come back
* `Settings.restorable_of_parse` — those that were read
* `Settings.Restorable.parse` — reading them from both of their texts
* `parse_compact_toValue` — everything that is written
-/

namespace ServerConnections

open Json

/-! ## Connections -/

namespace Connection

section Members

variable {α δ : Type} {name : String} {draft : δ}

/-- A field that is given if there is something to give. -/
theorem fills_optional {f : Form α} {value : α → Value} (takes : ∀ x, f.Takes (value x) x)
    (present : ∀ x, value x ≠ .null) {set : Option α → δ → δ}
    (default : set none draft = draft)
    (o : Option α) :
    Fills [.of name (.optional f) set] (o.toList.map fun x => (name, value x)) draft
      (set o draft) := by
  cases o with
  | none => exact .absent default
  | some x => exact .given (.some (takes x) (present x)) _ _ _

theorem fills_textMember (s : Option String) {set : Option String → δ → δ}
    (default : set none draft = draft) :
    Fills [.of name (.optional .text) set] (textMember name s) draft (set s draft) :=
  fills_optional Form.takes_text (by simp) default s

theorem fills_flagMember (b : Option Bool) {set : Option Bool → δ → δ}
    (default : set none draft = draft) :
    Fills [.of name (.optional .flag) set] (flagMember name b) draft (set b draft) :=
  fills_optional Form.takes_flag (by simp) default b

end Members

/-- **A connection is taken for itself.** -/
theorem takes_toValue (c : Connection) : form.Takes c.toValue c := by
  have muted : ∀ draft : Connection, draft.muted = false →
      Fills [.of "disableNotifications" .flag fun x c => { c with muted := x }]
        (flagMember "disableNotifications" (if c.muted then some true else none)) draft
        { draft with muted := c.muted } := by
    intro draft unmuted
    cases c.muted with
    | true => exact .given (Form.takes_flag true) _ _ _
    | false => exact .absent (by rw [← unmuted])
  have fills : Fills fields c.toMembers blank c :=
    (((((fills_textMember c.id rfl).append (fills_textMember c.serverUrl rfl)).append
      (fills_textMember c.organization rfl)).append (fills_flagMember c.cloudFlag rfl)).append
      (muted _ rfl)).append (fills_textMember c.token rfl)
  exact Record.takes_form (by decide) fills rfl

/-- The members of a connection are texts and flags. -/
theorem text_or_bool_of_mem_toMembers {c : Connection} {m : String × Value}
    (there : m ∈ c.toMembers) : (∃ s, m.2 = .text s) ∨ ∃ b, m.2 = .bool b := by
  have text : ∀ {name : String} {s : Option String}, m ∈ textMember name s →
      ∃ s, m.2 = .text s := by
    intro name s there
    obtain ⟨t, -, rfl⟩ := List.mem_map.1 there
    exact ⟨t, rfl⟩
  have flag : ∀ {name : String} {b : Option Bool}, m ∈ flagMember name b →
      ∃ b, m.2 = .bool b := by
    intro name b there
    obtain ⟨t, -, rfl⟩ := List.mem_map.1 there
    exact ⟨t, rfl⟩
  simp only [toMembers, List.mem_append] at there
  rcases there with ((((there | there) | there) | there) | there) | there
  · exact .inl (text there)
  · exact .inl (text there)
  · exact .inl (text there)
  · exact .inr (flag there)
  · exact .inr (flag there)
  · exact .inl (text there)

theorem whole_toValue (c : Connection) : c.toValue.Whole := by
  refine .object fun m there => ?_
  rcases text_or_bool_of_mem_toMembers there with ⟨s, eq⟩ | ⟨b, eq⟩
  · exact eq ▸ .text s
  · exact eq ▸ .bool b

theorem within_toValue (c : Connection) (depth : Nat) : c.toValue.Within (depth + 1) := by
  intro m there
  rcases text_or_bool_of_mem_toMembers there with ⟨s, eq⟩ | ⟨b, eq⟩ <;>
    simp [eq, Value.Within]

end Connection

/-! ## Lists of connections -/

namespace ConnectionLists

/-- A list of connections is read back. -/
theorem takes_listValue (cs : List Connection) :
    (Form.listOf Connection.form).Takes (listValue cs) cs := by
  refine Form.takes_listOf (List.forall₂_map_left_iff.2 (List.forall₂_same.2 ?_))
  exact fun c _ => c.takes_toValue

/-- **Lists of connections are taken for themselves.** -/
theorem takes_toValue (lists : ConnectionLists) : form.Takes lists.toValue lists := by
  have legacy : ∀ {name : String} (cs : List Connection)
      {set : List Connection → ConnectionLists → ConnectionLists} {draft : ConnectionLists},
      set [] draft = draft →
      Fills [.of name (.listOf Connection.form) set] (legacyMember name cs) draft
        (set cs draft) := by
    intro name cs set draft default
    cases cs with
    | nil => exact .absent default
    | cons c cs => exact .given (takes_listValue (c :: cs)) _ _ _
  have servers : Fills
      [.of "servers" (.listOf Connection.form) fun xs l => { l with servers := xs }]
      [("servers", listValue lists.servers)]
      { empty with
        legacySelfHosted := lists.legacySelfHosted, legacyCloud := lists.legacyCloud } lists :=
    .given (takes_listValue lists.servers) _ _ _
  have fills : Fills fields (legacyMember "sonarqube" lists.legacySelfHosted ++
      legacyMember "sonarcloud" lists.legacyCloud ++ [("servers", listValue lists.servers)])
      empty lists :=
    ((legacy lists.legacySelfHosted rfl).append (legacy lists.legacyCloud rfl)).append servers
  exact Record.takes_form (by decide) fills rfl

/-- The members of the lists are lists of connections. -/
theorem listValue_of_mem {lists : ConnectionLists} {m : String × Value}
    (there : m ∈ legacyMember "sonarqube" lists.legacySelfHosted ++
      legacyMember "sonarcloud" lists.legacyCloud ++ [("servers", listValue lists.servers)]) :
    ∃ cs, m.2 = listValue cs := by
  have legacy : ∀ {name : String} {cs : List Connection}, m ∈ legacyMember name cs →
      ∃ cs, m.2 = listValue cs := by
    intro name cs there
    rw [legacyMember] at there
    split at there
    · cases there
    · exact ⟨cs, by rw [List.mem_singleton.1 there]⟩
  rcases List.mem_append.1 there with former | servers
  · rcases List.mem_append.1 former with there | there <;> exact legacy there
  · exact ⟨_, by rw [List.mem_singleton.1 servers]⟩

theorem whole_toValue (lists : ConnectionLists) : lists.toValue.Whole := by
  refine .object fun m there => ?_
  obtain ⟨cs, eq⟩ := listValue_of_mem there
  rw [eq]
  refine .array fun v there => ?_
  obtain ⟨c, -, rfl⟩ := List.mem_map.1 there
  exact c.whole_toValue

theorem within_toValue (lists : ConnectionLists) (depth : Nat) :
    lists.toValue.Within (depth + 3) := by
  intro m there
  obtain ⟨cs, eq⟩ := listValue_of_mem there
  rw [eq]
  intro v there
  obtain ⟨c, -, rfl⟩ := List.mem_map.1 there
  exact c.within_toValue depth

end ConnectionLists

/-! ## Options and events -/

namespace Options

/-- **Options are taken for themselves.** -/
theorem takes_toValue (o : Options) : form.Takes o.toValue o := by
  have fills : Fills fields
      [("cloudDomain", .text o.cloudDomain), ("healthEndpoint", .text o.healthEndpoint),
        ("probeTimeoutSecs", .number (.int o.probeTimeout)),
        ("keychainService", .text o.keychainService)] defaults o :=
    .fill (Field.takes_of (Form.takes_text _) _ _ _) <|
      .fill (Field.takes_of (Form.takes_text _) _ _ _) <|
        .fill (Field.takes_of (Form.takes_count _) _ _ _) <|
          .fill (Field.takes_of (Form.takes_text _) _ _ _) .nil
  exact Record.takes_form (by decide) fills rfl

theorem whole_toValue {o : Options} (fits : o.probeTimeout < UInt64.size) :
    o.toValue.Whole := by
  have int : Value.Whole (.number (.int o.probeTimeout)) :=
    .int ⟨by omega, by exact_mod_cast fits⟩
  refine .object fun m there => ?_
  simp only [List.mem_cons, List.not_mem_nil, or_false] at there
  rcases there with rfl | rfl | rfl | rfl
  · exact .text _
  · exact .text _
  · exact int
  · exact .text _

theorem within_toValue (o : Options) (depth : Nat) : o.toValue.Within (depth + 1) := by
  simp [toValue, Value.Within]

end Options

namespace TokenUpdated

/-- **An event is taken for itself.** -/
theorem takes_toValue (e : TokenUpdated) : form.Takes e.toValue e := by
  have kind : ServerKind.form.Takes e.kind.toValue e.kind :=
    Form.takes_choice e.kind.ofName?_name
  have fills : Fills fields [("connectionId", .text e.connectionId), ("kind", e.kind.toValue)]
      ⟨none, none⟩ ⟨some e.connectionId, some e.kind⟩ :=
    .fill (Field.takes_of (Form.takes_text _) _ _ _) <|
      .fill (Field.takes_of kind _ _ _) .nil
  exact Record.takes_form (by decide) fills rfl

theorem whole_toValue (e : TokenUpdated) : e.toValue.Whole := by
  refine .object fun m there => ?_
  simp only [List.mem_cons, List.not_mem_nil, or_false] at there
  rcases there with rfl | rfl <;> exact .text _

theorem within_toValue (e : TokenUpdated) (depth : Nat) : e.toValue.Within (depth + 1) := by
  simp [toValue, ServerKind.toValue, Value.Within]

end TokenUpdated

/-! ## Settings -/

namespace Settings

/-- **The numbers in the other members are integers of 64 bits**, on both levels. -/
def WholeNumbers (s : Settings) : Prop :=
  (∀ m ∈ s.modeOthers, m.2.Whole) ∧ ∀ m ∈ s.others, m.2.Whole

/-- **A document that comes back from what it is written as.**  The other members are as
reading leaves them: those of the document are one level down, those of its section for
connected mode two. -/
structure Restorable (s : Settings) : Prop where
  section_keepable : modeRecord.Keepable (nestingLimit - 2) s.modeOthers
  document_keepable : record.Keepable (nestingLimit - 1) s.others
  whole : s.WholeNumbers

/-- A blank document can be restored. -/
theorem restorable_blank : Restorable .blank :=
  ⟨Record.keepable_nil _, Record.keepable_nil _, nofun, nofun⟩

/-- A document that can be restored still can with other connections. -/
theorem Restorable.withConnections {s : Settings} (restorable : s.Restorable)
    (lists : ConnectionLists) : (s.withConnections lists).Restorable :=
  ⟨restorable.section_keepable, restorable.document_keepable, restorable.whole⟩

/-- **A document that was read is restorable**, if its numbers are integers. -/
theorem restorable_of_parse {text : String} {s : Settings} (parsed : parse text = .ok s)
    (whole : s.WholeNumbers) : s.Restorable := by
  rw [parse, Form.parse, Json.parse] at parsed
  split at parsed
  · cases parsed
  rename_i document rest read
  split at parsed
  · cases parsed
    obtain ⟨⟨⟨lists, modeOthers⟩, others⟩, entered, rfl⟩ := Form.map_read_eq_ok read
    -- The draft of the document has the members that the section kept.
    have kept : ∀ f ∈ record.fields, ∀ draft s draft' rest,
        modeRecord.Keepable (nestingLimit - 2) draft.2 →
          f.read draft (nestingLimit - 1) s = .ok (draft', rest) →
            modeRecord.Keepable (nestingLimit - 2) draft'.2 := by
      intro f there draft s draft' rest _ entered
      rw [List.mem_singleton.1 there] at entered
      obtain ⟨⟨_, _⟩, inside, rfl⟩ := Field.of_read_eq_ok entered
      exact (Record.readKeeping_ok (fun _ => True) trivial (fun _ _ _ _ _ _ _ _ => trivial)
        inside).2
    obtain ⟨⟨draft, inner, finished⟩, outer⟩ := Record.readKeeping_ok
      (fun draft => modeRecord.Keepable (nestingLimit - 2) draft.2) (Record.keepable_nil _)
      kept entered
    cases finished
    exact ⟨inner, outer, whole⟩
  · cases parsed

/-- The document is an object of an object. -/
theorem Restorable.takes_toValue {s : Settings} (restorable : s.Restorable) :
    form.Takes s.toValue s := by
  obtain ⟨⟨⟨sortedMode, tidyMode⟩, unnamedMode⟩, ⟨⟨sorted, tidy⟩, unnamed⟩, -⟩ := restorable
  have connectedMode : modeRecord.keeping.Takes
      (.object ([("connections", s.connections.toValue)] ++ s.modeOthers))
      (s.connections, s.modeOthers) :=
    Record.takes_keeping (by decide) (.given s.connections.takes_toValue _ _ _) rfl sortedMode
      fun m there => ⟨unnamedMode m there, (tidyMode m there).1⟩
  have document : record.keeping.Takes
      (.object ([("connectedMode",
        .object (("connections", s.connections.toValue) :: s.modeOthers))] ++ s.others))
      ((s.connections, s.modeOthers), s.others) :=
    Record.takes_keeping (by decide) (.given connectedMode _ _ _) rfl sorted
      fun m there => ⟨unnamed m there, (tidy m there).1⟩
  exact document.map _

theorem Restorable.whole_toValue {s : Settings} (restorable : s.Restorable) :
    s.toValue.Whole := by
  refine .object fun m there => ?_
  rcases List.mem_cons.1 there with rfl | other
  · refine .object fun m there => ?_
    rcases List.mem_cons.1 there with rfl | other
    · exact s.connections.whole_toValue
    · exact restorable.whole.1 m other
  · exact restorable.whole.2 m other

theorem Restorable.within_toValue {s : Settings} (restorable : s.Restorable) :
    s.toValue.Within nestingLimit := by
  intro m there
  rcases List.mem_cons.1 there with rfl | other
  · intro m there
    rcases List.mem_cons.1 there with rfl | other
    · exact s.connections.within_toValue _
    · exact (restorable.section_keepable.1.2 m other).2
  · exact (restorable.document_keepable.1.2 m other).2

/-- **A restorable document is read back from both of its texts.** -/
theorem Restorable.parse {s : Settings} (restorable : s.Restorable) :
    Settings.parse s.toValue.compact = .ok s ∧ Settings.parse s.savedText = .ok s :=
  restorable.takes_toValue.parse restorable.whole_toValue restorable.within_toValue

end Settings

/-! ## Everything that is written -/

/-- **Reading undoes writing**, for connections, their lists, options, events, and for every
document that was read, whatever its connections are replaced by. -/
theorem parse_compact_toValue :
    (∀ c : Connection, Connection.form.parse c.toValue.compact = .ok c) ∧
    (∀ lists : ConnectionLists, ConnectionLists.form.parse lists.toValue.compact = .ok lists) ∧
    (∀ o : Options, o.probeTimeout < UInt64.size → Options.parse o.toValue.compact = .ok o) ∧
    (∀ e : TokenUpdated, TokenUpdated.form.parse e.toValue.compact = .ok e) ∧
    ∀ (text : String) (s : Settings), Settings.parse text = .ok s → s.WholeNumbers →
      ∀ s' : Settings, (s' = s ∨ ∃ lists, s' = s.withConnections lists) →
        Settings.parse s'.toValue.compact = .ok s' ∧ Settings.parse s'.savedText = .ok s' := by
  refine ⟨fun c => ?_, fun lists => ?_, fun o fits => ?_, fun e => ?_, ?_⟩
  · exact (c.takes_toValue.parse c.whole_toValue (c.within_toValue _)).1
  · exact (lists.takes_toValue.parse lists.whole_toValue (lists.within_toValue _)).1
  · exact (o.takes_toValue.parse (o.whole_toValue fits) (o.within_toValue _)).1
  · exact (e.takes_toValue.parse e.whole_toValue (e.within_toValue _)).1
  · intro text s parsed whole s' same
    have restorable := Settings.restorable_of_parse parsed whole
    rcases same with rfl | ⟨lists, rfl⟩
    · exact restorable.parse
    · exact (restorable.withConnections lists).parse

/-- The text has the members of an object out of order, and its document is given other
connections; the options have the greatest number of seconds there is. -/
theorem parse_compact_toValue_unordered_keys :
    let text :=
      "\x7b\"z\":[-1],\"connectedMode\":\x7b\"y\":\x7b\"b\":2,\"a\":3\x7d\x7d\x7d"
    let s : Settings :=
      ⟨.empty, [("y", .object [("a", .number (.int 3)), ("b", .number (.int 2))])],
        [("z", .array [.number (.int (-1))])]⟩
    let s' := s.withConnections ⟨[.cloud defaultCloudUrl "org"], [], [.selfHosted "http://a"]⟩
    (18446744073709551615 < UInt64.size ∧
      Options.parse (Options.toValue ⟨"", "/", 18446744073709551615, "é"⟩).compact =
        .ok ⟨"", "/", 18446744073709551615, "é"⟩) ∧
      Settings.parse text = .ok s ∧ s.WholeNumbers ∧
        Settings.parse s'.toValue.compact = .ok s' ∧ Settings.parse s'.savedText = .ok s' := by
  intro text s s'
  have read : Settings.form.read nestingLimit text.toList = .ok (s, []) := by
    unfold text
    rw [String.toList_ofList]
    rfl
  have parsed : Settings.parse text = .ok s := by
    rw [Settings.parse, Form.parse, Json.parse, read]
    rfl
  have whole : s.WholeNumbers := by
    refine ⟨fun m there => ?_, fun m there => ?_⟩
    · rw [List.mem_singleton.1 there]
      refine .object fun m there => ?_
      simp only [List.mem_cons, List.not_mem_nil, or_false] at there
      rcases there with rfl | rfl <;> exact .int (by decide)
    · rw [List.mem_singleton.1 there]
      refine .array fun v there => ?_
      rw [List.mem_singleton.1 there]
      exact .int (by decide)
  have fits : 18446744073709551615 < UInt64.size := by decide
  obtain ⟨-, -, options, -, settings⟩ := parse_compact_toValue
  exact ⟨⟨fits, options _ fits⟩, parsed, whole,
    settings text s parsed whole s' (.inr ⟨_, rfl⟩)⟩

end ServerConnections
