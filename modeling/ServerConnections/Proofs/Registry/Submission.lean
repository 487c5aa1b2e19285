import ServerConnections.Proofs.Registry.Independence

/-!
# Connections submitted without an id

A form may submit a connection without an id, and so may a caller that adds one.  Both get the
default id: the organization in the cloud service, and the address of any other server.  An
addition finds the id once it knows what the connection is kept as.  A submission finds it
first, and looks for a connection that has it.

That makes a difference where the caller does not say whether the connection leads to the cloud
service.  An addition finds this out and asks for the id in one kind.  A submission is a change
of any connection that has the id, of either kind.  In all other cases it is the addition.

* `Connection.checkedBy_submitted` — what is submitted is kept as what would be added
* `Registry.perform_submit_unnamed` — a submission is the addition, or a change
* `Registry.submit_ne_add_unnamed` — where the two are not the same
-/

namespace ServerConnections

open Bench

namespace Connection

variable {c kept : Connection} {isCloud : String → Bool}

theorem submitted_eq (unnamed : nonEmpty? c.id = none) :
    c.submitted = { c with
      id := some ({ c with serverUrl := c.serverUrl.map Address.clean } : Connection).defaultId
      serverUrl := c.serverUrl.map Address.clean } := by
  simp [submitted, unnamed, withId]

@[simp] theorem organization_submitted (c : Connection) :
    c.submitted.organization = c.organization := by
  cases given : nonEmpty? c.id <;> simp [submitted, given, withId]

@[simp] theorem cloudFlag_submitted (c : Connection) :
    c.submitted.cloudFlag = c.cloudFlag := by
  cases given : nonEmpty? c.id <;> simp [submitted, given, withId]

@[simp] theorem muted_submitted (c : Connection) : c.submitted.muted = c.muted := by
  cases given : nonEmpty? c.id <;> simp [submitted, given, withId]

theorem serverUrl_submitted (c : Connection) :
    c.submitted.serverUrl = c.serverUrl.map Address.clean := by
  cases given : nonEmpty? c.id <;> simp [submitted, given, withId]

/-- An address that was given, and what is left of it. -/
theorem givenUrl?_eq_some_iff {url : String} : c.givenUrl? = some url ↔
    url ≠ "" ∧ ∃ given, given ≠ "" ∧ c.serverUrl = some given ∧ Address.clean given = url := by
  simp only [givenUrl?, nonEmpty?_eq_some_iff, Option.map_eq_some_iff]
  grind

/-- An address that is clean by now stays when the submission is read. -/
theorem givenUrl?_submitted {url : String} (given : c.givenUrl? = some url)
    (once : Address.clean url = url) : c.submitted.givenUrl? = some url := by
  obtain ⟨filled, text, -, present, rfl⟩ := givenUrl?_eq_some_iff.1 given
  refine givenUrl?_eq_some_iff.2 ⟨filled, _, filled, ?_, once⟩
  rw [serverUrl_submitted, present]
  rfl

/-- The default id depends on the organization and on the address. -/
theorem defaultId_eq (c : Connection) :
    c.defaultId = ((nonEmpty? c.organization).or
      (nonEmpty? (c.serverUrl.map Address.clean))).getD defaultConnectionId := by
  unfold defaultId
  cases nonEmpty? c.organization <;> rfl

/-- **The id of a connection that is kept** without one: its organization, or its address. -/
theorem id_kept_of_unnamed (unnamed : nonEmpty? c.id = none) (url : String)
    (organization : Option String) (isCloud : Bool) :
    (c.kept url organization isCloud).id = some (((nonEmpty? organization).or
      (nonEmpty? (some (Address.clean url)))).getD defaultConnectionId) := by
  have id : (c.kept url organization isCloud).id = some
      (⟨none, some url, organization, some isCloud, c.muted, none⟩ : Connection).defaultId := by
    simp [kept, unnamed, withId]
  rw [id, defaultId_eq]
  rfl

/-- **The default id**: the organization in the cloud service, and the address elsewhere. -/
theorem id_eq_of_checkedBy (unnamed : nonEmpty? c.id = none)
    (once : ∀ url ∈ c.givenUrl?, Address.clean url = url)
    (checked : c.checkedBy isCloud = .ok kept) :
    kept.id = if kept.isCloud then nonEmpty? c.organization else c.givenUrl? := by
  obtain ⟨url, cloud, given, -, filled, rfl⟩ := checkedBy_eq_ok checked
  have clean : Address.clean url = url := once url given
  have present : nonEmpty? (some url) = some url :=
    nonEmpty?_eq_some_iff.2 ⟨rfl, (givenUrl?_eq_some_iff.1 given).1⟩
  have kind : (c.kept url (if cloud then nonEmpty? c.organization else none) cloud).isCloud =
      cloud := by
    rw [kept_eq]
    rfl
  rw [kind, id_kept_of_unnamed unnamed, clean, present, given]
  cases cloud with
  | false => rfl
  | true =>
      obtain ⟨organization, there⟩ := Option.isSome_iff_exists.1 (filled rfl)
      simp [there, nonEmpty?_eq_some_iff.2 ⟨rfl, ne_empty_of_nonEmpty? there⟩]

/-- An id that was given is kept. -/
theorem id_kept_of_named (named : (nonEmpty? c.id).isSome) (url : String)
    (organization : Option String) (isCloud : Bool) :
    (c.kept url organization isCloud).id = c.id := by
  obtain ⟨id, named⟩ := Option.isSome_iff_exists.1 named
  rw [(nonEmpty?_eq_some_iff.1 named).1]
  simp [kept, named]

/-- A connection is kept as one of the kind that was asked for. -/
theorem kind_eq_of_asked {kind : ServerKind} (checked : c.checkedBy isCloud = .ok kept)
    (asked : c.askedKind = some kind) : kept.kind = kind := by
  obtain ⟨flag, given, rfl⟩ := Option.map_eq_some_iff.1 asked
  obtain ⟨url, cloud, -, rule, -, rfl⟩ := checkedBy_eq_ok checked
  obtain rfl : cloud = flag := by rw [rule, given, Option.getD_some]
  rw [kept_eq]
  rfl

/-- **What is submitted is kept as what would be added**, under the same id. -/
theorem checkedBy_submitted (unnamed : nonEmpty? c.id = none)
    (once : ∀ url ∈ c.givenUrl?, Address.clean url = url)
    (checked : c.checkedBy isCloud = .ok kept)
    (organized : nonEmpty? c.organization = none ∨ kept.isCloud) :
    c.submitted.checkedBy isCloud = .ok kept ∧ kept.id = c.submitted.id := by
  obtain ⟨url, cloud, given, rule, filled, rfl⟩ := checkedBy_eq_ok checked
  obtain ⟨-, text, -, present, cleaned⟩ := givenUrl?_eq_some_iff.1 given
  have clean : Address.clean url = url := once url given
  have organization : nonEmpty? (if cloud then nonEmpty? c.organization else none) =
      nonEmpty? c.organization := by
    cases cloud with
    | true => exact nonEmpty?_nonEmpty? _
    | false =>
        rw [c.kept_eq] at organized
        exact (organized.resolve_right Bool.false_ne_true).symm
  have id : c.submitted.id = some (((nonEmpty? c.organization).or
      (nonEmpty? (some (Address.clean url)))).getD defaultConnectionId) := by
    rw [submitted_eq unnamed, defaultId_eq, present, ← cleaned]
    rfl
  have same : (c.kept url (if cloud then nonEmpty? c.organization else none) cloud).id =
      c.submitted.id := by
    rw [id_kept_of_unnamed unnamed, organization, id]
  have kept : c.submitted.kept url (if cloud then nonEmpty? c.organization else none) cloud =
      c.kept url (if cloud then nonEmpty? c.organization else none) cloud := by
    obtain ⟨id, named, -⟩ := c.id_submitted
    rw [kept_eq, id_kept_of_named (by rw [named]; rfl), muted_submitted, ← same, ← kept_eq]
  refine ⟨?_, same⟩
  rw [← kept, checkedBy, givenUrl?_submitted given clean, cloudFlag_submitted,
    organization_submitted]
  dsimp only
  rw [← rule]
  cases cloud with
  | false => rfl
  | true =>
      obtain ⟨organization, present⟩ := Option.isSome_iff_exists.1 (filled rfl)
      simp only [present, if_true]

end Connection

/-- **What a submission is about**: where the caller does not say whether the connection leads
to the cloud service, any connection that has its id. -/
theorem Settings.target?_submitted_isSome_iff {s : Settings} {isCloud : String → Bool}
    {c kept : Connection} (plan : s.addition isCloud c = .ok kept)
    (id : kept.id = c.submitted.id) :
    (s.target? c.submitted).isSome ↔
      c.cloudFlag = none ∧ ∃ entry ∈ s.servers, entry.id = kept.id := by
  obtain ⟨checked, free⟩ := addition_eq_ok_iff.1 plan
  obtain ⟨text, named, present⟩ := c.id_submitted
  replace present : kept.id = some c.submitted.idText := by
    rw [id, present, (nonEmpty?_eq_some_iff.1 named).1]
  rw [isSome_target?_eq, List.find?_isSome]
  simp only [Connection.mayMean_iff, Connection.askedKind, Connection.cloudFlag_submitted]
  cases given : c.cloudFlag with
  | none => simp [present]
  | some flag =>
      -- The addition has not found the id in the kind that was asked for.
      refine iff_of_false ?_ nofun
      rintro ⟨entry, there, allowed, own⟩
      have asked : c.askedKind = some (.ofFlag flag) := by
        rw [Connection.askedKind, given]; rfl
      have kind : kept.kind = .ofFlag flag := Connection.kind_eq_of_asked checked asked
      have text : kept.idText = c.submitted.idText := by rw [Connection.idText, present]; rfl
      refine ConnectionLists.position?_eq_none_iff.1 free entry there ?_
      rw [Connection.name, own, text, kind, allowed _ rfl]

/-! ## Edits that come to the same -/

/-- **Two edits come to the same**: they are answered alike, and leave the same document and
the same secrets. -/
structure Edit.Like (cloudDomain : String) (b : Bench MemorySettings)
    (e e' : Edit) : Prop where
  answer : (((inMemory cloudDomain).perform e).outcome b).1 =
    (((inMemory cloudDomain).perform e').outcome b).1
  document : (((inMemory cloudDomain).perform e).outcome b).2.document =
    (((inMemory cloudDomain).perform e').outcome b).2.document
  secrets : (((inMemory cloudDomain).perform e).outcome b).2.secrets =
    (((inMemory cloudDomain).perform e').outcome b).2.secrets

namespace Registry

variable {cloudDomain : String} {b b' : Bench MemorySettings} {c kept : Connection}

/-- It is enough that they have the same answer, and the same effect with it. -/
theorem like_of_result (free : b.conditions.Unfailing) (steady : b.conditions.Steady)
    {e e' : Edit}
    (result : e.result b.document b.secrets (b.conditions.verdict cloudDomain 0) =
      e'.result b.document b.secrets (b.conditions.verdict cloudDomain 0))
    (document : ∀ answer,
      e.result b.document b.secrets (b.conditions.verdict cloudDomain 0) = .ok answer →
        e.documentAfter b.document answer = e'.documentAfter b.document answer)
    (secrets : ∀ answer,
      e.result b.document b.secrets (b.conditions.verdict cloudDomain 0) = .ok answer →
        e.secretsAfter b.document b.secrets answer =
          e'.secretsAfter b.document b.secrets answer) :
    e.Like cloudDomain b e' := by
  have first := @perform_performed cloudDomain b free steady e
  have second := @perform_performed cloudDomain b free steady e'
  have answer := first.result.trans (result.trans second.result.symm)
  cases answered : e.result b.document b.secrets (b.conditions.verdict cloudDomain 0) with
  | ok reply =>
      obtain ⟨document₁, secrets₁, -⟩ := first.left reply (first.result.trans answered)
      obtain ⟨document₂, secrets₂, -⟩ :=
        second.left reply (second.result.trans (result.symm.trans answered))
      exact
        { answer
          document := document₁.trans ((document reply answered).trans document₂.symm)
          secrets := secrets₁.trans ((secrets reply answered).trans secrets₂.symm) }
  | error error =>
      -- Neither of them has done anything.
      have left : ∀ e : Edit, (((inMemory cloudDomain).perform e).outcome b).1 = .error error →
          (((inMemory cloudDomain).perform e).outcome b).2.unrecorded = b.unrecorded := by
        intro e failed
        have ends : e.Ends cloudDomain b.unrecorded _ _ := perform_ends b e
        rw [failed] at ends
        exact ends.left_of_error free
      have left₁ := left e (first.result.trans answered)
      have left₂ := left e' (second.result.trans (result.symm.trans answered))
      exact
        { answer
          document := (document_of_unrecorded left₁).trans (document_of_unrecorded left₂).symm
          secrets := (secrets_of_unrecorded left₁).trans (secrets_of_unrecorded left₂).symm }

/-- Where a connection is meant, a submission is a change. -/
theorem like_update_of_found (free : b.conditions.Unfailing) (steady : b.conditions.Steady)
    (found : (b.document.target? c.submitted).isSome) :
    (Edit.submit c).Like cloudDomain b (.update c.submitted) := by
  have stored : (Edit.submit c).storedToken b.document b.secrets =
      (Edit.update c.submitted).storedToken b.document b.secrets := by
    funext answer
    have given : (Edit.submit c).givenToken = (Edit.update c.submitted).givenToken := by
      rw [Edit.givenToken, Edit.givenToken, Connection.token_submitted]
    rw [Edit.storedToken, Edit.storedToken, given]
    rfl
  have planned : ∀ isCloud, (Edit.submit c).planned b.document isCloud =
      (Edit.update c.submitted).planned b.document isCloud := fun _ => if_pos found
  refine like_of_result free steady ?_ (fun _ _ => rfl) fun _ _ => ?_
  · rw [Edit.result, Edit.result, planned, stored]
  · rw [Edit.secretsAfter, Edit.secretsAfter, stored]
    rfl

/-- Where none is meant, it is an addition, if what is submitted is kept as what would be
added. -/
theorem like_add_of_missing (free : b.conditions.Unfailing) (steady : b.conditions.Steady)
    (missing : b.document.target? c.submitted = none)
    (plan : b.document.addition (b.conditions.verdict cloudDomain 0) c = .ok kept)
    (plan' : b.document.addition (b.conditions.verdict cloudDomain 0) c.submitted = .ok kept) :
    (Edit.submit c).Like cloudDomain b (.add c) := by
  have new : (Edit.submit c).concerned? b.document = none := by
    simp only [Edit.concerned?, Edit.existing?, missing, Option.map_none]
  have keyed : kept.storageKey.isSome := storageKey_isSome_of_addition plan
  have added : (Edit.add c).result b.document b.secrets (b.conditions.verdict cloudDomain 0) =
      .ok (.kept kept) :=
    Edit.result_eq_ok_iff.2 ⟨by rw [Edit.planned, plan]; rfl, fun _ => keyed⟩
  have submitted : (Edit.submit c).result b.document b.secrets
      (b.conditions.verdict cloudDomain 0) = .ok (.kept kept) := by
    refine Edit.result_eq_ok_iff.2 ⟨?_, fun _ => keyed⟩
    rw [Edit.planned, if_neg (by simp [missing]), plan']
    rfl
  refine like_of_result free steady (submitted.trans added.symm) ?_ ?_
  · rintro _ answered
    obtain rfl : Answer.kept kept = _ := Except.ok.inj (submitted.symm.trans answered)
    rw [Edit.documentAfter_of_new new, Edit.documentAfter_of_new rfl]
  · rintro _ answered
    obtain rfl : Answer.kept kept = _ := Except.ok.inj (submitted.symm.trans answered)
    rw [Edit.secretsAfter_of_new new, Edit.secretsAfter_of_new rfl]
    rfl

/-- **A connection that is submitted without an id is added**, under the same default id and
with the same effect, unless the caller does not say which kind it has and a connection of the
other kind has this id.  Then that one is changed. -/
theorem perform_submit_unnamed (free : b.conditions.Unfailing) (steady : b.conditions.Steady)
    (unnamed : nonEmpty? c.id = none) (once : ∀ url ∈ c.givenUrl?, Address.clean url = url)
    (organized : nonEmpty? c.organization = none ∨ kept.isCloud)
    (answered : ((inMemory cloudDomain).perform (.add c)).outcome b = (.ok (.kept kept), b')) :
    kept.id = (if kept.isCloud then nonEmpty? c.organization else c.givenUrl?) ∧
      kept.id = c.submitted.id ∧ b'.document = b.document.added kept ∧
      (∀ key, kept.storageKey ≠ some key → b'.secrets.get? key = b.secrets.get? key) ∧
      if c.cloudFlag = none ∧ ∃ entry ∈ b.document.servers, entry.id = kept.id then
        (Edit.submit c).Like cloudDomain b (.update c.submitted)
      else (Edit.submit c).Like cloudDomain b (.add c) := by
  obtain ⟨acts, -⟩ := perform_acts free steady answered
  obtain ⟨planned, -⟩ := Edit.result_eq_ok_iff.1 acts.result
  obtain ⟨_, plan, ⟨⟩⟩ := Act.ok_of_map_eq_ok planned
  obtain ⟨checked, taken⟩ := Settings.addition_eq_ok_iff.1 plan
  obtain ⟨checked', id⟩ := Connection.checkedBy_submitted unnamed once checked organized
  have target := Settings.target?_submitted_isSome_iff plan id
  refine ⟨Connection.id_eq_of_checkedBy unnamed once checked, id, ?_, ?_, ?_⟩
  · rw [acts.document, Edit.documentAfter_of_new rfl]
  · intro key other
    rw [acts.secrets, Edit.secretsAfter_of_new rfl, SecretTable.get?_storing, if_neg other]
  · split
    · rename_i found
      exact like_update_of_found free steady (target.2 found)
    · rename_i missing
      rw [← target, Option.not_isSome_iff_eq_none] at missing
      exact like_add_of_missing free steady missing plan
        (Settings.addition_eq_ok_iff.2 ⟨checked', taken⟩)

/-- A server of one's own has the id that a cloud connection gets by default: it is changed. -/
theorem perform_submit_unnamed_other_kind :
    let entry : Connection :=
      ⟨some "org", some "https://sq.example", none, some false, false, none⟩
    let b : Bench MemorySettings := .fresh (.of ⟨⟨[], [], [entry]⟩, [], []⟩)
      [("https://sq.example", "t")] (.calm fun _ => false) .nobody
    let c : Connection :=
      ⟨none, some "https://app.codescan.io/", some "org", none, false, none⟩
    let kept : Connection :=
      ⟨some "org", some "https://app.codescan.io", some "org", some true, false, none⟩
    b.conditions.Unfailing ∧ b.conditions.Steady ∧ nonEmpty? c.id = none ∧
      (∀ url ∈ c.givenUrl?, Address.clean url = url) ∧
        (nonEmpty? c.organization = none ∨ kept.isCloud) ∧
          ∃ b', ((inMemory "codescan.io").perform (.add c)).outcome b =
            (.ok (.kept kept), b') ∧
            b'.document.servers = [entry, kept] ∧
              (Edit.submit c).Like "codescan.io" b (.update c.submitted) := by
  intro entry b c kept
  have free : b.conditions.Unfailing := Conditions.unfailing_calm _
  have steady : b.conditions.Steady := Conditions.steady_calm _
  have once : ∀ url ∈ c.givenUrl?, Address.clean url = url := by decide +kernel
  have answered : ((inMemory "codescan.io").perform (.add c)).outcome b =
      (.ok (.kept kept), (((inMemory "codescan.io").perform (.add c)).outcome b).2) := rfl
  obtain ⟨-, -, -, -, like⟩ := perform_submit_unnamed free steady rfl once (.inr rfl) answered
  rw [if_pos (by decide)] at like
  exact ⟨free, steady, rfl, once, .inr rfl, _, answered, rfl, like⟩

/-- A connection that was there is rewritten.  A server of one's own gets the id of an
organization that it does not belong to.  An address is cleaned once more. -/
theorem submit_ne_add_unnamed :
    let entry : Connection :=
      ⟨some "org", some "https://sq.example", none, some false, false, none⟩
    let b : Bench MemorySettings :=
      .fresh (.of ⟨⟨[], [], [entry]⟩, [], []⟩) [] (.calm fun _ => false) .nobody
    let unclassified : Connection :=
      ⟨none, some "https://app.codescan.io", some "org", none, false, none⟩
    let organized : Connection :=
      ⟨none, some "https://b.example", some "team", some false, false, none⟩
    let spaced : Connection :=
      ⟨none, some "https://c.example/ /", none, some false, false, none⟩
    let kept : Connection :=
      ⟨some "org", some "https://app.codescan.io", some "org", some true, false, none⟩
    let added c := ((inMemory "codescan.io").add c).outcome b
    let submitted c := ((inMemory "codescan.io").submit c).outcome b
    ((added unclassified).1.toOption = some kept ∧
      (added unclassified).2.document.servers = [entry, kept] ∧
      (submitted unclassified).2.document.servers = [kept]) ∧
    ((added organized).1.toOption.bind Connection.id = some "https://b.example" ∧
      (submitted organized).1.toOption.bind Connection.id = some "team") ∧
    ((added spaced).1.toOption.bind Connection.serverUrl = some "https://c.example/ " ∧
      (submitted spaced).1.toOption.bind Connection.serverUrl = some "https://c.example") := by
  decide +kernel

end Registry

end ServerConnections
