import ServerConnections.Proofs.Address
import ServerConnections.Proofs.Migration.FormerCloud
import ServerConnections.Proofs.Registry.Submission

/-!
# Ids that are addresses

A server of one's own that is saved without an id is to be known by its address.  Its default
id is the clean form of the address that it is kept with, which was cleaned before.  So the two
are the same exactly if the second cleaning changes nothing: a blank that was hidden in the
address as it was given is at the end of the address that is kept, and it is not in the id.  A
migration that completes a connection does likewise.

A submission cleans the address once more, before it finds the default id, and so the address
that is kept has been cleaned as often as the id.  They are the same whatever was hidden,
unless the default id is an organization that the connection does not keep.

* `Connection.defaultId_eq_iff` — when the default id is the address
* `Connection.id_eq_serverUrl_iff_of_checkedBy`,
  `Connection.id_eq_serverUrl_iff_of_completedBy` — connections that are added, and connections
  that are completed
* `Registry.id_eq_serverUrl_iff` — clean addresses, and all that are known by them
-/

namespace ServerConnections

open Bench

namespace Connection

variable {c kept : Connection} {url : String} {isCloud : String → Bool}

/-! ## The default id -/

/-- **The default id is the address exactly if this is in normal form**, for a connection
without an organization. -/
theorem defaultId_eq_iff (unorganized : nonEmpty? c.organization = none)
    (addressed : c.serverUrl = some url) :
    c.defaultId = url ↔ url ≠ "" ∧ Address.IsNormal url := by
  rw [defaultId_eq, unorganized, Option.none_or, addressed, Option.map_some,
    ← Address.clean_eq_self_iff]
  by_cases nothing : Address.clean url = ""
  · -- The default id is the fixed one then, and that one is no address of this kind.
    have fixed : nonEmpty? (some (Address.clean url)) = none := by rw [nothing]; rfl
    rw [fixed, Option.getD_none, nothing]
    refine iff_of_false ?_ fun ⟨filled, same⟩ => filled same.symm
    rintro rfl
    exact absurd nothing (by decide)
  · rw [nonEmpty?_eq_some_iff.2 ⟨rfl, nothing⟩, Option.getD_some]
    refine ⟨fun same => ⟨same ▸ nothing, same⟩, And.right⟩

/-- A connection that has got its default id is known by its address. -/
theorem id_eq_serverUrl_iff_of_identified (unnamed : nonEmpty? c.id = none)
    (unorganized : nonEmpty? c.organization = none) (addressed : c.serverUrl = some url) :
    c.identified.id = c.identified.serverUrl ↔ url ≠ "" ∧ Address.IsNormal url := by
  have id : c.identified.id = some c.defaultId := by simp [identified, unnamed, withId]
  rw [id, serverUrl_identified, addressed, Option.some_inj,
    defaultId_eq_iff unorganized addressed]

/-! ## Connections that are added -/

/-- What is kept gets its default id if it has none. -/
theorem kept_eq_identified (c : Connection) (serverUrl : String) (organization : Option String)
    (isCloud : Bool) : c.kept serverUrl organization isCloud =
      identified ⟨nonEmpty? c.id, some serverUrl, organization, some isCloud, c.muted,
        none⟩ := by
  show _ = if (nonEmpty? (nonEmpty? c.id)).isNone then _ else _
  rw [nonEmpty?_nonEmpty?]
  rfl

/-- **A connection that is added** is known by its address exactly if no blank was hidden in
it.  Its address has been cleaned once, and its id twice. -/
theorem id_eq_serverUrl_iff_of_checkedBy (unnamed : nonEmpty? c.id = none)
    (addressed : c.serverUrl = some url) (checked : c.checkedBy isCloud = .ok kept)
    (selfHosted : kept.isCloud = false) :
    kept.serverUrl = some (Address.clean url) ∧
      kept.id = some ((nonEmpty? (some (Address.clean (Address.clean url)))).getD
        defaultConnectionId) ∧
      (kept.id = kept.serverUrl ↔ ¬ Address.HidesBlank url) := by
  obtain ⟨_, cloud, present, -, -, rfl⟩ := checkedBy_eq_ok checked
  obtain ⟨filled, _, -, same, rfl⟩ := givenUrl?_eq_some_iff.1 present
  obtain rfl : url = _ := Option.some_inj.1 (addressed.symm.trans same)
  rw [kept_eq_identified, isCloud_identified] at selfHosted
  obtain rfl : cloud = false := selfHosted
  have unorganized : nonEmpty? (none : Option String) = none := rfl
  have id := id_kept_of_unnamed unnamed (Address.clean url) none false
  rw [unorganized, Option.none_or] at id
  rw [if_neg Bool.false_ne_true]
  refine ⟨by rw [kept_eq], id, ?_⟩
  rw [kept_eq_identified,
    id_eq_serverUrl_iff_of_identified (by rw [nonEmpty?_nonEmpty?, unnamed]) rfl rfl,
    ← Address.isNormal_clean_iff]
  exact and_iff_right filled

/-! ## Connections that are completed -/

theorem id_eq_serverUrl_iff_of_settled (unnamed : nonEmpty? c.id = none)
    (addressed : c.serverUrl = some url) (selfHosted : c.settled.isCloud = false) :
    c.settled.id = c.settled.serverUrl ↔ url ≠ "" ∧ Address.IsNormal url := by
  rcases @settled_cases c with ⟨⟨cloud, -⟩, same⟩ | ⟨-, flag, -, own⟩
  · rw [same, isCloud_identified, cloud] at selfHosted
    cases selfHosted
  · rw [own]
    exact id_eq_serverUrl_iff_of_identified unnamed rfl addressed

@[simp] theorem id_classifiedBy : (c.classifiedBy isCloud).id = c.id := by
  unfold classifiedBy
  split <;> rfl

@[simp] theorem serverUrl_classifiedBy : (c.classifiedBy isCloud).serverUrl = c.serverUrl := by
  unfold classifiedBy
  split <;> rfl

/-- **Completing a connection** settles one with the same id, at a clean address.  That is its
own one or the default one, and in the default one no blank is hidden. -/
theorem exists_settled_eq_completedBy (isCloud : String → Bool) (inCloudList : Bool)
    (addressed : c.serverUrl = some url) :
    ∃ (entry : Connection) (own : String), c.completedBy isCloud inCloudList = entry.settled ∧
      entry.id = c.id ∧ entry.serverUrl = some (Address.clean own) ∧
      (Address.HidesBlank own ↔ Address.HidesBlank url) := by
  cases inCloudList with
  | false => exact ⟨_, url, rfl, id_classifiedBy, by simp [withCleanUrl, addressed], Iff.rfl⟩
  | true =>
      by_cases empty : url = ""
      · subst empty
        refine ⟨_, defaultCloudUrl, rfl, id_classifiedBy, ?_, not_iff_not.1 ?_⟩
        · rw [serverUrl_classifiedBy, withCleanUrl, if_pos rfl, ofFormerCloud, addressed]
          rfl
        · rw [← Address.clean_clean_eq_iff, ← Address.clean_clean_eq_iff]
          decide
      · refine ⟨_, url, rfl, id_classifiedBy, ?_, Iff.rfl⟩
        simp [withCleanUrl, ofFormerCloud, addressed, nonEmpty?_eq_some_iff.2 ⟨rfl, empty⟩]

/-- **A connection that is completed** is known by its address exactly if it has one and no
blank was hidden in that. -/
theorem id_eq_serverUrl_iff_of_completedBy (unnamed : nonEmpty? c.id = none)
    (addressed : c.serverUrl = some url) {inCloudList : Bool}
    (completed : c.completedBy isCloud inCloudList = kept)
    (selfHosted : kept.isCloud = false) :
    kept.id = kept.serverUrl ↔
      (nonEmpty? kept.serverUrl).isSome ∧ ¬ Address.HidesBlank url := by
  obtain ⟨entry, own, settles, id, clean, hides⟩ :=
    exists_settled_eq_completedBy isCloud inCloudList addressed
  obtain rfl : entry.settled = kept := settles.symm.trans completed
  rw [id_eq_serverUrl_iff_of_settled (id ▸ unnamed) clean selfHosted,
    Address.isNormal_clean_iff, hides, serverUrl_settled, clean, nonEmpty?_isSome_iff]
  simp

/-! ## Connections that are submitted -/

theorem id_submitted_of_unnamed (unnamed : nonEmpty? c.id = none)
    (addressed : c.serverUrl = some url) :
    c.submitted.id = some (((nonEmpty? c.organization).or
      (nonEmpty? (some (Address.clean (Address.clean url))))).getD defaultConnectionId) := by
  rw [submitted_eq unnamed, defaultId_eq, addressed]
  rfl

/-- A submission has its address cleaned twice. -/
theorem givenUrl?_submitted_eq_some (addressed : c.serverUrl = some url)
    (filled : Address.clean (Address.clean url) ≠ "") :
    c.submitted.givenUrl? = some (Address.clean (Address.clean url)) := by
  refine givenUrl?_eq_some_iff.2 ⟨filled, Address.clean url, ?_, ?_, rfl⟩
  · intro empty
    rw [empty] at filled
    exact filled rfl
  · rw [serverUrl_submitted, addressed]
    rfl

end Connection

/-! ## The operations -/

namespace Registry

variable {cloudDomain : String} {b b' : Bench MemorySettings} {c kept : Connection}

/-- What is known of an addition that was answered. -/
theorem checkedBy_of_add (added : ((inMemory cloudDomain).add c).outcome b = (.ok kept, b')) :
    kept ∈ b'.document.servers ∧
      ∃ n, c.checkedBy (b.conditions.verdict cloudDomain n) = .ok kept := by
  cases (add_ends b c).of_outcome added with
  | @done n _ _ plan left =>
      refine ⟨?_, n, (Settings.addition_eq_ok_iff.1 plan).1⟩
      rw [document_of_unrecorded left]
      exact List.mem_append_right _ (.head _)

/-- What is known of a submission that was answered: there is a connection under the id that
was submitted, and it is at the address that was submitted, if there was one. -/
theorem mem_of_submit
    (submitted : ((inMemory cloudDomain).submit c).outcome b = (.ok kept, b')) :
    kept ∈ b'.document.servers ∧ kept.id = c.submitted.id ∧
      ∃ url, kept.serverUrl = c.submitted.givenUrl?.or url := by
  obtain ⟨id, named, text⟩ := c.id_submitted
  have present : c.submitted.id = some id := (nonEmpty?_eq_some_iff.1 named).1
  cases (submit_ends b c).of_outcome submitted with
  | added _ ends =>
      cases ends with
      | done plan left =>
          refine ⟨?_, (Settings.id_of_addition named plan).trans present.symm, none, ?_⟩
          · rw [document_of_unrecorded left]
            exact List.mem_append_right _ (.head _)
          · rw [(Settings.admits_of_addition plan).serverUrl, Option.or_none]
  | updated _ ends =>
      cases ends with
      | @done _ ch _ plan _ left =>
          have allows := Settings.allows_of_change plan
          refine ⟨?_, ?_, ch.existing.serverUrl, allows.serverUrl⟩
          · rw [document_of_unrecorded left]
            exact allows.changed_mem
          · rw [allows.id, Connection.id_of_mayMean allows.meant, text, present]

/-- A connection that is submitted without an id is known by the address that it is kept with,
unless it was submitted with an organization. -/
theorem id_eq_serverUrl_iff_of_submit {url : String} (unnamed : nonEmpty? c.id = none)
    (addressed : c.serverUrl = some url) (filled : Address.clean (Address.clean url) ≠ "")
    (submitted : ((inMemory cloudDomain).submit c).outcome b = (.ok kept, b')) :
    kept.serverUrl = some (Address.clean (Address.clean url)) ∧
      (kept.id = kept.serverUrl ↔
        nonEmpty? c.organization = none ∨ c.organization = kept.serverUrl) := by
  obtain ⟨-, id, old, kept'⟩ := mem_of_submit submitted
  rw [Connection.givenUrl?_submitted_eq_some addressed filled, Option.some_or] at kept'
  refine ⟨kept', ?_⟩
  rw [id, Connection.id_submitted_of_unnamed unnamed addressed, kept',
    nonEmpty?_eq_some_iff.2 ⟨rfl, filled⟩]
  cases organized : nonEmpty? c.organization with
  | none => simp
  | some organization => simp [(nonEmpty?_eq_some_iff.1 organized).1]

/-- **Clean addresses, and the connections that are known by them.**  A clean address
does not begin with a blank and does not end in a slash.  It is in normal form, and the
same when it is cleaned again, exactly if no blank was hidden in the address before; and
every address gets to its normal form if it is cleaned often enough.  So a server of
one's own that is added without an id, or that is completed by a migration, has the
address that it is kept with for its id exactly if no blank was hidden.  If it is
submitted, only an organization can stand in the way. -/
theorem id_eq_serverUrl_iff (cloudDomain url : String) :
    (∀ c ∈ (Address.clean url).toList.head?, Text.isBlank c = false) ∧
    (∀ c ∈ (Address.clean url).toList.getLast?, Address.isSlash c = false) ∧
    (Address.IsNormal (Address.clean url) ↔ ¬ Address.HidesBlank url) ∧
    (Address.clean (Address.clean url) = Address.clean url ↔ ¬ Address.HidesBlank url) ∧
    (∃ n, Address.IsNormal (Address.clean^[n] url)) ∧
    ∀ (b : Bench MemorySettings) (c kept : Connection),
      nonEmpty? c.id = none → c.serverUrl = some url → kept.isCloud = false →
      (∀ b', ((inMemory cloudDomain).add c).outcome b = (.ok kept, b') →
        kept ∈ b'.document.servers ∧ kept.serverUrl = some (Address.clean url) ∧
          kept.id = some ((nonEmpty? (some (Address.clean (Address.clean url)))).getD
            defaultConnectionId) ∧
          (kept.id = kept.serverUrl ↔ ¬ Address.HidesBlank url)) ∧
      (∀ b', ((inMemory cloudDomain).submit c).outcome b = (.ok kept, b') →
        Address.clean (Address.clean url) ≠ "" →
        kept ∈ b'.document.servers ∧
          kept.serverUrl = some (Address.clean (Address.clean url)) ∧
          (kept.id = kept.serverUrl ↔
            nonEmpty? c.organization = none ∨ c.organization = kept.serverUrl)) ∧
      ∀ inCloudList, ((inMemory cloudDomain).completed inCloudList c b).1 = kept →
        (kept.id = kept.serverUrl ↔
          (nonEmpty? kept.serverUrl).isSome ∧ ¬ Address.HidesBlank url) := by
  refine ⟨fun _ => Address.isBlank_of_head?_clean, fun _ => Address.isSlash_of_getLast?_clean,
    Address.isNormal_clean_iff, Address.clean_clean_eq_iff,
    Address.exists_isNormal_iterate url,
    fun b c kept unnamed addressed selfHosted => ⟨?_, ?_, ?_⟩⟩
  · intro b' added
    obtain ⟨there, n, checked⟩ := checkedBy_of_add added
    exact ⟨there,
      Connection.id_eq_serverUrl_iff_of_checkedBy unnamed addressed checked selfHosted⟩
  · intro b' submitted filled
    exact ⟨(mem_of_submit submitted).1,
      id_eq_serverUrl_iff_of_submit unnamed addressed filled submitted⟩
  · intro inCloudList completed
    have shape := (@completed_eq cloudDomain b inCloudList c).1.symm.trans completed
    exact Connection.id_eq_serverUrl_iff_of_completedBy unnamed addressed shape selfHosted

/-- A blank that is hidden behind slashes, in an address that is added, completed, and
submitted where a connection has the id already. -/
theorem id_eq_serverUrl_iff_hidden :
    let url := "https://sq.example/ //"
    let c : Connection := ⟨none, some url, none, some false, false, none⟩
    let spaced : Connection :=
      ⟨some "https://sq.example", some "https://sq.example/ ", none, some false, false, none⟩
    let plain : Connection := { spaced with serverUrl := some "https://sq.example" }
    let empty : Bench MemorySettings :=
      .fresh (.of ⟨⟨[], [], []⟩, [], []⟩) [] (.calm fun _ => false) .nobody
    let taken : Bench MemorySettings :=
      .fresh (.of ⟨⟨[], [], [spaced]⟩, [], []⟩) [] (.calm fun _ => false) .nobody
    nonEmpty? c.id = none ∧ c.serverUrl = some url ∧ spaced.isCloud = false ∧
      plain.isCloud = false ∧ Address.clean (Address.clean url) ≠ "" ∧
      (∃ b', ((inMemory "codescan.io").add c).outcome empty = (.ok spaced, b') ∧
        spaced ∈ b'.document.servers ∧ spaced.serverUrl = some (Address.clean url) ∧
        spaced.id = some ((nonEmpty? (some (Address.clean (Address.clean url)))).getD
          defaultConnectionId) ∧
        (spaced.id = spaced.serverUrl ↔ ¬ Address.HidesBlank url)) ∧
      (∃ b', ((inMemory "codescan.io").submit c).outcome taken = (.ok plain, b') ∧
        plain ∈ b'.document.servers ∧
        plain.serverUrl = some (Address.clean (Address.clean url)) ∧
        (plain.id = plain.serverUrl ↔
          nonEmpty? c.organization = none ∨ c.organization = plain.serverUrl)) ∧
      ((inMemory "codescan.io").completed false c empty).1 = spaced ∧
      (spaced.id = spaced.serverUrl ↔
        (nonEmpty? spaced.serverUrl).isSome ∧ ¬ Address.HidesBlank url) := by
  intro url c spaced plain empty taken
  have filled : Address.clean (Address.clean url) ≠ "" := by decide +kernel
  have addition : (((inMemory "codescan.io").add c).outcome empty).1 = .ok spaced := by
    decide +kernel
  have added : ((inMemory "codescan.io").add c).outcome empty =
      (.ok spaced, (((inMemory "codescan.io").add c).outcome empty).2) := by rw [← addition]
  have submission : (((inMemory "codescan.io").submit c).outcome taken).1 = .ok plain := by
    decide +kernel
  have submitted : ((inMemory "codescan.io").submit c).outcome taken =
      (.ok plain, (((inMemory "codescan.io").submit c).outcome taken).2) := by
        rw [← submission]
  have completed : ((inMemory "codescan.io").completed false c empty).1 = spaced := by
    decide +kernel
  obtain ⟨-, -, -, -, -, known⟩ := id_eq_serverUrl_iff "codescan.io" url
  obtain ⟨first, -, third⟩ := known empty c spaced rfl rfl rfl
  obtain ⟨-, second, -⟩ := known taken c plain rfl rfl rfl
  exact ⟨rfl, rfl, rfl, rfl, filled, ⟨_, added, first _ added⟩,
    ⟨_, submitted, second _ submitted filled⟩, completed, third false completed⟩

/-- A blank before a slash at the end stays in the address that is kept, at its end.  It is not
in the id. -/
theorem id_ne_serverUrl_of_add :
    let url := "https://sq.example /"
    let c : Connection := ⟨none, some url, none, some false, false, none⟩
    let kept : Connection :=
      ⟨some "https://sq.example", some "https://sq.example ", none, some false, false, none⟩
    let b : Bench MemorySettings :=
      .fresh (.of ⟨⟨[], [], []⟩, [], []⟩) [] (.calm fun _ => false) .nobody
    let after := ((inMemory "codescan.io").add c).outcome b
    (∃ c ∈ (Address.clean url).toList.getLast?, Text.isBlank c) ∧
      Address.clean (Address.clean url) ≠ Address.clean url ∧
      after.1 = .ok kept ∧ after.2.document.servers = [kept] ∧ kept.id ≠ kept.serverUrl := by
  intro url c kept b after
  exact ⟨⟨' ', by decide +kernel, rfl⟩, by decide +kernel, by decide +kernel,
    by decide +kernel,
    by decide⟩

end Registry

end ServerConnections
