import ServerConnections.Proofs.Keyed
import ServerConnections.Proofs.Registry.Failure
import ServerConnections.Proofs.Registry.Submission
import ServerConnections.Proofs.Registry.WellFormed

/-!
# Edits that are asked for twice

A change that was made, or a connection that was submitted, may be asked for once more.  The
entry that is meant then is the one that was kept, and nothing is left to be changed in it: the
address and the organization are those that were given, or those that were there already.

The second edit does not see what the first one has seen.  It may find a connection that the
first one has added, or one that has gone to the other kind, and the key is the one that the
connection has already.  The kind is the point to look at.  Where the caller does not say which
one it is, it is found out again if the location is still another one.  This happens where an
organization was given for a server of one's own, since it is not kept.  But then the first
edit has asked the classifier as well: an entry that had this organization already would have
been in the cloud service, if it was well-formed.

* `Connection.Settled` — a connection that makes no difference to another one
* `Settings.changedBy_of_settled` — a settled connection stays as it is
* `Edit.Acts.again` — an edit acts once more, and nothing changes
* `Registry.perform_again` — the same edit twice
-/

namespace ServerConnections

open Bench

/-! ## Lists -/

namespace Connection

variable {means : Connection → Bool} {c : Connection}

/-- The entry that was put into the place of the one that is meant is meant itself. -/
theorem find?_revised_self (meant : means c) (cs : List Connection) :
    (revised means (some c) cs).find? means = some c := by
  induction cs with
  | nil => simp [revised, meant]
  | cons d cs ih =>
      cases other : means d with
      | true => simp [revised, other, meant]
      | false => simpa [revised, other] using ih

theorem revised_revised (meant : means c) (cs : List Connection) :
    revised means (some c) (revised means (some c) cs) = revised means (some c) cs := by
  induction cs with
  | nil => simp [revised, meant]
  | cons d cs ih =>
      cases other : means d with
      | true => simp [revised, other, meant]
      | false => simpa [revised, other] using ih

end Connection

/-! ## Connections that stay as they are -/

/-- **A connection makes no difference to another one**, which has the address given: what it
says is so already, and what it does not say is found out to be so. -/
structure Connection.Settled (isCloud : String → Bool) (c kept : Connection) (url : String) :
    Prop where
  serverUrl : kept.serverUrl = some url
  given : c.givenUrl?.or (some url) = some url
  organization : kept.organization =
    if kept.isCloud then Registry.changedOrganization c kept else none
  organization_isSome : kept.isCloud → kept.organization.isSome
  classified : kept.cloudFlag = some kept.isCloud
  asked : ∀ flag, c.cloudFlag = some flag → flag = kept.isCloud
  /-- An organization that is not kept is a reason to ask the classifier again. -/
  moved : c.cloudFlag = none → kept.isCloud = false → (nonEmpty? c.organization).isSome →
    isCloud url = false
  muted : kept.muted = c.muted
  token : kept.token = none

namespace Connection.Settled

variable {isCloud : String → Bool} {c kept : Connection} {url : String}

theorem changedOrganization_eq (settled : c.Settled isCloud kept url) (cloud : kept.isCloud) :
    Registry.changedOrganization c kept = kept.organization := by
  have organization := settled.organization
  rw [if_pos cloud] at organization
  exact organization.symm

theorem organization_eq_none (settled : c.Settled isCloud kept url)
    (own : kept.isCloud = false) :
    kept.organization = none := by
  have organization := settled.organization
  rwa [own, if_neg Bool.false_ne_true] at organization

/-- **A settled connection looks moved only through an organization that was not kept.** -/
theorem flagAfter_eq_ite (settled : c.Settled isCloud kept url) :
    c.flagAfter kept url (Registry.changedOrganization c kept) =
      if c.cloudFlag = none ∧ kept.isCloud = false ∧
          (nonEmpty? c.organization).isSome then none
      else some kept.isCloud := by
  rw [flagAfter, settled.serverUrl, bne_self_eq_false, Bool.false_or]
  cases asked : c.cloudFlag with
  | some flag => simp [settled.asked flag asked]
  | none =>
      rw [Option.none_or, settled.classified]
      cases cloud : kept.isCloud with
      | true => simp [settled.changedOrganization_eq cloud, Option.filter]
      | false =>
          rw [Registry.changedOrganization, settled.organization_eq_none cloud, Option.or_none]
          cases given : nonEmpty? c.organization <;> simp [Option.filter]

/-- What is found out of a settled connection is so already. -/
theorem flagAfter_eq (settled : c.Settled isCloud kept url) :
    (c.flagAfter kept url (Registry.changedOrganization c kept)).getD (isCloud url) =
      kept.isCloud := by
  rw [settled.flagAfter_eq_ite]
  split
  · rename_i looks
    obtain ⟨unasked, own, organized⟩ := looks
    rw [Option.getD_none, settled.moved unasked own organized, own]
  · exact Option.getD_some

end Connection.Settled

namespace Settings

variable {isCloud : String → Bool} {s : Settings} {c existing kept : Connection} {url : String}

/-- **A settled connection stays as it is.** -/
theorem changedBy_of_settled (settled : c.Settled isCloud kept url) :
    s.changedBy isCloud c kept = .ok kept := by
  have organized : (kept.isCloud && (Registry.changedOrganization c kept).isNone) = false := by
    cases cloud : kept.isCloud with
    | false => rfl
    | true =>
        have present := settled.organization_isSome cloud
        simpa [settled.changedOrganization_eq cloud] using present
  have stays : (ServerKind.ofFlag kept.isCloud != kept.kind) = false := bne_self_eq_false _
  have unchanged :
      kept.changed url (Registry.changedOrganization c kept) kept.isCloud c.muted =
      kept := by
    rw [Connection.changed, ← settled.organization, ← settled.serverUrl, ← settled.classified,
      ← settled.muted, ← settled.token]
  rw [changedBy, settled.serverUrl, settled.given]
  dsimp only
  rw [settled.flagAfter_eq, organized, stays, Bool.false_and, unchanged]
  rfl

/-- The classifier was asked about a server of one's own that came with an organization. -/
theorem verdict_of_changedBy
    (unorganized : existing.isCloud = false → existing.organization = none)
    (unasked : c.cloudFlag = none) (given : (nonEmpty? c.organization).isSome)
    (own : (c.flagAfter existing url (Registry.changedOrganization c existing)).getD
      (isCloud url) = false) : isCloud url = false := by
  obtain ⟨organization, present⟩ := Option.isSome_iff_exists.1 given
  have after : Registry.changedOrganization c existing = some organization := by
    rw [Registry.changedOrganization, present, Option.some_or]
  rw [Connection.flagAfter, unasked, Option.none_or, after] at own
  cases classified : existing.cloudFlag with
  | none => simpa [classified] using own
  | some flag =>
      rw [classified] at own
      by_cases moved : existing.serverUrl != some url ||
          some organization != existing.organization
      · simpa [moved, Option.filter] using own
      · -- The entry has this organization already, and so it is in the cloud service.
        obtain rfl : flag = false := by simpa [moved, Option.filter] using own
        have organized : some organization = existing.organization := by
          simp only [Bool.or_eq_true, bne_iff_ne, not_or, not_not] at moved
          exact moved.2
        have none := unorganized (by rw [Connection.isCloud, classified]; rfl)
        rw [none] at organized
        cases organized

/-- **A connection that was changed is settled**, if it had no organization where it was
self-hosted. -/
theorem settled_of_changedBy
    (unorganized : existing.isCloud = false → existing.organization = none)
    (changes : s.changedBy isCloud c existing = .ok kept) :
    ∃ url, c.Settled isCloud kept url := by
  obtain ⟨url, cloud, given, rule, organized, -, rfl⟩ := changedBy_eq_ok changes
  exact ⟨url,
    { serverUrl := rfl
      given := by
        cases present : c.givenUrl? with
        | none => rfl
        | some own => rwa [present, Option.some_or] at given
      organization := by
        show (if cloud then _ else none) = if cloud then _ else none
        cases cloud with
        | false => rfl
        | true =>
            show (nonEmpty? c.organization).or existing.organization =
              (nonEmpty? c.organization).or
                ((nonEmpty? c.organization).or existing.organization)
            rw [← Option.or_assoc, Option.or_self]
      organization_isSome := fun there => by
        change cloud = true at there
        subst there
        exact organized rfl
      classified := rfl
      asked := fun flag asked => by
        show flag = cloud
        rw [rule, Connection.flagAfter, asked, Option.some_or, Option.getD_some]
      moved := fun unasked own given =>
        verdict_of_changedBy unorganized unasked given (rule.symm.trans own)
      muted := rfl
      token := rfl }⟩

theorem changedBy_of_change {ch : Change} (plan : s.change isCloud c = .ok ch) :
    s.changedBy isCloud c ch.existing = .ok ch.changed := by
  rw [change, (allows_of_change plan).target?] at plan
  obtain ⟨changed, become, same⟩ := Act.ok_of_map_eq_ok plan
  rwa [← congrArg Change.changed same]

/-- **A connection that was added is settled.** -/
theorem settled_of_checkedBy (checked : c.checkedBy isCloud = .ok kept) :
    ∃ url, c.Settled isCloud kept url := by
  obtain ⟨url, cloud, given, rule, organized, rfl⟩ := Connection.checkedBy_eq_ok checked
  refine ⟨url, ?_⟩
  rw [Connection.kept_eq]
  exact
    { serverUrl := rfl
      given := by rw [given, Option.some_or]
      organization := by
        show (if cloud then nonEmpty? c.organization else none) = if cloud then _ else none
        cases cloud with
        | false => rfl
        | true => exact Option.or_self.symm
      organization_isSome := fun there => by
        change cloud = true at there
        subst there
        exact organized rfl
      classified := rfl
      asked := fun flag asked => by
        show flag = cloud
        rw [rule, asked, Option.getD_some]
      moved := fun unasked own _ => by
        change cloud = false at own
        rwa [unasked, Option.getD_none, own, eq_comm] at rule
      muted := rfl
      token := rfl }

end Settings

/-! ## Tokens that are stored twice -/

/-- **A token that was stored is there already**, if its key is in use. -/
theorem Settings.storing_dropped {s : Settings} {key : String} (used : s.usesKey key)
    {token token' : Option String} (same : nonEmpty? token = none ∨ token' = token)
    (old : Option String) (t : SecretTable) :
    (s.dropped old (t.storing (some key) token')).storing (some key) token =
      s.dropped old (t.storing (some key) token') := by
  rcases same with nothing | rfl
  · simp [SecretTable.storing, nothing]
  cases given : nonEmpty? token' with
  | none => simp [SecretTable.storing, given]
  | some text =>
      simp only [SecretTable.storing, given]
      cases old with
      | none => exact Keyed.put_put t
      | some old =>
          rw [dropped]
          split
          · exact Keyed.put_put t
          · rename_i unused
            have apart : key ≠ old := fun same => unused (same ▸ used)
            exact Keyed.put_remove_put apart t

/-! ## The same edit twice -/

namespace Edit

variable {e : Edit} {s s' : Settings} {t t' : SecretTable} {isCloud : String → Bool}
  {answer : Answer} {c kept : Connection}

section Changing

variable (asked : (Operation.edit e).changing? = some c)

include asked

theorem means_of_changing : e.means = c.mayMean := by
  cases e with
  | update d | submit d =>
      obtain rfl := Option.some.inj asked
      rfl
  | add d => cases asked
  | remove id kind => cases asked

theorem existing?_of_changing (s : Settings) : e.existing? s = s.servers.find? c.mayMean := by
  cases e with
  | update d | submit d =>
      obtain rfl := Option.some.inj asked
      exact s.map_snd_target? _
  | add d => cases asked
  | remove id kind => cases asked

/-- An entry that is meant is changed. -/
theorem planned_of_found {existing : Connection}
    (found : s.servers.find? c.mayMean = some existing) :
    e.planned s isCloud = (s.change isCloud c).map fun ch => .kept ch.changed := by
  cases e with
  | update d =>
      obtain rfl := Option.some.inj asked
      rfl
  | submit d =>
      obtain rfl := Option.some.inj asked
      exact if_pos (by rw [s.isSome_target?_eq, found]; rfl)
  | add d => cases asked
  | remove id kind => cases asked

/-- Where none is meant, a connection is added that has an id by now. -/
theorem addition_of_planned (missing : s.servers.find? c.mayMean = none)
    (planned : e.planned s isCloud = .ok answer) :
    ∃ kept, s.addition isCloud c = .ok kept ∧ answer = .kept kept ∧
      kept.id = some c.idText := by
  cases e with
  | update d =>
      obtain rfl := Option.some.inj asked
      have change := s.map_change_eq isCloud d
      rw [missing] at change
      cases change.symm.trans planned
  | submit d =>
      obtain rfl := Option.some.inj asked
      have target : ¬ (s.target? d.submitted).isSome := by
        rw [s.isSome_target?_eq, missing]; nofun
      rw [Edit.planned, if_neg target] at planned
      obtain ⟨kept, plan, rfl⟩ := Act.ok_of_map_eq_ok planned
      obtain ⟨id, named, rfl⟩ := d.id_submitted
      exact ⟨kept, plan, rfl, Settings.id_of_addition named plan⟩
  | add d => cases asked
  | remove id kind => cases asked

/-- **What is kept is settled**, and it is an entry that is meant. -/
theorem kept_of_planned (wf : s.WellFormed) (planned : e.planned s isCloud = .ok answer) :
    ∃ kept, answer = .kept kept ∧ kept.WellFormed ∧ c.mayMean kept ∧
      ∃ url, c.Settled isCloud kept url := by
  cases found : s.servers.find? c.mayMean with
  | none =>
      obtain ⟨kept, plan, rfl, id⟩ := addition_of_planned asked found planned
      obtain ⟨checked, -⟩ := Settings.addition_eq_ok_iff.1 plan
      have meant : c.mayMean kept := Connection.mayMean_iff.2
        ⟨fun kind given => Connection.kind_eq_of_asked checked given, id⟩
      exact ⟨kept, rfl, (Settings.admits_of_addition plan).wellFormed, meant,
        Settings.settled_of_checkedBy checked⟩
  | some existing =>
      rw [planned_of_found asked found] at planned
      obtain ⟨ch, plan, rfl⟩ := Act.ok_of_map_eq_ok planned
      have allows := Settings.allows_of_change plan
      have before : ch.existing.WellFormed := wf.entries _ (List.mem_of_getElem? allows.entry)
      have id : ch.changed.id = some c.idText :=
        allows.id.trans (Connection.id_of_mayMean allows.meant)
      have meant : c.mayMean ch.changed := Connection.mayMean_iff.2
        ⟨fun kind given => allows.kind_eq_of_asked given, id⟩
      exact ⟨ch.changed, rfl, allows.wellFormed before, meant,
        Settings.settled_of_changedBy before.unorganized (Settings.changedBy_of_change plan)⟩

/-- **An edit acts once more**, and nothing changes. -/
theorem Acts.again (wf : s.WellFormed) (acts : e.Acts s t isCloud answer s' t') :
    e.Acts s' t' isCloud answer s' t' := by
  obtain ⟨planned, -⟩ := result_eq_ok_iff.1 acts.result
  obtain ⟨kept, rfl, wf', meant, url, settled⟩ := kept_of_planned asked wf planned
  obtain ⟨key, keyed⟩ := Option.isSome_iff_exists.1 wf'.storageKey_isSome
  have means : e.means kept := by rwa [means_of_changing asked]
  have servers : s'.servers = Connection.revised e.means (some kept) s.servers := by
    rw [acts.document]
    rfl
  have found : s'.servers.find? e.means = some kept := by
    rw [servers]
    exact Connection.find?_revised_self means s.servers
  have document : s' = e.documentAfter s' (.kept kept) := by
    rw [documentAfter, Answer.kept?, servers, Connection.revised_revised means, acts.document]
    rfl
  have old : e.oldKey s' = some key := by
    rw [oldKey, e.concerned?_eq, found]
    exact keyed
  have used : s'.usesKey key := Settings.usesKey_of_mem (List.mem_of_find?_eq_some found) keyed
  -- The key is the one that the connection has already, so no secret moves along.
  have stored : e.storedToken s' t' (.kept kept) = e.givenToken := by
    have existing : e.existing? s' = some kept := by
      rw [existing?_of_changing asked, ← means_of_changing asked, found]
    simp [storedToken, Answer.kept?, movedToken, existing]
  refine ⟨result_eq_ok_iff.2 ⟨?_, fun _ => wf'.storageKey_isSome⟩, document, ?_⟩
  · rw [means_of_changing asked] at found
    rw [planned_of_found asked found, s'.map_change_eq, found]
    dsimp only
    rw [Settings.changedBy_of_settled settled]
    rfl
  · have same : nonEmpty? e.givenToken = none ∨
        e.storedToken s t (.kept kept) = e.givenToken := by
      cases given : e.givenToken with
      | none => exact .inl rfl
      | some token =>
          exact .inr (by rw [storedToken, Answer.kept?, Option.bind_some, given]; rfl)
    have first : t' = s'.dropped (e.oldKey s)
        (t.storing (some key) (e.storedToken s t (.kept kept))) := by
      rw [acts.secrets, secretsAfter, ← acts.document, Answer.key, Answer.kept?,
        Option.bind_some, keyed]
    have second : e.secretsAfter s' t' (.kept kept) = t'.storing (some key) e.givenToken := by
      rw [secretsAfter, ← document, old, stored, Answer.key, Answer.kept?, Option.bind_some,
        keyed, Settings.dropped, if_pos used]
    rw [second, first, Settings.storing_dropped used same]

end Changing

end Edit

namespace Registry

variable {cloudDomain : String} {b b' : Bench MemorySettings} {e : Edit} {answer : Answer}
  {c : Connection}

/-- **Twice is once**: a change or a submission that was answered has the same answer when it
is asked for again, and leaves the document and the secrets as they are. -/
theorem perform_again (free : b.conditions.Unfailing) (steady : b.conditions.Steady)
    (wf : b.document.WellFormed) (asked : e = .update c ∨ e = .submit c)
    (answered : ((inMemory cloudDomain).perform e).outcome b = (.ok answer, b')) :
    ∃ b'', ((inMemory cloudDomain).perform e).outcome b' = (.ok answer, b'') ∧
      b''.document = b'.document ∧ b''.secrets = b'.secrets := by
  obtain ⟨d, changing⟩ : ∃ d, (Operation.edit e).changing? = some d := by
    rcases asked with rfl | rfl
    · exact ⟨c, rfl⟩
    · exact ⟨c.submitted, rfl⟩
  obtain ⟨acts, conditions⟩ := perform_acts free steady answered
  have again := acts.again changing wf
  have free' : b'.conditions.Unfailing := conditions ▸ free
  have steady' : b'.conditions.Steady := conditions ▸ steady
  rw [← conditions] at again
  obtain ⟨b'', answered'⟩ := perform_of_result free' steady' again.result
  obtain ⟨acts', -⟩ := perform_acts free' steady' answered'
  exact ⟨b'', answered', acts'.document.trans again.document.symm,
    acts'.secrets.trans again.secrets.symm⟩

/-- A connection leaves the cloud service, and takes its token along.  It does not keep the
organization that was given, so that the classifier is asked both times. -/
theorem perform_again_moved :
    let entry : Connection :=
      ⟨some "a", some "https://app.codescan.io", some "org", some true, false, none⟩
    let b : Bench MemorySettings := .fresh (.of ⟨⟨[], [], [entry]⟩, [], []⟩) [("org", "t")]
      (.calm fun _ => false) .present
    let e : Edit :=
      .update ⟨some "a", some "https://sq.example/", some "team", none, false, none⟩
    let kept : Connection :=
      ⟨some "a", some "https://sq.example", none, some false, false, none⟩
    b.conditions.Unfailing ∧ b.conditions.Steady ∧ b.document.WellFormed ∧
      ∃ b', ((inMemory "codescan.io").perform e).outcome b = (.ok (.kept kept), b') ∧
        b'.secrets = [("https://sq.example", "t")] ∧
          ∃ b'', ((inMemory "codescan.io").perform e).outcome b' = (.ok (.kept kept), b'') ∧
            b''.document = b'.document ∧ b''.secrets = b'.secrets := by
  intro entry b e kept
  have free : b.conditions.Unfailing := Conditions.unfailing_calm _
  have steady : b.conditions.Steady := Conditions.steady_calm _
  have wf : b.document.WellFormed := by decide
  have answered : ((inMemory "codescan.io").perform e).outcome b =
      (.ok (.kept kept), (((inMemory "codescan.io").perform e).outcome b).2) := rfl
  exact ⟨free, steady, wf, _, answered, rfl, perform_again free steady wf (.inl rfl) answered⟩

end Registry

end ServerConnections
