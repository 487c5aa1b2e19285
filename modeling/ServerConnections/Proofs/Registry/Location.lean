import ServerConnections.Proofs.Migration.Organizations
import ServerConnections.Proofs.Registry.Probes
import ServerConnections.Proofs.Registry.Repetition

/-!
# Only a new location is a reason to ask

Where a connection is does not tell by itself whether it leads to the cloud service, and so its
server may be asked.  The answer is kept with the connection.  A change asks again only if the
address or the organization is another one than before; so a change that was made should have
nothing to ask when it is made once more.

There is one case in which it has.  The organization that a caller gives is compared with the
one that the connection has, and a server of one's own has none, for it was not kept.  So an
organization that is given for such a server makes its location look new, each time.  The
second change asks the server that the first one has asked, and goes by what it answers this
time.  If it is said to be up as a cloud node now, and the name of the connection is free
there, then the connection moves to the cloud service.

* `Connection.Reclassifies` — a connection makes a kept one look moved
* `Connection.Settled.asked_eq` — what is asked when a change is made once more
* `Change.Ends.of_unfailing` — a change on a host that refuses nothing
* `Registry.asked_again_iff_of_update` — when a change asks once more, and what comes of it
-/

namespace ServerConnections

open Bench

/-! ## Verdicts -/

namespace Conditions

variable {k : Conditions} {cloudDomain url : String} {n : Nat}

/-- What the probe answers is no refusal. -/
theorem unfailing_isUp (isUp : Nat → String → Bool) :
    ({ Conditions.calm fun _ => false with isUp } : Conditions).Unfailing :=
  ⟨fun _ => rfl, fun _ => rfl, fun _ _ => rfl, fun _ _ => rfl, fun _ _ => rfl⟩

theorem verdict_of_blank (blank : Address.clean url = "") :
    k.verdict cloudDomain n url = false := by
  simp [verdict, blank]

/-- An address that does not show whose it is counts as what its server says. -/
theorem verdict_eq_isUp (hidden : k.verdict cloudDomain n url = false)
    (addressed : Address.clean url ≠ "") (m : Nat) :
    k.verdict cloudDomain m url = k.isUp m (Address.clean url) := by
  unfold verdict at *
  by_cases shown : Classifier.hasCloudHost cloudDomain (Address.clean url)
  · simp [shown, addressed] at hidden
  · simp [shown, addressed]

/-- The server of such an address is asked. -/
theorem asked_of_verdict (hidden : k.verdict cloudDomain n url = false) :
    Classifier.asked cloudDomain url =
      if Address.clean url = "" then [] else [Address.clean url] := by
  unfold verdict at hidden
  unfold Classifier.asked
  by_cases blank : Address.clean url = ""
  · simp [blank]
  · by_cases shown : Classifier.hasCloudHost cloudDomain (Address.clean url)
    · simp [shown, blank] at hidden
    · simp [shown, blank]

end Conditions

/-! ## Connections that look moved -/

namespace Connection

variable {c kept : Connection} {isCloud : String → Bool} {url : String}

/-- **A connection makes a kept one look moved**: it comes with an organization and does not
say what kind of server it is, and the one that is kept is self-hosted, at some address. -/
structure Reclassifies (c kept : Connection) : Prop where
  unasked : c.cloudFlag = none
  own : kept.isCloud = false
  organized : (nonEmpty? c.organization).isSome
  addressed : (nonEmpty? (kept.serverUrl.map Address.clean)).isSome

instance (c kept : Connection) : Decidable (c.Reclassifies kept) :=
  decidable_of_iff (c.cloudFlag = none ∧ kept.isCloud = false ∧
      (nonEmpty? c.organization).isSome ∧
      (nonEmpty? (kept.serverUrl.map Address.clean)).isSome)
    ⟨fun h => ⟨h.1, h.2.1, h.2.2.1, h.2.2.2⟩,
      fun h => ⟨h.unasked, h.own, h.organized, h.addressed⟩⟩

namespace Settled

theorem clean_ne_empty_iff (settled : c.Settled isCloud kept url) :
    Address.clean url ≠ "" ↔ (nonEmpty? (kept.serverUrl.map Address.clean)).isSome := by
  simp [settled.serverUrl, nonEmpty?_isSome_iff]

/-- **What is asked when a change is made once more.** -/
theorem asked_eq {k : Conditions} {cloudDomain : String} {n : Nat}
    (settled : c.Settled (k.verdict cloudDomain n) kept url) :
    c.asked cloudDomain kept = if c.Reclassifies kept then [Address.clean url] else [] := by
  rw [Connection.asked, settled.serverUrl, settled.given]
  dsimp only
  rw [settled.flagAfter_eq_ite]
  by_cases unknown : c.cloudFlag = none ∧ kept.isCloud = false ∧
    (nonEmpty? c.organization).isSome
  · obtain ⟨unasked, own, organized⟩ := unknown
    have same : Address.clean url ≠ "" ↔ c.Reclassifies kept :=
      settled.clean_ne_empty_iff.trans
        ⟨fun addressed => ⟨unasked, own, organized, addressed⟩, fun looks => looks.addressed⟩
    rw [if_pos ⟨unasked, own, organized⟩]
    dsimp only
    rw [Conditions.asked_of_verdict (settled.moved unasked own organized)]
    by_cases blank : Address.clean url = ""
    · rw [if_pos blank, if_neg fun looks => same.2 looks blank]
    · rw [if_neg blank, if_pos (same.1 blank)]
  · have stays : ¬ c.Reclassifies kept :=
      fun looks => unknown ⟨looks.unasked, looks.own, looks.organized⟩
    rw [if_neg unknown, if_neg stays]

/-- A connection is settled by other verdicts, too, if they agree where it looks moved. -/
theorem again {verdict : String → Bool} (settled : c.Settled isCloud kept url)
    (moved : c.cloudFlag = none → kept.isCloud = false → (nonEmpty? c.organization).isSome →
      verdict url = false) : c.Settled verdict kept url :=
  { settled with moved }

end Settled

end Connection

/-! ## Changes that are made once more -/

namespace Settings

variable {s : Settings} {c kept : Connection} {ch : Change} {isCloud verdict : String → Bool}
  {url : String} {i : Nat}

/-- The changed connection is the one that is meant next. -/
theorem Allows.target?_applied (h : s.Allows c ch) :
    (ch.applied s).target? c = some (ch.index, ch.changed) := by
  obtain ⟨bound, -⟩ := List.getElem?_eq_some_iff.1 h.entry
  refine target?_eq_some_iff.2 ⟨?_, ?_, ?_⟩
  · rw [Change.applied, servers_withServers, List.getElem?_set_self bound]
  · exact Connection.mayMean_iff.2 ⟨fun kind asked => h.kind_eq_of_asked asked,
      h.id.trans (Connection.id_of_mayMean h.meant)⟩
  · intro j before d there
    rw [Change.applied, servers_withServers, List.getElem?_set_ne (by omega)] at there
    exact h.first j before d there

theorem applied_of_unchanged (entry : s.servers[i]? = some kept) :
    Change.applied ⟨i, kept, kept⟩ s = s := by
  obtain ⟨bound, rfl⟩ := List.getElem?_eq_some_iff.1 entry
  rw [Change.applied, List.set_getElem_self]
  rfl

/-- **A connection that looks moved goes to the cloud service** if that is the verdict, unless
its name is taken there. -/
theorem changedBy_of_reclassifies (settled : c.Settled isCloud kept url)
    (looks : c.Reclassifies kept) (cloud : verdict url = true) :
    s.changedBy verdict c kept =
      if (s.connections.position? .cloud c.idText).isSome then
        .error (.alreadyExists .cloud c.idText)
      else .ok (kept.changed url (nonEmpty? c.organization) true c.muted) := by
  have organization : Registry.changedOrganization c kept = nonEmpty? c.organization := by
    rw [Registry.changedOrganization, settled.organization_eq_none looks.own, Option.or_none]
  have unknown : c.flagAfter kept url (nonEmpty? c.organization) = none := by
    rw [← organization, settled.flagAfter_eq_ite]
    exact if_pos ⟨looks.unasked, looks.own, looks.organized⟩
  have present : (nonEmpty? c.organization).isNone = false := by
    simpa using looks.organized
  have other : (ServerKind.ofFlag true != kept.kind) = true := by
    rw [Connection.kind, looks.own]
    rfl
  rw [changedBy, settled.serverUrl, settled.given]
  dsimp only
  rw [organization, unknown, Option.getD_none, cloud, present, other, Bool.and_false,
    Bool.true_and]
  rfl

end Settings

/-- **On a host that refuses nothing a change is carried out**, if there is a key for its
token. -/
theorem Change.Ends.of_unfailing {ch : Change} {c : Connection} {k b : Bench MemorySettings}
    {res : Except ConnectionError Connection} (ends : ch.Ends c k res b)
    (free : k.conditions.Unfailing)
    (keyed : (nonEmpty? (ch.token c k.secrets)).isSome → ch.changed.storageKey.isSome) :
    res = .ok ch.changed ∧ b.document = ch.applied k.document := by
  cases ends with
  | refused stopped => exact stopped.elim free
  | unkeyed given unkeyed _ =>
      have present := keyed given
      rw [unkeyed] at present
      cases present
  | unsaved _ stopped => exact stopped.elim ((ch.conditions_announced c k).symm ▸ free)
  | undropped _ stopped => exact stopped.elim ((ch.conditions_saved c k).symm ▸ free)
  | done _ left => exact ⟨rfl, document_of_unrecorded left⟩

namespace Registry

variable {cloudDomain : String} {b b' : Bench MemorySettings} {c kept : Connection}
    {ch : Change}

theorem update_of_error {e : ConnectionError} (free : b.conditions.Unfailing)
    (plan : b.document.change (b.conditions.verdict cloudDomain (b.time + 1)) c = .error e) :
    ((inMemory cloudDomain).update c).Ensures b fun res b' =>
      res = .error e ∧ b'.document = b.document := by
  refine (update_ends_of_plan b c).mono fun res b' ends => ?_
  rw [plan] at ends
  rcases ends with ⟨_, -, stopped⟩ | ⟨rejected, left⟩
  · exact stopped.elim free
  · exact ⟨rejected, (document_of_unrecorded left).trans rfl⟩

theorem update_of_change (free : b.conditions.Unfailing)
    (plan : b.document.change (b.conditions.verdict cloudDomain (b.time + 1)) c = .ok ch)
    (keyed : (nonEmpty? (ch.token c b.secrets)).isSome → ch.changed.storageKey.isSome) :
    ((inMemory cloudDomain).update c).Ensures b fun res b' =>
      res = .ok ch.changed ∧ b'.document = ch.applied b.document := by
  refine (update_ends_of_plan b c).mono fun res b' ends => ?_
  rw [plan] at ends
  rcases ends with ⟨_, -, stopped⟩ | ends
  · exact stopped.elim free
  · exact ends.of_unfailing free keyed

/-- **A settled connection stays as it is** when it is changed. -/
theorem update_of_settled {i : Nat} {url : String} (free : b.conditions.Unfailing)
    (target : b.document.target? c = some (i, kept))
    (settled : c.Settled (b.conditions.verdict cloudDomain (b.time + 1)) kept url)
    (keyed : (nonEmpty? c.token).isSome → kept.storageKey.isSome) :
    ((inMemory cloudDomain).update c).Ensures b fun res b' =>
      res = .ok kept ∧ b'.document = b.document := by
  have plan : b.document.change (b.conditions.verdict cloudDomain (b.time + 1)) c =
      .ok ⟨i, kept, kept⟩ := by
    rw [Settings.change, target]
    dsimp only
    rw [Settings.changedBy_of_settled settled]
    rfl
  have token : Change.token ⟨i, kept, kept⟩ c b.secrets = nonEmpty? c.token := by
    rw [Change.token, if_pos rfl, Option.or_none]
  have entry := (Settings.target?_eq_some_iff.1 target).1
  have unchanged := Settings.applied_of_unchanged entry
  refine (update_of_change free plan ?_).mono ?_
  · rwa [token, nonEmpty?_nonEmpty?]
  · intro res b' done
    rwa [unchanged] at done

/-- **A connection that looks moved, and whose server is up as a cloud node**, changes its kind
unless its name is taken in the other one. -/
theorem update_of_reclassifies {isCloud : String → Bool} {i : Nat} {url : String}
    (free : b.conditions.Unfailing) (target : b.document.target? c = some (i, kept))
    (settled : c.Settled isCloud kept url) (looks : c.Reclassifies kept)
    (cloud : b.conditions.verdict cloudDomain (b.time + 1) url = true) :
    ((inMemory cloudDomain).update c).Ensures b fun _ b' =>
      ∃ d, b'.document.servers[i]? = some d ∧ (d.cloudFlag = kept.cloudFlag ↔
        ¬ b.document.connections.position? .cloud c.idText = none) := by
  have entry := (Settings.target?_eq_some_iff.1 target).1
  have become := Settings.changedBy_of_reclassifies (s := b.document) settled looks cloud
  by_cases untaken : b.document.connections.position? .cloud c.idText = none
  · let moved := kept.changed url (nonEmpty? c.organization) true c.muted
    have plan : b.document.change (b.conditions.verdict cloudDomain (b.time + 1)) c =
        .ok ⟨i, kept, moved⟩ := by
      rw [Settings.change, target]
      dsimp only
      rw [become, untaken]
      rfl
    have keyed : moved.storageKey.isSome := by
      rw [Connection.storageKey_of_cloud rfl]
      show (nonEmpty? (nonEmpty? c.organization)).isSome
      rw [nonEmpty?_nonEmpty?]
      exact looks.organized
    refine (update_of_change free plan fun _ => keyed).mono ?_
    rintro _ b' ⟨-, document⟩
    refine ⟨moved, ?_, iff_of_false ?_ (not_not.2 untaken)⟩
    · obtain ⟨bound, -⟩ := List.getElem?_eq_some_iff.1 entry
      rw [document, Change.applied, Settings.servers_withServers, List.getElem?_set_self bound]
    · show some true ≠ kept.cloudFlag
      rw [settled.classified, looks.own]
      decide
  · have plan : b.document.change (b.conditions.verdict cloudDomain (b.time + 1)) c =
        .error (.alreadyExists .cloud c.idText) := by
      rw [Settings.change, target]
      dsimp only
      rw [become, if_pos (Option.isSome_iff_ne_none.2 untaken)]
      rfl
    refine (update_of_error free plan).mono ?_
    rintro _ b' ⟨-, same⟩
    exact ⟨kept, same ▸ entry, iff_of_true rfl untaken⟩

/-- **What a change has kept is settled**, and it is what the same change means next. -/
theorem settled_of_update
    (unorganized : ∀ d ∈ b.document.servers, d.isCloud = false → d.organization = none)
    (answered : ((inMemory cloudDomain).update c).outcome b = (.ok kept, b')) :
    b'.conditions = b.conditions ∧ ∃ n i url, b'.document.target? c = some (i, kept) ∧
      c.Settled (b'.conditions.verdict cloudDomain n) kept url ∧
      ((nonEmpty? c.token).isSome → kept.storageKey.isSome) := by
  cases (update_ends b c).of_outcome answered with
  | @done n ch _ plan keyed left =>
      have allows : b.document.Allows c ch := Settings.allows_of_change plan
      have conditions : b'.conditions = b.conditions :=
        (conditions_of_unrecorded left).trans (ch.conditions_finished c b.unrecorded)
      have document : b'.document = ch.applied b.document := document_of_unrecorded left
      obtain ⟨url, settled⟩ := Settings.settled_of_changedBy
        (unorganized _ (List.mem_of_getElem? allows.entry)) (Settings.changedBy_of_change plan)
      refine ⟨conditions, n, ch.index, url, ?_, conditions ▸ settled, fun given => ?_⟩
      · rw [document]
        exact allows.target?_applied
      · exact keyed (Settings.nonEmpty?_or_isSome_iff.2 (.inl given))

/-- **When a change asks once more, and what comes of it.**  A change that was answered is made
again.  It asks the server of its connection exactly if it makes it look moved, and otherwise
it has the same answer and leaves the document as it is.  The flag of the connection is another
one afterwards exactly if it looks moved, the server is up as a cloud node by now, and the name
is free there. -/
theorem asked_again_iff_of_update (free : b.conditions.Unfailing)
    (unorganized : ∀ d ∈ b.document.servers, d.isCloud = false → d.organization = none)
    (answered : ((inMemory cloudDomain).update c).outcome b = (.ok kept, b')) :
    ∃ (i : Nat) (url : String) (d : Connection) (res : Except ConnectionError Connection)
        (b'' : Bench MemorySettings), ((inMemory cloudDomain).update c).outcome b' =
          (res, b'') ∧
      b'.document.servers[i]? = some kept ∧ kept.serverUrl = some url ∧
      b''.probed = b'.probed ++ (if c.Reclassifies kept then [Address.clean url] else []) ∧
      (¬ c.Reclassifies kept → res = .ok kept ∧ b''.document = b'.document) ∧
      b''.document.servers[i]? = some d ∧
      (d.cloudFlag = kept.cloudFlag ↔ ¬ (c.Reclassifies kept ∧
        b'.conditions.isUp (b'.time + 1) (Address.clean url) = true ∧
        b'.document.connections.position? .cloud c.idText = none)) := by
  obtain ⟨conditions, n, i, url, target, settled, keyed⟩ :=
    settled_of_update unorganized answered
  have free' : b'.conditions.Unfailing := conditions ▸ free
  have entry := (Settings.target?_eq_some_iff.1 target).1
  have asks := (@update_asks cloudDomain b' free'.answering c).of_outcome rfl
  rw [Settings.asked, target] at asks
  replace asks := asks.trans (congrArg (b'.probed ++ ·) settled.asked_eq)
  by_cases moves : c.Reclassifies kept ∧
      b'.conditions.isUp (b'.time + 1) (Address.clean url) = true
  · obtain ⟨looks, up⟩ := moves
    have hidden := settled.moved looks.unasked looks.own looks.organized
    have addressed := settled.clean_ne_empty_iff.2 looks.addressed
    have cloud := (Conditions.verdict_eq_isUp hidden addressed (b'.time + 1)).trans up
    obtain ⟨d, after, same⟩ :=
      (update_of_reclassifies free' target settled looks cloud).of_outcome rfl
    refine ⟨i, url, d, _, _, rfl, entry, settled.serverUrl, asks,
      fun stays => absurd looks stays,
      after, same.trans (not_congr ?_)⟩
    exact ⟨fun untaken => ⟨looks, up, untaken⟩, fun all => all.2.2⟩
  · have settled' : c.Settled (b'.conditions.verdict cloudDomain (b'.time + 1)) kept url := by
      refine settled.again fun unasked own organized => ?_
      by_cases blank : Address.clean url = ""
      · exact Conditions.verdict_of_blank blank
      · have hidden := settled.moved unasked own organized
        have looks : c.Reclassifies kept :=
          ⟨unasked, own, organized, settled.clean_ne_empty_iff.1 blank⟩
        rw [Conditions.verdict_eq_isUp hidden blank, ← Bool.not_eq_true]
        exact fun up => moves ⟨looks, up⟩
    obtain ⟨answer, same⟩ := (update_of_settled free' target settled' keyed).of_outcome rfl
    refine ⟨i, url, kept, _, _, rfl, entry, settled.serverUrl, asks, fun _ => ⟨answer, same⟩,
      same ▸ entry, ?_⟩
    exact iff_of_true rfl fun all => moves ⟨all.1, all.2.1⟩

/-- A server of one's own is asked both times, for it was given with an organization.  It is up
as a cloud node the second time, but a connection to the cloud service has the id already. -/
theorem asked_again_iff_of_update_taken :
    let entry : Connection :=
      ⟨some "a", some "https://old.example", none, some false, false, none⟩
    let other : Connection :=
      ⟨some "a", some "https://app.codescan.io", some "org", some true, false, none⟩
    let c : Connection :=
      ⟨some "a", some "https://sq.example/", some "team", none, false, none⟩
    let kept : Connection :=
      ⟨some "a", some "https://sq.example", none, some false, false, none⟩
    let b : Bench MemorySettings := .fresh (.of ⟨⟨[], [], [entry, other]⟩, [], []⟩) []
      { Conditions.calm fun _ => false with isUp := fun n _ => n == 4 } .nobody
    b.conditions.Unfailing ∧ b.document.WellFormed ∧
      (∀ d ∈ b.document.servers, d.isCloud = false → d.organization = none) ∧
      c.Reclassifies kept ∧
      ∃ b', ((inMemory "codescan.io").update c).outcome b = (.ok kept, b') ∧
        ∃ (i : Nat) (url : String) (d : Connection) (res : Except ConnectionError Connection)
            (b'' : Bench MemorySettings),
          ((inMemory "codescan.io").update c).outcome b' = (res, b'') ∧
          b'.document.servers[i]? = some kept ∧ kept.serverUrl = some url ∧
          b''.probed = b'.probed ++ (if c.Reclassifies kept then [Address.clean url] else []) ∧
          (¬ c.Reclassifies kept → res = .ok kept ∧ b''.document = b'.document) ∧
          b''.document.servers[i]? = some d ∧
          (d.cloudFlag = kept.cloudFlag ↔ ¬ (c.Reclassifies kept ∧
            b'.conditions.isUp (b'.time + 1) (Address.clean url) = true ∧
            b'.document.connections.position? .cloud c.idText = none)) := by
  intro entry other c kept b
  have free : b.conditions.Unfailing := Conditions.unfailing_isUp _
  have unorganized :
      ∀ d ∈ b.document.servers, d.isCloud = false → d.organization = none := by decide
  have answered : ((inMemory "codescan.io").update c).outcome b =
      (.ok kept, (((inMemory "codescan.io").update c).outcome b).2) := rfl
  exact ⟨free, by decide, unorganized, by decide, _, answered,
    asked_again_iff_of_update free unorganized answered⟩

/-- A connection is changed, and nothing of it is another one than before.  The same change
once more asks the server again, and the connection goes to the cloud service. -/
theorem asked_again_of_update_same_location :
    let entry : Connection :=
      ⟨some "a", some "https://sq.example", none, some false, false, none⟩
    let c : Connection := { entry with organization := some "team", cloudFlag := none }
    let b : Bench MemorySettings := .fresh (.of ⟨⟨[], [], [entry]⟩, [], []⟩) []
      { Conditions.calm fun _ => false with isUp := fun n _ => n == 4 } .nobody
    let first := ((inMemory "codescan.io").update c).outcome b
    let second := ((inMemory "codescan.io").update c).outcome first.2
    b.conditions.Unfailing ∧ b.document.WellFormed ∧ first.1 = .ok entry ∧
      first.2.document.servers = [entry] ∧ first.2.probed = ["https://sq.example"] ∧
      second.2.probed = ["https://sq.example", "https://sq.example"] ∧
      second.2.document.servers = [{ c with cloudFlag := some true }] := by
  intro entry c b first second
  exact ⟨Conditions.unfailing_isUp _, by decide +kernel⟩

end Registry

end ServerConnections
