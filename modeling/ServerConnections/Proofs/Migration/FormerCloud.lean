import ServerConnections.Proofs.Migration.Organizations
import ServerConnections.Proofs.Migration.Unmigrated

/-!
# Connections of the former list for the cloud

An entry of the former list for the cloud may leave almost everything unsaid.  Completing it
supplies the rest: it counts as a cloud connection, it leads to the default address unless it
has one, and without an organization it becomes self-hosted, so that its token is kept under
its address then.  One way or the other there is to be a key for its token.

The default address is supplied to an entry whose address is missing or empty, and the address
is cleaned afterwards.  So there is a gap: an address of blanks and slashes is no empty one,
and nothing is left of it in the end.  Such an entry has no address, and it has a key only if
it is a cloud connection with an organization; otherwise a token that it carries stays where it
is.  Nothing else goes wrong, whatever the entry says, and whatever else is in the document.

* `Connection.Effaced` — an address of which nothing is left
* `Connection.StaysCloud` — who is a cloud connection afterwards
* `Connection.completedBy_formerCloud` — completing an entry asks nothing
* `Registry.usable_iff_of_migrate` — which entries are usable after a migration
-/

namespace ServerConnections

open Bench

namespace Connection

variable {c : Connection} {isCloud : String → Bool}

/-! ## Addresses and keys of settled connections -/

@[simp] theorem serverUrl_identified : c.identified.serverUrl = c.serverUrl := by
  unfold identified
  split <;> rfl

@[simp] theorem serverUrl_settled : c.settled.serverUrl = c.serverUrl := by
  rcases @settled_cases c with ⟨-, same⟩ | ⟨-, flag, -, own⟩
  · rw [same, serverUrl_identified]
  · rw [own, serverUrl_identified]

@[simp] theorem serverUrl_relieved : c.relieved.serverUrl = c.serverUrl := by
  unfold relieved
  split <;> rfl

@[simp] theorem storageKey_relieved : c.relieved.storageKey = c.storageKey := by
  unfold relieved
  split <;> rfl

/-- **A settled connection has a key** if it stays with the cloud service, having an
organization, or if it has an address. -/
theorem storageKey_settled_isSome_iff :
    c.settled.storageKey.isSome ↔
      (nonEmpty? c.serverUrl).isSome ∨ c.isCloud ∧ (nonEmpty? c.organization).isSome := by
  rcases @settled_cases c with ⟨organized, same⟩ | ⟨unorganized, flag, selfHosted, own⟩
  · rw [same, storageKey_identified, storageKey_of_cloud organized.1]
    exact iff_of_true organized.2 (.inr organized)
  · rw [own, storageKey_identified, storageKey_of_not_cloud selfHosted]
    exact (or_iff_left unorganized).symm

/-! ## Entries of the former list -/

/-- **Nothing is left of the address**: there is one, and its clean form is empty. -/
def Effaced (c : Connection) : Prop :=
  (nonEmpty? c.serverUrl).isSome ∧ nonEmpty? (c.serverUrl.map Address.clean) = none

instance (c : Connection) : Decidable c.Effaced := inferInstanceAs (Decidable (_ ∧ _))

/-- The entry does not say that it is self-hosted, and has an organization. -/
def StaysCloud (c : Connection) : Prop :=
  c.cloudFlag ≠ some false ∧ (nonEmpty? c.organization).isSome

instance (c : Connection) : Decidable c.StaysCloud := inferInstanceAs (Decidable (_ ∧ _))

/-- An entry of the former list for the cloud is classified by being there. -/
theorem completedBy_formerCloud :
    c.completedBy isCloud true = c.ofFormerCloud.withCleanUrl.settled := by
  have classified : c.ofFormerCloud.withCleanUrl.cloudFlag.isSome := by
    cases flag : c.cloudFlag <;> simp [withCleanUrl, ofFormerCloud, flag]
  exact congrArg settled (classifiedBy_of_isSome classified)

theorem isCloud_withCleanUrl_ofFormerCloud :
    c.ofFormerCloud.withCleanUrl.isCloud ↔ c.cloudFlag ≠ some false := by
  cases flag : c.cloudFlag <;> simp [Connection.isCloud, withCleanUrl, ofFormerCloud, flag]

/-- **The clean address is empty only if there was one of which nothing is left**, for the
default one stands where there was none. -/
theorem serverUrl_withCleanUrl_ofFormerCloud_isSome :
    (nonEmpty? c.ofFormerCloud.withCleanUrl.serverUrl).isSome ↔ ¬ c.Effaced := by
  cases url : nonEmpty? c.serverUrl with
  | none =>
      have supplied :
          c.ofFormerCloud.withCleanUrl.serverUrl = some (Address.clean defaultCloudUrl) := by
        simp [withCleanUrl, ofFormerCloud, url]
      rw [supplied]
      refine iff_of_true (by decide) ?_
      intro effaced
      have present := effaced.1
      rw [url] at present
      cases present
  | some address =>
      have own : c.ofFormerCloud.withCleanUrl.serverUrl = c.serverUrl.map Address.clean := by
        rw [(nonEmpty?_eq_some_iff.1 url).1]
        simp [withCleanUrl, ofFormerCloud, url]
      rw [own, Effaced, url, Option.isSome_iff_ne_none]
      simp

/-- An entry has an address afterwards, unless nothing is left of the one it had. -/
theorem serverUrl_completedBy_formerCloud_isSome :
    (nonEmpty? (c.completedBy isCloud true).serverUrl).isSome ↔ ¬ c.Effaced := by
  rw [completedBy_formerCloud, serverUrl_settled, serverUrl_withCleanUrl_ofFormerCloud_isSome]

/-- **An entry has a key afterwards**, unless nothing is left of its address and it is no cloud
connection either. -/
theorem storageKey_completedBy_formerCloud_isSome :
    (c.completedBy isCloud true).storageKey.isSome ↔ ¬ c.Effaced ∨ c.StaysCloud := by
  rw [completedBy_formerCloud, storageKey_settled_isSome_iff,
    serverUrl_withCleanUrl_ofFormerCloud_isSome, isCloud_withCleanUrl_ofFormerCloud]
  rfl

/-- An entry has to keep its token exactly if there is no key for it. -/
theorem keeps_completedBy_formerCloud_iff :
    (c.completedBy isCloud true).hasPlainToken ∧
    (c.completedBy isCloud true).storageKey = none ↔
      c.hasPlainToken ∧ c.Effaced ∧ ¬ c.StaysCloud := by
  rw [← Option.not_isSome_iff_eq_none, storageKey_completedBy_formerCloud_isSome, not_or,
    not_not, hasPlainToken, token_completedBy]
  rfl

end Connection

/-! ## Places of entries -/

/-- What becomes of a token is told at the place of its connection. -/
theorem SecretTable.fates_getElem? {t : SecretTable} {cs : List Connection} {i : Nat}
    {c : Connection} (entry : cs[i]? = some c) :
    ∃ t' : SecretTable, ((t.moves cs).map Prod.snd)[i]? = some (t'.fateOf c) := by
  induction cs generalizing t i with
  | nil => cases entry
  | cons d cs ih =>
      cases i with
      | zero =>
          obtain rfl := Option.some_inj.1 entry
          exact ⟨t, rfl⟩
      | succ i => exact ih entry

namespace Settings.Readies

variable {s : Settings} {verdict : Nat → String → Bool} {m : Migration} {c : Connection}
    {j : Nat}

/-- The entries of the former list for the cloud come after those of the other one. -/
theorem formerCloud_getElem? (h : s.Readies verdict m)
    (entry : s.connections.legacyCloud[j]? = some c) :
    ∃ n, m.former[s.connections.legacySelfHosted.length + j]? =
      some (c.completedBy (verdict n) true) := by
  obtain ⟨selfHosted, cloud, former, own, clouds⟩ := h.former
  obtain ⟨bound, rfl⟩ := List.getElem?_eq_some_iff.1 entry
  have bound' : j < cloud.length := clouds.length_eq ▸ bound
  obtain ⟨n, shaped⟩ := clouds.get bound bound'
  rw [List.get_eq_getElem, List.get_eq_getElem] at shaped
  refine ⟨n, ?_⟩
  rw [former, own.length_eq, List.getElem?_append_right (Nat.le_add_right _ _),
    Nat.add_sub_cancel_left, List.getElem?_eq_getElem bound', shaped]

end Settings.Readies

namespace Registry

variable {cloudDomain : String} {b : Bench MemorySettings}

/-- **Which entries of the former list for the cloud are usable after a migration**: all of
them have addresses and keys, and none of their tokens is left where it was, apart from those
of whose addresses nothing is left.  These have no address, and no key unless they are cloud
connections with an organization.  The connections that were moved are among the entries so
completed. -/
theorem usable_iff_of_migrate (free : b.conditions.Unfailing) :
    ∃ report b' m, (inMemory cloudDomain).migrate.outcome b = (.ok report, b') ∧
      b.document.Readies (b.conditions.verdict cloudDomain) m ∧
      report.skipped = (m.fates b.secrets).count .skipped ∧
      (∀ d ∈ b'.document.servers.drop b.document.servers.length,
        d ∈ m.former.map Connection.relieved) ∧
      ∀ (j : Nat) (c : Connection), b.document.connections.legacyCloud[j]? = some c →
        let i := b.document.connections.legacySelfHosted.length + j
        ∃ d, (m.former.map Connection.relieved)[i]? = some d ∧
          ((nonEmpty? d.serverUrl).isSome ↔ ¬ c.Effaced) ∧
          (d.storageKey.isSome ↔ ¬ c.Effaced ∨ c.StaysCloud) ∧
          ((m.fates b.secrets)[i]? = some .skipped ↔
            c.hasPlainToken ∧ c.Effaced ∧ ¬ c.StaysCloud) := by
  obtain ⟨report, b', outcome, m, readies, rfl, left⟩ :=
    (@migrate_yields cloudDomain b free).outcome
  refine ⟨_, b', m, outcome, readies, rfl, fun d moved => ?_, fun j c entry => ?_⟩
  · -- Where nothing was saved, nothing comes after the old entries.
    rw [document_of_unrecorded left, m.document_finished] at moved
    split at moved
    · exact readies.mem_former_of_moved moved
    · have none : b.document.servers.drop b.document.servers.length = [] := List.drop_length
      exact absurd (none ▸ moved) List.not_mem_nil
  · intro i
    obtain ⟨n, completed⟩ := readies.formerCloud_getElem? entry
    refine ⟨_, by rw [List.getElem?_map, completed, Option.map_some], ?_, ?_, ?_⟩
    · rw [Connection.serverUrl_relieved, Connection.serverUrl_completedBy_formerCloud_isSome]
    · rw [Connection.storageKey_relieved, Connection.storageKey_completedBy_formerCloud_isSome]
    · have among :
          m.all[i]? = some (c.completedBy (b.conditions.verdict cloudDomain n) true) := by
        rw [Migration.all, List.getElem?_append_left (List.getElem?_eq_some_iff.1 completed).1,
          completed]
      obtain ⟨t, told⟩ := SecretTable.fates_getElem? (t := b.secrets) among
      rw [Migration.fates, told, Option.some_inj, SecretTable.fateOf_eq_skipped_iff,
        Connection.keeps_completedBy_formerCloud_iff]

/-- An entry without an address gets the default one.  One of which nothing is left but its
organization has its key by that, and one without an organization has none. -/
theorem usable_iff_of_migrate_blank_urls :
    let b : Bench MemorySettings := .fresh
      (.of ⟨⟨[], [⟨some "x", none, none, none, false, some "t"⟩,
          ⟨some "y", some " / ", some "org", none, false, some "u"⟩,
          ⟨some "z", some "//", some "org", some false, false, some "v"⟩], []⟩, [], []⟩)
      [] (.calm fun _ => false) .nobody
    b.conditions.Unfailing ∧
      ((inMemory "codescan.io").migrate.outcome b).1 = .ok ⟨2, 0, 1, 3, 0, true⟩ ∧
      ∃ report b' m, (inMemory "codescan.io").migrate.outcome b = (.ok report, b') ∧
        b.document.Readies (b.conditions.verdict "codescan.io") m ∧
        report.skipped = (m.fates b.secrets).count .skipped ∧
        (∀ d ∈ b'.document.servers.drop b.document.servers.length,
          d ∈ m.former.map Connection.relieved) ∧
        ∀ (j : Nat) (c : Connection), b.document.connections.legacyCloud[j]? = some c →
          let i := b.document.connections.legacySelfHosted.length + j
          ∃ d, (m.former.map Connection.relieved)[i]? = some d ∧
            ((nonEmpty? d.serverUrl).isSome ↔ ¬ c.Effaced) ∧
            (d.storageKey.isSome ↔ ¬ c.Effaced ∨ c.StaysCloud) ∧
            ((m.fates b.secrets)[i]? = some .skipped ↔
              c.hasPlainToken ∧ c.Effaced ∧ ¬ c.StaysCloud) := by
  intro b
  have free : b.conditions.Unfailing := Conditions.unfailing_calm _
  exact ⟨free, by decide +kernel, usable_iff_of_migrate free⟩

/-- An address that is a slash is saved as an empty one.  The connection has no key, and its
token is left where it was. -/
theorem not_usable_of_migrate_slash :
    let c : Connection := ⟨some "c", some "/", none, none, false, some "t"⟩
    let d : Connection := ⟨some "c", some "", none, some false, false, some "t"⟩
    let b : Bench MemorySettings :=
      .fresh (.of ⟨⟨[], [c], []⟩, [], []⟩) [] (.calm fun _ => false)
      .nobody
    let after := (inMemory "codescan.io").migrate.outcome b
    b.conditions.Unfailing ∧ after.1 = .ok ⟨0, 0, 1, 1, 0, true⟩ ∧
      after.2.document.servers = [d] ∧ nonEmpty? d.serverUrl = none ∧ d.storageKey = none := by
  intro c d b after
  exact ⟨Conditions.unfailing_calm _, by decide +kernel, by decide +kernel, rfl, rfl⟩

end Registry

end ServerConnections
