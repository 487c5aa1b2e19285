import ServerConnections.Proofs.Migration.Report

/-!
# Organizations in a migration

A cloud connection needs an organization, for its token is kept under that.  A migration finds
out of many connections whether they lead to the cloud service.  Those of the former lists are
completed in any case, and one that has no organization stays self-hosted then.  Those of the
unified list are classified for the sake of their tokens only, to find the key, and there the
answer is taken as it is.  So a connection that has a token and no organization may become a
cloud connection without a key; its token is left where it was.

* `Connection.Organized` — a cloud connection has an organization
* `Connection.Strays` — a connection is found to be one of the cloud, where it has no place
* `Registry.organized_iff_of_migrate` — who is organized after a migration
-/

namespace ServerConnections

open Bench

namespace Connection

variable {c : Connection} {isCloud : String → Bool}

/-- **A cloud connection has an organization.** -/
def Organized (c : Connection) : Prop := c.isCloud → (nonEmpty? c.organization).isSome

instance (c : Connection) : Decidable c.Organized := inferInstanceAs (Decidable (_ → _))

/-- With an address, it takes no more than this for a key. -/
theorem storageKey_isSome_iff_organized (addressed : (nonEmpty? c.serverUrl).isSome) :
    c.storageKey.isSome ↔ c.Organized := by
  cases cloud : c.isCloud with
  | true => simp [Organized, cloud, storageKey_of_cloud cloud]
  | false => simpa [Organized, cloud, storageKey_of_not_cloud cloud] using addressed

@[simp] theorem cloudFlag_relieved : c.relieved.cloudFlag = c.cloudFlag := by
  unfold relieved
  split <;> rfl

theorem organized_relieved : c.relieved.Organized ↔ c.Organized := by
  rcases @relieved_eq_or c with stays | bare
  · rw [stays]
  · rw [bare]
    rfl

/-- **Completing a connection does not take it to the cloud without an organization.** -/
theorem organized_settled : c.settled.Organized := by
  intro cloud
  rcases @settled_cases c with ⟨⟨-, organized⟩, same⟩ | ⟨-, flag, selfHosted, own⟩
  · rw [same, organization_identified]
    exact organized
  · rw [own, isCloud_identified] at cloud
    exact absurd (selfHosted.symm.trans cloud) Bool.false_ne_true

/-- **A connection strays**: it was not classified, and its token is a reason to do so.  It is
found to lead to the cloud service, and has no organization. -/
structure Strays (isCloud : String → Bool) (c : Connection) : Prop where
  unclassified : c.cloudFlag = none
  plain : c.hasPlainToken
  cloud : isCloud (c.serverUrl.getD "")
  unorganized : nonEmpty? c.organization = none

instance (isCloud : String → Bool) (c : Connection) : Decidable (c.Strays isCloud) :=
  decidable_of_iff (c.cloudFlag = none ∧ c.hasPlainToken ∧ isCloud (c.serverUrl.getD "") ∧
      nonEmpty? c.organization = none)
    ⟨fun ⟨unclassified, plain, cloud, org⟩ => ⟨unclassified, plain, cloud, org⟩,
      fun h => ⟨h.unclassified, h.plain, h.cloud, h.unorganized⟩⟩

theorem Strays.readiedBy_eq (h : c.Strays isCloud) :
    c.readiedBy isCloud = c.withCloudFlag true := by
  rw [readiedBy_of_plain h.plain, classifiedBy, h.unclassified, h.cloud]

theorem Strays.storageKey_eq (h : c.Strays isCloud) :
    (c.withCloudFlag true).storageKey = none := by
  rw [storageKey_of_cloud rfl]
  exact h.unorganized

/-- A connection that strays keeps its token. -/
theorem Strays.relieved_eq (h : c.Strays isCloud) :
    (c.readiedBy isCloud).relieved = c.withCloudFlag true := by
  rw [h.readiedBy_eq]
  exact relieved_of_unkeyed h.plain h.storageKey_eq

/-- An entry that was not classified before is organized, unless it strays. -/
theorem organized_readiedBy_iff (unclassified : c.cloudFlag = none) :
    (c.readiedBy isCloud).Organized ↔ ¬ c.Strays isCloud := by
  constructor
  · intro organized strays
    have becomes := strays.readiedBy_eq
    have present : (nonEmpty? c.organization).isSome := by
      rw [becomes] at organized
      exact organized rfl
    rw [strays.unorganized] at present
    cases present
  · intro stays cloud
    by_contra unorganized
    by_cases plain : c.hasPlainToken
    · rw [readiedBy_of_plain plain, classifiedBy, unclassified] at cloud unorganized
      exact stays ⟨unclassified, plain, cloud, Option.not_isSome_iff_eq_none.1 unorganized⟩
    · rw [readiedBy_of_not_plain plain, Connection.isCloud, unclassified] at cloud
      cases cloud

end Connection

namespace Settings.Readies

variable {s : Settings} {verdict : Nat → String → Bool} {m : Migration}

/-- Connections of the former lists are classified and organized. -/
theorem organized_former (h : s.Readies verdict m) :
    ∀ c ∈ m.former.map Connection.relieved, c.cloudFlag.isSome ∧ c.Organized := by
  refine List.forall_mem_map.2 (h.forall_mem_former fun _ _ c => ?_)
  rw [Connection.cloudFlag_relieved, Connection.organized_relieved]
  exact ⟨Connection.cloudFlag_completedBy_isSome, Connection.organized_settled⟩

/-- The connections that were moved come after those that were there. -/
theorem mem_former_of_moved (h : s.Readies verdict m) {d : Connection}
    (moved : d ∈ (m.document s).servers.drop s.servers.length) :
    d ∈ m.former.map Connection.relieved := by
  obtain ⟨new, merged, -⟩ := h.merged
  have servers : (m.document s).servers = m.unified.map Connection.relieved ++ new :=
    merged.parts
  have length : s.servers.length = (m.unified.map Connection.relieved).length := by
    rw [List.length_map, ← h.unified.length_eq]
  rw [servers, length, List.drop_left] at moved
  exact merged.order.subset moved

end Settings.Readies

namespace Registry

variable {cloudDomain : String} {b : Bench MemorySettings}

/-- **Who is organized after a migration** that has saved: all connections that were moved, and
of those that had not been classified before all but the ones that strayed.  Being organized,
they have keys if they have addresses.  Those that strayed are saved as cloud connections, with
their tokens. -/
theorem organized_iff_of_migrate (free : b.conditions.Unfailing) :
    ∃ report b', (inMemory cloudDomain).migrate.outcome b = (.ok report, b') ∧
      (report.saved →
        (∀ d ∈ b'.document.servers.drop b.document.servers.length,
          d.cloudFlag.isSome ∧ d.Organized ∧
            ((nonEmpty? d.serverUrl).isSome → d.storageKey.isSome)) ∧
        ∀ (i : Nat) (c : Connection), b.document.servers[i]? = some c → c.cloudFlag = none →
          ∃ (n : Nat) (d : Connection), b'.document.servers[i]? = some d ∧
            (d.Organized ↔ ¬ c.Strays (b.conditions.verdict cloudDomain n)) ∧
            ((nonEmpty? d.serverUrl).isSome →
              (d.storageKey.isSome ↔ ¬ c.Strays (b.conditions.verdict cloudDomain n))) ∧
            (c.Strays (b.conditions.verdict cloudDomain n) → d = c.withCloudFlag true)) := by
  obtain ⟨report, b', outcome, m, readies, rfl, left⟩ :=
    (@migrate_yields cloudDomain b free).outcome
  refine ⟨_, b', outcome, fun saved => ?_⟩
  have document : b'.document = m.document b.document := by
    rw [document_of_unrecorded left, m.document_finished]
    exact if_pos saved
  rw [document]
  constructor
  · intro d moved
    obtain ⟨classified, organized⟩ :=
      readies.organized_former d (readies.mem_former_of_moved moved)
    exact ⟨classified, organized, fun addressed =>
      (Connection.storageKey_isSome_iff_organized addressed).2 organized⟩
  · intro i c entry unclassified
    obtain ⟨n, becomes⟩ := readies.unified_getElem? entry
    have organized : (c.readiedBy (b.conditions.verdict cloudDomain n)).relieved.Organized ↔
        ¬ c.Strays (b.conditions.verdict cloudDomain n) :=
      Connection.organized_relieved.trans (Connection.organized_readiedBy_iff unclassified)
    refine ⟨n, _, Settings.servers_document_getElem? becomes, organized, fun addressed => ?_,
      Connection.Strays.relieved_eq⟩
    exact (Connection.storageKey_isSome_iff_organized addressed).trans organized

/-- One connection without an organization comes from a former list for the cloud and is
self-hosted from now on.  Of two that are classified for their tokens only one has one. -/
theorem organized_iff_of_migrate_two_classified :
    let b : Bench MemorySettings := .fresh
      (.of ⟨⟨[], [⟨some "f", none, none, none, false, none⟩],
          [⟨some "x", some "https://app.codescan.io", none, none, false, some "t"⟩,
            ⟨some "y", some "https://app.codescan.io", some "org", none, false, some "u"⟩]⟩,
        [], []⟩)
      [] (.calm fun _ => false) .nobody
    b.conditions.Unfailing ∧
      ((inMemory "codescan.io").migrate.outcome b).1 = .ok ⟨1, 0, 1, 1, 0, true⟩ ∧
      ∃ report b', (inMemory "codescan.io").migrate.outcome b = (.ok report, b') ∧
        (report.saved →
          (∀ d ∈ b'.document.servers.drop b.document.servers.length,
            d.cloudFlag.isSome ∧ d.Organized ∧
              ((nonEmpty? d.serverUrl).isSome → d.storageKey.isSome)) ∧
          ∀ (i : Nat) (c : Connection), b.document.servers[i]? = some c → c.cloudFlag = none →
            ∃ (n : Nat) (d : Connection), b'.document.servers[i]? = some d ∧
              (d.Organized ↔ ¬ c.Strays (b.conditions.verdict "codescan.io" n)) ∧
              ((nonEmpty? d.serverUrl).isSome →
                (d.storageKey.isSome ↔ ¬ c.Strays (b.conditions.verdict "codescan.io" n))) ∧
              (c.Strays (b.conditions.verdict "codescan.io" n) →
                d = c.withCloudFlag true)) := by
  intro b
  have free : b.conditions.Unfailing := Conditions.unfailing_calm _
  exact ⟨free, by decide +kernel, organized_iff_of_migrate free⟩

/-- A document is saved with a cloud connection that has no organization, and no key for the
token that it still carries.  It had not been classified before. -/
theorem not_organized_of_migrate :
    let c : Connection :=
      ⟨some "x", some "https://app.codescan.io", none, none, false, some "t"⟩
    let b : Bench MemorySettings := .fresh
      (.of ⟨⟨[⟨some "sq", some "https://sq.example", none, none, false, none⟩], [], [c]⟩,
        [], []⟩)
      [] (.calm fun _ => false) .nobody
    let after := (inMemory "codescan.io").migrate.outcome b
    let d := c.withCloudFlag true
    b.conditions.Unfailing ∧ b.document.servers[0]? = some c ∧ c.cloudFlag = none ∧
      after.1 = .ok ⟨0, 0, 1, 1, 0, true⟩ ∧ after.2.document.servers[0]? = some d ∧
        ¬ d.Organized ∧ (nonEmpty? d.serverUrl).isSome ∧ d.storageKey = none := by
  intro c b after d
  exact ⟨Conditions.unfailing_calm _, rfl, rfl, by decide +kernel,
    by decide +kernel, by decide,
    rfl, rfl⟩

end Registry

end ServerConnections
