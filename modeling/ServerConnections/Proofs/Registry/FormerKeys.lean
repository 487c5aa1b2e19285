import ServerConnections.Proofs.Migration.Organizations
import ServerConnections.Proofs.Migration.Unmigrated
import ServerConnections.Proofs.Registry.Effect

/-!
# Keys of former connections

Before an edit deletes the secret of a connection it looks for others that have the same key,
in the former lists as well.  It takes them as they are.  But a connection of a former list may
have another key once it is completed: an address that was not clean or not given, a kind that
was found out or was clear from the list, and an organization that was missing all make a
difference.  It is this key under which a migration looks for its secret.

So a secret that a former connection is going to have may be deleted, and is so exactly if no
connection has its key as yet.  A connection that is complete already is safe.

* `Registry.perform_drops` — an edit drops the secret of the connection that it is about
* `Registry.gone_iff_of_perform` — which secrets are deleted
* `Connection.Tidy` — a connection whose key stays the same
* `Registry.former_gone_iff_of_perform` — secrets of former connections
-/

namespace ServerConnections

open Bench

/-! ## Secrets that are deleted -/

namespace Registry

variable {cloudDomain : String} {b b' : Bench MemorySettings} {e : Edit} {answer : Answer}
  {key : String}

/-- To remove a connection does not answer one. -/
theorem perform_remove_ne_kept {id : String} {kind : ServerKind} {kept : Connection} :
    ((inMemory cloudDomain).perform (.remove id kind)).outcome b ≠ (.ok (.kept kept), b') := by
  intro answered
  have ends : ((inMemory cloudDomain).perform (.remove id kind)).Ensures b fun res _ =>
      ∀ kept, res ≠ .ok (.kept kept) := by
    refine Act.ensures_map.2 ?_
    intro kept same
    obtain ⟨there, -, other⟩ := Act.ok_of_map_eq_ok same
    cases other
  exact ends.of_outcome answered kept rfl

/-- **An edit that answers ends by dropping the secret of the connection that it is about**,
unless the document still has a connection with the key. -/
theorem perform_drops
    (answered : ((inMemory cloudDomain).perform e).outcome b = (.ok answer, b')) :
    ∃ t, b'.secrets = b'.document.dropped (e.oldKey b.document) t := by
  cases about : e.concerned? b.document with
  | none => exact ⟨b'.secrets, by rw [Edit.oldKey, about]; rfl⟩
  | some d =>
      have old : e.oldKey b.document = d.storageKey := by rw [Edit.oldKey, about]; rfl
      rw [old]
      cases ((perform_ends b e).of_outcome answered).done with
      | added _ new plan left =>
          -- Only a removal is about a connection that it does not change.
          cases e with
          | remove id kind => exact (perform_remove_ne_kept answered).elim
          | add | update | submit =>
              have nobody : none = some d := new.symm.trans about
              cases nobody
      | @changed n c ch _ given existing plan keyed left =>
          have same := Edit.concerned?_of_existing existing
          obtain rfl : ch.existing = d := Option.some.inj (same.symm.trans about)
          refine ⟨ch.stored c b.secrets, ?_⟩
          rw [document_of_unrecorded left, secrets_of_unrecorded left]
          rfl
      | missing asked absent left =>
          subst asked
          have there := List.find?_some about
          have missing :=
            List.findIdx?_eq_none_iff.1 absent d (List.mem_of_find?_eq_some about)
          rw [missing] at there
          cases there
      | @removed id kind i c _ asked found entry left =>
          subst asked
          have same := ConnectionLists.find?_of_position? found entry
          obtain rfl : c = d := Option.some.inj (same.symm.trans about)
          refine ⟨b.secrets, ?_⟩
          rw [document_of_unrecorded left, secrets_of_unrecorded left]
          rfl

/-- **Which secrets are deleted**: that of the connection that the edit is about, if no
connection of the document has its key afterwards. -/
theorem gone_iff_of_perform
    (answered : ((inMemory cloudDomain).perform e).outcome b = (.ok answer, b'))
    (held : (b.secrets.get? key).isSome) :
    b'.secrets.get? key = none ↔ e.oldKey b.document = some key ∧
      ∀ d ∈ b'.document.connections.all, d.storageKey ≠ some key := by
  constructor
  · intro gone
    have changed : b'.secrets.get? key ≠ b.secrets.get? key := by
      intro same
      rw [← same, gone] at held
      cases held
    cases explains_of_perform answered changed with
    | stored _ _ _ there =>
        rw [gone] at there
        cases there
    | deleted concerned keyed _ _ unused =>
        refine ⟨?_, unused⟩
        rw [Edit.oldKey, concerned]
        exact keyed
  · rintro ⟨old, unused⟩
    obtain ⟨t, secrets⟩ := perform_drops answered
    have free : b'.document.usesKey key = false := by
      rw [← Bool.not_eq_true, Settings.usesKey_iff]
      rintro ⟨d, there, keyed⟩
      exact unused d there keyed
    rw [secrets, Settings.get?_dropped, if_pos ⟨old, free⟩]

end Registry

/-! ## Keys that stay the same -/

namespace Connection

variable {c : Connection} {isCloud : String → Bool} {origin : Origin}

/-- **A connection is tidy**: it was classified, its address is clean, and it has the
organization or the address that its kind and its list ask for. -/
structure Tidy (origin : Origin) (c : Connection) : Prop where
  classified : c.cloudFlag.isSome
  clean : c.serverUrl.map Address.clean = c.serverUrl
  organized : c.Organized
  addressed : origin = .formerCloud → (nonEmpty? c.serverUrl).isSome

instance (origin : Origin) (c : Connection) : Decidable (c.Tidy origin) :=
  decidable_of_iff (c.cloudFlag.isSome ∧ c.serverUrl.map Address.clean = c.serverUrl ∧
      c.Organized ∧ (origin = .formerCloud → (nonEmpty? c.serverUrl).isSome))
    ⟨fun ⟨classified, clean, organized, addressed⟩ =>
      ⟨classified, clean, organized, addressed⟩,
      fun h => ⟨h.classified, h.clean, h.organized, h.addressed⟩⟩

theorem storageKey_settled (organized : c.Organized) :
    c.settled.storageKey = c.storageKey := by
  rcases @settled_cases c with ⟨-, same⟩ | ⟨unorganized, flag, selfHosted, own⟩
  · rw [same, storageKey_identified]
  · have notCloud : c.isCloud = false := by
      rw [← Bool.not_eq_true]
      exact fun cloud => unorganized ⟨cloud, organized cloud⟩
    rw [own, storageKey_identified, storageKey_of_not_cloud selfHosted]
    exact (storageKey_of_not_cloud notCloud).symm

theorem ofFormerCloud_eq (classified : c.cloudFlag.isSome)
    (addressed : (nonEmpty? c.serverUrl).isSome) : c.ofFormerCloud = c := by
  obtain ⟨flag, classified⟩ := Option.isSome_iff_exists.1 classified
  obtain ⟨url, present⟩ := Option.isSome_iff_exists.1 addressed
  rw [ofFormerCloud, present, classified, Option.some_or, Option.some_or,
    ← (nonEmpty?_eq_some_iff.1 present).1, ← classified]

/-- **A tidy connection keeps its key** when it is completed, whatever the classifier would
say. -/
theorem Tidy.storageKey_preparedBy (tidy : c.Tidy origin) :
    (c.preparedBy isCloud origin).storageKey = c.storageKey := by
  have classified : c.classifiedBy isCloud = c := classifiedBy_of_isSome tidy.classified
  have clean : c.withCleanUrl = c := by rw [withCleanUrl, tidy.clean]
  have settled : c.settled.storageKey = c.storageKey := storageKey_settled tidy.organized
  cases origin with
  | formerSelfHosted =>
      show ((c.withCleanUrl.classifiedBy isCloud).settled).storageKey = _
      rw [clean, classified, settled]
  | formerCloud =>
      have listed := ofFormerCloud_eq tidy.classified (tidy.addressed rfl)
      show ((c.ofFormerCloud.withCleanUrl.classifiedBy isCloud).settled).storageKey = _
      rw [listed, clean, classified, settled]
  | unified =>
      show (c.classifiedBy isCloud).storageKey = _
      rw [classified]

end Connection

/-! ## Former connections -/

namespace Registry

variable {cloudDomain : String} {b b' : Bench MemorySettings} {e : Edit} {answer : Answer}

/-- **Whether the secret of a connection that stays is deleted**, its key being the one that it
has once it is completed: this is so if the edit is about a connection with this key, and no
connection of the document has it as it is.  The secret of a tidy connection is not deleted. -/
theorem former_gone_iff_of_perform {origin : Origin} {c : Connection} {isCloud : String → Bool}
    {key : String} (answered : ((inMemory cloudDomain).perform e).outcome b = (.ok answer, b'))
    (stays : (origin, c) ∈ b'.document.connections.withOrigins)
    (keyed : (c.preparedBy isCloud origin).storageKey = some key)
    (held : (b.secrets.get? key).isSome) :
    (b'.secrets.get? key = none ↔ e.oldKey b.document = some key ∧
        ∀ d ∈ b'.document.connections.all, d.storageKey ≠ some key) ∧
      (c.Tidy origin → (b'.secrets.get? key).isSome) := by
  have gone := gone_iff_of_perform answered held
  refine ⟨gone, fun tidy => ?_⟩
  rw [Option.isSome_iff_ne_none]
  intro missing
  have own : c.storageKey = some key := tidy.storageKey_preparedBy.symm.trans keyed
  exact (gone.1 missing).2 c (ConnectionLists.mem_all_of_mem_withOrigins stays) own

/-- A connection of a former list shares the secret of one that is removed.  It is tidy. -/
theorem former_gone_iff_of_perform_tidy :
    let former : Connection :=
      ⟨some "former", some "https://app.codescan.io", some "org", some true, false, none⟩
    let b : Bench MemorySettings := .fresh
      (.of ⟨⟨[], [former], [{ former with id := some "org" }]⟩, [], []⟩) [("org", "t")]
      (.calm fun _ => false) .nobody
    let b' := (((inMemory "codescan.io").perform (.remove "org" .cloud)).outcome b).2
    ((inMemory "codescan.io").perform (.remove "org" .cloud)).outcome b =
        (.ok (.removed true), b') ∧
      (.formerCloud, former) ∈ b'.document.connections.withOrigins ∧
      (former.preparedBy (fun _ => false) .formerCloud).storageKey = some "org" ∧
      (b.secrets.get? "org").isSome ∧ former.Tidy .formerCloud ∧
      (b'.secrets.get? "org" = none ↔
        (Edit.remove "org" .cloud).oldKey b.document = some "org" ∧
          ∀ d ∈ b'.document.connections.all, d.storageKey ≠ some "org") ∧
      (b'.secrets.get? "org").isSome := by
  intro former b b'
  have answered : ((inMemory "codescan.io").perform (.remove "org" .cloud)).outcome b =
      (.ok (.removed true), b') := rfl
  have stays : (.formerCloud, former) ∈ b'.document.connections.withOrigins := .head []
  have keyed : (former.preparedBy (fun _ => false) .formerCloud).storageKey = some "org" := by
    decide +kernel
  have tidy : former.Tidy .formerCloud := by decide +kernel
  obtain ⟨gone, kept⟩ := former_gone_iff_of_perform answered stays keyed rfl
  exact ⟨answered, stays, keyed, rfl, tidy, gone, kept tidy⟩

/-- A connection of the former list for the cloud does not say that it is one, for that was
clear there.  The secret that it is going to have is deleted with another connection that has
it. -/
theorem former_secret_deleted_of_remove :
    let former : Connection := ⟨some "former", none, some "org", none, false, none⟩
    let entry : Connection :=
      ⟨some "org", some "https://app.codescan.io", some "org", some true, false, none⟩
    let b : Bench MemorySettings :=
      .fresh (.of ⟨⟨[], [former], [entry]⟩, [], []⟩) [("org", "t")]
      (.calm fun _ => false) .nobody
    let after := ((inMemory "codescan.io").remove "org" .cloud).outcome b
    b.conditions.Unfailing ∧ after.1 = .ok true ∧
      (.formerCloud, former) ∈ after.2.document.connections.withOrigins ∧
      (∀ isCloud, (former.preparedBy isCloud .formerCloud).storageKey = some "org") ∧
      b.secrets.get? "org" = some "t" ∧ after.2.secrets.get? "org" = none := by
  intro former entry b after
  have keyed : ∀ isCloud, (former.preparedBy isCloud .formerCloud).storageKey =
      some "org" := by
    intro isCloud
    rfl
  exact ⟨Conditions.unfailing_calm _, rfl, .head [], keyed, rfl, rfl⟩

end Registry

end ServerConnections
