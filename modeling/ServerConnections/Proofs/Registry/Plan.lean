import ServerConnections.Registry.Edit
import ServerConnections.Proofs.Bench
import ServerConnections.Proofs.Connection

/-!
# What changes a registry has in mind

Adding and changing a connection begin with a decision: from the document as it
was loaded, from what the caller gave, and from the classifier's answer to one
question, a registry decides what it will write, or that it rejects what was
asked for.  This decision touches nothing.  Here it is a function of its own,
without a host.

* `Settings.addition` — the connection that will be appended
* `Settings.change` — the `Change` that will be made, with the entry concerned
* `Settings.Allows` — all that is known of a change once it was decided on
* `Change.stored`, `Change.applied` — the table of secrets and the document after
  the change
-/

namespace ServerConnections

/-! ## Additions -/

/-- The connection to be kept for a new one. -/
def Connection.checkedBy (isCloud : String → Bool) (c : Connection) :
    Except ConnectionError Connection :=
  match c.givenUrl? with
  | none => .error .missingServerUrl
  | some serverUrl =>
    if c.cloudFlag.getD (isCloud serverUrl) then
      match nonEmpty? c.organization with
      | none => .error (.missingOrganization serverUrl)
      | some organization => .ok (c.kept serverUrl (some organization) true)
    else .ok (c.kept serverUrl none false)

/-- **The connection that will be appended** for a new one. -/
def Settings.addition (s : Settings) (isCloud : String → Bool) (c : Connection) :
    Except ConnectionError Connection :=
  (c.checkedBy isCloud).bind fun kept =>
    if (s.connections.position? kept.kind kept.idText).isSome then
      .error (.alreadyExists kept.kind kept.idText)
    else .ok kept

/-- What is kept has an id: its own, or its default one. -/
theorem Connection.id_kept (c : Connection) (serverUrl : String) (organization : Option String)
    (isCloud : Bool) :
    ∃ id, (c.kept serverUrl organization isCloud).id = some id ∧ id ≠ "" := by
  cases given : nonEmpty? c.id with
  | some id => exact ⟨id, by simp [kept, given], ne_empty_of_nonEmpty? given⟩
  | none =>
      refine ⟨_, ?_,
        defaultId_ne_empty ⟨none, some serverUrl, organization, some isCloud, c.muted, none⟩⟩
      simp [kept, given, withId]

/-- The other fields of a connection that is kept do not depend on its id. -/
theorem Connection.kept_eq (c : Connection) (serverUrl : String) (organization : Option String)
    (isCloud : Bool) :
    c.kept serverUrl organization isCloud =
      ⟨(c.kept serverUrl organization isCloud).id, some serverUrl, organization, some isCloud,
        c.muted, none⟩ := by
  cases given : nonEmpty? c.id <;> simp [kept, given, withId]

/-- The document after an addition. -/
def Settings.added (s : Settings) (kept : Connection) : Settings :=
  s.withServers (s.servers ++ [kept])

/-- The document without an entry of the unified list. -/
def Settings.without (s : Settings) (i : Nat) : Settings :=
  s.withServers (s.servers.eraseIdx i)

/-- **All that is known of an addition** once it was decided on. -/
structure Settings.Admits (s : Settings) (c kept : Connection) : Prop where
  id : ∃ id, kept.id = some id ∧ id ≠ ""
  serverUrl : kept.serverUrl = c.givenUrl?
  serverUrl_isSome : c.givenUrl?.isSome
  organization : kept.organization = if kept.isCloud then nonEmpty? c.organization else none
  organization_isSome : kept.isCloud → (nonEmpty? c.organization).isSome
  classified : kept.cloudFlag.isSome
  token : kept.token = none
  free : s.connections.position? kept.kind kept.idText = none

/-- Nothing stands in the way of a connection that is to be kept. -/
theorem Connection.checkedBy_eq_ok {isCloud : String → Bool} {c kept : Connection}
    (h : c.checkedBy isCloud = .ok kept) :
    ∃ serverUrl cloud, c.givenUrl? = some serverUrl ∧
      cloud = c.cloudFlag.getD (isCloud serverUrl) ∧
      (cloud → (nonEmpty? c.organization).isSome) ∧
      kept = c.kept serverUrl (if cloud then nonEmpty? c.organization else none) cloud := by
  unfold checkedBy at h
  cases url : c.givenUrl? with
  | none => simp [url] at h
  | some serverUrl =>
      simp only [url] at h
      refine ⟨serverUrl, _, rfl, rfl, ?_⟩
      -- An organization is asked for only where the connection leads to the cloud service.
      cases cloud : c.cloudFlag.getD (isCloud serverUrl) with
      | false =>
          simp only [cloud, Bool.false_eq_true, if_false] at h
          cases h
          exact ⟨nofun, rfl⟩
      | true =>
          cases org : nonEmpty? c.organization with
          | none => simp [cloud, org] at h
          | some organization =>
              simp only [cloud, org, if_true] at h
              cases h
              exact ⟨fun _ => rfl, rfl⟩

/-- An addition is allowed if the connection passes its checks and its name is free. -/
theorem Settings.addition_eq_ok_iff {s : Settings} {isCloud : String → Bool}
    {c kept : Connection} : s.addition isCloud c = .ok kept ↔
      c.checkedBy isCloud = .ok kept ∧
        s.connections.position? kept.kind kept.idText = none := by
  unfold addition
  cases checked : c.checkedBy isCloud with
  | error e => simp [Except.bind]
  | ok found =>
      simp only [Except.bind, Except.ok.injEq]
      by_cases free : s.connections.position? found.kind found.idText = none
      · rw [free, if_neg (by simp), Except.ok.injEq]
        refine (and_iff_left_of_imp ?_).symm
        rintro rfl
        exact free
      · rw [if_pos (Option.isSome_iff_ne_none.2 free)]
        refine iff_of_false nofun ?_
        rintro ⟨rfl, free'⟩
        exact free free'

/-- **What an addition that is allowed comes to.** -/
theorem Settings.admits_of_addition {s : Settings} {isCloud : String → Bool}
    {c kept : Connection} (h : s.addition isCloud c = .ok kept) : s.Admits c kept := by
  obtain ⟨checked, free⟩ := addition_eq_ok_iff.1 h
  obtain ⟨serverUrl, cloud, url, -, organized, rfl⟩ := Connection.checkedBy_eq_ok checked
  have fields := c.kept_eq serverUrl (if cloud then nonEmpty? c.organization else none) cloud
  exact
    { id := c.id_kept _ _ _
      serverUrl := by rw [fields, url]
      serverUrl_isSome := by simp [url]
      organization := by rw [fields]; rfl
      organization_isSome := by rw [fields]; exact organized
      classified := by rw [fields]; rfl
      token := by rw [fields]
      free }

/-! ## Changes -/

/-- A change of one connection. -/
structure Change where
  index : Nat
  existing : Connection
  changed : Connection

/-- The connection that is to be changed, with its index. -/
def Settings.target? (s : Settings) (c : Connection) : Option (Nat × Connection) :=
  (s.connections.positionAny? c.askedKind c.idText).bind fun i =>
    s.servers[i]?.map fun existing => (i, existing)

/-- The flag of a connection after a change, unless it is to be found out. -/
def Connection.flagAfter (c existing : Connection) (serverUrl : String)
    (organization : Option String) : Option Bool :=
  let moved := existing.serverUrl != some serverUrl || organization != existing.organization
  c.cloudFlag.or (existing.cloudFlag.filter fun _ => !moved)

/-- The connection that an existing one is to become. -/
def Settings.changedBy (s : Settings) (isCloud : String → Bool) (c existing : Connection) :
    Except ConnectionError Connection :=
  match c.givenUrl?.or existing.serverUrl with
  | none => .error .missingServerUrl
  | some serverUrl =>
    let organization := Registry.changedOrganization c existing
    let cloud := (c.flagAfter existing serverUrl organization).getD (isCloud serverUrl)
    let kind := ServerKind.ofFlag cloud
    if cloud && organization.isNone then .error (.missingOrganization serverUrl)
    else if kind != existing.kind && (s.connections.position? kind c.idText).isSome then
      .error (.alreadyExists kind c.idText)
    else .ok (existing.changed serverUrl organization cloud c.muted)

/-- **The change that will be made.** -/
def Settings.change (s : Settings) (isCloud : String → Bool) (c : Connection) :
    Except ConnectionError Change :=
  match s.target? c with
  | none => .error (.notFound c.idText)
  | some (i, existing) =>
      (s.changedBy isCloud c existing).map fun changed => ⟨i, existing, changed⟩

/-- Whether an entry is one that `c` may mean. -/
def Connection.mayMean (c entry : Connection) : Bool :=
  (c.askedKind.all fun kind => entry.kind == kind) && entry.hasId c.idText

/-- A connection may mean an entry of its id, and of its kind if it says which. -/
theorem Connection.mayMean_iff {c entry : Connection} : c.mayMean entry ↔
    (∀ kind, c.askedKind = some kind → entry.kind = kind) ∧ entry.id = some c.idText := by
  simp only [mayMean, Bool.and_eq_true, hasId, beq_iff_eq, Option.all_eq_true]

/-- Only an entry of its id can be meant. -/
theorem Connection.id_of_mayMean {c entry : Connection} (meant : c.mayMean entry) :
    entry.id = some c.idText :=
  (mayMean_iff.1 meant).2

/-- The entry that is changed is the first one that may be meant. -/
theorem Settings.positionAny?_eq (s : Settings) (c : Connection) :
    s.connections.positionAny? c.askedKind c.idText = s.servers.findIdx? c.mayMean := by
  have means : c.mayMean = fun entry =>
      (c.askedKind.all fun kind => entry.kind == kind) && entry.hasId c.idText := rfl
  rw [means]
  cases c.askedKind with
  | none => simp [ConnectionLists.positionAny?, Settings.servers]
  | some kind => rfl

/-- The connection that is to be changed is the first one that is meant. -/
theorem Settings.target?_eq_some_iff {s : Settings} {c existing : Connection} {i : Nat} :
    s.target? c = some (i, existing) ↔
      s.servers[i]? = some existing ∧ c.mayMean existing ∧
        ∀ j < i, ∀ entry, s.servers[j]? = some entry → c.mayMean entry = false := by
  rw [target?, positionAny?_eq]
  simp only [Option.bind_eq_some_iff, Option.map_eq_some_iff, Prod.mk.injEq,
    List.findIdx?_eq_some_iff_getElem]
  constructor
  · rintro ⟨_, ⟨bound, meant, first⟩, _, entry, rfl, rfl⟩
    obtain ⟨_, rfl⟩ := List.getElem?_eq_some_iff.1 entry
    refine ⟨entry, meant, fun j before d there => ?_⟩
    obtain ⟨_, rfl⟩ := List.getElem?_eq_some_iff.1 there
    simpa using first j before
  · rintro ⟨entry, meant, first⟩
    obtain ⟨bound, rfl⟩ := List.getElem?_eq_some_iff.1 entry
    refine ⟨i, ⟨bound, meant, fun j before => ?_⟩, _, entry, rfl, rfl⟩
    simpa using first j before _ (List.getElem?_eq_getElem (Nat.lt_trans before bound))

theorem Settings.target?_isSome (s : Settings) (c : Connection) :
    (s.target? c).isSome = (s.connections.positionAny? c.askedKind c.idText).isSome := by
  unfold target?
  cases found : s.connections.positionAny? c.askedKind c.idText with
  | none => rfl
  | some i =>
      rw [positionAny?_eq, List.findIdx?_eq_some_iff_getElem] at found
      obtain ⟨bound, -⟩ := found
      simp [bound]

/-- **All that is known of a change** once it was decided on: which entry is
meant, and what it becomes. -/
structure Settings.Allows (s : Settings) (c : Connection) (ch : Change) : Prop where
  entry : s.servers[ch.index]? = some ch.existing
  meant : c.mayMean ch.existing
  first : ∀ j < ch.index, ∀ d, s.servers[j]? = some d → c.mayMean d = false
  id : ch.changed.id = ch.existing.id
  serverUrl : ch.changed.serverUrl = c.givenUrl?.or ch.existing.serverUrl
  serverUrl_isSome : ch.changed.serverUrl.isSome
  organization : ch.changed.organization =
    if ch.changed.isCloud then Registry.changedOrganization c ch.existing else none
  organization_isSome : ch.changed.isCloud →
    (Registry.changedOrganization c ch.existing).isSome
  classified : ch.changed.cloudFlag.isSome
  asked : ∀ flag, c.cloudFlag = some flag → ch.changed.cloudFlag = some flag
  muted : ch.changed.muted = c.muted
  token : ch.changed.token = none
  /-- A connection that goes to the other kind finds its id free there. -/
  free : ch.changed.kind ≠ ch.existing.kind →
    s.connections.position? ch.changed.kind c.idText = none

/-- A change that is allowed is one of the entry that is meant. -/
theorem Settings.Allows.target? {s : Settings} {c : Connection} {ch : Change}
    (h : s.Allows c ch) : s.target? c = some (ch.index, ch.existing) :=
  target?_eq_some_iff.2 ⟨h.entry, h.meant, h.first⟩

/-- Nothing stands in the way of a connection that an existing one is to become. -/
theorem Settings.changedBy_eq_ok {s : Settings} {isCloud : String → Bool}
    {c existing changed : Connection} (h : s.changedBy isCloud c existing = .ok changed) :
    ∃ serverUrl cloud, c.givenUrl?.or existing.serverUrl = some serverUrl ∧
      cloud = (c.flagAfter existing serverUrl
        (Registry.changedOrganization c existing)).getD (isCloud serverUrl) ∧
      (cloud → (Registry.changedOrganization c existing).isSome) ∧
      (ServerKind.ofFlag cloud ≠ existing.kind →
        s.connections.position? (.ofFlag cloud) c.idText = none) ∧
      changed = existing.changed serverUrl (Registry.changedOrganization c existing) cloud
        c.muted := by
  unfold changedBy at h
  cases url : c.givenUrl?.or existing.serverUrl with
  | none => simp [url] at h
  | some serverUrl =>
      simp only [url] at h
      refine ⟨serverUrl, _, rfl, rfl, ?_⟩
      split at h
      · cases h
      · rename_i organized
        split at h
        · cases h
        · rename_i free
          cases h
          refine ⟨fun cloud => ?_, fun other => ?_, rfl⟩
          · simpa [cloud, Option.isSome_iff_ne_none] using organized
          · simpa [other] using free

/-- **What a change that is allowed comes to.** -/
theorem Settings.allows_of_change {s : Settings} {isCloud : String → Bool} {c : Connection}
    {ch : Change} (h : s.change isCloud c = .ok ch) : s.Allows c ch := by
  unfold change at h
  cases found : s.target? c with
  | none => simp [found] at h
  | some target =>
      obtain ⟨i, existing⟩ := target
      obtain ⟨entry, meant, first⟩ := target?_eq_some_iff.1 found
      cases become : s.changedBy isCloud c existing with
      | error e => simp [found, become, Except.map] at h
      | ok changed =>
          simp only [found, become, Except.map, Except.ok.injEq] at h
          subst h
          obtain ⟨serverUrl, cloud, url, rule, organized, free, rfl⟩ := changedBy_eq_ok become
          exact
            { entry, meant, first
              id := rfl
              serverUrl := url.symm
              serverUrl_isSome := rfl
              organization := rfl
              organization_isSome := organized
              classified := rfl
              asked := fun flag given => by
                simp [rule, Connection.flagAfter, given, Connection.changed]
              muted := rfl
              token := rfl
              free := free }

namespace Change

/-- **The document after the change.** -/
def applied (ch : Change) (s : Settings) : Settings :=
  s.withServers (s.servers.set ch.index ch.changed)

/-- The token that is stored with the change: the one given, else the one under
the old key if the key changes. -/
def token (ch : Change) (c : Connection) (t : SecretTable) : Option String :=
  (nonEmpty? c.token).or
    (if ch.existing.storageKey = ch.changed.storageKey then none else t.tokenOf ch.existing)

/-- The table of secrets once the token is stored. -/
def stored (ch : Change) (c : Connection) (t : SecretTable) : SecretTable :=
  t.storing ch.changed.storageKey (ch.token c t)

end Change

/-- A key is in use if some connection has it, in whichever list. -/
theorem Settings.usesKey_iff {s : Settings} {key : String} :
    s.usesKey key ↔ ∃ c ∈ s.connections.all, c.storageKey = some key := by
  simp [usesKey, ConnectionLists.usesKey]

/-- A document uses the keys of the connections in its unified list. -/
theorem Settings.usesKey_of_mem {s : Settings} {c : Connection} {key : String}
    (entry : c ∈ s.servers) (keyed : c.storageKey = some key) : s.usesKey key :=
  usesKey_iff.2 ⟨c, List.mem_append_right _ entry, keyed⟩

/-- A changed connection is in the document after the change. -/
theorem Settings.Allows.changed_mem {s : Settings} {c : Connection} {ch : Change}
    (h : s.Allows c ch) : ch.changed ∈ (ch.applied s).servers := by
  obtain ⟨bound, -⟩ := List.getElem?_eq_some_iff.1 h.entry
  exact List.mem_set bound ch.changed

end ServerConnections
