import Mathlib.Data.List.Forall2
import ServerConnections.Registry.Migration
import ServerConnections.Proofs.Bench
import ServerConnections.Proofs.Connection

/-!
# What a migration has in mind

A migration makes two passes over the connections of a document.  The first one
gives every connection its final shape and moves its token, the second one moves
the connections of the former lists into the unified one.  Here the passes are
functions without a host: what they do depends on the document, on the table of
secrets, and on the answers of the classifier.

The shape of a connection decides under which key its token goes, and a token
without a key stays where it is.  The table of secrets decides whether a token is
stored or dropped, and it only ever grows.

* `Connection.completedBy`, `Connection.readiedBy` — the final shapes
* `SecretTable.moves`, `SecretTable.taking` — the first pass
* `mem_adopt_iff` — who is moved in the second pass
* `Migration` — the connections of both passes, and what comes of them
-/

namespace ServerConnections

/-! ## Shapes -/

namespace Connection

/-- The connection as a classified one. -/
def classifiedBy (isCloud : String → Bool) (c : Connection) : Connection :=
  match c.cloudFlag with
  | some _ => c
  | none => c.withCloudFlag (isCloud (c.serverUrl.getD ""))

/-- The shape of a connection of a former list. -/
def completedBy (isCloud : String → Bool) (inCloudList : Bool) (c : Connection) : Connection :=
  let c := if inCloudList then c.ofFormerCloud else c
  (c.withCleanUrl.classifiedBy isCloud).settled

/-- The shape of a connection of the unified list.  One without a token is left as
it is. -/
def readiedBy (isCloud : String → Bool) (c : Connection) : Connection :=
  if c.hasPlainToken then c.classifiedBy isCloud else c

/-- The shape by which the key of the token is found. -/
def preparedBy (isCloud : String → Bool) : Origin → Connection → Connection
  | .formerSelfHosted, c => c.completedBy isCloud false
  | .formerCloud, c => c.completedBy isCloud true
  | .unified, c => c.classifiedBy isCloud

/-- The connection once its token was moved.  A token without a key stays. -/
def relieved (c : Connection) : Connection :=
  if c.hasPlainToken && c.storageKey.isNone then c else c.withoutToken

variable {isCloud : String → Bool} {c : Connection}

/-- To be classified is nothing to a token. -/
@[simp] theorem token_classifiedBy : (c.classifiedBy isCloud).token = c.token := by
  unfold classifiedBy
  split <;> rfl

@[simp] theorem cloudFlag_classifiedBy_isSome : (c.classifiedBy isCloud).cloudFlag.isSome := by
  cases flag : c.cloudFlag <;> simp [classifiedBy, flag, withCloudFlag]

/-- What is classified already stays as it is. -/
theorem classifiedBy_of_isSome (h : c.cloudFlag.isSome) : c.classifiedBy isCloud = c := by
  obtain ⟨flag, h⟩ := Option.isSome_iff_exists.1 h
  simp [classifiedBy, h]

@[simp] theorem token_settled : c.settled.token = c.token := by
  unfold settled
  grind [withCloudFlag, withId]

/-- A connection that is settled stays classified. -/
theorem cloudFlag_settled_isSome (h : c.cloudFlag.isSome) : c.settled.cloudFlag.isSome := by
  unfold settled
  grind [withCloudFlag, withId]

/-- The connection under its default id, if it has none. -/
def identified (c : Connection) : Connection :=
  if (nonEmpty? c.id).isNone then c.withId c.defaultId else c

/-- Under its default id, if need be, every connection has one. -/
theorem id_identified_isSome : c.identified.id.isSome := by
  unfold identified
  split
  · rfl
  · rename_i present
    obtain ⟨id, named⟩ := Option.ne_none_iff_exists'.1 (by simpa using present)
    rw [(nonEmpty?_eq_some_iff.1 named).1]
    rfl

@[simp] theorem isCloud_identified : c.identified.isCloud = c.isCloud := by
  unfold identified
  split <;> rfl

@[simp] theorem organization_identified : c.identified.organization = c.organization := by
  unfold identified
  split <;> rfl

@[simp] theorem storageKey_identified : c.identified.storageKey = c.storageKey := by
  unfold identified
  split <;> rfl

/-- **A connection is settled in two ways**: as one of the cloud service it has an organization
and stays as it is, and otherwise it is self-hosted and has none. -/
theorem settled_cases :
    (c.isCloud ∧ (nonEmpty? c.organization).isSome) ∧ c.settled = c.identified ∨
      ¬ (c.isCloud ∧ (nonEmpty? c.organization).isSome) ∧ ∃ flag : Option Bool,
        Connection.isCloud { c with cloudFlag := flag, organization := none } = false ∧
          c.settled = identified { c with cloudFlag := flag, organization := none } := by
  by_cases organized : c.isCloud ∧ (nonEmpty? c.organization).isSome
  · have present : (nonEmpty? c.organization).isNone = false := by simpa using organized.2
    refine .inl ⟨organized, ?_⟩
    simp only [settled, identified, organized.1, present, Bool.and_false, Bool.false_eq_true,
      if_false, if_true]
  · refine .inr ⟨organized, ?_⟩
    cases cloud : c.isCloud with
    | false =>
        refine ⟨c.cloudFlag, cloud, ?_⟩
        simp only [settled, identified, cloud, Bool.false_and, Bool.false_eq_true, if_false]
    | true =>
        have missing : nonEmpty? c.organization = none := by simpa [cloud] using organized
        refine ⟨some false, rfl, ?_⟩
        simp only [settled, identified, cloud, missing, Option.isNone_none, Bool.and_true,
          if_true]
        rfl

/-- Every connection that is settled has an id. -/
theorem id_settled_isSome : c.settled.id.isSome := by
  rcases @settled_cases c with ⟨-, same⟩ | ⟨-, flag, -, own⟩
  · exact same ▸ id_identified_isSome
  · exact own ▸ id_identified_isSome

@[simp] theorem token_completedBy {inCloudList : Bool} :
    (c.completedBy isCloud inCloudList).token = c.token := by
  cases inCloudList <;> simp [completedBy, withCleanUrl, ofFormerCloud]

/-- Every connection that is completed is classified. -/
theorem cloudFlag_completedBy_isSome {inCloudList : Bool} :
    (c.completedBy isCloud inCloudList).cloudFlag.isSome :=
  cloudFlag_settled_isSome cloudFlag_classifiedBy_isSome

@[simp] theorem token_readiedBy : (c.readiedBy isCloud).token = c.token := by
  unfold readiedBy
  split <;> simp

/-- A token that is not empty is a plain token. -/
theorem hasPlainToken_of_token {token : String} (carried : c.token = some token)
    (filled : token ≠ "") : c.hasPlainToken :=
  nonEmpty?_isSome_iff.2 ⟨token, carried, filled⟩

/-- With a token, a connection of the unified list is classified. -/
theorem readiedBy_of_plain (plain : c.hasPlainToken) :
    c.readiedBy isCloud = c.classifiedBy isCloud :=
  if_pos plain

/-- Without a token, it is left as it is. -/
theorem readiedBy_of_not_plain (empty : ¬ c.hasPlainToken) : c.readiedBy isCloud = c :=
  if_neg empty

/-- A classified connection has its final shape. -/
theorem readiedBy_of_isSome (h : c.cloudFlag.isSome) : c.readiedBy isCloud = c := by
  unfold readiedBy
  split
  · exact classifiedBy_of_isSome h
  · rfl

/-- The shape by which a key is found has the token of the connection. -/
theorem token_preparedBy (origin : Origin) :
    (c.preparedBy isCloud origin).token = c.token := by
  cases origin <;> simp [preparedBy]

/-- A connection keeps its name when its token is moved. -/
@[simp] theorem isNamed_relieved {kind : ServerKind} {id : String} :
    isNamed kind id c.relieved = isNamed kind id c := by
  unfold relieved
  split <;> rfl

@[simp] theorem kind_relieved : c.relieved.kind = c.kind := by
  unfold relieved
  split <;> rfl

@[simp] theorem idText_relieved : c.relieved.idText = c.idText := by
  unfold relieved
  split <;> rfl

/-- An empty token does not stay. -/
theorem relieved_of_not_plain (empty : ¬ c.hasPlainToken) : c.relieved = c.withoutToken := by
  simp [relieved, empty]

/-- A token without a key stays. -/
theorem relieved_of_unkeyed (plain : c.hasPlainToken) (unkeyed : c.storageKey = none) :
    c.relieved = c := by
  simp [relieved, plain, unkeyed]

/-- A token with a key does not stay. -/
theorem relieved_of_keyed {key : String} (keyed : c.storageKey = some key) :
    c.relieved = c.withoutToken := by
  simp [relieved, keyed]

/-- A connection that keeps its token has none, or has no key for it. -/
theorem storageKey_eq_none_of_relieved (stays : c.relieved = c) (plain : c.hasPlainToken) :
    c.storageKey = none := by
  cases keyed : c.storageKey with
  | none => rfl
  | some key =>
      rw [relieved_of_keyed keyed] at stays
      rw [← stays] at plain
      cases plain

/-- The token is all that a connection can lose. -/
theorem relieved_eq_or : c.relieved = c ∨ c.relieved = c.withoutToken := by
  unfold relieved
  split
  · exact .inl rfl
  · exact .inr rfl

/-- What stayed once stays again. -/
@[simp] theorem relieved_relieved : c.relieved.relieved = c.relieved := by
  rcases @relieved_eq_or c with stays | bare
  · rw [stays, stays]
  · rw [bare]
    exact relieved_of_not_plain nofun

/-- What a connection carries after its token was moved, it carried before, without
a key. -/
theorem token_relieved_eq_some_iff {token : String} (filled : token ≠ "") :
    c.relieved.token = some token ↔ c.token = some token ∧ c.storageKey = none := by
  unfold relieved
  constructor
  · split
    · rename_i stays
      rw [Bool.and_eq_true] at stays
      exact fun carried => ⟨carried, Option.isNone_iff_eq_none.1 stays.2⟩
    · nofun
  · rintro ⟨carried, unkeyed⟩
    simp [hasPlainToken_of_token carried filled, unkeyed, carried]

end Connection

/-! ## The first pass -/

namespace SecretTable

/-- What becomes of the token of a connection. -/
def fateOf (t : SecretTable) (c : Connection) : TokenFate :=
  match c.token with
  | none => .absent
  | some token =>
    if token.isEmpty then .stripped
    else match c.storageKey with
      | none => .skipped
      | some key => if (t.get? key).isSome then .stripped else .migrated

/-- The table once the token of a connection was moved. -/
def taking (t : SecretTable) (c : Connection) : SecretTable :=
  match nonEmpty? c.token, c.storageKey with
  | some token, some key => if (t.get? key).isSome then t else t.put key token
  | _, _ => t

/-- The connections once their tokens were moved, with what became of them. -/
def moves : SecretTable → List Connection → List (Connection × TokenFate)
  | _, [] => []
  | t, c :: cs => (c.relieved, t.fateOf c) :: moves (t.taking c) cs

variable {t : SecretTable} {c : Connection} {cs : List Connection} {key : String}

/-- Without a token there is nothing to store. -/
theorem taking_of_not_plain (empty : ¬ c.hasPlainToken) : t.taking c = t := by
  unfold taking
  rw [Option.not_isSome_iff_eq_none.1 empty]

/-- Without a key there is nowhere to store it. -/
theorem taking_of_unkeyed (unkeyed : c.storageKey = none) : t.taking c = t := by
  unfold taking
  rw [unkeyed]
  split <;> first | rfl | contradiction

/-- A token with a key is stored, unless there is a secret already. -/
theorem taking_of_keyed {token : String} (carried : c.token = some token) (filled : token ≠ "")
    (keyed : c.storageKey = some key) :
    t.taking c = if (t.get? key).isSome then t else t.put key token := by
  simp [taking, nonEmpty?_eq_some_iff.2 ⟨carried, filled⟩, keyed]

/-- A token without a key is skipped. -/
theorem fateOf_of_unkeyed (plain : c.hasPlainToken) (unkeyed : c.storageKey = none) :
    t.fateOf c = .skipped := by
  obtain ⟨token, carried, filled⟩ := nonEmpty?_isSome_iff.1 plain
  simp [fateOf, carried, filled, unkeyed]

/-- A token with a key is stripped where there is a secret, and migrated where there is
none. -/
theorem fateOf_of_keyed (plain : c.hasPlainToken) (keyed : c.storageKey = some key) :
    t.fateOf c = if (t.get? key).isSome then .stripped else .migrated := by
  obtain ⟨token, carried, filled⟩ := nonEmpty?_isSome_iff.1 plain
  simp [fateOf, carried, filled, keyed]

/-- **A token is moved or dropped exactly if its connection changes**, whatever secrets
there are. -/
theorem fateOf_eq_or_iff :
    t.fateOf c = .migrated ∨ t.fateOf c = .stripped ↔ c.relieved ≠ c := by
  by_cases plain : c.hasPlainToken
  · cases keyed : c.storageKey with
    | none => simp [fateOf_of_unkeyed plain keyed, Connection.relieved_of_unkeyed plain keyed]
    | some key =>
        have changes : c.relieved ≠ c := fun stays => by
          simp [Connection.storageKey_eq_none_of_relieved stays plain] at keyed
        rw [fateOf_of_keyed plain keyed]
        refine iff_of_true ?_ changes
        by_cases there : (t.get? key).isSome <;> simp [there]
  · rw [Connection.relieved_of_not_plain plain]
    cases carried : c.token with
    | none =>
        have bare : c.withoutToken = c := by rw [Connection.withoutToken, ← carried]
        simp [fateOf, carried, bare]
    | some token =>
        have blank : token = "" := by
          by_contra filled
          exact plain (Connection.hasPlainToken_of_token carried filled)
        have changes : c.withoutToken ≠ c := fun same => by
          simpa [carried] using congrArg Connection.token same
        simp [fateOf, carried, blank, changes]

/-- The second part of a pass finds the table that the first part has left. -/
theorem moves_append (t : SecretTable) (cs ds : List Connection) :
    t.moves (cs ++ ds) = t.moves cs ++ (cs.foldl taking t).moves ds := by
  induction cs generalizing t with
  | nil => rfl
  | cons c cs ih => simp [moves, ih]

/-- What a pass makes of the connections does not depend on the secrets. -/
@[simp] theorem map_fst_moves (t : SecretTable) (cs : List Connection) :
    (t.moves cs).map Prod.fst = cs.map Connection.relieved := by
  induction cs generalizing t with
  | nil => rfl
  | cons c cs ih => simp [moves, ih]

/-- A pass drops no connection. -/
@[simp] theorem length_moves (t : SecretTable) (cs : List Connection) :
    (t.moves cs).length = cs.length := by
  rw [← List.length_map (f := Prod.fst), map_fst_moves, List.length_map]

/-- **A secret that is there stays.** -/
theorem get?_taking_of_isSome (h : (t.get? key).isSome) :
    (t.taking c).get? key = t.get? key := by
  unfold taking
  split
  · split
    · rfl
    · rename_i other missing
      rw [Keyed.get?_put, if_neg]
      rintro rfl
      exact missing h
  · rfl

/-- **A secret that is there stays** to the end of a pass. -/
theorem get?_foldl_taking_of_isSome (h : (t.get? key).isSome) :
    (cs.foldl taking t).get? key = t.get? key := by
  induction cs generalizing t with
  | nil => rfl
  | cons c cs ih =>
      have first := get?_taking_of_isSome (c := c) h
      rw [List.foldl_cons, ih (first ▸ h), first]

/-- Once a connection had its turn, there is a secret under its key. -/
theorem get?_taking_isSome (plain : c.hasPlainToken) (keyed : c.storageKey = some key) :
    ((t.taking c).get? key).isSome := by
  obtain ⟨token, carried⟩ := Option.isSome_iff_exists.1 plain
  unfold taking
  simp only [carried, keyed]
  split
  · assumption
  · simp [Keyed.get?_put]

/-- **Every token that has a key has a secret under it in the end.** -/
theorem get?_foldl_taking_isSome (there : c ∈ cs) (plain : c.hasPlainToken)
    (keyed : c.storageKey = some key) : ((cs.foldl taking t).get? key).isSome := by
  induction cs generalizing t with
  | nil => cases there
  | cons d cs ih =>
      rcases List.mem_cons.1 there with rfl | later
      -- The secret is there once `c` has had its turn, and it stays.
      · have now := get?_taking_isSome (t := t) plain keyed
        rw [List.foldl_cons, get?_foldl_taking_of_isSome now]
        exact now
      · exact ih later

/-- A token is moved or dropped in a pass exactly if some connection changes. -/
theorem any_fates_iff (t : SecretTable) (cs : List Connection) :
    ((t.moves cs).map Prod.snd).any (fun f => f == .migrated || f == .stripped) ↔
      ∃ c ∈ cs, c.relieved ≠ c := by
  induction cs generalizing t with
  | nil => simp [moves]
  | cons c cs ih =>
      have first := @fateOf_eq_or_iff t c
      simp only [moves, List.map_cons, List.any_cons, Bool.or_eq_true, beq_iff_eq, ih, first,
        List.exists_mem_cons_iff]

/-! ### Passes that are made again -/

/-- A connection that keeps what it carries leaves the table alone. -/
theorem taking_of_relieved (stays : c.relieved = c) : t.taking c = t := by
  by_cases plain : c.hasPlainToken
  · exact taking_of_unkeyed (Connection.storageKey_eq_none_of_relieved stays plain)
  · exact taking_of_not_plain plain

/-- A token is not stored where a secret is. -/
theorem taking_of_get?_isSome
    (there : c.hasPlainToken → ∀ key, c.storageKey = some key → (t.get? key).isSome) :
    t.taking c = t := by
  by_cases plain : c.hasPlainToken
  · obtain ⟨token, carried, filled⟩ := nonEmpty?_isSome_iff.1 plain
    cases keyed : c.storageKey with
    | none => exact taking_of_unkeyed keyed
    | some key => rw [taking_of_keyed carried filled keyed, if_pos (there plain key keyed)]
  · exact taking_of_not_plain plain

/-- A pass does nothing where none of its steps does. -/
theorem foldl_taking_of_fixed (fixed : ∀ c ∈ cs, t.taking c = t) : cs.foldl taking t = t := by
  induction cs with
  | nil => rfl
  | cons c cs ih =>
      obtain ⟨first, rest⟩ := List.forall_mem_cons.1 fixed
      rw [List.foldl_cons, first, ih rest]

/-- **A pass may be begun and then made from the start.**  What was stored by the first
few connections is found by them, and the others come after them as before. -/
theorem foldl_taking_append_foldl (before after : List Connection) (t : SecretTable) :
    (before ++ after).foldl taking (before.foldl taking t) =
      (before ++ after).foldl taking t := by
  have found : before.foldl taking (before.foldl taking t) = before.foldl taking t :=
    foldl_taking_of_fixed fun c there => taking_of_get?_isSome fun plain key keyed =>
      get?_foldl_taking_isSome there plain keyed
  rw [List.foldl_append, found, ← List.foldl_append]

end SecretTable

/-! ## The second pass -/

section Adopt

variable {servers cs : List Connection} {c d : Connection}

/-- Whether no connection of a list has the name under which one is to be moved. -/
def Connection.IsFreeIn (c : Connection) (ds : List Connection) : Prop :=
  ∀ d ∈ ds, isNamed c.kind c.idText d = false

/-- A name is free in two lists if it is free in both. -/
theorem Connection.isFreeIn_append :
    c.IsFreeIn (servers ++ cs) ↔ c.IsFreeIn servers ∧ c.IsFreeIn cs := by
  simp [IsFreeIn, or_imp, forall_and]

/-- A name is free in a list if its first connection and the others have another one. -/
theorem Connection.isFreeIn_cons :
    c.IsFreeIn (d :: cs) ↔ isNamed c.kind c.idText d = false ∧ c.IsFreeIn cs := by
  simp [IsFreeIn]

/-- A connection that is not moved has a name that is in the list already. -/
theorem Connection.not_isNamed_of_taken (taken : ¬ c.IsFreeIn servers)
    (free : d.IsFreeIn servers) :
    isNamed d.kind d.idText c = false := by
  refine Bool.eq_false_iff.2 fun named => taken fun e there => ?_
  have other := free e there
  rw [isNamed_iff, name, Prod.mk.injEq] at named
  simpa [named.1, idText, named.2] using other

/-- **Who is moved**: the list keeps its connections, and a connection comes to its
end if neither the list nor the connections before have its name. -/
theorem mem_adopt_iff :
    d ∈ (adopt servers cs).1 ↔
      d ∈ servers ∨ ∃ before after, cs = before ++ d :: after ∧
        d.IsFreeIn (servers ++ before) := by
  induction cs generalizing servers with
  | nil => simp [adopt]
  | cons c cs ih =>
      -- The connections before `d` are none, or they begin with `c`.
      have split : (∃ before after, c :: cs = before ++ d :: after ∧
            d.IsFreeIn (servers ++ before)) ↔
          (c = d ∧ d.IsFreeIn servers) ∨ ∃ before after, cs = before ++ d :: after ∧
            d.IsFreeIn (servers ++ c :: before) := by
        constructor
        · rintro ⟨_ | ⟨e, before⟩, after, parts, free⟩
          · obtain ⟨rfl, rfl⟩ := List.cons.inj parts
            exact .inl ⟨rfl, by simpa using free⟩
          · obtain ⟨rfl, rfl⟩ := List.cons.inj parts
            exact .inr ⟨before, after, rfl, free⟩
        · rintro (⟨rfl, free⟩ | ⟨before, after, rfl, free⟩)
          · exact ⟨[], cs, rfl, by simpa using free⟩
          · exact ⟨c :: before, after, rfl, free⟩
      rw [split, adopt]
      by_cases free : c.IsFreeIn servers
      · have untaken : servers.any (Connection.isNamed c.kind c.idText) = false := by
          simpa [Connection.IsFreeIn, List.any_eq_false] using free
        simp only [untaken, Bool.false_eq_true, if_false, ih, List.mem_append,
          List.mem_singleton, List.append_assoc, List.singleton_append]
        grind
      · have taken : servers.any (Connection.isNamed c.kind c.idText) = true := by
          simpa [Connection.IsFreeIn, List.any_eq_true] using free
        -- Since `c` is not moved, a name that is free in the list differs from that of `c`.
        have same : ∀ before,
            d.IsFreeIn (servers ++ c :: before) ↔ d.IsFreeIn (servers ++ before) := by
          intro before
          simp only [Connection.isFreeIn_append, Connection.isFreeIn_cons]
          exact and_congr_right fun unnamed =>
            and_iff_right (Connection.not_isNamed_of_taken free unnamed)
        simp only [taken, if_true, ih, same]
        grind

/-- Where there are connections at all the list is not empty afterwards. -/
theorem adopt_ne_nil (h : servers ≠ [] ∨ cs ≠ []) : (adopt servers cs).1 ≠ [] := by
  cases servers with
  | cons c servers => exact List.ne_nil_of_mem (mem_adopt_iff.2 (.inl (.head servers)))
  | nil =>
      cases cs with
      | nil => simp at h
      | cons c cs =>
          -- The first one to be moved finds every name free.
          have first : c ∈ (adopt [] (c :: cs)).1 :=
            mem_adopt_iff.2 (.inr ⟨[], cs, rfl, by simp [Connection.IsFreeIn]⟩)
          exact List.ne_nil_of_mem first

end Adopt

/-! ## Both passes -/

/-- The connections of a migration in their final shapes, with their tokens. -/
structure Migration where
  /-- Those of the former lists. -/
  former : List Connection
  /-- Those of the unified list. -/
  unified : List Connection

namespace Migration

variable (m : Migration)

/-- All connections, in the order in which their tokens are moved. -/
def all : List Connection := m.former ++ m.unified

/-- The table of secrets afterwards. -/
def table (t : SecretTable) : SecretTable := m.all.foldl SecretTable.taking t

/-- What becomes of the tokens. -/
def fates (t : SecretTable) : List TokenFate := (t.moves m.all).map Prod.snd

/-- The unified list afterwards, and the number of connections that were not moved
to it. -/
def adopted : List Connection × Nat :=
  adopt (m.unified.map Connection.relieved) (m.former.map Connection.relieved)

/-- **The document afterwards**, if it is saved. -/
def document (s : Settings) : Settings := s.withConnections ⟨[], [], m.adopted.1⟩

/-- Whether the document changes. -/
def changes (s : Settings) (t : SecretTable) : Bool :=
  s.connections.hasLegacy || (m.fates t).any fun f => f == .migrated || f == .stripped

/-- Whether the document is saved. -/
def saves (s : Settings) (t : SecretTable) : Bool := m.changes s t && !m.adopted.1.isEmpty

/-- What is reported. -/
def report (s : Settings) (t : SecretTable) : MigrationReport :=
  .of (m.fates t) (m.former.length - m.adopted.2) m.adopted.2 (m.saves s t)

/-- **The host afterwards.** -/
def finished (k : Bench MemorySettings) : Bench MemorySettings :=
  let k' := k.withSecrets (m.table k.secrets)
  if m.saves k.document k.secrets then k'.saved (m.document k.document) else k'

/-- The tokens of the former lists are moved first. -/
theorem fates_eq_append (t : SecretTable) :
    m.fates t = (t.moves m.former).map Prod.snd ++
      ((m.former.foldl SecretTable.taking t).moves m.unified).map Prod.snd := by
  rw [fates, all, SecretTable.moves_append, List.map_append]

/-- The secrets of the former lists are there when the unified list has its turn. -/
theorem table_eq_foldl (t : SecretTable) :
    m.table t = m.unified.foldl SecretTable.taking (m.former.foldl SecretTable.taking t) :=
  List.foldl_append

/-- **There is nothing to do**: the former lists are empty, and every connection keeps
what it carries. -/
def IsIdle (s : Settings) : Prop :=
  s.connections.hasLegacy = false ∧ ∀ c ∈ m.all, c.relieved = c

/-- Whether the document changes does not depend on the secrets. -/
theorem changes_eq_false_iff {s : Settings} {t : SecretTable} :
    m.changes s t = false ↔ m.IsIdle s := by
  have idle := not_congr (SecretTable.any_fates_iff t m.all)
  rw [changes, fates, Bool.or_eq_false_iff, IsIdle, ← Bool.not_eq_true (List.any _ _), idle]
  simp

/-- Where there is nothing to do, no secret is stored. -/
theorem table_of_isIdle {s : Settings} (idle : m.IsIdle s) (t : SecretTable) : m.table t = t :=
  SecretTable.foldl_taking_of_fixed fun c there =>
    SecretTable.taking_of_relieved (idle.2 c there)

/-- Whether a connection is in the unified list afterwards: it was there before, or
it is moved there, its name being free. -/
def Stays (c : Connection) : Prop :=
  c ∈ m.unified ∨ ∃ before after, m.former = before ++ c :: after ∧
    c.IsFreeIn (m.unified ++ before)

end Migration

/-- Connections in their final shapes, each by the verdict of some time. -/
def Shaped (shape : (String → Bool) → Connection → Connection)
    (verdict : Nat → String → Bool) :
    List Connection → List Connection → Prop :=
  List.Forall₂ fun c d => ∃ n, d = shape (verdict n) c

/-- **A migration of a document**: its connections have the shapes that the verdicts
give them. -/
structure Settings.Readies (s : Settings) (verdict : Nat → String → Bool) (m : Migration) :
    Prop where
  former : ∃ selfHosted cloud, m.former = selfHosted ++ cloud ∧
    Shaped (fun isCloud c => c.completedBy isCloud false) verdict
      s.connections.legacySelfHosted
      selfHosted ∧
    Shaped (fun isCloud c => c.completedBy isCloud true) verdict
      s.connections.legacyCloud cloud
  unified : Shaped Connection.readiedBy verdict s.servers m.unified

/-- Shapes by one verdict for all. -/
theorem shaped_map {shape : (String → Bool) → Connection → Connection}
    {verdict : Nat → String → Bool} (n : Nat) (cs : List Connection) :
    Shaped shape verdict cs (cs.map (shape (verdict n))) := by
  induction cs with
  | nil => exact .nil
  | cons c cs ih => exact .cons ⟨n, rfl⟩ ih

/-- What is true of a shape is true of the connections that have it. -/
theorem Shaped.forall_mem {shape : (String → Bool) → Connection → Connection}
    {verdict : Nat → String → Bool} {P : Connection → Prop} {cs ds : List Connection}
    (h : Shaped shape verdict cs ds) (holds : ∀ isCloud c, P (shape isCloud c)) :
    ∀ d ∈ ds, P d := by
  induction h with
  | nil => nofun
  | cons shaped _ ih =>
      obtain ⟨n, rfl⟩ := shaped
      exact List.forall_mem_cons.2 ⟨holds (verdict n) _, ih⟩

/-- Every connection of a former list is classified in its final shape. -/
theorem Shaped.classified {inCloudList : Bool} {verdict : Nat → String → Bool}
    {cs ds : List Connection}
    (h : Shaped (fun isCloud c => c.completedBy isCloud inCloudList) verdict cs ds) :
    ∀ d ∈ ds, d.cloudFlag.isSome :=
  h.forall_mem fun _ _ => Connection.cloudFlag_completedBy_isSome

/-- Classified connections have their final shapes. -/
theorem Shaped.eq_self_of_classified {verdict : Nat → String → Bool} {cs ds : List Connection}
    (h : Shaped Connection.readiedBy verdict cs ds)
    (classified : ∀ c ∈ cs, c.cloudFlag.isSome) :
    ds = cs := by
  induction h with
  | nil => rfl
  | cons shaped _ ih =>
      obtain ⟨n, rfl⟩ := shaped
      obtain ⟨first, rest⟩ := List.forall_mem_cons.1 classified
      rw [Connection.readiedBy_of_isSome first, ih rest]

/-- The migration of a document by one verdict for all times. -/
def Settings.migration (s : Settings) (isCloud : String → Bool) : Migration where
  former := s.connections.legacySelfHosted.map (Connection.completedBy isCloud false) ++
    s.connections.legacyCloud.map (Connection.completedBy isCloud true)
  unified := s.servers.map (Connection.readiedBy isCloud)

/-- By a steady verdict there is one shape for each connection. -/
theorem Shaped.eq_map {shape : (String → Bool) → Connection → Connection}
    {isCloud : String → Bool} {verdict : Nat → String → Bool}
    (steady : ∀ n, verdict n = isCloud)
    {cs ds : List Connection} (h : Shaped shape verdict cs ds) :
    ds = cs.map (shape isCloud) := by
  induction h with
  | nil => rfl
  | cons shaped _ ih =>
      obtain ⟨n, rfl⟩ := shaped
      rw [List.map_cons, steady n, ih]

/-- **By a steady verdict there is one migration of a document.** -/
theorem Settings.Readies.eq_migration {s : Settings} {isCloud : String → Bool}
    {verdict : Nat → String → Bool} (steady : ∀ n, verdict n = isCloud) {m : Migration}
    (h : s.Readies verdict m) : m = s.migration isCloud := by
  obtain ⟨former, unified⟩ := m
  obtain ⟨selfHosted, cloud, rfl, own, clouds⟩ := h.former
  obtain rfl := own.eq_map steady
  obtain rfl := clouds.eq_map steady
  obtain rfl := h.unified.eq_map steady
  rfl

/-- The migration by one verdict is a migration of the document. -/
theorem Settings.readies_migration (s : Settings) (isCloud : String → Bool) :
    s.Readies (fun _ => isCloud) (s.migration isCloud) :=
  ⟨⟨_, _, rfl, shaped_map 0 _, shaped_map 0 _⟩, shaped_map 0 _⟩

namespace Settings.Readies

variable {s : Settings} {verdict : Nat → String → Bool} {m : Migration}

/-- Every connection of the former lists takes part in a migration. -/
theorem length_former (h : s.Readies verdict m) :
    m.former.length =
      s.connections.legacySelfHosted.length + s.connections.legacyCloud.length := by
  obtain ⟨selfHosted, cloud, former, own, clouds⟩ := h.former
  rw [former, List.length_append, ← own.length_eq, ← clouds.length_eq]

/-- There are former lists if some connection comes from them. -/
theorem hasLegacy_iff (h : s.Readies verdict m) : s.connections.hasLegacy ↔ m.former ≠ [] := by
  rw [← List.length_pos_iff, h.length_former, Nat.add_pos_iff_pos_or_pos, List.length_pos_iff,
    List.length_pos_iff]
  simp [ConnectionLists.hasLegacy]

end Settings.Readies

end ServerConnections
