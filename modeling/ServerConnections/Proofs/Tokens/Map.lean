import ServerConnections.Proofs.Connection
import ServerConnections.Proofs.Registry.Session

/-!
# Tokens seen through a function

A function on texts takes every token to another one, wherever tokens are: on
connections, in documents, in tables of secrets, in operations and replies.  A
registry asks of a token whether it is there and whether it is empty.  What it
decides is the same for the data that are seen through a function, provided that
the function takes no token to an empty one but the empty one.

Keys, ids, kinds and places in lists have nothing to do with tokens.

* `Connection.mapToken`, `Settings.mapTokens`, `SecretTable.mapTokens`,
  `Operation.mapTokens`, `Reply.mapTokens` — the data
* `FillsAlike` — the proviso
* `ConnectionLists.position?_mapTokens` and others — what does not change
* `adopt_map_mapToken` — the second pass of a migration
-/

namespace ServerConnections

/-- The function takes filled tokens to filled ones, and the empty one to itself. -/
def FillsAlike (f : String → String) : Prop := ∀ token, (f token).isEmpty = token.isEmpty

/-- Tokens seen as they are. -/
theorem fillsAlike_id : FillsAlike id := fun _ => rfl

/-- A token is there on both sides or on neither. -/
theorem FillsAlike.nonEmpty?_map {f : String → String} (filled : FillsAlike f)
    (token : Option String) : nonEmpty? (token.map f) = (nonEmpty? token).map f := by
  cases token with
  | none => rfl
  | some token =>
      unfold FillsAlike at filled
      by_cases empty : token.isEmpty <;> simp [nonEmpty?, filled, empty, Option.filter]

/-! ## Connections -/

namespace Connection

variable (f : String → String) (c : Connection)

/-- The connection with its token seen through a function. -/
def mapToken : Connection := { c with token := c.token.map f }

@[simp] theorem token_mapToken : (c.mapToken f).token = c.token.map f := rfl

@[simp] theorem storageKey_mapToken : (c.mapToken f).storageKey = c.storageKey := rfl

@[simp] theorem kind_mapToken : (c.mapToken f).kind = c.kind := rfl

@[simp] theorem idText_mapToken : (c.mapToken f).idText = c.idText := rfl

@[simp] theorem serverUrl_mapToken : (c.mapToken f).serverUrl = c.serverUrl := rfl

@[simp] theorem organization_mapToken : (c.mapToken f).organization = c.organization := rfl

@[simp] theorem cloudFlag_mapToken : (c.mapToken f).cloudFlag = c.cloudFlag := rfl

@[simp] theorem muted_mapToken : (c.mapToken f).muted = c.muted := rfl

@[simp] theorem askedKind_mapToken : (c.mapToken f).askedKind = c.askedKind := rfl

@[simp] theorem givenUrl?_mapToken : (c.mapToken f).givenUrl? = c.givenUrl? := rfl

@[simp] theorem hasId_mapToken (id : String) : (c.mapToken f).hasId id = c.hasId id := rfl

@[simp] theorem isNamed_mapToken (kind : ServerKind) (id : String) :
    isNamed kind id (c.mapToken f) = isNamed kind id c := rfl

/-- Whether there is a plain token can be seen through the function. -/
theorem hasPlainToken_mapToken {f : String → String} (filled : FillsAlike f) :
    (c.mapToken f).hasPlainToken = c.hasPlainToken := by
  simp [hasPlainToken, filled.nonEmpty?_map]

/-- A connection without a token. -/
theorem mapToken_of_token {c : Connection} (none : c.token = none) : c.mapToken f = c := by
  obtain ⟨id, serverUrl, organization, cloudFlag, muted, token⟩ := c
  subst none
  rfl

/-- A connection is settled without a look at its token. -/
theorem mapToken_settled : c.settled.mapToken f = (c.mapToken f).settled := by
  -- Three decisions are made one after the other, and none of them looks at the token.
  have first : ∀ d : Connection,
      (if d.isCloud && (nonEmpty? d.organization).isNone then d.withCloudFlag false
          else d).mapToken f =
        if (d.mapToken f).isCloud && (nonEmpty? (d.mapToken f).organization).isNone then
          (d.mapToken f).withCloudFlag false else d.mapToken f := fun d => apply_ite (mapToken f) ..
  have second : ∀ d : Connection,
      (if d.isCloud then d else { d with organization := none }).mapToken f =
        if (d.mapToken f).isCloud then d.mapToken f
          else { d.mapToken f with organization := none } := fun d => apply_ite (mapToken f) ..
  have third : ∀ d : Connection,
      (if (nonEmpty? d.id).isNone then d.withId d.defaultId else d).mapToken f =
        if (nonEmpty? (d.mapToken f).id).isNone then
          (d.mapToken f).withId (d.mapToken f).defaultId
          else d.mapToken f := fun d => apply_ite (mapToken f) ..
  rw [settled, settled, third, second, first]

/-- The default id that a submission adds has nothing to do with the token. -/
theorem mapToken_submitted : c.submitted.mapToken f = (c.mapToken f).submitted :=
  apply_ite (mapToken f) ..

/-- **Logs show of a token only whether it is there.** -/
theorem describe_mapToken : (c.mapToken f).describe = c.describe := by
  have shown :
      ((c.token.map f).map fun _ => "<redacted>") = c.token.map fun _ => "<redacted>" :=
    Option.map_map ..
  delta describe mapToken
  dsimp only
  rw [shown]

end Connection

/-- Seen as they are, tokens are what they are. -/
@[simp] theorem mapToken_id (c : Connection) : c.mapToken id = c := by
  simp [Connection.mapToken]

/-! ## Documents -/

namespace ConnectionLists

variable (f : String → String) (lists : ConnectionLists)

/-- The lists with all tokens seen through a function. -/
def mapTokens : ConnectionLists :=
  ⟨lists.legacySelfHosted.map (·.mapToken f), lists.legacyCloud.map (·.mapToken f),
    lists.servers.map (·.mapToken f)⟩

/-- All connections have their tokens seen through the function. -/
@[simp] theorem all_mapTokens : (lists.mapTokens f).all = lists.all.map (·.mapToken f) := by
  simp [all, mapTokens]

/-- A connection is found at the same place. -/
@[simp] theorem position?_mapTokens (kind : ServerKind) (id : String) :
    (lists.mapTokens f).position? kind id = lists.position? kind id := by
  simp [position?, mapTokens, List.findIdx?_map, Function.comp_def]

/-- A connection is found at the same place, whatever is known of its kind. -/
@[simp] theorem positionAny?_mapTokens (kind : Option ServerKind) (id : String) :
    (lists.mapTokens f).positionAny? kind id = lists.positionAny? kind id := by
  cases kind with
  | none => simp [positionAny?, mapTokens, List.findIdx?_map, Function.comp_def]
  | some kind => exact position?_mapTokens f lists kind id

/-- What is found is the same connection, seen through the function. -/
@[simp] theorem find?_mapTokens (kind : ServerKind) (id : String) :
    (lists.mapTokens f).find? kind id = (lists.find? kind id).map (·.mapToken f) := by
  simp [find?, mapTokens, List.find?_map, Function.comp_def]

/-- The connections of a kind are the same ones, seen through the function. -/
@[simp] theorem ofKind_mapTokens (kind : ServerKind) :
    (lists.mapTokens f).ofKind kind = (lists.ofKind kind).map (·.mapToken f) := by
  simp [ofKind, mapTokens, List.filter_map, Function.comp_def]

@[simp] theorem usesKey_mapTokens (key : String) :
    (lists.mapTokens f).usesKey key = lists.usesKey key := by
  simp [usesKey, Function.comp_def]

/-- The former lists are empty on both sides or on neither. -/
@[simp] theorem hasLegacy_mapTokens : (lists.mapTokens f).hasLegacy = lists.hasLegacy := by
  simp [hasLegacy, mapTokens]

/-- Connections come from the same lists. -/
theorem withOrigins_mapTokens :
    (lists.mapTokens f).withOrigins = lists.withOrigins.map fun p =>
      (p.1, p.2.mapToken f) := by
  simp [withOrigins, mapTokens, Function.comp_def]

end ConnectionLists

namespace Settings

variable (f : String → String) (s : Settings)

/-- The document with all tokens seen through a function. -/
def mapTokens : Settings := s.withConnections (s.connections.mapTokens f)

@[simp] theorem connections_mapTokens :
    (s.mapTokens f).connections = s.connections.mapTokens f := rfl

@[simp] theorem servers_mapTokens :
    (s.mapTokens f).servers = s.servers.map (·.mapToken f) := rfl

@[simp] theorem usesKey_mapTokens (key : String) :
    (s.mapTokens f).usesKey key = s.usesKey key :=
  ConnectionLists.usesKey_mapTokens f s.connections key

@[simp] theorem mapTokens_id : s.mapTokens id = s := by
  simp [mapTokens, ConnectionLists.mapTokens, withConnections]

/-- The unified list may be replaced before or after. -/
theorem mapTokens_withServers (servers : List Connection) :
    (s.withServers servers).mapTokens f =
      (s.mapTokens f).withServers (servers.map (·.mapToken f)) := rfl

end Settings

/-- **Who is moved does not depend on tokens.** -/
theorem adopt_map_mapToken (f : String → String) (servers cs : List Connection) :
    adopt (servers.map (·.mapToken f)) (cs.map (·.mapToken f)) =
      ((adopt servers cs).1.map (·.mapToken f), (adopt servers cs).2) := by
  induction cs generalizing servers with
  | nil => rfl
  | cons c cs ih =>
      have moved := ih (servers ++ [c])
      rw [List.map_append, List.map_singleton] at moved
      have taken : (servers.map (·.mapToken f)).any
          (Connection.isNamed (c.mapToken f).kind (c.mapToken f).idText) =
            servers.any (Connection.isNamed c.kind c.idText) := by
        simp [Function.comp_def]
      simp only [List.map_cons, adopt, taken]
      split
      · simp only [ih servers]
      · exact moved

/-! ## Secrets -/

namespace SecretTable

variable (f : String → String)

/-- The table with all secrets seen through a function. -/
def mapTokens (t : SecretTable) : SecretTable := t.map fun p => (p.1, f p.2)

/-- The table has the same keys. -/
@[simp] theorem keys_mapTokens (t : SecretTable) :
    Keyed.keys (t.mapTokens f) = Keyed.keys t := by
  simp [Keyed.keys, mapTokens, Function.comp_def]

/-- What is read under a key is seen through the function. -/
theorem get?_mapTokens (key : String) (t : SecretTable) :
    Keyed.get? key (t.mapTokens f) = (Keyed.get? key t).map f := by
  induction t with
  | nil => rfl
  | cons p t ih =>
      obtain ⟨k, secret⟩ := p
      simp only [mapTokens, List.map_cons, Keyed.get?_cons] at ih ⊢
      rw [ih, apply_ite (Option.map f), Option.map_some]

/-- To put a secret under a key gives the table that is seen after the put. -/
theorem put_mapTokens (key secret : String) (t : SecretTable) :
    Keyed.put key (f secret) (t.mapTokens f) = mapTokens f (Keyed.put key secret t) := by
  induction t with
  | nil => rfl
  | cons p t ih =>
      simp only [mapTokens, List.map_cons, Keyed.put] at ih ⊢
      split
      · rfl
      · split
        · rfl
        · rw [List.map_cons, ih]

/-- A key may be removed before or after. -/
theorem remove_mapTokens (key : String) (t : SecretTable) :
    Keyed.remove key (t.mapTokens f) = mapTokens f (Keyed.remove key t) := by
  simp [Keyed.remove, mapTokens, List.filter_map, Function.comp_def]

end SecretTable

/-! ## Operations and replies -/

/-- The edit with the token of its connection seen through a function. -/
def Edit.mapTokens (f : String → String) : Edit → Edit
  | add c => add (c.mapToken f)
  | update c => update (c.mapToken f)
  | submit c => submit (c.mapToken f)
  | remove id kind => remove id kind

/-- The operation with the token of its connection seen through a function. -/
def Operation.mapTokens (f : String → String) : Operation → Operation
  | edit e => edit (e.mapTokens f)
  | op => op

/-- The answer with the token of its connection seen through a function. -/
def Answer.mapTokens (f : String → String) : Answer → Answer
  | kept c => kept (c.mapToken f)
  | removed there => removed there

/-- The reply with all tokens seen through a function. -/
def Reply.mapTokens (f : String → String) : Reply → Reply
  | edited answer => edited (answer.mapTokens f)
  | migrated report => migrated report
  | connections cs => connections (cs.map (·.mapToken f))
  | connection c => connection (c.map (·.mapToken f))
  | token t => token (t.map f)
  | unmigrated there => unmigrated there

/-- Operations seen as they are. -/
theorem Operation.mapTokens_id : Operation.mapTokens id = id := by
  funext op
  cases op with
  | edit e => cases e <;> simp [mapTokens, Edit.mapTokens]
  | _ => rfl

/-- Replies seen as they are. -/
theorem Reply.mapTokens_id : Reply.mapTokens id = id := by
  funext reply
  cases reply with
  | edited answer => cases answer <;> simp [mapTokens, Answer.mapTokens]
  | _ => simp [mapTokens]

end ServerConnections
