import ServerConnections.Proofs.Registry.Matching

/-!
# Tokens are kept secret

Take two dialogues on hosts that cannot be told apart but for the contents of tokens, in
which the same is asked for but for the contents of tokens.  Everything that comes of
the one comes of the other, but for the contents of tokens: who gets an error and which
one, what is answered and how it looks in logs, what is announced, which servers are
asked, which keys have secrets, and what the document says.

The reason is that a dialogue does not look into tokens at all.  If all tokens are seen
through a function that takes no token to an empty one but the empty one, then so are the
outcomes: `Registry.dialogue_mapTokens`.  To forget the contents is one such function.

* `Bench.mapTokens` — the host with its tokens seen through a function
* `Registry.dialogue_mapTokens` — dialogues do not look into tokens
* `masked` — the function that forgets the contents
* `Registry.dialogue_alike` — two dialogues
-/

namespace ServerConnections

/-! ## Hosts with their tokens seen through a function -/

/-- The call with its token seen through a function. -/
def Call.mapTokens (f : String → String) : Call → Call
  | store key token => store key (f token)
  | call => call

namespace Bench

/-- The host with all tokens seen through a function.  What is refused and what the probe
answers does not depend on tokens. -/
def mapTokens (f : String → String) (b : Bench MemorySettings) : Bench MemorySettings :=
  { b with
    medium := ⟨b.document.mapTokens f, b.medium.saves⟩
    secrets := b.secrets.mapTokens f
    calls := b.calls.map (Call.mapTokens f) }

variable {f : String → String}

@[simp] theorem time_mapTokens (b : Bench MemorySettings) : (b.mapTokens f).time = b.time :=
  List.length_map _

/-- A call is recorded with its secret seen through the function. -/
theorem called_mapTokens (b : Bench MemorySettings) (call : Call) :
    (b.mapTokens f).called (call.mapTokens f) = (b.called call).mapTokens f := by
  simp [called, mapTokens, document]

/-- The second host is the first one, its tokens seen through a function. -/
def Pictures (f : String → String) (b b' : Bench MemorySettings) : Prop := b' = b.mapTokens f

/-- A call is refused by its time and under the conditions of the host, which are the same on
both sides. -/
theorem matches_guarded {ε α α' : Type} {g : α → α'} (call : Call)
    (refuses : Conditions → Nat → Option String) {toError : String → ε}
    {x : Act (Bench MemorySettings) ε α} {y : Act (Bench MemorySettings) ε α'}
    (h : Act.Matches (Pictures f) g x y) :
    Act.Matches (Pictures f) g (guarded call (fun b => refuses b.conditions b.time) toError x)
      (guarded (call.mapTokens f) (fun b => refuses b.conditions b.time) toError y) := by
  rintro b _ rfl
  have conditions : (b.mapTokens f).conditions = b.conditions := rfl
  unfold Act.outcome guarded
  simp only [time_mapTokens, conditions, called_mapTokens]
  cases refuses b.conditions b.time with
  | some reason => exact ⟨rfl, rfl⟩
  | none => exact h (b.called call) _ rfl

/-- Every call on a host is the call on what is seen of it. -/
theorem callsMatch_mapTokens (cloudDomain : String) (filled : FillsAlike f) :
    (inMemory cloudDomain).CallsMatch f (Pictures f) (inMemory cloudDomain) where
  filled := filled
  get key := by
    refine matches_guarded (.get key) (fun k n => k.refusesGet n key) ?_
    rintro b _ rfl
    exact ⟨congrArg Except.ok (SecretTable.get?_mapTokens f key b.secrets), rfl⟩
  store key secret := by
    refine matches_guarded (.store key secret) (fun k n => k.refusesStore n key) ?_
    rintro b _ rfl
    exact ⟨rfl, congrArg (b.mapTokens f).withSecrets
      (SecretTable.put_mapTokens f key secret b.secrets)⟩
  delete key := by
    refine matches_guarded (.delete key) (fun k n => k.refusesDelete n key) ?_
    rintro b _ rfl
    exact ⟨rfl, congrArg (b.mapTokens f).withSecrets
      (SecretTable.remove_mapTokens f key b.secrets)⟩
  cloudDomain := rfl
  isUp := by
    rintro url b _ rfl
    have same : b.conditions.isUp (b.mapTokens f).time url = b.conditions.isUp b.time url := by
      rw [time_mapTokens]
    exact ⟨same, called_mapTokens b (.probe url)⟩
  announce := by
    rintro event b _ rfl
    have told := called_mapTokens (f := f) b (.announce event)
    have heard : (b.mapTokens f).listener = b.listener := rfl
    simp only [inMemory, registry, Bench.announce, heard]
    cases b.listener with
    | nobody => rfl
    | present => exact congrArg (fun b => { b with events := b.events ++ [event] }) told
    | gone => exact told

/-- The calls on the settings match as well. -/
theorem matches_mapTokens (cloudDomain : String) (filled : FillsAlike f) :
    (inMemory cloudDomain).Matches f (Pictures f) (fun _ => Pictures f)
    (inMemory cloudDomain) where
  before := callsMatch_mapTokens cloudDomain filled
  after _ := callsMatch_mapTokens cloudDomain filled
  load b b' pictured := by
    have loads : Act.Matches (Pictures f) (Settings.mapTokens f)
        (inMemory cloudDomain).loadSettings (inMemory cloudDomain).loadSettings := by
      refine Act.Matches.mapError (matches_guarded .load Conditions.refusesLoad ?_) _
      rintro b _ rfl
      exact ⟨rfl, rfl⟩
    obtain ⟨answer, left⟩ := loads b b' pictured
    refine ⟨answer, ?_⟩
    split <;> exact left
  save _ _ _ := by
    refine Act.Matches.mapError (matches_guarded .save Conditions.refusesSave ?_) _
    rintro b _ rfl
    exact ⟨rfl, rfl⟩
  forget _ _ _ pictured := pictured

end Bench

/-! ## Dialogues -/

open Bench

/-- **A dialogue does not look into tokens.** -/
theorem Registry.dialogue_mapTokens {f : String → String} (filled : FillsAlike f)
    (cloudDomain : String) (ops : List Operation) (b : Bench MemorySettings) :
    (inMemory cloudDomain).dialogue (ops.map (Operation.mapTokens f)) (b.mapTokens f) =
      ((inMemory cloudDomain).dialogue ops b).map fun o =>
        (o.1.map (Reply.mapTokens f), o.2.mapTokens f) := by
  have pictured : Pictures f b (b.mapTokens f) := rfl
  have runs := (matches_mapTokens cloudDomain filled).dialogue ops pictured
  rw [eq_comm, ← List.forall₂_eq_eq_eq, List.forall₂_map_left_iff]
  exact runs.imp fun o o' ⟨answer, left⟩ => Prod.ext answer.symm left.symm

/-- The contents of a token are forgotten.  Only whether it is empty can still be told. -/
def masked (token : String) : String := if token.isEmpty then "" else "*"

/-- A mask hides what a token is, but not whether it is empty. -/
theorem fillsAlike_masked : FillsAlike masked := by
  intro token
  cases empty : token.isEmpty <;> simp only [masked, empty] <;> rfl

/-- How the connections of a reply are shown in logs.  The other replies are flags, numbers,
and a token that was asked for by its key. -/
def Reply.logged : Reply → List String
  | edited (.kept c) => [c.describe]
  | connections cs => cs.map Connection.describe
  | connection c => c.toList.map Connection.describe
  | edited (.removed _) | migrated _ | token _ | unmigrated _ => []

/-- What is logged of a reply does not depend on its tokens. -/
theorem Reply.logged_mapTokens (f : String → String) (reply : Reply) :
    (reply.mapTokens f).logged = reply.logged := by
  cases reply with
  | edited answer =>
      cases answer with
      | kept c => simp [mapTokens, Answer.mapTokens, logged, Connection.describe_mapToken]
      | removed there => rfl
  | connections cs => simp [mapTokens, logged, Connection.describe_mapToken, Function.comp_def]
  | connection c =>
      cases c with
      | none => rfl
      | some c => simp [mapTokens, logged, Connection.describe_mapToken]
  | migrated _ | token _ | unmigrated _ => rfl

/-- The servers that were asked, in order. -/
def Bench.probed {μ : Type} (b : Bench μ) : List String :=
  b.calls.filterMap fun
    | .probe url => some url
    | _ => none

theorem Bench.probed_mapTokens (f : String → String) (b : Bench MemorySettings) :
    (b.mapTokens f).probed = b.probed := by
  unfold probed mapTokens
  rw [List.filterMap_map]
  congr 1
  funext call
  cases call <;> rfl

/-- **Two outcomes that differ in the contents of tokens at most.** -/
structure SameButTokens
    (o o' : Except ConnectionError Reply × Bench MemorySettings) : Prop where
  /-- Both fail with the same error, or none fails. -/
  error : ∀ e, o.1 = .error e ↔ o'.1 = .error e
  reply : o.1.map (Reply.mapTokens masked) = o'.1.map (Reply.mapTokens masked)
  /-- The connections that are answered look the same in logs. -/
  logged : o.1.map Reply.logged = o'.1.map Reply.logged
  events : o.2.events = o'.2.events
  probed : o.2.probed = o'.2.probed
  keys : Keyed.keys o.2.secrets = Keyed.keys o'.2.secrets
  document : o.2.document.mapTokens masked = o'.2.document.mapTokens masked

/-- **What is the same behind masks is the same but for tokens.** -/
theorem sameButTokens_of_masked {o o' : Except ConnectionError Reply × Bench MemorySettings}
    (reply : o.1.map (Reply.mapTokens masked) = o'.1.map (Reply.mapTokens masked))
    (host : o.2.mapTokens masked = o'.2.mapTokens masked) : SameButTokens o o' where
  error e := by
    constructor
    · intro failed
      rw [failed] at reply
      exact Act.error_of_map_eq_error reply.symm
    · intro failed
      rw [failed] at reply
      exact Act.error_of_map_eq_error reply
  reply := reply
  logged := by
    have forgotten : ∀ res : Except ConnectionError Reply,
        res.map Reply.logged = (res.map (Reply.mapTokens masked)).map Reply.logged := by
      intro res
      cases res with
      | error e => rfl
      | ok reply => exact congrArg Except.ok (reply.logged_mapTokens masked).symm
    rw [forgotten, forgotten o'.1, reply]
  events := by
    have same : (o.2.mapTokens masked).events = (o'.2.mapTokens masked).events :=
      congrArg Bench.events host
    exact same
  probed := by rw [← Bench.probed_mapTokens masked, host, Bench.probed_mapTokens]
  keys := by
    rw [← SecretTable.keys_mapTokens masked, ← SecretTable.keys_mapTokens masked o'.2.secrets]
    exact congrArg (fun b => Keyed.keys b.secrets) host
  document := congrArg Bench.document host

/-- **The contents of tokens never leak.**  Two dialogues, in which the hosts and what is
asked for are the same but for the contents of tokens, have outcomes that are the same but
for the contents of tokens.  What is refused, and what the probe answers, is the same in
both, and may be anything.  A token that is asked for by its key is itself the answer, so
of that answer only whether it is there, and whether it is empty, is the same. -/
theorem Registry.dialogue_alike (cloudDomain : String) {b b' : Bench MemorySettings}
    {ops ops' : List Operation} (hosts : b.mapTokens masked = b'.mapTokens masked)
    (asked : ops.map (Operation.mapTokens masked) = ops'.map (Operation.mapTokens masked)) :
    List.Forall₂ SameButTokens ((inMemory cloudDomain).dialogue ops b)
      ((inMemory cloudDomain).dialogue ops' b') := by
  have same := dialogue_mapTokens fillsAlike_masked cloudDomain ops b
  rw [hosts, asked, dialogue_mapTokens fillsAlike_masked] at same
  rw [← List.forall₂_eq_eq_eq, List.forall₂_map_left_iff, List.forall₂_map_right_iff] at same
  exact same.flip.imp fun o o' alike =>
    sameButTokens_of_masked (congrArg Prod.fst alike).symm (congrArg Prod.snd alike).symm

/-- A token is migrated, a secret is carried to another key, a token is given, and two of them
are asked for.  No token is the same on both sides. -/
theorem Registry.dialogue_alike_all_differ :
    let host (token secret : String) : Bench MemorySettings := .fresh
      (.of ⟨⟨[], [⟨none, none, some "org", none, false, some token⟩],
        [⟨some "y", some "https://y.example", none, some false, false, none⟩]⟩, [], []⟩)
      [("https://y.example", secret)] (.calm fun _ => false) .present
    let asked (token : String) : List Operation :=
      [.migrate, .edit (.update ⟨some "y", some "https://z.example", none, none, false, none⟩),
        .edit (.submit ⟨none, some "https://w.example", none, none, false, some token⟩),
        .tokenUnder "https://z.example", .find .cloud "org"]
    (host "a" "b").mapTokens masked = (host "c" "d").mapTokens masked ∧
      (asked "e").map (Operation.mapTokens masked) = (asked "f").map (Operation.mapTokens masked) ∧
      List.Forall₂ SameButTokens ((inMemory "codescan.io").dialogue (asked "e") (host "a" "b"))
        ((inMemory "codescan.io").dialogue (asked "f") (host "c" "d")) :=
  ⟨rfl, rfl, dialogue_alike "codescan.io" rfl rfl⟩

end ServerConnections
