import ServerConnections.Proofs.Registry.Endings
import ServerConnections.Proofs.Tokens.Secrecy

/-!
# Servers that a change asks

A server is asked by one call, the probe, and it is asked for one reason: to find out whether
its address is one of the cloud service.  A change comes to that point once, after the document
was loaded and before anything is written.  It asks nothing where its caller says what kind of
server it is, and where the location of the connection is the same as before.  And where it
does not know, the address may show it, or there is none.

So which servers a change asks is known from the document and from what the caller gives, and
all other steps leave the record of questions alone.

* `Bench.Unasked` — no server was asked
* `Classifier.asked`, `Connection.asked`, `Settings.asked` — the servers that are to be asked
* `Registry.update_asks` — the servers that a change asks
-/

namespace ServerConnections

open Bench

/-! ## The record of questions -/

namespace Bench

variable {μ : Type} {b : Bench μ}

/-- **No server was asked** between two states of a host. -/
def Unasked (b b' : Bench μ) : Prop := b'.probed = b.probed

instance : Std.Refl (Unasked (μ := μ)) := ⟨fun _ => rfl⟩

instance : Trans (Unasked (μ := μ)) Unasked Unasked := ⟨fun first rest => Eq.trans rest first⟩

theorem probed_called_probe (url : String) :
    (b.called (.probe url)).probed = b.probed ++ [url] := by
  simp [probed, called]

/-- Any other call asks no server. -/
theorem unasked_called {call : Call} (other : ∀ url, call ≠ .probe url) :
    b.Unasked (b.called call) := by
  show (b.called call).probed = b.probed
  cases call with
  | probe url => exact absurd rfl (other url)
  | load | save | get | store | delete | announce => simp [probed, called]

end Bench

/-! ## The servers that are to be asked -/

/-- **The server of an address**, if it takes a question to tell whose it is. -/
def Classifier.asked (cloudDomain url : String) : List String :=
  let url := Address.clean url
  if url.isEmpty then []
  else if hasCloudHost cloudDomain url then []
  else [url]

/-- **The servers to be asked when an existing connection is changed.** -/
def Connection.asked (cloudDomain : String) (c existing : Connection) : List String :=
  match c.givenUrl?.or existing.serverUrl with
  | none => []
  | some url =>
    match c.flagAfter existing url (Registry.changedOrganization c existing) with
    | some _ => []
    | none => Classifier.asked cloudDomain url

/-- **The servers to be asked for a change of a document.** -/
def Settings.asked (s : Settings) (cloudDomain : String) (c : Connection) : List String :=
  match s.target? c with
  | none => []
  | some (_, existing) => c.asked cloudDomain existing

namespace Registry

variable {cloudDomain : String} (b : Bench MemorySettings)

/-! ## Steps that ask -/

/-- The classifier asks the server of an address, unless the address is enough. -/
theorem isCloud_probed (url : String) :
    ((inMemory cloudDomain).classifier.isCloud (some url) b).2.probed =
      b.probed ++ Classifier.asked cloudDomain url := by
  simp only [Classifier.isCloud, Classifier.asked, Option.getD_some]
  by_cases empty : (Address.clean url).isEmpty
  · simp only [empty, if_true]
    exact (List.append_nil b.probed).symm
  · by_cases shown : Classifier.hasCloudHost cloudDomain (Address.clean url)
    · have host : Classifier.hasCloudHost (inMemory cloudDomain).classifier.cloudDomain
          (Address.clean url) := shown
      simp only [empty, shown, host, if_true, if_false, Bool.false_eq_true]
      exact (List.append_nil b.probed).symm
    · have host : ¬ Classifier.hasCloudHost (inMemory cloudDomain).classifier.cloudDomain
          (Address.clean url) := shown
      simp only [empty, shown, host, if_false, Bool.false_eq_true]
      exact probed_called_probe (Address.clean url)

/-- Where a flag is given, nobody is asked. -/
theorem cloudOrAsk_asks (flag : Option Bool) (url : String) :
    ((inMemory cloudDomain).cloudOrAsk flag url).Ensures b fun _ b' =>
      b'.probed = b.probed ++ (match flag with
        | some _ => []
        | none => Classifier.asked cloudDomain url) := by
  cases flag with
  | some flag => exact (List.append_nil b.probed).symm
  | none =>
      rw [cloudOrAsk, Act.ensures_ofState]
      exact isCloud_probed b url

/-- What comes after the question is decided without asking. -/
theorem changedConnection_asks (s : Settings) (c existing : Connection) :
    ((inMemory cloudDomain).changedConnection s c existing).Ensures b fun _ b' =>
      b'.probed = b.probed ++ c.asked cloudDomain existing := by
  unfold changedConnection Connection.asked
  rw [changedUrl_eq]
  cases url : c.givenUrl?.or existing.serverUrl with
  | none => exact (List.append_nil b.probed).symm
  | some serverUrl =>
      dsimp only
      rw [pure_bind]
      refine Act.Ensures.bind (cloudOrAsk_asks b (c.flagAfter existing serverUrl
        (changedOrganization c existing)) serverUrl) ?_ fun _ _ asked => asked
      intro cloud b₁ asked
      split
      · exact asked
      · split <;> exact asked

/-! ## Steps that do not ask -/

variable {b}

/-- To find the token that moves along, the secrets are asked, and no server. -/
theorem unasked_changedToken (c existing changed : Connection) :
    Act.Respects Unasked ((inMemory cloudDomain).changedToken c existing changed) := by
  unfold changedToken
  split
  · exact Act.respects_pure _
  split
  · exact Act.respects_pure none
  · unfold tokenOf SecretStore.tokenFor
    refine Act.Respects.mapError ?_ _
    cases existing.storageKey with
    | none => exact Act.respects_pure none
    | some key =>
        exact respects_guarded (fun _ => unasked_called nofun) fun _ => unasked_called nofun

/-- To store a token, no server is asked. -/
theorem unasked_storeFor (c : Connection) (token : Option String) :
    Act.Respects Unasked ((inMemory cloudDomain).secrets.storeFor c token) := by
  unfold SecretStore.storeFor
  split
  · exact Act.respects_pure ()
  split
  · exact fun _ => rfl
  · unfold SecretStore.storeUnder
    split
    · exact Act.respects_pure ()
    · refine Act.Respects.mapError ?_ _
      exact respects_guarded (fun _ => unasked_called nofun) fun b =>
        unasked_called (b := b) nofun

theorem unasked_announce (event : TokenUpdated) :
    Act.Respects (ε := ConnectionError) Unasked
      (.ofState ((inMemory cloudDomain).announce event)) := by
  rw [Act.respects_ofState]
  intro b
  show b.Unasked (Bench.announce event b).2
  unfold Bench.announce
  cases b.listener with
  | nobody => exact Std.Refl.refl b
  | present => exact unasked_called (b := b) nofun
  | gone => exact unasked_called nofun

theorem unasked_saveSettings (s : Settings) :
    Act.Respects Unasked ((inMemory cloudDomain).saveSettings s) :=
  fun b => ensures_saveSettings b (fun _ _ => unasked_called nofun)
    fun _ => unasked_called (b := b) nofun

/-- To drop a secret, no server is asked. -/
theorem unasked_dropOldKey (s : Settings) (existing changed : Connection) :
    Act.Respects Unasked ((inMemory cloudDomain).dropOldKey s existing changed) := by
  unfold dropOldKey
  split
  · exact Act.respects_pure ()
  split
  · exact Act.respects_pure ()
  · refine fun b => ensures_deleteUnder b (fun _ _ => unasked_called nofun) fun _ => ?_
    exact unasked_called (b := b) nofun

/-! ## Changes -/

/-- A change is carried out without asking. -/
theorem unasked_carriedOut (s : Settings) (c : Connection) (ch : Change) :
    Act.Respects Unasked ((inMemory cloudDomain).carriedOut s c ch) := by
  unfold carriedOut
  refine (unasked_changedToken c ch.existing ch.changed).bind fun token => ?_
  refine (unasked_storeFor ch.changed token).bind fun _ => ?_
  refine (unasked_announce _).bind fun _ => ?_
  refine (unasked_saveSettings _).bind fun _ => ?_
  refine (unasked_dropOldKey _ ch.existing ch.changed).bind fun _ => ?_
  exact Act.respects_pure ch.changed

/-- **The servers that a change asks** are known from the document and from what its caller
gives. -/
theorem update_asks (answering : b.conditions.Answering) (c : Connection) :
    ((inMemory cloudDomain).update c).Ensures b fun _ b' =>
      b'.probed = b.probed ++ b.document.asked cloudDomain c := by
  have loads : (inMemory cloudDomain).loadSettings.Yields b fun s b₁ =>
      s = b.document ∧ b.Unasked b₁ := by
    refine ensures_loadSettings b (fun reason refused => ?_) fun _ => ?_
    · rw [answering.load] at refused
      cases refused
    · exact ⟨_, rfl, rfl, unasked_called nofun⟩
  rw [update_eq]
  refine loads.bind ?_
  rintro _ b₁ ⟨rfl, unasked⟩
  unfold Settings.asked
  cases b.document.target? c with
  | none => exact unasked.trans (List.append_nil b.probed).symm
  | some meant =>
      obtain ⟨i, existing⟩ := meant
      have asks := @changedConnection_asks cloudDomain b₁ b.document c existing
      rw [unasked] at asks
      refine Act.Ensures.bind asks ?_ fun _ _ asked => asked
      intro changed b₂ asked
      refine (unasked_carriedOut b.document c ⟨i, existing, changed⟩ b₂).mono ?_
      intro res b' silent
      exact silent.trans asked

end Registry

end ServerConnections
