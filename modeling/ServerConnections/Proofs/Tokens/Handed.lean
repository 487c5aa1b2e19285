import ServerConnections.Proofs.Registry.Matching

/-!
# Documents that are handed over

A registry hands a document over whenever it wants one saved, and the host may refuse it
then.  To speak of all of these documents, a host is watched: it is written down which
document was loaded last and which ones were handed over.  A watched registry answers the
same and does the same to its host, so that what is written down is what a registry hands
over when nobody watches.

A registry never puts a token into a document.  The tokens of a document that is handed
over are among those of the document that the operation has loaded, each as often at
most.  This is so for every registry, whatever its host does; and if the host keeps its
document in memory, it is so for whole dialogues.

* `Registry.watched` — the registry on a watched host
* `Registry.Preserves` — a property that the calls of a registry preserve
* `Registry.outcomes_watched` — watching changes nothing
* `Registry.tokens_of_handed` — what is handed over
-/

namespace ServerConnections

/-- A document that was handed over, and the one that was loaded last before. -/
structure HandOver where
  loaded : Option Settings
  document : Settings

/-- A host that is watched. -/
structure Watched (σ : Type) where
  host : σ
  /-- The document that was loaded last. -/
  loaded : Option Settings
  handed : List HandOver

namespace Watched

variable {σ : Type}

/-- A host that is watched from now on. -/
def of (host : σ) : Watched σ := ⟨host, none, []⟩

/-- The watched host in another state. -/
def withHost (host : σ) (w : Watched σ) : Watched σ := { w with host }

/-- A document was loaded. -/
def withLoaded (s : Settings) (w : Watched σ) : Watched σ := { w with loaded := some s }

/-- A document was handed over. -/
def withHanded (s : Settings) (w : Watched σ) : Watched σ :=
  { w with handed := w.handed ++ [⟨w.loaded, s⟩] }

end Watched

/-- The settings store of a watched host.  A document is written down before it can be
refused. -/
def SettingsStore.watched {σ : Type} (store : SettingsStore σ) :
    SettingsStore (Watched σ) where
  load := fun w =>
    match store.load w.host with
    | .ok s host => .ok s ((w.withHost host).withLoaded s)
    | .error e host => .error e (w.withHost host)
  save s := fun w => (store.save s).within Watched.host Watched.withHost (w.withHanded s)

namespace Registry

variable {σ : Type} {r : Registry σ}

/-- **The registry on a watched host.** -/
def watched (r : Registry σ) : Registry (Watched σ) where
  settings := r.settings.watched
  secrets := r.secrets.within Watched.host Watched.withHost
  classifier := ⟨r.classifier.cloudDomain, fun url w =>
    ((r.classifier.isUp url w.host).1, w.withHost (r.classifier.isUp url w.host).2)⟩
  announce event := fun w => ((), w.withHost (r.announce event w.host).2)

/-! ## What calls preserve -/

/-- **The calls of a registry preserve a property of the host.**  A document that is loaded
has a property of its own, on which saving may rely. -/
structure Preserves (r : Registry σ) (I : σ → Prop) (J : Settings → Prop) : Prop
    extends r.CallsKeep I where
  load : ∀ host, I host → r.settings.load.Ensures host fun res host' =>
    I host' ∧ ∀ s, res = .ok s → J s
  save : ∀ s s', J s → s'.tokens.Subperm s.tokens → Act.Keeps I (r.settings.save s')

theorem preserves_true (r : Registry σ) : r.Preserves (fun _ => True) fun _ => True where
  get _ _ _ := trivial
  store _ _ _ _ := trivial
  delete _ _ _ := trivial
  isUp _ _ _ := trivial
  announce _ _ _ := trivial
  load _ _ := ⟨trivial, fun _ _ => trivial⟩
  save _ _ _ _ _ _ := trivial

end Registry

/-! ## Watching -/

theorem SettingsStore.outcome_load_watched {σ : Type} (store : SettingsStore σ)
    (w : Watched σ) :
    store.watched.load.outcome w = ((store.load.outcome w.host).1,
      match (store.load.outcome w.host).1 with
      | .ok s => (w.withHost (store.load.outcome w.host).2).withLoaded s
      | .error _ => w.withHost (store.load.outcome w.host).2) := by
  unfold SettingsStore.watched Act.outcome
  dsimp only
  cases store.load w.host <;> rfl

/-- The watched host is the one given, and it has a property, as all documents have that
were handed over. -/
structure Watched.Shows {σ : Type} (I : σ → Prop) (Q : HandOver → Prop) (host : σ)
    (w : Watched σ) : Prop where
  same : w.host = host
  holds : I host
  handed : ∀ p ∈ w.handed, Q p

namespace Registry

variable {σ : Type} {r : Registry σ} {I : σ → Prop} {J : Settings → Prop} {Q : HandOver → Prop}
  {K : σ → Watched σ → Prop}

/-- The calls of a registry match those of the watched one, up to any relation that does
not depend on more of the host than the property that is kept. -/
theorem CallsKeep.callsMatch_watched (h : r.CallsKeep I)
    (shows_host : ∀ host w, K host w → w.host = host ∧ I host)
    (stays : ∀ host host' w, K host w → I host' → K host' (w.withHost host')) :
    r.CallsMatch id K r.watched := by
  have within : ∀ {ε α : Type} {x : Act σ ε α}, Act.Keeps I x →
      Act.Matches K (fun a => a) x (x.within Watched.host Watched.withHost) := by
    intro ε α x keeps host w related
    obtain ⟨rfl, holds⟩ := shows_host host w related
    rw [Act.outcome_within]
    refine ⟨?_, stays _ _ w related (keeps w.host holds)⟩
    cases (x.outcome w.host).1 <;> rfl
  exact
    { filled := fillsAlike_id
      get := fun key => by rw [Option.map_id]; exact within (h.get key)
      store := fun key secret => within (h.store key secret)
      delete := fun key => within (h.delete key)
      cloudDomain := rfl
      isUp := by
        rintro url host w related
        obtain ⟨rfl, holds⟩ := shows_host host w related
        exact ⟨rfl, stays _ _ w related (h.isUp url w.host holds)⟩
      announce := by
        rintro event host w related
        obtain ⟨rfl, holds⟩ := shows_host host w related
        exact stays _ _ w related (h.announce event w.host holds) }

/-- **A registry matches the watched one**, and all documents that are handed over have a
property that they inherit from the documents loaded. -/
theorem Preserves.matches_watched (h : r.Preserves I J)
    (inherited : ∀ s s', J s → s'.tokens.Subperm s.tokens → Q ⟨some s, s'⟩) :
    r.Matches id (Watched.Shows I Q)
      (fun s host w => Watched.Shows I Q host w ∧ w.loaded = some s ∧ J s) r.watched where
  before := h.callsMatch_watched (fun _ _ related => ⟨related.same, related.holds⟩)
    fun _ _ _ related holds => ⟨rfl, holds, related.handed⟩
  after s := h.callsMatch_watched (fun _ _ related => ⟨related.1.same, related.1.holds⟩)
    fun _ _ _ related holds => ⟨⟨rfl, holds, related.1.handed⟩, related.2⟩
  load := by
    rintro host w ⟨rfl, holds, handed⟩
    have loaded := h.load w.host holds
    unfold Act.Ensures at loaded
    unfold loadSettings
    rw [Act.outcome_mapError, Act.outcome_mapError]
    have watched : r.watched.settings.load.outcome w = _ :=
      SettingsStore.outcome_load_watched r.settings w
    rw [watched]
    generalize r.settings.load.outcome w.host = o at loaded
    obtain ⟨res, host'⟩ := o
    cases res with
    | error e => exact ⟨rfl, rfl, loaded.1, handed⟩
    | ok s =>
        have same : s.mapTokens id = s := s.mapTokens_id
        exact ⟨congrArg Except.ok same.symm, ⟨rfl, loaded.1, handed⟩, rfl, loaded.2 s rfl⟩
  save s lists fewer := by
    rw [Settings.mapTokens_id]
    generalize s.withConnections lists = s' at fewer ⊢
    refine Act.Matches.mapError ?_ _
    rintro host w ⟨⟨rfl, holds, handed⟩, loaded, like⟩
    have saved := h.save s s' like fewer w.host holds
    have watched : (r.watched.settings.save s').outcome w =
        (((r.settings.save s').outcome w.host).1,
          (w.withHanded s').withHost ((r.settings.save s').outcome w.host).2) :=
      Act.outcome_within _ _ _ (w.withHanded s')
    rw [watched, Except.map_id]
    refine ⟨rfl, ⟨rfl, saved, ?_⟩, loaded, like⟩
    intro p there
    rcases List.mem_append.1 there with before | new
    · exact handed p before
    · obtain rfl := List.mem_singleton.1 new
      exact loaded ▸ inherited s s' like fewer
  forget _ _ _ related := related.1

/-- **Watching changes nothing**: a dialogue with a watched registry has the same outcomes
as one with the registry. -/
theorem outcomes_watched (r : Registry σ) (ops : List Operation) (host : σ) :
    (r.watched.dialogue ops (.of host)).map (fun o => (o.1, o.2.host)) =
      r.dialogue ops host := by
  have pictured : Watched.Shows (fun _ : σ => True) (fun _ => True) host (.of host) :=
    ⟨rfl, trivial, nofun⟩
  have runs := (r.preserves_true.matches_watched fun _ _ _ _ => trivial).dialogue ops pictured
  rw [Operation.mapTokens_id, Reply.mapTokens_id, List.map_id, Except.map_id] at runs
  rw [← List.forall₂_eq_eq_eq, List.forall₂_map_left_iff]
  refine runs.flip.imp fun o' o ⟨answer, shown⟩ => ?_
  rw [answer, shown.same, id_eq]

/-- Every document that an operation hands over has tokens of the document that it has
loaded, whatever the host does. -/
theorem handed_subperm_loaded (r : Registry σ) (op : Operation) (host : σ) :
    ∀ p ∈ ((r.watched.serve op).outcome (.of host)).2.handed,
      ∃ s, p.loaded = some s ∧ p.document.tokens.Subperm s.tokens := by
  have pictured : Watched.Shows (fun _ : σ => True)
      (fun p => ∃ s, p.loaded = some s ∧ p.document.tokens.Subperm s.tokens) host (.of host) :=
    ⟨rfl, trivial, nofun⟩
  have served :=
    (r.preserves_true.matches_watched fun s s' _ fewer => ⟨s, rfl, fewer⟩).serve op
    host (.of host) pictured
  rw [Operation.mapTokens_id, id_eq] at served
  exact served.2.handed

open Bench

/-- The tokens of the document of a host only ever get fewer. -/
theorem preserves_tokens (cloudDomain : String) (tokens : List String) :
    (inMemory cloudDomain).Preserves (fun b => b.document.tokens.Subperm tokens)
      fun s => s.tokens.Subperm tokens where
  toCallsKeep := callsKeep_medium _ _ fun m : MemorySettings =>
    m.document.tokens.Subperm tokens
  load b holds := by
    refine ensures_guarded (fun _ _ => ⟨holds, nofun⟩) fun _ => ⟨holds, ?_⟩
    rintro _ ⟨⟩
    exact holds
  save s s' like fewer b holds :=
    ensures_guarded (fun _ _ => holds) fun _ => fewer.trans like

/-- **No operation puts a token into the document.**  Whatever a registry hands over to be
saved has, in all lists together, tokens of the document that the operation has loaded, each
as often at most.  In particular nothing is ever handed over with a token in a dialogue that
begins with a document without tokens. -/
theorem tokens_of_handed (cloudDomain : String) (b : Bench MemorySettings) :
    (∀ op, ∀ p ∈ (((inMemory cloudDomain).watched.serve op).outcome (.of b)).2.handed,
      ∃ s, p.loaded = some s ∧ p.document.tokens.Subperm s.tokens) ∧
    (b.document.tokens = [] →
      ∀ ops, ∀ o ∈ (inMemory cloudDomain).watched.dialogue ops (.of b), ∀ p ∈ o.2.handed,
        p.document.tokens = []) := by
  refine ⟨fun op => handed_subperm_loaded _ op b, fun bare ops o there p handed => ?_⟩
  have pictured : Watched.Shows (fun b : Bench MemorySettings => b.document.tokens.Subperm [])
      (fun p => p.document.tokens.Subperm []) b (.of b) := ⟨rfl, bare ▸ .refl _, nofun⟩
  have runs := ((preserves_tokens cloudDomain []).matches_watched
    fun s s' like fewer => fewer.trans like).dialogue ops pictured
  rw [Operation.mapTokens_id, List.map_id] at runs
  have shown : List.Forall₂
      (fun (o : Except ConnectionError Reply × Watched (Bench MemorySettings)) _ =>
        (∀ p ∈ o.2.handed, p.document.tokens.Subperm []) ∧ True) _ _ :=
    runs.flip.imp fun o' o matched => ⟨matched.2.handed, trivial⟩
  exact List.subperm_nil.1 (((List.forall₂_and_left _ _).1 shown).1 o there p handed)

/-- A migration hands over a document from which one of two tokens is gone, and it is
refused.  From a document without tokens a change carries a token from one key to another. -/
theorem tokens_of_handed_refused_and_moved :
    let b : Bench MemorySettings := .fresh
      (.of ⟨⟨[⟨some "x", none, none, none, false, some "stuck"⟩], [],
        [⟨some "y", some "https://y.example", none, some false, false, some "t"⟩]⟩, [], []⟩) []
      { Conditions.calm fun _ => false with refusesSave := fun _ => some "full" } .nobody
    let left := (((inMemory "codescan.io").watched.serve .migrate).outcome (.of b)).2
    let entry : Connection :=
      ⟨some "y", some "https://y.example", none, some false, false, none⟩
    let bare : Bench MemorySettings := .fresh (.of ⟨⟨[], [], [entry]⟩, [], []⟩)
      [("https://y.example", "t")] (.calm fun _ => false) .nobody
    let ops : List Operation :=
      [.edit (.update ⟨some "y", some "https://z.example", none, none, false, none⟩)]
    left.handed.map (fun p => p.document.tokens) = [["stuck"]] ∧
      (∀ p ∈ left.handed, ∃ s, p.loaded = some s ∧ p.document.tokens.Subperm s.tokens) ∧
      bare.document.tokens = [] ∧
      ((inMemory "codescan.io").watched.dialogue ops (.of bare)).map
        (fun o => (o.2.handed.length, o.2.host.secrets)) =
          [(1, [("https://z.example", "t")])] ∧
      ∀ o ∈ (inMemory "codescan.io").watched.dialogue ops (.of bare), ∀ p ∈ o.2.handed,
        p.document.tokens = [] :=
  ⟨by decide +kernel, (tokens_of_handed _ _).1 .migrate, by decide, by decide +kernel,
    (tokens_of_handed _ _).2 (by decide) _⟩

end Registry

end ServerConnections
