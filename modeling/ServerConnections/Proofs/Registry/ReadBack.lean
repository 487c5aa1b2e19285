import ServerConnections.Proofs.Registry.Outcome

/-!
# What was kept is read back

A connection that an edit answers is the one that is found under its name
afterwards, whatever else the document holds: entries written by hand may have the
same name or the same key.  It is found with its token.  A token is looked for in
three places: what the caller gave, then the secret that moves along from an old
key, then what was under the key all the time.

* `Edit.tokenAfter` — the token by that rule
* `Edit.Keeps` — a host on which an edit has kept a connection
* `Registry.find_of_perform_kept` — what is read back
-/

namespace ServerConnections

open Bench

/-! ## The rule for tokens -/

namespace Edit

/-- The secret that moves along with a connection whose key has changed. -/
def movedToken (e : Edit) (s : Settings) (t : SecretTable) (kept : Connection) :
    Option String :=
  (e.existing? s).bind fun existing =>
    if existing.storageKey = kept.storageKey then none else nonEmpty? (t.tokenOf existing)

/-- **The token of a connection after an edit**, given the document and the secrets
before it. -/
def tokenAfter (e : Edit) (s : Settings) (t : SecretTable) (kept : Connection) :
    Option String :=
  (e.givenToken.or (e.movedToken s t kept)).or (t.tokenOf kept)

end Edit

/-- A host on which an edit has kept a connection: it is found under its name, and
its token is the one by the rule. -/
structure Edit.Keeps (e : Edit) (k : Bench MemorySettings) (kept : Connection)
    (b : Bench MemorySettings) : Prop where
  found : ∃ id, kept.id = some id ∧ b.document.connections.find? kept.kind id = some kept
  token : b.secrets.tokenOf kept = e.tokenAfter k.document k.secrets kept
  conditions : b.conditions = k.conditions

/-! ## Documents -/

theorem Settings.Admits.find?_added {s : Settings} {c kept : Connection}
    (h : s.Admits c kept) :
    ∃ id, kept.id = some id ∧ (s.added kept).connections.find? kept.kind id = some kept := by
  obtain ⟨id, present, -⟩ := h.id
  have free := ConnectionLists.position?_eq_none_iff.1 h.free
  refine ⟨id, present, ConnectionLists.find?_eq_some (i := s.servers.length) ?_ ?_ ?_⟩
  · exact List.getElem?_concat_length
  · simp [Connection.name, present]
  · intro j before d there named
    have there : s.servers[j]? = some d := by
      rwa [← List.getElem?_append_left before]
    refine free d (List.mem_of_getElem? there) ?_
    simpa [Connection.idText, present] using named

theorem Settings.Allows.kind_eq_of_asked {s : Settings} {c : Connection} {ch : Change}
    {kind : ServerKind} (h : s.Allows c ch) (asked : c.askedKind = some kind) :
    ch.changed.kind = kind := by
  obtain ⟨flag, given, rfl⟩ := Option.map_eq_some_iff.1 asked
  simp [Connection.kind, Connection.isCloud, h.asked flag given]

/-- No entry before the changed one has its new name: one of the same kind would
have been meant itself, and in the other kind the id is free. -/
theorem Settings.Allows.find?_applied {s : Settings} {c : Connection} {ch : Change}
    (h : s.Allows c ch) :
    ∃ id, ch.changed.id = some id ∧
      (ch.applied s).connections.find? ch.changed.kind id = some ch.changed := by
  have id : ch.changed.id = some c.idText := h.id.trans (Connection.id_of_mayMean h.meant)
  obtain ⟨bound, -⟩ := List.getElem?_eq_some_iff.1 h.entry
  refine ⟨c.idText, id, ConnectionLists.find?_eq_some (i := ch.index) ?_ ?_ ?_⟩
  · exact List.getElem?_set_self bound
  · simp [Connection.name, id]
  · intro j before d there named
    have there : s.servers[j]? = some d := by
      rwa [← List.getElem?_set_ne (Nat.ne_of_gt before)]
    by_cases stays : ch.changed.kind = ch.existing.kind
    -- Then `d` has the kind that was asked for, if one was, and would have been found first.
    · have other := h.first j before d there
      simp only [Connection.name, Prod.mk.injEq] at named
      have meant : c.mayMean d := Connection.mayMean_iff.2
        ⟨fun kind asked => named.1.trans (h.kind_eq_of_asked asked), named.2⟩
      exact Bool.false_ne_true (other.symm.trans meant)
    · exact ConnectionLists.position?_eq_none_iff.1 (h.free stays) d
        (List.mem_of_getElem? there)
        named

/-! ## Tokens -/

namespace SecretTable

variable {t : SecretTable} {c : Connection} {token : Option String}

/-- A token that was stored for a connection is its token, and one that is empty
leaves the one that it had. -/
theorem tokenOf_storing (keyed : (nonEmpty? token).isSome → c.storageKey.isSome) :
    (t.storing c.storageKey token).tokenOf c = (nonEmpty? token).or (t.tokenOf c) := by
  unfold tokenOf
  cases key : c.storageKey with
  | none =>
      cases given : nonEmpty? token with
      | none => rfl
      | some text => simp [given, key] at keyed
  | some key => simp [get?_storing]

/-- To drop a key does not concern the connections of the document. -/
theorem tokenOf_dropped {s : Settings} {key : Option String} (entry : c ∈ s.servers) :
    (s.dropped key t).tokenOf c = t.tokenOf c := by
  unfold tokenOf
  cases keyed : c.storageKey with
  | none => rfl
  | some own =>
      have used := Settings.usesKey_of_mem entry keyed
      simp [Settings.get?_dropped, used]

end SecretTable

/-! ## Endings -/

section Ends

variable {cloudDomain : String} {k b : Bench MemorySettings} {c kept : Connection}

theorem Edit.movedToken_of_new {e : Edit} {s : Settings} {t : SecretTable}
    (new : e.existing? s = none) : e.movedToken s t kept = none := by
  rw [movedToken, new, Option.bind_none]

/-- The token that is stored with a change. -/
theorem Edit.givenToken_or_movedToken {e : Edit} {s : Settings} {t : SecretTable} {ch : Change}
    (given : e.givenToken = nonEmpty? c.token) (existing : e.existing? s = some ch.existing) :
    e.givenToken.or (e.movedToken s t ch.changed) = nonEmpty? (ch.token c t) := by
  rw [given, movedToken, existing, Change.token, Option.bind_some]
  cases filled : nonEmpty? c.token with
  | some text =>
      -- A token that was given is filled, and so it comes before all others on both sides.
      have again : nonEmpty? (some text) = some text := by rw [← filled, nonEmpty?_nonEmpty?]
      simp [again]
  | none =>
      split
      · simp [nonEmpty?]
      · simp

/-- An edit that answers a connection keeps it. -/
theorem Edit.Done.keeps {e : Edit} (done : e.Done cloudDomain k (.kept kept) b) :
    e.Keeps k kept b := by
  have conditions := done.conditions
  cases done with
  | added given new plan left =>
      have keyed := Registry.storageKey_isSome_of_addition plan
      exact
        { found := document_of_unrecorded left ▸ (Settings.admits_of_addition plan).find?_added
          token := by
            rw [secrets_of_unrecorded left, Edit.tokenAfter, given, Edit.movedToken_of_new new]
            simpa [withSecrets, Bench.saved] using SecretTable.tokenOf_storing fun _ => keyed
          conditions }
  | changed given existing plan keyed left =>
      have allows := Settings.allows_of_change plan
      exact
        { found := document_of_unrecorded left ▸ allows.find?_applied
          token := by
            rw [secrets_of_unrecorded left, Edit.tokenAfter,
              Edit.givenToken_or_movedToken given existing]
            exact (SecretTable.tokenOf_dropped allows.changed_mem).trans
              (SecretTable.tokenOf_storing keyed)
          conditions }

end Ends

namespace Registry

variable {cloudDomain : String}

theorem perform_keeps (b : Bench MemorySettings) (e : Edit) :
    ((inMemory cloudDomain).perform e).Ensures b fun res b' =>
      ∀ kept, res = .ok (.kept kept) → e.Keeps b.unrecorded kept b' :=
  (perform_ends b e).mono fun _ _ ends _ answered => (answered ▸ ends).done.keeps

/-! ## Reading back -/

theorem does_find (b : Bench MemorySettings) (kind : ServerKind) (id : String) :
    Does ((inMemory cloudDomain).find kind id) b
      ((b.document.connections.find? kind id).map fun c =>
        { c with token := b.secrets.tokenOf c }) b.unrecorded := by
  unfold find
  refine (does_loadSettings b).bind ?_ fun e b' stopped => stopped
  intro b₁ left₁
  cases b.document.connections.find? kind id with
  | none => exact ⟨rfl, left₁⟩
  | some c =>
      refine (does_tokenOf b₁ c).bind ?_ fun e b' stopped => left₁ ▸ stopped
      intro b₂ left₂
      rw [secrets_of_unrecorded left₁]
      exact ⟨rfl, left₂.trans left₁⟩

/-- **What was kept is read back**, and its token is the one by the rule.  Nothing is
asked of the document: it need not be well-formed. -/
theorem find_of_perform_kept {b b' : Bench MemorySettings} {e : Edit} {kept : Connection}
    (free : b.conditions.Unfailing)
    (answered : ((inMemory cloudDomain).perform e).outcome b = (.ok (.kept kept), b')) :
    ∃ id b'', kept.id = some id ∧
      ((inMemory cloudDomain).find kept.kind id).outcome b' =
        (.ok (some { kept with token := e.tokenAfter b.document b.secrets kept }), b'') := by
  have keeps := (perform_keeps b e).of_outcome answered kept rfl
  obtain ⟨id, present, found⟩ := keeps.found
  have free' : b'.conditions.Unfailing := keeps.conditions ▸ free
  obtain ⟨b'', outcome, -⟩ :=
    ((@does_find cloudDomain b' kept.kind id).answers free').outcome
  refine ⟨id, b'', present, ?_⟩
  rw [outcome, found, Option.map_some, keeps.token]
  rfl

/-- Two entries written by hand have one name, and the first one goes to another
organization: its secret moves along, and stays under the old key, too. -/
theorem find_of_perform_kept_shared_name :
    let entry : Connection :=
      ⟨some "a", some "https://app.codescan.io", some "org", some true, false, none⟩
    let b : Bench MemorySettings := .fresh (.of ⟨⟨[], [], [entry, entry]⟩, [], []⟩)
      [("org", "old")] (.calm fun _ => false) .present
    let e : Edit := .update ⟨some "a", none, some "team", none, false, some ""⟩
    let kept := { entry with organization := some "team" }
    b.conditions.Unfailing ∧
      ∃ b', ((inMemory "codescan.io").perform e).outcome b = (.ok (.kept kept), b') ∧
        ∃ id b'', kept.id = some id ∧
          ((inMemory "codescan.io").find kept.kind id).outcome b' =
            (.ok (some { kept with token := some "old" }), b'') := by
  intro entry b e kept
  have free : b.conditions.Unfailing := Conditions.unfailing_calm _
  have answered : ((inMemory "codescan.io").perform e).outcome b =
      (.ok (.kept kept), (((inMemory "codescan.io").perform e).outcome b).2) := rfl
  have moved : e.tokenAfter b.document b.secrets kept = some "old" := by decide
  exact ⟨free, _, answered, moved ▸ find_of_perform_kept free answered⟩

end Registry

end ServerConnections
