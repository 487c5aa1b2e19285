import ServerConnections.Proofs.Registry.ReadBack

/-!
# Secrets and the connections that they belong to

A secret is kept under the storage key of a connection.  Connections may share a
key, those of the former lists included, so that a secret belongs to all of them.
An edit touches the secrets under two keys at most.  Under the key that its
connection has afterwards it stores a token; and it deletes the secret under the
key that its connection had before, unless the secret belongs to a connection that
is still in the document.  Whether it does is decided on the document after the
edit.

Hence no secret is left behind: if every secret belongs to a connection of the
document, then this is so after every edit.

* `Edit.Explains` — the two reasons for which an edit touches a secret
* `Registry.explains_of_perform` — there are no others
* `Settings.Owns` — every secret belongs to a connection of the document
* `Registry.owns_of_mem_session` — no secret is left behind in a run of edits
-/

namespace ServerConnections

open Bench

/-! ## Tables of secrets -/

section Tables

variable {s : Settings} {t : SecretTable} {own token : Option String} {key : String}

/-- A secret that is changed by a token that is stored is that token. -/
theorem SecretTable.get?_storing_of_ne
    (changed : (t.storing own token).get? key ≠ t.get? key) :
    ∃ text, own = some key ∧ nonEmpty? token = some text ∧
      (t.storing own token).get? key = some text := by
  rw [get?_storing] at changed ⊢
  by_cases same : own = some key
  · subst same
    cases given : nonEmpty? token with
    | none => simp [given] at changed
    | some text => exact ⟨text, rfl, rfl, by simp⟩
  · simp [same] at changed

/-- A secret that is changed by a key that is given up is gone, and the key is not in use. -/
theorem Settings.get?_dropped_of_ne (changed : (s.dropped own t).get? key ≠ t.get? key) :
    own = some key ∧ s.usesKey key = false ∧ (s.dropped own t).get? key = none := by
  rw [get?_dropped] at changed ⊢
  by_cases gone : own = some key ∧ s.usesKey key = false
  · exact ⟨gone.1, gone.2, if_pos gone⟩
  · simp [gone] at changed

end Tables

/-! ## Why a secret is touched -/

/-- The connection that is changed or removed, if one is. -/
def Edit.concerned? (s : Settings) : Edit → Option Connection
  | .remove id kind => s.connections.find? kind id
  | e => e.existing? s

/-- **Why the secret under a key is touched**, the document and the secrets being `s`
and `t` before and `s'` and `t'` afterwards.  It is the token stored for the
connection that was answered: the one that the caller gave, else the one that moves
along from the old key.  Or it is deleted, being under the key that the connection
had before, and no connection of the document has the key any more. -/
inductive Edit.Explains (e : Edit) (s : Settings) (t : SecretTable) (answer : Answer)
    (s' : Settings) (t' : SecretTable) (key : String) : Prop
  | stored {kept : Connection} {token : String} (answered : answer = .kept kept)
      (keyed : kept.storageKey = some key)
      (source : e.givenToken.or (e.movedToken s t kept) = some token)
      (there : t'.get? key = some token)
  | deleted {c : Connection} (concerned : e.concerned? s = some c)
      (keyed : c.storageKey = some key) (held : (t.get? key).isSome)
      (gone : t'.get? key = none)
      (unused : ∀ d ∈ s'.connections.all, d.storageKey ≠ some key)

/-- A key that is not in use belongs to nobody. -/
theorem Settings.ne_of_usesKey_eq_false {s : Settings} {key : String}
    (unused : s.usesKey key = false) : ∀ d ∈ s.connections.all, d.storageKey ≠ some key := by
  intro d there keyed
  rw [usesKey_iff.2 ⟨d, there, keyed⟩] at unused
  cases unused

/-- An entry that is changed is concerned. -/
theorem Edit.concerned?_of_existing {e : Edit} {s : Settings} {c : Connection}
    (existing : e.existing? s = some c) : e.concerned? s = some c := by
  cases e with
  | remove id kind => cases existing
  | add | update | submit => exact existing

/-- What is found at a place is what is found. -/
theorem ConnectionLists.find?_of_position? {lists : ConnectionLists} {kind : ServerKind}
    {id : String} {i : Nat} {c : Connection} (found : lists.position? kind id = some i)
    (entry : lists.servers[i]? = some c) : lists.find? kind id = some c := by
  obtain ⟨bound, named, first⟩ := List.findIdx?_eq_some_iff_getElem.1 found
  obtain ⟨_, rfl⟩ := List.getElem?_eq_some_iff.1 entry
  exact List.find?_eq_some_iff_getElem.2
    ⟨named, i, bound, rfl, fun j before => by simpa using first j before⟩

section Explains

variable {e : Edit} {s s' : Settings} {t t' : SecretTable} {answer : Answer} {key : String}

/-- A change by a token that is stored is explained by where the token comes from. -/
theorem Edit.Explains.of_storing {kept : Connection} {token : Option String}
    (source : e.givenToken.or (e.movedToken s t kept) = nonEmpty? token)
    (there : t'.get? key = (t.storing kept.storageKey token).get? key)
    (changed : t'.get? key ≠ t.get? key) : e.Explains s t (.kept kept) s' t' key := by
  obtain ⟨text, keyed, filled, stored⟩ := SecretTable.get?_storing_of_ne (there ▸ changed)
  exact .stored rfl keyed (source.trans filled) (there.trans stored)

/-- A change by a key that is given up is explained by the entry that had it. -/
theorem Edit.Explains.of_dropped {c : Connection} {t₁ : SecretTable}
    (concerned : e.concerned? s = some c) (secrets : t' = s'.dropped c.storageKey t₁)
    (dropped : t'.get? key ≠ t₁.get? key) (changed : t'.get? key ≠ t.get? key) :
    e.Explains s t answer s' t' key := by
  subst secrets
  obtain ⟨keyed, unused, gone⟩ := Settings.get?_dropped_of_ne dropped
  have held : (t.get? key).isSome :=
    Option.isSome_iff_ne_none.2 fun missing => changed (gone.trans missing.symm)
  exact .deleted concerned keyed held gone (Settings.ne_of_usesKey_eq_false unused)

end Explains

section Done

variable {cloudDomain : String} {k b : Bench MemorySettings} {e : Edit} {answer : Answer}

/-- **There are no other reasons.** -/
theorem Edit.Done.explains {key : String} (done : e.Done cloudDomain k answer b)
    (changed : b.secrets.get? key ≠ k.secrets.get? key) :
    e.Explains k.document k.secrets answer b.document b.secrets key := by
  cases done with
  | @added n c kept _ given new plan left =>
      have secrets : b.secrets = k.secrets.storing kept.storageKey c.token :=
        secrets_of_unrecorded left
      have source : e.givenToken.or (e.movedToken k.document k.secrets kept) =
          nonEmpty? c.token := by
        rw [given, Edit.movedToken_of_new new, Option.or_none]
      exact .of_storing source (by rw [secrets]) changed
  | @changed n c ch _ given existing plan _ left =>
      have secrets : b.secrets = (ch.applied k.document).dropped ch.existing.storageKey
        (ch.stored c k.secrets) := secrets_of_unrecorded left
      have document : b.document = ch.applied k.document := document_of_unrecorded left
      by_cases kept : b.secrets.get? key = (ch.stored c k.secrets).get? key
      -- The old key has nothing to do with it.
      · exact .of_storing (Edit.givenToken_or_movedToken given existing) kept changed
      · exact .of_dropped (concerned?_of_existing existing) (document ▸ secrets) kept changed
  | missing _ _ left => exact (changed (congrArg _ (secrets_of_unrecorded left))).elim
  | @removed id kind i c _ asked found entry left =>
      have secrets : b.secrets = (k.document.without i).dropped c.storageKey k.secrets :=
        secrets_of_unrecorded left
      have document : b.document = k.document.without i := document_of_unrecorded left
      subst asked
      exact .of_dropped (ConnectionLists.find?_of_position? found entry) (document ▸ secrets)
        changed changed

end Done

/-- **An edit that answers touches a secret for one of two reasons.** -/
theorem Registry.explains_of_perform {cloudDomain : String} {b b' : Bench MemorySettings}
    {e : Edit} {answer : Answer} {key : String}
    (answered : ((inMemory cloudDomain).perform e).outcome b = (.ok answer, b'))
    (changed : b'.secrets.get? key ≠ b.secrets.get? key) :
    e.Explains b.document b.secrets answer b'.document b'.secrets key :=
  ((perform_ends b e).of_outcome answered).done.explains changed

/-- A connection goes to another organization, and no other has its old key: the secret
under that key is deleted. -/
theorem Registry.explains_of_perform_moved :
    let entry : Connection :=
      ⟨some "a", some "https://app.codescan.io", some "org", some true, false, none⟩
    let b : Bench MemorySettings := .fresh (.of ⟨⟨[], [], [entry]⟩, [], []⟩) [("org", "old")]
      (.calm fun _ => false) .present
    let e : Edit := .submit ⟨some "a", none, some "team", none, false, none⟩
    let answer : Answer := .kept { entry with organization := some "team" }
    ∃ b', ((inMemory "codescan.io").perform e).outcome b = (.ok answer, b') ∧
      b'.secrets.get? "org" ≠ b.secrets.get? "org" ∧
        e.Explains b.document b.secrets answer b'.document b'.secrets "org" := by
  intro entry b e answer
  have answered : ((inMemory "codescan.io").perform e).outcome b =
      (.ok answer, (((inMemory "codescan.io").perform e).outcome b).2) := rfl
  have changed : (((inMemory "codescan.io").perform e).outcome b).2.secrets.get? "org" ≠
      b.secrets.get? "org" := by decide
  exact ⟨_, answered, changed, explains_of_perform answered changed⟩

/-! ## Secrets that belong to a connection -/

/-- **Every secret belongs to a connection of the document.** -/
def Settings.Owns (s : Settings) (t : SecretTable) : Prop :=
  ∀ key ∈ t.keys, ∃ c ∈ s.connections.all, c.storageKey = some key

instance (s : Settings) (t : SecretTable) : Decidable (s.Owns t) :=
  inferInstanceAs
    (Decidable (∀ key ∈ t.keys, ∃ c ∈ s.connections.all, c.storageKey = some key))

namespace Settings

variable {s s' : Settings} {t : SecretTable} {key : String}

theorem owns_iff : s.Owns t ↔ ∀ key, (t.get? key).isSome → s.usesKey key := by
  simp only [Owns, Keyed.mem_keys_iff, usesKey_iff]

/-- A new token is stored, then the secret under the old key is dropped, if its key is
not in use.  Every other key has to stay in use. -/
theorem Owns.edited (old own token : Option String) (owns : s.Owns t)
    (new : ∀ key, own = some key → s'.usesKey key)
    (stay : ∀ key, s.usesKey key → s'.usesKey key ∨ old = some key) :
    s'.Owns (s'.dropped old (t.storing own token)) := by
  rw [owns_iff] at owns ⊢
  intro key held
  cases unused : s'.usesKey key with
  | true => rfl
  | false =>
      rw [get?_dropped, SecretTable.get?_storing] at held
      -- The key is not the new one, so that the secret was there before, under a key in use.
      have other : own ≠ some key := fun same => by simp [new key same] at unused
      by_cases gone : old = some key
      · simp [gone, unused] at held
      · have before : (t.get? key).isSome := by simpa [gone, other] using held
        rcases stay key (owns key before) with used | same
        · simp [unused] at used
        · exact absurd same gone

/-- The connections of a document but one stay in the unified list. -/
theorem usesKey_withServers {servers : List Connection} {gone : Connection}
    (stay : ∀ c ∈ s.servers, c ∈ servers ∨ c = gone) (used : s.usesKey key) :
    (s.withServers servers).usesKey key ∨ gone.storageKey = some key := by
  obtain ⟨c, there, keyed⟩ := usesKey_iff.1 used
  rcases List.mem_append.1 there with former | unified
  · exact .inl (usesKey_iff.2 ⟨c, List.mem_append_left _ former, keyed⟩)
  · rcases stay c unified with stays | rfl
    · exact .inl (usesKey_of_mem stays keyed)
    · exact .inr keyed

/-- A connection of a list is one of the others or the one at a given place. -/
theorem exists_ne_or_eq {servers : List Connection} {i : Nat} {c d : Connection}
    (there : d ∈ servers) (entry : servers[i]? = some c) :
    (∃ j, j ≠ i ∧ servers[j]? = some d) ∨ d = c := by
  obtain ⟨j, place⟩ := List.mem_iff_getElem?.1 there
  by_cases same : j = i
  · subst same
    exact .inr (Option.some.inj (place.symm.trans entry))
  · exact .inl ⟨j, same, place⟩

/-- An addition leaves all keys in use. -/
theorem usesKey_added (kept : Connection) (used : s.usesKey key) :
    (s.added kept).usesKey key := by
  obtain ⟨c, there, keyed⟩ := usesKey_iff.1 used
  refine usesKey_iff.2 ⟨c, ?_, keyed⟩
  rw [ConnectionLists.all, List.mem_append] at there ⊢
  exact there.imp id fun unified => List.mem_append_left _ unified

/-- A change leaves all keys in use but the one that its entry had. -/
theorem usesKey_applied {c : Connection} {ch : Change} (h : s.Allows c ch)
    (used : s.usesKey key) :
    (ch.applied s).usesKey key ∨ ch.existing.storageKey = some key := by
  refine usesKey_withServers (fun d there => ?_) used
  refine (exists_ne_or_eq there h.entry).imp_left ?_
  rintro ⟨j, other, place⟩
  exact List.mem_iff_getElem?.2 ⟨j, by rwa [List.getElem?_set_ne (Ne.symm other)]⟩

/-- A removal leaves all keys in use but the one of the entry that goes. -/
theorem usesKey_without {i : Nat} {c : Connection} (entry : s.servers[i]? = some c)
    (used : s.usesKey key) : (s.without i).usesKey key ∨ c.storageKey = some key := by
  refine usesKey_withServers (fun d there => ?_) used
  exact (exists_ne_or_eq there entry).imp_left List.mem_eraseIdx_iff_getElem?.2

end Settings

section Done

variable {cloudDomain : String} {k b : Bench MemorySettings} {e : Edit} {answer : Answer}

/-- **What an edit that answers leaves behind has owners**, if what it found had. -/
theorem Edit.Done.owns (done : e.Done cloudDomain k answer b)
    (owns : k.document.Owns k.secrets) : b.document.Owns b.secrets := by
  cases done with
  | @added n c kept _ _ _ plan left =>
      have used : ∀ key, kept.storageKey = some key → (k.document.added kept).usesKey key :=
        fun key => Settings.usesKey_of_mem (List.mem_append_right _ (List.mem_singleton.2 rfl))
      rw [document_of_unrecorded left, secrets_of_unrecorded left]
      exact owns.edited none kept.storageKey c.token used
        fun key before => .inl (Settings.usesKey_added kept before)
  | @changed n c ch _ _ _ plan _ left =>
      have allows := Settings.allows_of_change plan
      rw [document_of_unrecorded left, secrets_of_unrecorded left]
      exact owns.edited ch.existing.storageKey ch.changed.storageKey (ch.token c k.secrets)
        (fun key => Settings.usesKey_of_mem allows.changed_mem)
        fun key before => Settings.usesKey_applied allows before
  | missing _ _ left =>
      rw [document_of_unrecorded left, secrets_of_unrecorded left]
      exact owns
  | @removed id kind i c _ _ _ entry left =>
      rw [document_of_unrecorded left, secrets_of_unrecorded left]
      exact owns.edited c.storageKey none none nofun
        fun key before => Settings.usesKey_without entry before

end Done

namespace Registry

variable {cloudDomain : String}

/-- One edit on a host that refuses nothing. -/
theorem perform_owns {b : Bench MemorySettings} (free : b.conditions.Unfailing)
    (owns : b.document.Owns b.secrets) (e : Edit) :
    ((inMemory cloudDomain).perform e).Ensures b fun _ b' =>
      b'.conditions.Unfailing ∧ b'.document.Owns b'.secrets := by
  refine (perform_ends b e).mono fun res b' ends => ?_
  cases res with
  | ok answer => exact ⟨ends.done.conditions ▸ free, ends.done.owns owns⟩
  | error error =>
      have calm : b.unrecorded.conditions.Unfailing := free
      have left := ends.left_of_error calm
      rw [conditions_of_unrecorded left, document_of_unrecorded left,
        secrets_of_unrecorded left]
      exact ⟨free, owns⟩

/-- **In a session every secret goes on to belong to a connection of the document**, if
this is so at the beginning and nothing is refused.  The callers may give anything,
and what they ask for may be rejected. -/
theorem owns_of_mem_session {b : Bench MemorySettings} (free : b.conditions.Unfailing)
    (owns : b.document.Owns b.secrets) (edits : List Edit) :
    ∀ o ∈ (inMemory cloudDomain).session edits b, o.2.document.Owns o.2.secrets := by
  intro o there
  refine (Act.forall_mem_outcomes (fun b : Bench MemorySettings =>
    b.conditions.Unfailing ∧ b.document.Owns b.secrets) (fun _ => True) ⟨free, owns⟩ ?_ o there).1.2
  intro x there b' ⟨free', owns'⟩
  obtain ⟨edit, -, rfl⟩ := List.mem_map.1 there
  exact (perform_owns free' owns' edit).mono fun _ _ inv => ⟨inv, trivial⟩

/-- A connection shares its secret with one of a former list.  It is changed so that the
secret is copied, then the same is asked for in vain, and then it is removed. -/
theorem owns_of_mem_session_shared_key :
    let entry : Connection :=
      ⟨some "a", some "https://app.codescan.io", some "org", some true, false, none⟩
    let b : Bench MemorySettings := .fresh
      (.of ⟨⟨[], [{ entry with id := some "former" }], [entry]⟩, [], []⟩)
      [("org", "t")] (.calm fun _ => false) .present
    b.conditions.Unfailing ∧ b.document.Owns b.secrets ∧
      ∀ o ∈ (inMemory "codescan.io").session
        [.update ⟨some "a", none, some "team", none, false, none⟩,
          .add ⟨some "a", some "https://app.codescan.io", some "team", some true, false,
            some "u"⟩,
          .remove "a" .cloud] b,
        o.2.document.Owns o.2.secrets :=
  ⟨Conditions.unfailing_calm _, by decide,
    owns_of_mem_session (Conditions.unfailing_calm _) (by decide) _⟩

end Registry

end ServerConnections
