import Mathlib.Data.List.Forall2
import ServerConnections.Proofs.Action

/-!
# Two actions side by side

Two actions on different hosts match if they cannot be told apart but for what a
relation between the hosts and a view of the answers leave open: started from
hosts in the relation, both answer or both fail with the same error, the answer of
the second one is the view of the first one's, and the hosts are in the relation
again.

The relation may say anything.  Where it says that the second host is a picture of
the first one, the second action simulates the first one.  Where it says that both
hosts are the same and have a property, an action that matches itself keeps the
property: `Act.matches_self_iff`.  So one rule for every action serves both ends.

* `Act.Matches` — the property
* `Act.Matches.bind` — two actions in sequence, on both sides
* `Act.forall₂_outcomes` — runs of matching actions
* `Act.Keeps`, `Act.matches_self_iff` — what an action keeps
-/

namespace ServerConnections.Act

variable {σ τ ε ε' α α' β β' : Type} {R R' : σ → τ → Prop} {g : α → α'} {g' : β → β'}

/-- **An action matches another one**, up to a relation between their hosts and a view
of the answers. -/
def Matches (R : σ → τ → Prop) (g : α → α') (x : Act σ ε α) (y : Act τ ε α') : Prop :=
  ∀ s t, R s t → (y.outcome t).1 = (x.outcome s).1.map g ∧ R (x.outcome s).2 (y.outcome t).2

/-! ## Rules -/

theorem matches_pure (a : α) : Matches R g (pure a : Act σ ε α) (pure (g a)) :=
  fun _ _ related => ⟨rfl, related⟩

theorem matches_throw (e : ε) : Matches R g (throw e : Act σ ε α) (throw e) :=
  fun _ _ related => ⟨rfl, related⟩

/-- Actions that cannot fail match if their results and the states that they leave do. -/
theorem matches_ofState {x : StateM σ α} {y : StateM τ α'} :
    Matches R g (ofState x : Act σ ε α) (ofState y) ↔
      ∀ s t, R s t → (y t).1 = g (x s).1 ∧ R (x s).2 (y t).2 := by
  refine forall₃_congr fun s t _ => and_congr_left fun _ => ?_
  exact iff_of_eq (Except.ok.injEq _ _)

@[simp] theorem ofState_bind (x : StateM σ α) (f : α → StateM σ β) :
    (ofState (x >>= f) : Act σ ε β) = ofState x >>= fun a => ofState (f a) := rfl

@[simp] theorem ofState_pure (a : α) : (ofState (pure a) : Act σ ε α) = pure a := rfl

/-- Errors under other names are errors of the same action. -/
theorem outcome_mapError (f : ε → ε') (x : Act σ ε α) (s : σ) :
    (x.mapError f).outcome s = ((x.outcome s).1.mapError f, (x.outcome s).2) := by
  unfold outcome mapError
  cases x s <;> rfl

/-- An action on a part of the state leaves the other parts alone. -/
theorem outcome_within (get : τ → σ) (set : σ → τ → τ) (x : Act σ ε α) (t : τ) :
    (x.within get set).outcome t = ((x.outcome (get t)).1, set (x.outcome (get t)).2 t) := by
  unfold outcome within
  cases x (get t) <;> rfl

/-- Actions still match when their errors get other names. -/
theorem Matches.mapError {x : Act σ ε α} {y : Act τ ε α'} (h : Matches R g x y) (f : ε → ε') :
    Matches R g (x.mapError f) (y.mapError f) := by
  intro s t related
  obtain ⟨answer, left⟩ := h s t related
  rw [outcome_mapError, outcome_mapError, answer]
  refine ⟨?_, left⟩
  cases (x.outcome s).1 <;> rfl

/-- Two actions in sequence, of which the second one may rely on what the answers of the
first one are like. -/
theorem Matches.bind_gives {P : α → Prop} {x : Act σ ε α} {y : Act τ ε α'} {f : α → Act σ ε β}
    {f' : α' → Act τ ε β'} (first : Matches R g x y) (answers : Gives P x)
    (rest : ∀ a, P a → Matches R g' (f a) (f' (g a))) : Matches R g' (x >>= f) (y >>= f') := by
  intro s t related
  have here := first s t related
  have like : ∀ a, (x.outcome s).1 = .ok a → P a := answers s
  rw [outcome_bind, outcome_bind]
  generalize x.outcome s = o at here like
  generalize y.outcome t = o' at here
  obtain ⟨res, s'⟩ := o
  obtain ⟨res', t'⟩ := o'
  obtain ⟨rfl, left⟩ := here
  cases res with
  | error e => exact ⟨rfl, left⟩
  | ok a => exact rest a (like a rfl) s' t' left

/-- **Two actions in sequence**, on both sides. -/
theorem Matches.bind {x : Act σ ε α} {y : Act τ ε α'} {f : α → Act σ ε β}
    {f' : α' → Act τ ε β'}
    (first : Matches R g x y) (rest : ∀ a, Matches R g' (f a) (f' (g a))) :
    Matches R g' (x >>= f) (y >>= f') :=
  first.bind_gives (P := fun _ => True) (fun _ _ _ => trivial) fun a _ => rest a

/-- An answer is put into another form on both sides. -/
theorem Matches.map {x : Act σ ε α} {y : Act τ ε α'} (h : Matches R g x y) {k : α → β}
    {k' : α' → β'} (same : ∀ a, k' (g a) = g' (k a)) : Matches R g' (k <$> x) (k' <$> y) := by
  rw [← bind_pure_comp, ← bind_pure_comp]
  refine h.bind fun a => ?_
  rw [same]
  exact matches_pure (k a)

/-! ## Runs -/

/-- **Runs of matching actions** have matching outcomes. -/
theorem forall₂_outcomes {xs : List (Act σ ε α)} {ys : List (Act τ ε α')} {s : σ} {t : τ}
    (steps : List.Forall₂ (Matches R g) xs ys) (related : R s t) :
    List.Forall₂ (fun o o' => o'.1 = o.1.map g ∧ R o.2 o'.2)
      (outcomes xs s) (outcomes ys t) := by
  -- By induction on both runs, from all hosts in the relation.
  induction steps generalizing s t with
  | nil => exact .nil
  | @cons x y xs ys first _ ih =>
      obtain ⟨answer, left⟩ := first s t related
      exact .cons ⟨answer, left⟩ (ih left)

/-! ## What an action keeps -/

/-- **An action keeps a property of its host**, whether it answers or fails. -/
def Keeps (I : σ → Prop) (x : Act σ ε α) : Prop :=
  ∀ s, I s → x.Ensures s fun _ s' => I s'

/-- The two hosts are the same one, and it has a property. -/
def Same (I : σ → Prop) (s t : σ) : Prop := s = t ∧ I s

theorem keeps_pure {I : σ → Prop} (a : α) : Keeps I (pure a : Act σ ε α) :=
  fun _ holds => holds

/-- A sequence keeps what both actions keep. -/
theorem Keeps.bind {I : σ → Prop} {x : Act σ ε α} {f : α → Act σ ε β} (first : Keeps I x)
    (rest : ∀ a, Keeps I (f a)) : Keeps I (x >>= f) :=
  fun s holds => (first s holds).bind rest fun _ _ still => still

theorem Keeps.map {I : σ → Prop} {x : Act σ ε α} (h : Keeps I x) (f : α → β) :
    Keeps I (f <$> x) :=
  fun s holds => ensures_map.2 (h s holds)

/-- What all of its actions keep, a run keeps. -/
theorem keeps_after {I : σ → Prop} {xs : List (Act σ ε α)} {s : σ}
    (steps : ∀ x ∈ xs, Keeps I x) (start : I s) : I (after xs s) := by
  induction xs generalizing s with
  | nil => exact start
  | cons x xs ih =>
      exact ih (fun y there => steps y (.tail x there)) (steps x (.head xs) s start)

/-- **An action that fails leaves a property of its host**.  One that answers need not. -/
def Spares (I : σ → Prop) (x : Act σ ε α) : Prop :=
  ∀ s, I s → x.Ensures s fun res s' => ∀ e, res = .error e → I s'

/-- What is kept in any case is kept where the action fails. -/
theorem Keeps.spares {I : σ → Prop} {x : Act σ ε α} (h : Keeps I x) : Spares I x :=
  fun s holds => (h s holds).mono fun _ _ still _ _ => still

/-- In a sequence only the last action may give the property up, where it answers. -/
theorem Keeps.bind_spares {I : σ → Prop} {x : Act σ ε α} {f : α → Act σ ε β}
    (first : Keeps I x)
    (rest : ∀ a, Spares I (f a)) : Spares I (x >>= f) :=
  fun s holds => (first s holds).bind rest fun _ _ still _ _ => still

theorem Spares.map {I : σ → Prop} {x : Act σ ε α} (h : Spares I x) (f : α → β) :
    Spares I (f <$> x) :=
  fun s holds => ensures_map.2 ((h s holds).mono fun _ _ still e failed =>
    still e (error_of_map_eq_error failed))

/-- An action that matches another one in the same states keeps their property. -/
theorem Matches.keeps {I : σ → Prop} {x : Act σ ε α} {y : Act σ ε α'}
    (h : Matches (Same I) g x y) : Keeps I x :=
  fun s holds => (h s s ⟨rfl, holds⟩).2.2

/-- **To keep a property is to match oneself**, in states that are the same and have it. -/
theorem matches_self_iff {I : σ → Prop} {x : Act σ ε α} :
    Matches (Same I) id x x ↔ Keeps I x := by
  refine ⟨Matches.keeps, ?_⟩
  rintro h s _ ⟨rfl, holds⟩
  rw [Except.map_id]
  exact ⟨rfl, rfl, h s holds⟩

end ServerConnections.Act
