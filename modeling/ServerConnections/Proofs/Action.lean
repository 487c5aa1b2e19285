import ServerConnections.Action

/-!
# What actions ensure

An action answers or fails, and it leaves a state in both cases.  `Act.Ensures`
says of an answer and the state left behind that they have a property together.
Its rules take a sequence of actions apart, one action at a time: `Ensures.bind`
asks for what the first one ensures, and then treats its answers and its
failures separately.

A run takes one action after the other on the same host, whether they answer or
fail.  What each action ensures, given that a property of the state holds before
it, a run ensures of all of its outcomes.

* `Act.Ensures` — the property
* `Act.Ensures.bind` — two actions in sequence
* `Act.Ensures.of_outcome` — from the property to a given outcome
* `Act.bind_eq_ok_iff`, `Act.bind_eq_error_iff` — how a sequence ends
* `Act.Yields` — the property of an action that answers
* `Act.Gives` — what all answers of an action are like
* `Act.Respects` — what an action does to the state in any case
* `Act.outcomes`, `Act.after` — a run, and what it leaves
* `Act.forall_mem_outcomes` — an invariant of all steps is one of the run
-/

namespace ServerConnections.Act

variable {σ ε ε' α β : Type} {s : σ}

/-- **What an action answers and leaves has a property.** -/
def Ensures (x : Act σ ε α) (s : σ) (Q : Except ε α → σ → Prop) : Prop :=
  Q (x.outcome s).1 (x.outcome s).2

@[simp] theorem outcome_pure (a : α) (s : σ) :
    (pure a : Act σ ε α).outcome s = (.ok a, s) := rfl

@[simp] theorem outcome_throw (e : ε) (s : σ) :
    (throw e : Act σ ε α).outcome s = (.error e, s) := rfl

@[simp] theorem ensures_pure {a : α} {Q : Except ε α → σ → Prop} :
    Ensures (pure a) s Q ↔ Q (.ok a) s := Iff.rfl

@[simp] theorem ensures_throw {e : ε} {Q : Except ε α → σ → Prop} :
    Ensures (throw e) s Q ↔ Q (.error e) s := Iff.rfl

@[simp] theorem ensures_ofState {x : StateM σ α} {Q : Except ε α → σ → Prop} :
    Ensures (ofState x) s Q ↔ Q (.ok (x s).1) (x s).2 := Iff.rfl

/-- Two actions in sequence that cannot fail. -/
theorem state_bind (x : StateM σ α) (f : α → StateM σ β) (s : σ) :
    (x >>= f) s = f (x s).1 (x s).2 := rfl

theorem state_pure (a : α) (s : σ) : (pure a : StateM σ α) s = (a, s) := rfl

/-- A failure ends a sequence. -/
@[simp] theorem throw_bind (e : ε) (f : α → Act σ ε β) :
    (throw e : Act σ ε α) >>= f = throw e := rfl

/-- The property of another outcome of the same kind, `mapError` changing
nothing but the error. -/
theorem ensures_mapError {f : ε → ε'} {x : Act σ ε α} {Q : Except ε' α → σ → Prop} :
    Ensures (x.mapError f) s Q ↔
      Ensures x s fun res s' => Q (res.mapError f) s' := by
  unfold Ensures outcome mapError
  cases x s <;> rfl

/-- What is ensured of a result that is mapped. -/
theorem ensures_map {f : α → β} {x : Act σ ε α} {Q : Except ε β → σ → Prop} :
    Ensures (f <$> x) s Q ↔ Ensures x s fun res s' => Q (res.map f) s' := by
  have run : (f <$> x) s = EStateM.map f x s := rfl
  unfold Ensures outcome
  rw [run, EStateM.map]
  cases x s <;> rfl

/-- To map a result does not make errors. -/
theorem error_of_map_eq_error {f : α → β} {res : Except ε α} {e : ε}
    (h : res.map f = .error e) : res = .error e := by
  cases res with
  | error => simpa [Except.map] using h
  | ok => simp [Except.map] at h

/-- A result that is mapped comes from one that was there. -/
theorem ok_of_map_eq_ok {f : α → β} {res : Except ε α} {b : β} (h : res.map f = .ok b) :
    ∃ a, res = .ok a ∧ f a = b := by
  cases res with
  | error => simp [Except.map] at h
  | ok a => exact ⟨a, rfl, by simpa [Except.map] using h⟩

/-- What is ensured may be weakened. -/
theorem Ensures.mono {x : Act σ ε α} {P Q : Except ε α → σ → Prop}
    (h : Ensures x s P) (imp : ∀ res s', P res s' → Q res s') : Ensures x s Q :=
  imp _ _ h

/-- Two things that are ensured are ensured together. -/
theorem Ensures.and {x : Act σ ε α} {P Q : Except ε α → σ → Prop} (h : Ensures x s P)
    (h' : Ensures x s Q) : Ensures x s fun res s' => P res s' ∧ Q res s' :=
  ⟨h, h'⟩

/-- A sequence goes on where its first action has answered, and ends where that
has failed. -/
theorem outcome_bind (x : Act σ ε α) (f : α → Act σ ε β) (s : σ) :
    (x >>= f).outcome s = match x.outcome s with
      | (.ok a, s') => (f a).outcome s'
      | (.error e, s') => (.error e, s') := by
  have run := EStateM.run_bind (s := s) x f
  simp only [EStateM.run] at run
  unfold outcome
  rw [run]
  cases x s <;> rfl

/-- To map a result is nothing to the state. -/
theorem outcome_map (f : α → β) (x : Act σ ε α) (s : σ) :
    (f <$> x).outcome s = ((x.outcome s).1.map f, (x.outcome s).2) := by
  rw [← bind_pure_comp, outcome_bind]
  rcases x.outcome s with ⟨e | a, s'⟩ <;> rfl

/-- **Two actions in sequence.**  The answers of the first one and its failures
are treated separately. -/
theorem Ensures.bind {x : Act σ ε α} {f : α → Act σ ε β}
    {P : Except ε α → σ → Prop} {Q : Except ε β → σ → Prop} (h : Ensures x s P)
    (ok : ∀ a s', P (.ok a) s' → Ensures (f a) s' Q)
    (error : ∀ e s', P (.error e) s' → Q (.error e) s') : Ensures (x >>= f) s Q := by
  unfold Ensures at *
  rw [outcome_bind]
  revert h
  rcases x.outcome s with ⟨e | a, s'⟩
  · exact error e s'
  · exact ok a s'

/-- What a sequence ensures, in terms of its actions. -/
theorem ensures_bind {x : Act σ ε α} {f : α → Act σ ε β} {Q : Except ε β → σ → Prop} :
    Ensures (x >>= f) s Q ↔ Ensures x s fun res s' =>
      match res with
      | .ok a => Ensures (f a) s' Q
      | .error e => Q (.error e) s' := by
  unfold Ensures
  rw [outcome_bind]
  rcases x.outcome s with ⟨e | a, s'⟩ <;> exact Iff.rfl

/-- What an action ensures holds of any outcome that it is seen to have. -/
theorem Ensures.of_outcome {x : Act σ ε α} {Q : Except ε α → σ → Prop}
    {res : Except ε α} {s' : σ} (h : Ensures x s Q) (outcome : x.outcome s = (res, s')) :
    Q res s' := by
  unfold Ensures at h
  rwa [outcome] at h

/-! ## How a sequence ends -/

/-- A sequence has answered if both of its parts have. -/
theorem bind_eq_ok_iff {x : Act σ ε α} {f : α → Act σ ε β} {s'' : σ} {b : β} :
    (x >>= f) s = .ok b s'' ↔ ∃ a s', x s = .ok a s' ∧ f a s' = .ok b s'' := by
  simp only [bind, EStateM.bind]
  cases x s with
  | ok a s' =>
      constructor
      · exact fun answered => ⟨a, s', rfl, answered⟩
      · rintro ⟨_, _, ⟨⟩, answered⟩
        exact answered
  | error e s' =>
      constructor
      · nofun
      · rintro ⟨_, _, ⟨⟩, -⟩

/-- A call succeeds whatever its errors are called. -/
theorem mapError_eq_ok_iff {f : ε → ε'} {x : Act σ ε α} {s' : σ} {a : α} :
    x.mapError f s = .ok a s' ↔ x s = .ok a s' := by
  unfold mapError
  cases x s <;> simp

/-- An action in two parts fails in the first or in the second. -/
theorem bind_eq_error_iff {x : Act σ ε α} {f : α → Act σ ε β} {s'' : σ} {e : ε} :
    (x >>= f) s = .error e s'' ↔
      x s = .error e s'' ∨ ∃ a s', x s = .ok a s' ∧ f a s' = .error e s'' := by
  simp only [bind, EStateM.bind]
  cases x s with
  | ok a s' =>
      constructor
      · exact fun failed => .inr ⟨a, s', rfl, failed⟩
      · rintro (failed | ⟨_, _, ⟨⟩, failed⟩)
        · cases failed
        · exact failed
  | error e' s' =>
      constructor
      · rintro ⟨⟩
        exact .inl rfl
      · rintro (⟨⟨⟩⟩ | ⟨_, _, ⟨⟩, -⟩)
        rfl

/-- A call fails with another name for the error. -/
theorem mapError_eq_error_iff {f : ε → ε'} {x : Act σ ε α} {s' : σ} {e' : ε'} :
    x.mapError f s = .error e' s' ↔ ∃ e, x s = .error e s' ∧ f e = e' := by
  unfold mapError
  cases x s with
  | ok => simp
  | error e s₁ =>
      constructor
      · rintro ⟨⟩
        exact ⟨e, rfl, rfl⟩
      · rintro ⟨_, ⟨⟩, rfl⟩
        rfl

/-! ## Actions that answer -/

/-- **An action answers**, and its answer and what it leaves have a property. -/
def Yields (x : Act σ ε α) (s : σ) (P : α → σ → Prop) : Prop :=
  x.Ensures s fun res s' => ∃ a, res = .ok a ∧ P a s'

theorem yields_ofState {x : StateM σ α} {P : α → σ → Prop} :
    Yields (ofState x : Act σ ε α) s P ↔ P (x s).1 (x s).2 := by
  simp [Yields]

/-- An action that yields has a result. -/
theorem Yields.outcome {x : Act σ ε α} {P : α → σ → Prop} (h : Yields x s P) :
    ∃ a s', x.outcome s = (.ok a, s') ∧ P a s' := by
  obtain ⟨a, answered, holds⟩ := h
  exact ⟨a, _, Prod.ext answered rfl, holds⟩

/-- Two actions in sequence, of which the first one answers. -/
theorem Yields.bind {x : Act σ ε α} {f : α → Act σ ε β} {P : α → σ → Prop}
    {Q : Except ε β → σ → Prop} (h : Yields x s P)
    (ok : ∀ a s', P a s' → Ensures (f a) s' Q) : Ensures (x >>= f) s Q := by
  refine Ensures.bind h ?_ nofun
  rintro a s' ⟨_, ⟨⟩, holds⟩
  exact ok a s' holds

/-- An answer is put into another form. -/
theorem Yields.map {f : α → β} {x : Act σ ε α} {P : β → σ → Prop}
    (h : Yields x s fun a s' => P (f a) s') : Yields (f <$> x) s P := by
  refine ensures_map.2 (h.mono ?_)
  rintro _ s' ⟨a, rfl, holds⟩
  exact ⟨f a, rfl, holds⟩

/-- An action that has no errors has none under other names. -/
theorem Yields.mapError {x : Act σ ε α} {P : α → σ → Prop} (h : Yields x s P) (f : ε → ε') :
    Yields (x.mapError f) s P := by
  refine ensures_mapError.2 (Ensures.mono h ?_)
  rintro _ s' ⟨a, rfl, holds⟩
  exact ⟨a, rfl, holds⟩

/-- What is yielded may be weakened. -/
theorem Yields.mono {x : Act σ ε α} {P Q : α → σ → Prop} (h : Yields x s P)
    (imp : ∀ a s', P a s' → Q a s') : Yields x s Q :=
  Ensures.mono h fun _ s' ⟨a, answered, holds⟩ => ⟨a, answered, imp a s' holds⟩

/-! ## What answers are like -/

/-- **All answers of an action have a property**, whatever state it starts from. -/
def Gives (P : α → Prop) (x : Act σ ε α) : Prop :=
  ∀ s, x.Ensures s fun res _ => ∀ a, res = .ok a → P a

section Gives

variable {P : α → Prop} {Q : β → Prop}

theorem gives_pure {a : α} (h : P a) : Gives P (pure a : Act σ ε α) := by
  rintro s _ ⟨⟩
  exact h

theorem gives_throw (e : ε) : Gives P (throw e : Act σ ε α) := by
  rintro s _ ⟨⟩

/-- The results are like those before, seen through the map. -/
theorem Gives.map {x : Act σ ε α} {f : α → β} (h : Gives P x) (imp : ∀ a, P a → Q (f a)) :
    Gives Q (f <$> x) := by
  refine fun s => ensures_map.2 ((h s).mono fun res s' like b answered => ?_)
  obtain ⟨a, rfl, rfl⟩ := ok_of_map_eq_ok answered
  exact imp a (like a rfl)

theorem gives_ofState {x : StateM σ α} (h : ∀ s, P (x s).1) :
    Gives P (ofState x : Act σ ε α) := by
  rintro s _ ⟨⟩
  exact h s

/-- In a sequence only the results of the last action count, and they may rest on the first. -/
theorem Gives.bind {x : Act σ ε α} {f : α → Act σ ε β} (first : Gives P x)
    (rest : ∀ a, P a → Gives Q (f a)) : Gives Q (x >>= f) := by
  intro s
  refine Ensures.bind (first s) ?_ nofun
  intro a s' like
  exact rest a (like a rfl) s'

/-- The answers of a sequence are those of its last action. -/
theorem gives_bind {x : Act σ ε α} {f : α → Act σ ε β} (rest : ∀ a, Gives Q (f a)) :
    Gives Q (x >>= f) :=
  Gives.bind (P := fun _ => True) (fun _ _ _ => trivial) fun a _ => rest a

end Gives

/-! ## What every action does to the state -/

/-- **The state that an action leaves is in a relation with the one before**, whether
the action answers or fails. -/
def Respects (R : σ → σ → Prop) (x : Act σ ε α) : Prop :=
  ∀ s, x.Ensures s fun _ s' => R s s'

section Respects

variable {R : σ → σ → Prop}

theorem respects_pure [Std.Refl R] (a : α) : Respects R (pure a : Act σ ε α) :=
  fun s => Std.Refl.refl s

theorem respects_ofState {x : StateM σ α} :
    Respects R (ofState x : Act σ ε α) ↔ ∀ s, R s (x s).2 := Iff.rfl

/-- Errors may have other names. -/
theorem Respects.mapError {x : Act σ ε α} (h : Respects R x) (f : ε → ε') :
    Respects R (x.mapError f) :=
  fun s => ensures_mapError.2 (h s)

/-- In a sequence both actions respect the relation, which is transitive. -/
theorem Respects.bind [Trans R R R] {x : Act σ ε α} {f : α → Act σ ε β} (first : Respects R x)
    (rest : ∀ a, Respects R (f a)) : Respects R (x >>= f) := by
  intro s
  refine Ensures.bind (first s) ?_ ?_
  · intro a s' here
    exact (rest a s').mono fun _ _ there => Trans.trans here there
  · intro e s' here
    exact here

end Respects

/-! ## Runs -/

/-- **The outcomes of a run**: each action starts from the state that the one before
it has left, even if that one has failed. -/
def outcomes : List (Act σ ε α) → σ → List (Except ε α × σ)
  | [], _ => []
  | x :: xs, s => x.outcome s :: outcomes xs (x.outcome s).2

/-- The state that a run leaves. -/
def after (xs : List (Act σ ε α)) (s : σ) : σ :=
  xs.foldl (fun s x => (x.outcome s).2) s

/-- **An invariant of all steps is one of the run**, and what they ensure under it
holds of all outcomes. -/
theorem forall_mem_outcomes (Inv : σ → Prop) (Q : Except ε α → Prop) {xs : List (Act σ ε α)}
    (start : Inv s)
    (step : ∀ x ∈ xs, ∀ s, Inv s → Ensures x s fun res s' => Inv s' ∧ Q res) :
    ∀ o ∈ outcomes xs s, Inv o.2 ∧ Q o.1 := by
  -- By induction on the run, from every state: the rest starts where `x` has stopped.
  induction xs generalizing s with
  | nil => nofun
  | cons x xs ih =>
      have first : Inv (x.outcome s).2 ∧ Q (x.outcome s).1 := step x (.head xs) s start
      rintro o (_ | ⟨_, later⟩)
      · exact first
      · exact ih first.1 (fun y there => step y (.tail x there)) o later

end ServerConnections.Act
