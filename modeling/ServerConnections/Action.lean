/-!
# Actions on a host

What the library asks of its surroundings, such as storing a secret or probing a
server, is an action: a function of the host's state that succeeds or fails and
leaves a new state in both cases. The state is a parameter everywhere, so a host
may be a file tree, a table in memory, or anything else with the operations that
are asked for.

`Act.within` runs an action on a part of a larger state.
-/

namespace ServerConnections

/-- An action on a state `σ` that may fail with an `ε`. The state that a failing
action leaves is not undone. -/
abbrev Act (σ ε α : Type) := EStateM ε σ α

namespace Act

variable {σ τ ε ε' α : Type}

/-- An action that cannot fail, among actions that can. -/
def ofState (x : StateM σ α) : Act σ ε α := fun s =>
  match x s with
  | (a, s) => .ok a s

/-- The action with another kind of error. -/
def mapError (f : ε → ε') (x : Act σ ε α) : Act σ ε' α := fun s =>
  match x s with
  | .ok a s => .ok a s
  | .error e s => .error (f e) s

/-- The action on a part of a larger state. -/
def within (get : τ → σ) (set : σ → τ → τ) (x : Act σ ε α) : Act τ ε α := fun t =>
  match x (get t) with
  | .ok a s => .ok a (set s t)
  | .error e s => .error e (set s t)

/-- The outcome of an action and the state that it leaves. -/
def outcome (x : Act σ ε α) (s : σ) : Except ε α × σ :=
  match x s with
  | .ok a s => (.ok a, s)
  | .error e s => (.error e, s)

end Act

end ServerConnections
