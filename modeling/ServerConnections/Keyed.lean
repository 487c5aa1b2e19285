/-!
# Lists ordered by key

A finite map from texts is kept as a list of pairs in the order of the keys, each
key once. `put` and `remove` keep that order. It is the order of the characters
of the keys, which is also the order of their bytes in UTF-8.

The members of JSON objects that were read, the tables of secrets and the entries
of directories are such lists. The view of a list is `get?`; the lemmas say what
each operation does to it.
-/

namespace ServerConnections

/-- A finite map from texts, in the order of the keys. -/
abbrev Keyed (β : Type) := List (String × β)

namespace Keyed

variable {β : Type}

/-- The value of a key. -/
def get? (key : String) (m : Keyed β) : Option β :=
  m.lookup key

/-- Sets the value of a key. -/
def put (key : String) (value : β) : Keyed β → Keyed β
  | [] => [(key, value)]
  | (k, v) :: rest =>
    if key = k then (key, value) :: rest
    else if key < k then (key, value) :: (k, v) :: rest
    else (k, v) :: put key value rest

/-- Drops a key. -/
def remove (key : String) (m : Keyed β) : Keyed β :=
  m.filter fun p => p.1 != key

/-- Whether a key has a value. -/
def has (key : String) (m : Keyed β) : Bool :=
  (m.get? key).isSome

/-- The keys in order. -/
def keys (m : Keyed β) : List String :=
  m.map Prod.fst

/-- The pairs whose key is not among those given. -/
def without (keys : List String) (m : Keyed β) : Keyed β :=
  m.filter fun p => !keys.contains p.1

/-- The map that a list of pairs makes, the last of two values for a key being
the one that counts. -/
def ofList (pairs : List (String × β)) : Keyed β :=
  pairs.foldl (fun m p => m.put p.1 p.2) []

@[simp] theorem get?_nil (key : String) : get? key ([] : Keyed β) = none := rfl

theorem get?_cons (key k : String) (v : β) (rest : Keyed β) :
    get? key ((k, v) :: rest) = if key = k then some v else get? key rest := by
  by_cases h : key = k
  · simp [get?, h]
  · simp [get?, List.lookup_cons, h, beq_eq_false_iff_ne.2 h]

theorem mem_keys_iff {key : String} {m : Keyed β} : key ∈ m.keys ↔ (m.get? key).isSome := by
  induction m with
  | nil => simp [keys]
  | cons p rest ih =>
    obtain ⟨k, v⟩ := p
    by_cases h : key = k
    · simp [keys, get?_cons, h]
    · simpa [keys, get?_cons, h] using ih

/-- **A put is seen under its key and nowhere else.** -/
theorem get?_put (key key' : String) (value : β) (m : Keyed β) :
    (m.put key value).get? key' = if key' = key then some value else m.get? key' := by
  induction m with
  | nil => simp [put, get?_cons]
  | cons p rest ih =>
    obtain ⟨k, v⟩ := p
    by_cases h : key = k
    · by_cases h' : key' = key <;> simp_all [put, get?_cons]
    · by_cases hlt : key < k
      · simp [put, h, hlt, get?_cons]
      · simp only [put, h, hlt, if_false, get?_cons, ih]
        grind

/-- **A removal is seen under its key and nowhere else.** -/
theorem get?_remove (key key' : String) (m : Keyed β) :
    (m.remove key).get? key' = if key' = key then none else m.get? key' := by
  induction m with
  | nil => simp [remove]
  | cons p rest ih =>
    obtain ⟨k, v⟩ := p
    by_cases h : k = key <;> by_cases h' : key' = k <;>
      simp_all [remove, get?_cons]

end Keyed

end ServerConnections
