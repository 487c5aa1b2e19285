import ServerConnections.Keyed

/-!
# Keys stay in order

A list that is ordered by key stays so under each `put`, and a list whose keys are in
order is made by putting its pairs in that order, so it is the one that reading an object
builds from the members as they are written.

* `Keyed.sorted_put` — the order is kept
* `Keyed.put_of_forall_lt` — a pair behind all others is put at the end
* `Keyed.put_put`, `Keyed.put_remove_put` — a pair that is there already stays in its place
* `Keyed.remove_put` — a pair that was put is dropped again
-/

namespace ServerConnections.Keyed

variable {β : Type} {m : Keyed β} {key : String} {value : β}

/-- The keys are in order, each once. -/
def Sorted (m : Keyed β) : Prop := m.Pairwise fun p q => p.1 < q.1

theorem sorted_nil : Sorted ([] : Keyed β) := .nil

theorem eq_or_mem_of_mem_put {p : String × β} (there : p ∈ m.put key value) :
    p = (key, value) ∨ p ∈ m := by
  induction m with
  | nil => exact .inl (List.mem_singleton.1 there)
  | cons q rest ih =>
      obtain ⟨k, v⟩ := q
      rw [put] at there
      split at there
      · rcases List.mem_cons.1 there with new | old
        · exact .inl new
        · exact .inr (.tail _ old)
      split at there
      · exact List.mem_cons.1 there
      · rcases List.mem_cons.1 there with first | behind
        · exact .inr (first ▸ .head _)
        · exact (ih behind).imp_right (.tail _)

/-- **A put keeps the order.** -/
theorem sorted_put (sorted : m.Sorted) : (m.put key value).Sorted := by
  induction m with
  | nil => exact List.pairwise_singleton _ _
  | cons q rest ih =>
      obtain ⟨k, v⟩ := q
      obtain ⟨least, sorted⟩ := List.pairwise_cons.1 sorted
      rw [put]
      split
      · subst key
        exact .cons least sorted
      split
      · rename_i before
        refine .cons ?_ (.cons least sorted)
        intro p there
        rcases List.mem_cons.1 there with rfl | behind
        · exact before
        · exact String.lt_trans before (least p behind)
      · rename_i other notBefore
        have behind : k < key := Std.lt_of_le_of_ne (String.not_lt.1 notBefore) (Ne.symm other)
        refine .cons ?_ (ih sorted)
        intro p there
        rcases eq_or_mem_of_mem_put there with rfl | old
        · exact behind
        · exact least p old

/-- **A pair whose key is behind all others is put at the end.** -/
theorem put_of_forall_lt (before : ∀ p ∈ m, p.1 < key) :
    m.put key value = m ++ [(key, value)] := by
  induction m with
  | nil => rfl
  | cons q rest ih =>
      obtain ⟨k, v⟩ := q
      have lt : k < key := before (k, v) (.head _)
      have ne : key ≠ k := fun same => String.lt_irrefl k (same ▸ lt)
      have notBefore : ¬ key < k := fun gt => String.lt_irrefl k (String.lt_trans lt gt)
      rw [put, if_neg ne, if_neg notBefore, ih fun p there => before p (.tail _ there)]
      rfl

/-! ## Pairs that are put twice -/

/-- **A pair that is put twice is put once.** -/
theorem put_put (m : Keyed β) : (m.put key value).put key value = m.put key value := by
  induction m with
  | nil => simp [put]
  | cons p rest ih =>
      obtain ⟨k, v⟩ := p
      rw [put]
      split
      · simp [put]
      split
      · simp [put]
      · rename_i different behind
        simpa [put, different, behind] using ih

/-- A pair that was put stays where it is when it is put again, also after another key was
dropped. -/
theorem put_remove_put {other : String} (apart : key ≠ other) (m : Keyed β) :
    ((m.put key value).remove other).put key value = (m.put key value).remove other := by
  induction m with
  | nil => simp [put, remove, apart]
  | cons p rest ih =>
      obtain ⟨k, v⟩ := p
      rw [put]
      split
      · simp [remove, apart, put]
      split
      · simp [remove, apart, put]
      · rename_i different behind
        by_cases dropped : k = other
        · simpa [remove, dropped] using ih
        · simpa [remove, dropped, put, different, behind] using ih

/-! ## Pairs that are dropped again -/

/-- A pair that was put is dropped as if it had not been put. -/
theorem remove_put (m : Keyed β) : (m.put key value).remove key = m.remove key := by
  induction m with
  | nil => simp [put, remove]
  | cons p rest ih =>
      obtain ⟨k, v⟩ := p
      rw [put]
      split
      case isTrue same => simp [remove, same]
      split
      · simp [remove]
      case isFalse other _ => simpa [remove, Ne.symm other] using ih

/-- A key that has no value is dropped in vain. -/
theorem remove_eq_self (absent : m.get? key = none) : m.remove key = m := by
  refine List.filter_eq_self.2 fun p there => bne_iff_ne.2 ?_
  rintro rfl
  have present : p.1 ∈ m.keys := List.mem_map_of_mem there
  simp [mem_keys_iff, absent] at present

end ServerConnections.Keyed
