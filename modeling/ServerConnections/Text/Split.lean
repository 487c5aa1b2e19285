/-!
# Splitting at separators

`fields` cuts a character list at every separator: it gives one field more than
there are separators, and no field holds one. `joined` puts a separator between
fields again.
-/

namespace ServerConnections.Text

/-- The parts between separators. There is at least one. -/
def fields (isSeparator : Char → Bool) : List Char → List (List Char)
  | [] => [[]]
  | c :: cs =>
    if isSeparator c then [] :: fields isSeparator cs
    else
      match fields isSeparator cs with
      | [] => [[c]]
      | f :: fs => (c :: f) :: fs

/-- The parts with a separator between each two. -/
def joined (separator : List Char) : List (List Char) → List Char
  | [] => []
  | [f] => f
  | f :: fs => f ++ separator ++ joined separator fs

theorem fields_ne_nil (isSeparator : Char → Bool) (cs : List Char) :
    fields isSeparator cs ≠ [] := by
  induction cs with
  | nil => simp [fields]
  | cons c cs ih =>
    by_cases h : isSeparator c
    · simp [fields, h]
    · cases hf : fields isSeparator cs with
      | nil => exact absurd hf ih
      | cons f fs => simp [fields, h, hf]

/-- Fields hold nothing but characters of the text. -/
theorem mem_of_mem_fields {isSeparator : Char → Bool} {cs f : List Char} {c : Char}
    (hf : f ∈ fields isSeparator cs) (hc : c ∈ f) : c ∈ cs := by
  induction cs generalizing f with
  | nil => simp_all [fields]
  | cons d cs ih =>
    rw [fields] at hf
    split at hf
    · rcases List.mem_cons.1 hf with rfl | later
      · cases hc
      · exact List.mem_cons_of_mem d (ih later hc)
    · split at hf
      · exact (fields_ne_nil isSeparator cs ‹_›).elim
      · rename_i g gs first
        rw [first] at ih
        rcases List.mem_cons.1 hf with rfl | later
        · rcases List.mem_cons.1 hc with rfl | inside
          · exact List.mem_cons_self
          · exact List.mem_cons_of_mem d (ih List.mem_cons_self inside)
        · exact List.mem_cons_of_mem d (ih (List.mem_cons_of_mem g later) hc)

/-- **Characters that are no separators make one field.** -/
theorem fields_of_none {isSeparator : Char → Bool} {cs : List Char}
    (h : ∀ c ∈ cs, isSeparator c = false) : fields isSeparator cs = [cs] := by
  induction cs with
  | nil => rfl
  | cons c cs ih =>
    have hc := h c (by simp)
    have hcs := ih fun d hd => h d (by simp [hd])
    simp [fields, hc, hcs]

/-- **A separator ends the first field.** -/
theorem fields_append_cons {isSeparator : Char → Bool} {cs rest : List Char} {s : Char}
    (h : ∀ c ∈ cs, isSeparator c = false) (hs : isSeparator s) :
    fields isSeparator (cs ++ s :: rest) = cs :: fields isSeparator rest := by
  induction cs with
  | nil => simp [fields, hs]
  | cons c cs ih =>
    have hc := h c (by simp)
    have hcs := ih fun d hd => h d (by simp [hd])
    simp [fields, hc, hcs]

/-- **Fields without separators are cut apart again where they were joined.** -/
theorem fields_joined {isSeparator : Char → Bool} {s : Char} (hs : isSeparator s)
    {fs : List (List Char)} (ne : fs ≠ []) (h : ∀ f ∈ fs, ∀ c ∈ f, isSeparator c = false) :
    fields isSeparator (joined [s] fs) = fs := by
  induction fs with
  | nil => exact (ne rfl).elim
  | cons f fs ih =>
    cases fs with
    | nil => exact fields_of_none (h f (by simp))
    | cons g fs =>
      rw [joined, List.append_assoc, List.singleton_append,
        fields_append_cons (h f (by simp)) hs, ih (by simp) fun x hx => h x (by simp [hx])]
      simp

theorem mem_joined {separator : List Char} {fs : List (List Char)} {c : Char}
    (h : c ∈ joined separator fs) : (∃ f ∈ fs, c ∈ f) ∨ c ∈ separator := by
  induction fs with
  | nil => simp [joined] at h
  | cons f fs ih =>
    cases fs with
    | nil => exact .inl ⟨f, by simp, h⟩
    | cons g fs =>
      simp only [joined, List.append_assoc, List.mem_append] at h
      rcases h with first | between | later
      · exact .inl ⟨f, by simp, first⟩
      · exact .inr between
      · rcases ih later with ⟨x, hx, hc⟩ | between
        · exact .inl ⟨x, by simp [hx], hc⟩
        · exact .inr between

/-- Characters are replaced in each field. -/
theorem map_joined (g : Char → Char) (separator : List Char) (fs : List (List Char)) :
    (joined separator fs).map g = joined (separator.map g) (fs.map (List.map g)) := by
  induction fs with
  | nil => rfl
  | cons f fs ih => cases fs <;> simp_all [joined]

end ServerConnections.Text
