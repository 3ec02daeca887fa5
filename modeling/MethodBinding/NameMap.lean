/-!
# Maps from names

A `NameMap α` maps names to values. Its bindings are kept in strictly ascending order of the names,
so that there is one map for each finite function (`NameMap.ext_find?`) and the names come out
sorted. Each operation is described by what `find?` says after it: `find?_empty`, `find?_insert`,
`find?_insertMany`, `find?_erase`.
-/

namespace MethodBinding

/-- A finite map from names, with its bindings in ascending order. -/
structure NameMap (α : Type) where
  bindings : List (String × α)
  ascending : bindings.Pairwise fun a b => a.1 < b.1

namespace NameMap

variable {α : Type}

/-! ## Bindings in order -/

/-- The value of the first binding of `name`. -/
def lookupIn (name : String) : List (String × α) → Option α
  | [] => none
  | (n, a) :: rest => if n = name then some a else lookupIn name rest

/-- Binds `name` to `a` at its place in the order. -/
def insertIn (name : String) (a : α) : List (String × α) → List (String × α)
  | [] => [(name, a)]
  | (n, b) :: rest =>
    if name < n then (name, a) :: (n, b) :: rest
    else if n = name then (name, a) :: rest
    else (n, b) :: insertIn name a rest

/-- Removes the binding of `name`. -/
def eraseIn (name : String) (l : List (String × α)) : List (String × α) :=
  l.filter fun b => b.1 ≠ name

theorem lt_of_not_lt {a b : String} (h : ¬a < b) (hne : b ≠ a) : b < a := by
  rcases Decidable.em (b < a) with hb | hb
  · exact hb
  · exact absurd (String.le_antisymm (String.not_lt.1 h) (String.not_lt.1 hb)) hne

theorem mem_insertIn {name : String} {a : α} {l : List (String × α)} {b : String × α}
    (h : b ∈ insertIn name a l) : b = (name, a) ∨ b ∈ l := by
  induction l with
  | nil => simpa [insertIn] using h
  | cons c rest ih =>
    simp only [insertIn] at h
    split at h
    · simpa using h
    split at h
    · rcases List.mem_cons.1 h with h | h
      · exact .inl h
      · exact .inr (List.mem_cons_of_mem _ h)
    · rcases List.mem_cons.1 h with h | h
      · exact .inr (h ▸ List.mem_cons_self)
      · exact (ih h).imp id (List.mem_cons_of_mem _)

theorem ascending_insertIn {name : String} {a : α} {l : List (String × α)}
    (h : l.Pairwise fun a b => a.1 < b.1) :
    (insertIn name a l).Pairwise fun a b => a.1 < b.1 := by
  induction l with
  | nil => simp [insertIn]
  | cons c rest ih =>
    obtain ⟨first, tail⟩ := List.pairwise_cons.1 h
    simp only [insertIn]
    split
    next lt =>
      refine List.pairwise_cons.2 ⟨fun b hb => ?_, h⟩
      rcases List.mem_cons.1 hb with rfl | hb
      · exact lt
      · exact String.lt_trans lt (first b hb)
    split
    next _ eq => exact List.pairwise_cons.2 ⟨fun b hb => eq ▸ first b hb, tail⟩
    next nlt ne =>
      refine List.pairwise_cons.2 ⟨fun b hb => ?_, ih tail⟩
      rcases mem_insertIn hb with rfl | hb
      · exact lt_of_not_lt nlt ne
      · exact first b hb

theorem lookupIn_eq_none_of_lt {name : String} {l : List (String × α)}
    (h : ∀ b ∈ l, name < b.1) : lookupIn name l = none := by
  induction l with
  | nil => rfl
  | cons c rest ih =>
    have hc := h c List.mem_cons_self
    have ne : c.1 ≠ name := fun e => String.lt_irrefl name (e ▸ hc)
    simp only [lookupIn, ne, if_false]
    exact ih fun b hb => h b (List.mem_cons_of_mem _ hb)

theorem lookupIn_insertIn (name other : String) (a : α) {l : List (String × α)} :
    lookupIn other (insertIn name a l) = if name = other then some a else lookupIn other l := by
  induction l with
  | nil => simp [insertIn, lookupIn]
  | cons c rest ih =>
    simp only [insertIn]
    split
    · simp [lookupIn]
    split
    next eq => by_cases h : name = other <;> simp_all [lookupIn]
    next ne =>
      simp only [lookupIn, ih]
      by_cases h : c.1 = other
      · subst h; simp [Ne.symm ne]
      · simp [h]

theorem lookupIn_eraseIn (name other : String) {l : List (String × α)} :
    lookupIn other (eraseIn name l) = if name = other then none else lookupIn other l := by
  induction l with
  | nil => simp [eraseIn, lookupIn]
  | cons c rest ih =>
    simp only [eraseIn] at ih ⊢
    by_cases h : c.1 = name
    · by_cases ho : name = other
      · simp_all
      · have : c.1 ≠ other := fun e => ho (h ▸ e)
        simp_all [lookupIn]
    · by_cases ho : name = other
      · subst ho; simp_all [lookupIn]
      · simp_all [lookupIn]

theorem lookupIn_isSome {name : String} {l : List (String × α)} :
    (lookupIn name l).isSome = true ↔ name ∈ l.map (·.1) := by
  induction l with
  | nil => simp [lookupIn]
  | cons c rest ih =>
    by_cases h : c.1 = name
    · simp [lookupIn, h]
    · simp [lookupIn, h, ih, Ne.symm h]

/-- Two ascending lists of bindings with the same look-ups are the same list. -/
theorem eq_of_lookupIn {l₁ l₂ : List (String × α)} (h₁ : l₁.Pairwise fun a b => a.1 < b.1)
    (h₂ : l₂.Pairwise fun a b => a.1 < b.1) (h : ∀ n, lookupIn n l₁ = lookupIn n l₂) :
    l₁ = l₂ := by
  induction l₁ generalizing l₂ with
  | nil =>
    cases l₂ with
    | nil => rfl
    | cons c r => simpa [lookupIn] using h c.1
  | cons b r₁ ih =>
    cases l₂ with
    | nil => simpa [lookupIn] using h b.1
    | cons c r₂ =>
      obtain ⟨first₁, tail₁⟩ := List.pairwise_cons.1 h₁
      obtain ⟨first₂, tail₂⟩ := List.pairwise_cons.1 h₂
      have same : b.1 = c.1 := by
        rcases Decidable.em (b.1 < c.1) with lt | nlt
        · have absent := @lookupIn_eq_none_of_lt _ b.1 (c :: r₂) fun d hd => by
            rcases List.mem_cons.1 hd with rfl | hd
            · exact lt
            · exact String.lt_trans lt (first₂ d hd)
          simpa [lookupIn] using (h b.1).trans absent
        rcases Decidable.em (c.1 < b.1) with lt | nlt'
        · have absent := @lookupIn_eq_none_of_lt _ c.1 (b :: r₁) fun d hd => by
            rcases List.mem_cons.1 hd with rfl | hd
            · exact lt
            · exact String.lt_trans lt (first₁ d hd)
          simpa [lookupIn] using (h c.1).symm.trans absent
        · exact String.le_antisymm (String.not_lt.1 nlt') (String.not_lt.1 nlt)
      have value : b.2 = c.2 := by simpa [lookupIn, same] using h b.1
      have rest : r₁ = r₂ := ih tail₁ tail₂ fun n => by
        by_cases hn : b.1 = n
        · subst hn
          rw [lookupIn_eq_none_of_lt first₁, lookupIn_eq_none_of_lt (same ▸ first₂)]
        · simpa [lookupIn, hn, same ▸ hn] using h n
      rw [rest, Prod.ext same value]

/-! ## Maps -/

/-- The map without any binding. -/
def empty : NameMap α := ⟨[], .nil⟩

instance : Inhabited (NameMap α) := ⟨empty⟩

/-- The value of `name`. -/
def find? (m : NameMap α) (name : String) : Option α := lookupIn name m.bindings

/-- Binds `name` to `a`, in place of any earlier value. -/
def insert (m : NameMap α) (name : String) (a : α) : NameMap α :=
  ⟨insertIn name a m.bindings, ascending_insertIn m.ascending⟩

/-- Binds the names one after the other. -/
def insertMany (m : NameMap α) (rows : List (String × α)) : NameMap α :=
  rows.foldl (fun m row => m.insert row.1 row.2) m

/-- Removes `name`. -/
def erase (m : NameMap α) (name : String) : NameMap α :=
  ⟨eraseIn name m.bindings, m.ascending.filter _⟩

/-- The names with a value, in ascending order. -/
def names (m : NameMap α) : List String := m.bindings.map (·.1)

/-- The number of names with a value. -/
def size (m : NameMap α) : Nat := m.bindings.length

def isEmpty (m : NameMap α) : Bool := m.bindings.isEmpty

/-- Whether `name` has a value. -/
def contains (m : NameMap α) (name : String) : Bool := m.bindings.any (·.1 == name)

@[simp] theorem find?_empty (name : String) : (empty : NameMap α).find? name = none := rfl

theorem find?_insert (m : NameMap α) (name other : String) (a : α) :
    (m.insert name a).find? other = if name = other then some a else m.find? other :=
  lookupIn_insertIn name other a

theorem find?_erase (m : NameMap α) (name other : String) :
    (m.erase name).find? other = if name = other then none else m.find? other :=
  lookupIn_eraseIn name other

/-- Of several bindings of a name the last one counts. -/
theorem find?_insertMany (m : NameMap α) (rows : List (String × α)) (name : String) :
    (m.insertMany rows).find? name =
      ((rows.reverse.find? (·.1 == name)).map (·.2)).or (m.find? name) := by
  induction rows generalizing m with
  | nil => rfl
  | cons row rows ih =>
    have step : m.insertMany (row :: rows) = (m.insert row.1 row.2).insertMany rows := rfl
    rw [step, ih, find?_insert, List.reverse_cons, List.find?_append]
    cases rows.reverse.find? (·.1 == name) with
    | some _ => rfl
    | none => by_cases h : row.1 = name <;> simp [h]

/-- Of bindings with distinct names each one counts. -/
theorem find?_insertMany_of_nodup (m : NameMap α) {rows : List (String × α)}
    (h : (rows.map (·.1)).Nodup) (name : String) :
    (m.insertMany rows).find? name =
      ((rows.find? (·.1 == name)).map (·.2)).or (m.find? name) := by
  induction rows generalizing m with
  | nil => rfl
  | cons row rows ih =>
    obtain ⟨fresh, distinct⟩ := List.nodup_cons.1 h
    have step : m.insertMany (row :: rows) = (m.insert row.1 row.2).insertMany rows := rfl
    rw [step, ih _ distinct, find?_insert, List.find?_cons]
    by_cases hn : row.1 = name
    · have absent : rows.find? (·.1 == name) = none := by
        refine List.find?_eq_none.2 fun b hb => ?_
        have : b.1 ≠ name := fun e => fresh (List.mem_map.2 ⟨b, hb, e.trans hn.symm⟩)
        simpa using this
      simp [absent, hn]
    · have other : (row.1 == name) = false := by simpa using hn
      simp only [other, hn, if_false]

/-- A name has a value exactly when it is listed. -/
theorem isSome_find? {m : NameMap α} {name : String} :
    (m.find? name).isSome = true ↔ name ∈ m.names := lookupIn_isSome

theorem contains_iff {m : NameMap α} {name : String} :
    m.contains name = true ↔ name ∈ m.names := by
  simp [contains, names]

theorem size_eq (m : NameMap α) : m.size = m.names.length := by simp [size, names]

theorem isEmpty_iff {m : NameMap α} : m.isEmpty = true ↔ m.size = 0 := by
  simp [isEmpty, size]

/-- The names are listed in strictly ascending order. -/
theorem names_ascending (m : NameMap α) : m.names.Pairwise (· < ·) :=
  List.pairwise_map.2 m.ascending

/-- Maps with the same values are equal. -/
theorem ext_find? {m₁ m₂ : NameMap α} (h : ∀ n, m₁.find? n = m₂.find? n) : m₁ = m₂ := by
  cases m₁; cases m₂
  congr 1
  exact eq_of_lookupIn ‹_› ‹_› h

end NameMap

end MethodBinding
