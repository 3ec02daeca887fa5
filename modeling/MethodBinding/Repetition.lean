/-!
# The first repetition in a list

`firstRepeat? l` is the first item of `l` that occurs earlier in `l`. It is absent exactly when the
items are distinct (`firstRepeat?_eq_none_iff`); what stands before it is distinct and holds it
(`firstRepeat?_eq_some_iff`).
-/

namespace MethodBinding

variable {α : Type} [DecidableEq α]

/-- The first item of the list that was already seen. -/
def firstRepeatFrom? (seen : List α) : List α → Option α
  | [] => none
  | a :: as => if a ∈ seen then some a else firstRepeatFrom? (a :: seen) as

/-- The first item that occurs earlier in the list. -/
def firstRepeat? (l : List α) : Option α := firstRepeatFrom? [] l

theorem firstRepeatFrom?_eq_none_iff {seen l : List α} :
    firstRepeatFrom? seen l = none ↔ l.Nodup ∧ ∀ a ∈ l, a ∉ seen := by
  induction l generalizing seen with
  | nil => simp [firstRepeatFrom?]
  | cons a as ih =>
    by_cases h : a ∈ seen
    · simp [firstRepeatFrom?, h]
    · simp only [firstRepeatFrom?, h, if_false, ih, List.nodup_cons, List.mem_cons, not_or]
      refine ⟨?_, ?_⟩
      · rintro ⟨hn, hs⟩
        refine ⟨⟨fun ha => (hs a ha).1 rfl, hn⟩, fun b hb => ?_⟩
        rcases hb with rfl | hb
        · exact h
        · exact (hs b hb).2
      · rintro ⟨⟨ha, hn⟩, hs⟩
        exact ⟨hn, fun b hb => ⟨fun e => ha (e ▸ hb), hs b (.inr hb)⟩⟩

theorem firstRepeat?_eq_none_iff {l : List α} : firstRepeat? l = none ↔ l.Nodup := by
  simp [firstRepeat?, firstRepeatFrom?_eq_none_iff]

theorem firstRepeatFrom?_eq_some_iff {seen l : List α} {a : α} :
    firstRepeatFrom? seen l = some a ↔
      ∃ before after, l = before ++ a :: after ∧ (a ∈ seen ∨ a ∈ before) ∧
        firstRepeatFrom? seen before = none := by
  induction l generalizing seen with
  | nil => simp [firstRepeatFrom?]
  | cons b bs ih =>
    by_cases h : b ∈ seen
    · simp only [firstRepeatFrom?, h, if_true, Option.some.injEq]
      refine ⟨?_, ?_⟩
      · rintro rfl
        exact ⟨[], bs, rfl, .inl h, rfl⟩
      · rintro ⟨before, after, hl, -, hn⟩
        cases before with
        | nil => exact (List.cons.inj hl).1
        | cons c before =>
          rw [← (List.cons.inj hl).1] at hn
          simp [firstRepeatFrom?, h] at hn
    · simp only [firstRepeatFrom?, h, if_false, ih]
      refine ⟨?_, ?_⟩
      · rintro ⟨before, after, rfl, ha, hn⟩
        refine ⟨b :: before, after, rfl, ?_, by simpa [firstRepeatFrom?, h] using hn⟩
        rcases ha with ha | ha
        · rcases List.mem_cons.1 ha with rfl | ha
          · exact .inr List.mem_cons_self
          · exact .inl ha
        · exact .inr (List.mem_cons_of_mem _ ha)
      · rintro ⟨before, after, hl, ha, hn⟩
        cases before with
        | nil =>
          obtain ⟨rfl, -⟩ := List.cons.inj hl
          exact absurd (ha.resolve_right List.not_mem_nil) h
        | cons c before =>
          obtain ⟨rfl, rfl⟩ := List.cons.inj hl
          refine ⟨before, after, rfl, ?_, by simpa [firstRepeatFrom?, h] using hn⟩
          rcases ha with ha | ha
          · exact .inl (List.mem_cons_of_mem _ ha)
          · rcases List.mem_cons.1 ha with rfl | ha
            · exact .inl List.mem_cons_self
            · exact .inr ha

/-- The first repetition comes right after a distinct stretch that holds it. -/
theorem firstRepeat?_eq_some_iff {l : List α} {a : α} :
    firstRepeat? l = some a ↔
      ∃ before after, l = before ++ a :: after ∧ a ∈ before ∧ before.Nodup := by
  simp [firstRepeat?, firstRepeatFrom?_eq_some_iff, firstRepeatFrom?_eq_none_iff]

end MethodBinding
