import MethodBinding.Proofs.Binding.Written
import MethodBinding.Proofs.Run

/-!
# Growth

Nothing that has been registered goes away. `Space.Grows` says so: each module keeps its number, its
name, its kind, and its singleton class once it has one. Every operation makes a space grow
(`Tower.grows_perform`), and so does every run (`Tower.grows_run`).

`Space.asks` says whether an operation asks for the singleton class of a module, directly or by a
pass that needs it. A module has one exactly if an operation has asked for it
(`Tower.singletonClass?_isSome_run`).
-/

namespace MethodBinding

/-- The outline of a module at a later time. -/
structure Outline.Extends (o o' : Outline) : Prop where
  name : o'.name = o.name
  kind : o'.kind = o.kind
  singletonClass : ∀ singleton, o.singletonClass = some singleton →
    o'.singletonClass = some singleton

theorem Outline.Extends.refl (o : Outline) : o.Extends o := ⟨rfl, rfl, fun _ h => h⟩

theorem Outline.Extends.trans {o o' o'' : Outline} (h : o.Extends o') (h' : o'.Extends o'') :
    o.Extends o'' :=
  ⟨h'.name.trans h.name, h'.kind.trans h.kind,
    fun _ hs => h'.singletonClass _ (h.singletonClass _ hs)⟩

namespace Space

variable {s s' s'' : Space} {id other singleton : ModuleId}

/-! ## Growing -/

/-- Every module of `s` is there in `s'`. -/
def Grows (s s' : Space) : Prop :=
  ∀ id o, s.outline? id = some o → ∃ o', s'.outline? id = some o' ∧ o.Extends o'

theorem Grows.refl (s : Space) : s.Grows s := fun _ o ho => ⟨o, ho, .refl o⟩

theorem Grows.trans (h : s.Grows s') (h' : s'.Grows s'') : s.Grows s'' := by
  intro id o ho
  obtain ⟨o', ho', he⟩ := h id o ho
  obtain ⟨o'', ho'', he'⟩ := h' id o' ho'
  exact ⟨o'', ho'', he.trans he'⟩

theorem Grows.of_eq (h : ∀ id, s'.outline? id = s.outline? id) : s.Grows s' :=
  fun id o ho => ⟨o, (h id).trans ho, .refl o⟩

theorem Grows.singletonClass? (h : s.Grows s') (hc : s.singletonClass? id = some singleton) :
    s'.singletonClass? id = some singleton := by
  obtain ⟨o, ho, hcell⟩ := Option.bind_eq_some_iff.1 hc
  obtain ⟨o', ho', he⟩ := h id o ho
  rw [Space.singletonClass?, ho']
  exact he.singletonClass singleton hcell

theorem grows_define (s : Space) (name : String) (kind : ModuleKind) :
    s.Grows (s.define name kind) := by
  intro id o ho
  refine ⟨o, ?_, .refl o⟩
  rw [outline?_define, if_neg (ne_nextId (by rw [ho]; rfl)), ho]

theorem grows_singletonOf (s : Space) (id : ModuleId) : s.Grows (s.singletonOf id).2 := by
  obtain ⟨-, hr⟩ | ⟨_, -, hr⟩ | ⟨o, ho, hc, hr⟩ := s.singletonOf_cases id <;> rw [hr]
  · exact .refl s
  · exact .refl s
  · intro other oo hoo
    rw [outline?_attach ho, if_neg (ne_nextId (by rw [hoo]; rfl))]
    split
    · next hid =>
      rw [hid, ho] at hoo
      cases hoo
      refine ⟨_, rfl, rfl, rfl, fun singleton hs => ?_⟩
      rw [hc] at hs
      cases hs
    · exact ⟨oo, hoo, .refl oo⟩

theorem Tower.grows_bind (h : s.Tower) (hostType : String) (descriptors : List Descriptor)
    (target : ModuleId) : s.Grows (s.bind hostType descriptors target).space := by
  intro id o hid
  rw [h.outline?_bind]
  split
  · exact grows_singletonOf s target id o hid
  · exact ⟨o, hid, .refl o⟩

theorem Tower.grows_bindHostType (h : s.Tower) (t : HostType) (target : ModuleId) :
    s.Grows (s.bindHostType t target).space := by
  unfold Space.bindHostType
  cases t.descriptors with
  | error e => exact .refl s
  | ok descriptors => exact h.grows_bind t.name descriptors target

/-- Every operation makes a space grow. -/
theorem Tower.grows_perform (h : s.Tower) (o : Operation) : s.Grows (s.perform o) := by
  cases o with
  | defineModule name => exact grows_define s name _
  | defineClass name superclass => exact grows_define s name _
  | singletonOf id => exact grows_singletonOf s id
  | install id name e => exact .of_eq fun _ => outline?_modifyMethods ..
  | installMany id rows => exact .of_eq fun _ => outline?_modifyMethods ..
  | remove id name => exact .of_eq fun _ => outline?_modifyMethods ..
  | adapter host policy => exact .of_eq fun _ => rfl
  | stamp r => exact .of_eq fun _ => rfl
  | bind t target => exact h.grows_bindHostType t target

theorem Tower.grows_run (h : s.Tower) (operations : List Operation) :
    s.Grows (s.run operations) := by
  induction operations generalizing s with
  | nil => exact .refl s
  | cons o operations ih => exact (h.grows_perform o).trans (ih (h.perform o))

/-! ## The number of modules -/

theorem length_define (s : Space) (name : String) (kind : ModuleKind) :
    (s.define name kind).modules.length = s.modules.length + 1 := by
  simp [define, register]

theorem length_attach (s : Space) (id : ModuleId) (name : String) :
    (s.attach id name).modules.length = s.modules.length + 1 := by
  rw [attach, modify, List.length_modify, length_define]

/-! ## Asking for singleton classes -/

theorem singletonClass?_congr (h : s'.outline? id = s.outline? id) :
    s'.singletonClass? id = s.singletonClass? id := by
  rw [singletonClass?, singletonClass?, h]

/-- A new module has no singleton class, and the others keep theirs. -/
theorem singletonClass?_define (s : Space) (name : String) (kind : ModuleKind) (id : ModuleId) :
    (s.define name kind).singletonClass? id = s.singletonClass? id := by
  rw [singletonClass?, singletonClass?, outline?_define]
  split
  · next hnext =>
    rw [hnext, outline?_nextId]
    rfl
  · rfl

/-- The registered module that is asked for its singleton class has one afterwards, and no other one
gets any. -/
theorem singletonClass?_isSome_singletonOf (s : Space) (other id : ModuleId) :
    ((s.singletonOf other).2.singletonClass? id).isSome =
      ((s.singletonClass? id).isSome || (decide (other = id) && (s.module? id).isSome)) := by
  obtain ⟨hn, hr⟩ | ⟨singleton, hc, hr⟩ | ⟨o, ho, hc, hr⟩ := s.singletonOf_cases other <;> rw [hr]
  · by_cases hid : other = id
    · subst hid
      rw [← isSome_outline?, hn]
      simp
    · simp [hid]
  · by_cases hid : other = id
    · subst hid
      simp [hc]
    · simp [hid]
  · rw [singletonClass?, outline?_attach ho]
    by_cases hnext : id = s.nextId
    · have hne : other ≠ s.nextId := ne_nextId (by rw [ho]; rfl)
      subst hnext
      simp [hne, singletonClass?, outline?_nextId]
    by_cases hid : other = id
    · subst hid
      rw [if_neg hnext, if_pos rfl, ← isSome_outline?, ho]
      simp
    · rw [if_neg hnext, if_neg (Ne.symm hid)]
      simp [hid, singletonClass?]

/-- Whether an operation asks for the singleton class of a module. -/
def asks (s : Space) (id : ModuleId) : Operation → Bool
  | .singletonOf other => decide (other = id) && (s.module? id).isSome
  | .bind t target => decide (target = id) && (s.bindHostType t target).usesSingleton
  | _ => false

/-- Whether one of several operations does. -/
def asked (s : Space) (id : ModuleId) : List Operation → Bool
  | [] => false
  | o :: operations => s.asks id o || (s.perform o).asked id operations

/-- A pass that puts an entry into the table of a singleton class knows its target. -/
theorem Tower.target_isSome (h : s.Tower) {hostType : String} {descriptors : List Descriptor}
    {target : ModuleId} (hu : (s.bind hostType descriptors target).usesSingleton = true) :
    (s.module? target).isSome = true := by
  obtain ⟨-, hb⟩ | ⟨_, hreg, -, -⟩ | ⟨_, _, _, _, _, hreg, -, -, -⟩ :=
    bind_cases h hostType descriptors target
  · rw [hb] at hu
    cases hu
  · exact hreg
  · exact hreg

theorem Tower.singletonClass?_isSome_bind (h : s.Tower) (hostType : String)
    (descriptors : List Descriptor) (target id : ModuleId) :
    ((s.bind hostType descriptors target).space.singletonClass? id).isSome =
      ((s.singletonClass? id).isSome ||
        (decide (target = id) && (s.bind hostType descriptors target).usesSingleton)) := by
  have ho : (s.bind hostType descriptors target).space.outline? id = _ :=
    h.outline?_bind hostType descriptors id
  cases hu : (s.bind hostType descriptors target).usesSingleton with
  | false =>
    rw [hu] at ho
    simp [singletonClass?_congr ho]
  | true =>
    rw [hu] at ho
    have hc : (s.bind hostType descriptors target).space.singletonClass? id =
        (s.singletonOf target).2.singletonClass? id := singletonClass?_congr ho
    rw [hc, singletonClass?_isSome_singletonOf]
    by_cases hid : target = id
    · rw [← hid, h.target_isSome hu]
    · simp [hid]

theorem Tower.singletonClass?_isSome_bindHostType (h : s.Tower) (t : HostType)
    (target id : ModuleId) :
    ((s.bindHostType t target).space.singletonClass? id).isSome =
      ((s.singletonClass? id).isSome ||
        (decide (target = id) && (s.bindHostType t target).usesSingleton)) := by
  unfold Space.bindHostType
  cases t.descriptors with
  | error e => simp [PassOutcome.usesSingleton]
  | ok descriptors => exact h.singletonClass?_isSome_bind t.name descriptors target id

/-- After an operation a module has a singleton class if it had one or was asked for it. -/
theorem Tower.singletonClass?_isSome_perform (h : s.Tower) (o : Operation) (id : ModuleId) :
    ((s.perform o).singletonClass? id).isSome =
      ((s.singletonClass? id).isSome || s.asks id o) := by
  have keep : ∀ {s' : Space}, s'.singletonClass? id = s.singletonClass? id →
      (s'.singletonClass? id).isSome = ((s.singletonClass? id).isSome || false) :=
    fun hs => by rw [hs, Bool.or_false]
  cases o with
  | singletonOf other => exact singletonClass?_isSome_singletonOf s other id
  | bind t target => exact h.singletonClass?_isSome_bindHostType t target id
  | defineModule name => exact keep (singletonClass?_define ..)
  | defineClass name superclass => exact keep (singletonClass?_define ..)
  | install other name e => exact keep (singletonClass?_congr (outline?_modifyMethods ..))
  | installMany other rows => exact keep (singletonClass?_congr (outline?_modifyMethods ..))
  | remove other name => exact keep (singletonClass?_congr (outline?_modifyMethods ..))
  | adapter host policy => exact keep rfl
  | stamp r => exact keep rfl

theorem Tower.singletonClass?_isSome_run (h : s.Tower) (operations : List Operation)
    (id : ModuleId) :
    ((s.run operations).singletonClass? id).isSome =
      ((s.singletonClass? id).isSome || s.asked id operations) := by
  induction operations generalizing s with
  | nil => exact (Bool.or_false _).symm
  | cons o operations ih =>
    rw [asked, ← Bool.or_assoc, ← h.singletonClass?_isSome_perform o id]
    exact ih (h.perform o)

end Space

end MethodBinding
