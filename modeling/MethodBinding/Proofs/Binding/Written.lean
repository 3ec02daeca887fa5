import MethodBinding.Proofs.Binding.Pass

/-!
# Tables after a pass

A pass answers the methods that it has bound. `PassOutcome.written?` reads from this answer which
entry went under a name into the table of a module, and `Tower.lookup?_bind` is one equation for all
tables after a pass, failing ones included: what was written, else what was there before. Likewise
`Tower.outline?_bind` is one for all outlines: a pass asks for the singleton class of its target if
a method has a row there (`PassOutcome.usesSingleton`), and does nothing else to the registry.
-/

namespace MethodBinding

variable {s s' : Space} {owner target singleton : ModuleId} {methods : List PlannedMethod}
  {entries own sing : List (Option Entry)}

/-- The entry that a pass into `target` has put under a name into the table of a module. -/
def PassOutcome.written? (outcome : PassOutcome) (target : ModuleId) (name : String)
    (id : ModuleId) : Option Entry :=
  match outcome.result with
  | .error _ => none
  | .ok bound =>
    (bound.find? (·.name == name)).bind fun b =>
      if id = target then b.onModule
      else if outcome.space.singletonClass? target = some id then b.onSingleton
      else none

/-- Whether a pass has put an entry into the table of a singleton class. -/
def PassOutcome.usesSingleton (outcome : PassOutcome) : Bool :=
  match outcome.result with
  | .error _ => false
  | .ok bound => bound.any (·.onSingleton.isSome)

/-! ## Bound methods and the entries of one table -/

theorem entryNamed?_cons_none (entries : List (Option Entry)) (name : String) :
    entryNamed? (none :: entries) name = entryNamed? entries name := rfl

theorem entryNamed?_cons_some (e : Entry) (entries : List (Option Entry)) (name : String) :
    entryNamed? (some e :: entries) name =
      if e.name = name then some e else entryNamed? entries name := by
  simp only [entryNamed?, List.filterMap_cons, id_eq, List.find?_cons]
  split
  · next heq => rw [if_pos (by simpa using heq)]
  · next hne => rw [if_neg (by simpa using hne)]

/-- The entry of the method with a name is the entry with that name. -/
theorem EntriesOf.find?_zip {side : PlannedMethod → Option Row}
    (h : EntriesOf owner side methods entries)
    (hside : ∀ p ∈ methods, ∀ r, side p = some r → r.name = p.name)
    (hnd : (methods.map (·.name)).Nodup) (name : String) :
    ((methods.zip entries).find? (·.1.name == name)).bind (·.2) = entryNamed? entries name := by
  induction methods generalizing entries with
  | nil =>
    cases List.map_eq_nil_iff.1 h
    rfl
  | cons p methods ih =>
    cases entries with
    | nil => cases h
    | cons e entries =>
      obtain ⟨hhead, htail⟩ := List.cons.inj h
      obtain ⟨hfresh, hnd⟩ := List.nodup_cons.1 hnd
      have hrest : ∀ q ∈ methods, ∀ r, side q = some r → r.name = q.name :=
        fun q hq => hside q (List.mem_cons_of_mem _ hq)
      have htail : EntriesOf owner side methods entries := htail
      -- an entry has the name of its method
      have hname : ∀ x, e = some x → x.name = p.name := by
        rintro x rfl
        obtain ⟨r, hr, hrow⟩ := Option.map_eq_some_iff.1 hhead.symm
        rw [← hside p List.mem_cons_self r hr, ← r.name_withOwner owner, hrow]
      rw [List.zip_cons_cons, List.find?_cons]
      by_cases hp : p.name = name
      · have hnone : entryNamed? entries name = none := by
          refine htail.entryNamed?_eq_none hrest fun q hq hqn => ?_
          exact absurd (List.mem_map.2 ⟨q, hq, hqn.trans hp.symm⟩) hfresh
        simp only [hp, beq_self_eq_true, Option.bind_some]
        cases e with
        | none => rw [entryNamed?_cons_none, hnone]
        | some x => rw [entryNamed?_cons_some, if_pos ((hname x rfl).trans hp)]
      · have hne : (p.name == name) = false := by simpa using hp
        simp only [hne]
        rw [ih htail hrest hnd]
        cases e with
        | none => rw [entryNamed?_cons_none]
        | some x => rw [entryNamed?_cons_some, if_neg fun hx => hp ((hname x rfl).symm.trans hx)]

/-- The entry of the bound method with a name, in one of the two tables. -/
theorem EntriesOf.find?_boundMethods {side : PlannedMethod → Option Row}
    {table : Option Entry × Option Entry → Option Entry}
    (h : EntriesOf owner side methods entries) (htable : (own.zip sing).map table = entries)
    (hside : ∀ p ∈ methods, ∀ r, side p = some r → r.name = p.name)
    (hnd : (methods.map (·.name)).Nodup) (name : String) :
    ((boundMethods methods own sing).find? (·.name == name)).bind
      (fun b => table (b.onModule, b.onSingleton)) = entryNamed? entries name := by
  have hzip := h.find?_zip hside hnd name
  rw [← htable, List.zip_map_right, List.find?_map, htable] at hzip
  rw [← hzip, boundMethods, List.find?_map, Option.bind_map, Option.bind_map]
  rfl

theorem EntriesOf.length_eq {side : PlannedMethod → Option Row}
    (h : EntriesOf owner side methods entries) : entries.length = methods.length := by
  simpa using congrArg List.length h

section Parts

variable (hown : own.length = methods.length) (hsing : sing.length = methods.length)
include hown hsing

/-- The bound methods have the names of the methods in order. -/
theorem map_name_boundMethods :
    (boundMethods methods own sing).map (·.name) = methods.map (·.name) := by
  have hzip : (methods.zip (own.zip sing)).map Prod.fst = methods :=
    List.map_fst_zip (by simp [hown, hsing])
  have hnames := congrArg (List.map (·.name)) hzip
  rw [List.map_map] at hnames
  rw [boundMethods, List.map_map]
  exact hnames

/-- They have the entries for either table in order. -/
theorem map_entries_boundMethods :
    (boundMethods methods own sing).map (fun b => (b.onModule, b.onSingleton)) = own.zip sing := by
  rw [boundMethods, List.map_map]
  exact List.map_snd_zip (by simp [hown, hsing])

theorem map_onModule_boundMethods : (boundMethods methods own sing).map (·.onModule) = own := by
  have hzip := congrArg (List.map Prod.fst) (map_entries_boundMethods hown hsing)
  rw [List.map_map, List.map_fst_zip (Nat.le_of_eq (hown.trans hsing.symm))] at hzip
  exact hzip

theorem map_onSingleton_boundMethods :
    (boundMethods methods own sing).map (·.onSingleton) = sing := by
  have hzip := congrArg (List.map Prod.snd) (map_entries_boundMethods hown hsing)
  rw [List.map_map, List.map_snd_zip (Nat.le_of_eq (hsing.trans hown.symm))] at hzip
  exact hzip

end Parts

/-- The rows of a bound method, without the stamps of its entries. -/
def BoundMethod.rows (b : BoundMethod) : PlannedMethod :=
  ⟨b.name, b.onModule.map Entry.toRow, b.onSingleton.map Entry.toRow⟩

/-- Planned rows with their owners. -/
def PlannedMethod.owned (p : PlannedMethod) (target singleton : ModuleId) : PlannedMethod :=
  ⟨p.name, p.onModule.map (·.withOwner target), p.onSingleton.map (·.withOwner singleton)⟩

/-- What is bound are the planned rows, each with its owner. -/
theorem map_rows_boundMethods (hown : EntriesOf target (·.onModule) methods own)
    (hsing : EntriesOf singleton (·.onSingleton) methods sing) :
    (boundMethods methods own sing).map BoundMethod.rows =
      methods.map (·.owned target singleton) := by
  induction methods generalizing own sing with
  | nil => rfl
  | cons p methods ih =>
    cases own with
    | nil => cases hown
    | cons e own =>
      cases sing with
      | nil => cases hsing
      | cons e' sing =>
        obtain ⟨hhead, htail⟩ := List.cons.inj hown
        obtain ⟨hhead', htail'⟩ := List.cons.inj hsing
        have hrow : e.map Entry.toRow = p.onModule.map (·.withOwner target) := hhead
        have hrow' : e'.map Entry.toRow = p.onSingleton.map (·.withOwner singleton) := hhead'
        rw [List.map_cons, ← ih htail htail', PlannedMethod.owned, ← hrow, ← hrow']
        rfl

namespace Space

/-! ## What an installation has written -/

namespace Installed

variable (h : s.Installed s' target singleton methods own sing)
include h

theorem zip_fst : (own.zip sing).map Prod.fst = own :=
  List.map_fst_zip (Nat.le_of_eq (h.own_rows.length_eq.trans h.sing_rows.length_eq.symm))

theorem zip_snd : (own.zip sing).map Prod.snd = sing :=
  List.map_snd_zip (Nat.le_of_eq (h.sing_rows.length_eq.trans h.own_rows.length_eq.symm))

/-- A method is bound in the singleton class if one was planned there. -/
theorem usesSingleton_eq (log : List LogRecord) :
    (PassOutcome.mk (.ok (boundMethods methods own sing)) s' log).usesSingleton =
      !methods.all (·.onSingleton.isNone) := by
  have hany : (boundMethods methods own sing).any (·.onSingleton.isSome) =
      sing.any (·.isSome) := by
    conv =>
      rhs
      rw [← map_onSingleton_boundMethods h.own_rows.length_eq h.sing_rows.length_eq, List.any_map]
    rfl
  have hrows : (sing.map (Option.map Entry.toRow)).any (·.isSome) =
      methods.any (·.onSingleton.isSome) := by
    rw [h.sing_rows, List.any_map]
    simp only [Function.comp_def, Option.isSome_map]
  simp only [List.any_map, Function.comp_def, Option.isSome_map] at hrows
  simp only [PassOutcome.usesSingleton, hany, hrows, List.not_all_eq_any_not, Option.not_isNone]

variable (hwell : WellNamed methods)
include hwell

theorem find?_onModule (name : String) :
    ((boundMethods methods own sing).find? (·.name == name)).bind (·.onModule) =
      entryNamed? own name :=
  h.own_rows.find?_boundMethods h.zip_fst hwell.onModule hwell.distinct name

theorem find?_onSingleton (name : String) :
    ((boundMethods methods own sing).find? (·.name == name)).bind (·.onSingleton) =
      entryNamed? sing name :=
  h.sing_rows.find?_boundMethods h.zip_snd hwell.onSingleton hwell.distinct name

/-- A target without singleton class afterwards has got no entry for one. -/
theorem entryNamed?_sing_eq_none (hno : s'.singletonClass? target ≠ some singleton)
    (name : String) : entryNamed? sing name = none := by
  refine h.sing_rows.entryNamed?_eq_none hwell.onSingleton fun p hp _ => ?_
  refine Option.not_isSome_iff_eq_none.1 fun hsome => hno ?_
  exact h.attached ⟨p, hp, hsome⟩

/-- What was written, by what is answered. -/
theorem written?_eq (log : List LogRecord) (name : String) (id : ModuleId) :
    (PassOutcome.mk (.ok (boundMethods methods own sing)) s' log).written? target name id =
      if id = target then entryNamed? own name
      else if id = singleton then entryNamed? sing name else none := by
  simp only [PassOutcome.written?]
  by_cases ht : id = target
  · simp only [ht, if_true]
    exact h.find?_onModule hwell name
  simp only [ht, if_false]
  by_cases hc : s'.singletonClass? target = some id
  · have hid : id = singleton := h.singleton_eq hc
    simp only [hc, if_true, hid]
    exact h.find?_onSingleton hwell name
  · simp only [hc, if_false, Option.bind_fun_none]
    split
    · next hid => exact (h.entryNamed?_sing_eq_none hwell (hid ▸ hc) name).symm
    · rfl

end Installed

/-! ## The pass -/

variable (hostType : String) (descriptors : List Descriptor)

/-- What a table holds after a pass. -/
theorem Tower.lookup?_bind (h : s.Tower) (id : ModuleId) (name : String) :
    (s.bind hostType descriptors target).space.lookup? id name =
      ((s.bind hostType descriptors target).written? target name id).or (s.lookup? id name) := by
  obtain ⟨-, hb⟩ | ⟨e, -, -, hb⟩ | ⟨selected, singleton, own, sing, s', -, hsel, hinst, hb⟩ :=
    bind_cases h hostType descriptors target <;> rw [hb]
  · rfl
  · rfl
  · rw [hinst.written?_eq (wellNamed_planned s target (selected_nodup hsel))]
    exact hinst.table id name

/-- What a pass makes of the outlines. -/
theorem Tower.outline?_bind (h : s.Tower) (id : ModuleId) :
    (s.bind hostType descriptors target).space.outline? id =
      if (s.bind hostType descriptors target).usesSingleton then
        (s.singletonOf target).2.outline? id
      else s.outline? id := by
  obtain ⟨-, hb⟩ | ⟨e, -, -, hb⟩ | ⟨selected, singleton, own, sing, s', -, -, hinst, hb⟩ :=
    bind_cases h hostType descriptors target <;> rw [hb]
  · rfl
  · rfl
  · rw [hinst.usesSingleton_eq, hinst.outline, prepared]
    cases (s.planned target selected).all (·.onSingleton.isNone) <;> rfl

/-- A module that is registered stays so. -/
theorem Tower.module?_isSome_bind (h : s.Tower) {id : ModuleId}
    (hreg : (s.module? id).isSome = true) :
    ((s.bind hostType descriptors target).space.module? id).isSome = true := by
  rw [← isSome_outline?, h.outline?_bind]
  split
  · rw [isSome_outline?]
    exact module?_isSome_singletonOf hreg target
  · rw [isSome_outline?]
    exact hreg

end Space

end MethodBinding
