import MethodBinding.Proofs.Growth
import MethodBinding.Proofs.Session
import MethodBinding.Proofs.Space.Registry

/-!
# Numbers and names of modules

Modules are numbered in order of definition, and a definition answers the number that it gave
(`Session.Defines`). A search by name finds the least number whose module has the name and is no
singleton class (`Space.FirstNamed`, `moduleNamed?_eq_some_iff`). As the registry grows, numbers,
names and kinds stay, so what comes first under a name does so forever (`FirstNamed.grows`), however
many modules or singleton classes of that name are defined later (`registry_append_only`).
-/

namespace MethodBinding

/-- A step that defines a module: it answers the length of the registry as the number of the
module, which is added behind all others. -/
structure Session.Defines (t : Session) (does : Interpretation) (c : Command) (name : String)
    (kind : ModuleKind) : Prop where
  answer : (t.step does c).1 = .number (some ⟨t.space.modules.length⟩)
  defined : (t.step does c).2.space.module? ⟨t.space.modules.length⟩ =
    some ⟨name, kind, .empty, none⟩
  others : ∀ id : ModuleId, id.index ≠ t.space.modules.length →
    (t.step does c).2.space.module? id = t.space.module? id
  length : (t.step does c).2.space.modules.length = t.space.modules.length + 1

namespace Space

variable {s s' : Space} {id other : ModuleId} {name : String} {m : Module}

/-! ## Definitions -/

theorem module?_define (s : Space) (name : String) (kind : ModuleKind) (id : ModuleId) :
    (s.define name kind).module? id =
      if id = s.nextId then some (.ofKind name kind) else s.module? id :=
  module?_register ..

theorem defines_of_step {t : Session} {does : Interpretation} {c : Command} {kind : ModuleKind}
    (hc : (t.step does c).1 = .number (some t.space.nextId))
    (hs : (t.step does c).2.space = t.space.define name kind) : t.Defines does c name kind where
  answer := hc
  defined := by
    rw [hs, module?_define]
    exact if_pos rfl
  others id hid := by
    rw [hs, module?_define, if_neg]
    rintro rfl
    exact hid rfl
  length := by rw [hs, length_define]

/-- A module that is asked for its singleton class for the first time gets a new one. -/
theorem module?_singletonOf_new (hm : s.module? id = some m) (hc : m.singletonClass = none) :
    (s.singletonOf id).1 = some s.nextId ∧
      (s.singletonOf id).2.module? s.nextId =
        some ⟨"#<Class:" ++ m.name ++ ">", .singleton id, .empty, none⟩ := by
  have ho : s.outline? id = some m.outline := by rw [outline?, hm, Option.map_some]
  have hne : id ≠ s.nextId := ne_nextId (by rw [ho]; rfl)
  rw [singletonOf_new ho hc]
  refine ⟨rfl, ?_⟩
  rw [attach, module?_modify, if_neg hne, module?_define, if_pos rfl]
  rfl

/-! ## Names -/

/-- The least number whose module has this name and is no singleton class. -/
structure FirstNamed (s : Space) (name : String) (id : ModuleId) : Prop where
  named : ∃ m, s.module? id = some m ∧ (∀ below, m.kind ≠ .singleton below) ∧ m.name = name
  first : ∀ other m, other.index < id.index → s.module? other = some m → m.name = name →
    ∃ below, m.kind = .singleton below

theorem isSingleton_iff : m.isSingleton = true ↔ ∃ below, m.kind = .singleton below := by
  unfold Module.isSingleton
  split
  · next below hkind => simp [hkind]
  · next hno => simpa using hno

theorem isSingleton_eq_false_iff :
    m.isSingleton = false ↔ ∀ below, m.kind ≠ .singleton below := by
  rw [← Bool.not_eq_true, isSingleton_iff, not_exists]

theorem moduleNamed?_eq_some_iff :
    s.moduleNamed? name = some m ↔ ∃ id, s.FirstNamed name id ∧ s.module? id = some m := by
  simp only [moduleNamed?, List.find?_eq_some_iff_getElem, Bool.and_eq_true, Bool.not_eq_true',
    beq_iff_eq]
  constructor
  · rintro ⟨⟨hsingle, hname⟩, i, hi, rfl, hbefore⟩
    have hat : s.module? ⟨i⟩ = some s.modules[i] := List.getElem?_eq_getElem hi
    refine ⟨⟨i⟩, ⟨⟨_, hat, isSingleton_eq_false_iff.1 hsingle, hname⟩,
      fun other m hlt hm hother => isSingleton_iff.1 ?_⟩, hat⟩
    obtain ⟨hlen, rfl⟩ := List.getElem?_eq_some_iff.1 hm
    simpa [hother] using hbefore other.index hlt
  · rintro ⟨id, ⟨⟨m', hm', hsingle, hname⟩, hfirst⟩, hm⟩
    rw [hm'] at hm
    cases hm
    obtain ⟨hi, rfl⟩ := List.getElem?_eq_some_iff.1 hm'
    refine ⟨⟨isSingleton_eq_false_iff.2 hsingle, hname⟩, id.index, hi, rfl, fun j hj => ?_⟩
    have hat : s.module? ⟨j⟩ = some s.modules[j] :=
      List.getElem?_eq_getElem (Nat.lt_trans hj hi)
    by_cases hother : s.modules[j].name = name
    · simp [isSingleton_iff.2 (hfirst ⟨j⟩ _ hj hat hother)]
    · simp [hother]

theorem moduleNamed?_eq_none_iff :
    s.moduleNamed? name = none ↔ ∀ id m, s.module? id = some m → m.name = name →
      ∃ below, m.kind = .singleton below := by
  simp only [moduleNamed?, List.find?_eq_none]
  constructor
  · intro h id m hm hname
    have hmem : m ∈ s.modules := List.mem_of_getElem? hm
    exact isSingleton_iff.1 (by simpa [hname] using h m hmem)
  · intro h m hmem
    obtain ⟨i, hi⟩ := List.mem_iff_getElem?.1 hmem
    by_cases hname : m.name = name
    · simp [isSingleton_iff.2 (h ⟨i⟩ m hi hname)]
    · simp [hname]

theorem FirstNamed.moduleNamed?_eq (h : s.FirstNamed name id) :
    s.moduleNamed? name = s.module? id := by
  obtain ⟨m, hm, -, -⟩ := h.named
  rw [hm]
  exact moduleNamed?_eq_some_iff.2 ⟨id, h, hm⟩

/-! ## Growth -/

theorem Grows.module? (h : s.Grows s') (hm : s.module? id = some m) :
    ∃ m', s'.module? id = some m' ∧ m'.name = m.name ∧ m'.kind = m.kind := by
  have ho : s.outline? id = some m.outline := by rw [outline?, hm, Option.map_some]
  obtain ⟨o', ho', he⟩ := h id _ ho
  obtain ⟨m', hm', rfl⟩ := Option.map_eq_some_iff.1 ho'
  exact ⟨m', hm', he.name, he.kind⟩

/-- What comes first under a name does so in every later space: all lower numbers are taken. -/
theorem FirstNamed.grows (h : s.FirstNamed name id) (hg : s.Grows s') : s'.FirstNamed name id := by
  obtain ⟨⟨m, hm, hsingle, hname⟩, hfirst⟩ := h
  obtain ⟨m', hm', hname', hkind'⟩ := hg.module? hm
  refine ⟨⟨m', hm', by rwa [hkind'], hname'.trans hname⟩, ?_⟩
  intro other om' hlt hom' honame
  have hreg : (s.module? other).isSome = true := by
    have hid : id.index < s.modules.length := module?_isSome.1 (by rw [hm]; rfl)
    exact module?_isSome.2 (Nat.lt_trans hlt hid)
  obtain ⟨om, hom⟩ := Option.isSome_iff_exists.1 hreg
  obtain ⟨_, hom'', hsame, hkind⟩ := hg.module? hom
  rw [hom'] at hom''
  cases hom''
  rw [hkind]
  exact hfirst other om hlt hom (hsame.symm.trans honame)

end Space

/-- **The registry only grows, and names keep their meaning.** In every space that a run leads to, a
definition answers the length of the registry, under which the new module is registered, and so does
the first request for a singleton class; there is a module exactly for each number below the length;
and whatever is done later, it keeps its name and its kind. A search by name finds the module of the
least number that has the name and is no singleton class, if there is any, and from then on the
module of that number. -/
theorem registry_append_only {settings : Settings} {operations : List Operation} {s : Space}
    (hs : (Space.empty settings).run operations = s) :
    (∀ (does : Interpretation) (t : Session), t.space = s →
      (∀ name, t.Defines does (.defineModule name) name .plain) ∧
      (∀ name superclass,
        t.Defines does (.defineClass name superclass) name (.ofClass superclass)) ∧
      ∀ id m, s.module? id = some m → m.singletonClass = none →
        (t.step does (.singletonOf id)).1 = .number (some ⟨s.modules.length⟩) ∧
          (t.step does (.singletonOf id)).2.space.module? ⟨s.modules.length⟩ =
            some ⟨"#<Class:" ++ m.name ++ ">", .singleton id, .empty, none⟩) ∧
    (∀ id, (s.module? id).isSome = true ↔ id.index < s.modules.length) ∧
    (∀ more id m, s.module? id = some m →
      ∃ m', (s.run more).module? id = some m' ∧ m'.name = m.name ∧ m'.kind = m.kind) ∧
    (∀ name m, s.moduleNamed? name = some m ↔
      ∃ id, s.FirstNamed name id ∧ s.module? id = some m) ∧
    (∀ name, s.moduleNamed? name = none ↔ ∀ id m, s.module? id = some m → m.name = name →
      ∃ below, m.kind = .singleton below) ∧
    ∀ more name id, s.FirstNamed name id → (s.run more).FirstNamed name id ∧
      (s.run more).moduleNamed? name = (s.run more).module? id := by
  have htower : s.Tower := hs ▸ (Space.Tower.empty settings).run operations
  refine ⟨fun does t ht => ⟨fun name => ?_, fun name superclass => ?_, fun id m hm hc => ?_⟩,
    fun _ => Space.module?_isSome, fun more id m hm => (htower.grows_run more).module? hm,
    fun _ _ => Space.moduleNamed?_eq_some_iff, fun _ => Space.moduleNamed?_eq_none_iff,
    fun more name id h => ?_⟩
  · exact Space.defines_of_step rfl rfl
  · exact Space.defines_of_step rfl rfl
  · subst ht
    obtain ⟨hanswer, hcreated⟩ := Space.module?_singletonOf_new hm hc
    exact ⟨congrArg Answer.number hanswer, hcreated⟩
  · have hlater := h.grows (htower.grows_run more)
    exact ⟨hlater, hlater.moduleNamed?_eq⟩

/-- A singleton class, and behind it a module of the same name. -/
def namesakeOperations : List Operation :=
  [.defineModule "Math", .singletonOf ⟨0⟩, .defineModule "#<Class:Math>"]

def namesakeSpace : Space := (Space.empty .standard).run namesakeOperations

/-- Later modules of either name, and a pass. -/
def laterNamesakes : List Operation :=
  [.defineClass "Math" none, .bind ⟨"Math", .ok [sqrtDescriptor]⟩ ⟨3⟩, .singletonOf ⟨3⟩,
    .defineClass "#<Class:Math>" none]

theorem namesakes_keep_their_names :
    (Space.empty .standard).run namesakeOperations = namesakeSpace ∧
      (namesakeSpace.module? ⟨1⟩).map (fun m => (m.name, m.isSingleton)) =
        some ("#<Class:Math>", true) ∧
      namesakeSpace.FirstNamed "#<Class:Math>" ⟨2⟩ ∧
      (namesakeSpace.run laterNamesakes).moduleNamed? "#<Class:Math>" =
        (namesakeSpace.run laterNamesakes).module? ⟨2⟩ := by
  have hs : (Space.empty .standard).run namesakeOperations = namesakeSpace := rfl
  have hfirst : namesakeSpace.FirstNamed "#<Class:Math>" ⟨2⟩ := by
    refine ⟨⟨.ofKind "#<Class:Math>" .plain, rfl, nofun, rfl⟩, fun other m hlt hm hname => ?_⟩
    match other, hlt with
    | ⟨0⟩, _ =>
      cases hm
      exact absurd hname (by decide)
    | ⟨1⟩, _ =>
      cases hm
      exact ⟨⟨0⟩, rfl⟩
  obtain ⟨-, -, -, -, -, hlater⟩ := registry_append_only hs
  exact ⟨hs, rfl, hfirst, (hlater laterNamesakes _ _ hfirst).2⟩

end MethodBinding
