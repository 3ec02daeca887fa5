import MethodBinding.Proofs.Binding.Frame
import MethodBinding.Proofs.Binding.Order
import MethodBinding.Proofs.Binding.Report

/-!
# Construction hooks

The construction hooks of a space have a say in the visibility of names without declared visibility,
and in nothing else. Two passes with the same descriptors, in spaces that differ in their hooks at
most (`Space.AlikeButHooks`), fail with the same error, or write alike rows under the same names
into the same tables (`bind_under_other_hooks`). Only a row that was written for a descriptor
without declared visibility (`LeftToHooks`) may differ, and only in its visibility: it is private
where its name is a hook, and public where it is none (`Row.AlikeButHooks`).
-/

namespace MethodBinding

variable {s s' t t' : Space} {hostType : String} {descriptors : List Descriptor}
  {target : ModuleId} {selected : List Declaration} {settings settings' : Settings} {name : String}
  {owner : ModuleId} {d : Descriptor} {r r' : Row} {v v' : Visibility} {undeclared : Prop}

/-! ## Likeness but for hooks -/

/-- Two spaces that are alike but for their construction hooks. -/
structure Space.AlikeButHooks (s s' : Space) : Prop where
  active : s.settings.active = s'.settings.active
  registry : s.registry = s'.registry
  tables : ∀ id name, Option.Rel Entry.Alike (s.lookup? id name) (s'.lookup? id name)

/-- Two rows from spaces with these settings. They are alike but for their visibility, and that is
the same too unless it was left to the hooks; then each row is private if its name is a hook, so the
two differ exactly if it is a hook in only one of the spaces. -/
structure Row.AlikeButHooks (settings settings' : Settings) (undeclared : Prop) (r r' : Row) :
    Prop where
  alike : r.Alike (r'.withVisibility r.visibility)
  declared : ¬undeclared → r.visibility = r'.visibility
  shows : undeclared → Shows settings r.name .unset r.visibility
  shows' : undeclared → Shows settings' r.name .unset r'.visibility
  differ_iff : undeclared → (r.visibility ≠ r'.visibility ↔
    ¬(r.name ∈ settings.hooks ↔ r.name ∈ settings'.hooks))

/-- The row under this name in this table was written for a descriptor without declared
visibility. -/
def LeftToHooks (selected : List Declaration) (s : Space) (target id : ModuleId) (name : String) :
    Prop :=
  ∃ c ∈ selected, c.WrittenAt s target id name ∧ c.descriptor.visibility = .unset

/-- Passes with the same descriptors from `s` and `s'`, which differ in their hooks at most: both
fail with the same error and change nothing, or both bind the same selection, with the same
singleton class, in rows that are alike but for hooks. -/
inductive PassOutcome.AlikeButHooks (s s' : Space) (descriptors : List Descriptor)
    (target : ModuleId) (outcome outcome' : PassOutcome) : Prop where
  | failed {e : BindError} (result : outcome.result = .error e)
    (result' : outcome'.result = .error e) (space : outcome.space = s)
    (space' : outcome'.space = s')
  | bound {selected : List Declaration} {bound bound' : List BoundMethod}
    (selection : (select descriptors s.settings.active).result = .ok selected)
    (result : outcome.result = .ok bound) (result' : outcome'.result = .ok bound')
    (registry : outcome.space.registry = outcome'.space.registry)
    (tables : ∀ id name, Option.Rel
      (fun e e' => e.toRow.AlikeButHooks s.settings s'.settings
        (LeftToHooks selected outcome.space target id name) e'.toRow)
      (outcome.space.lookup? id name) (outcome'.space.lookup? id name))
    (methods : List.Forall₂ (fun b c => b.Mirrors c outcome.space target) bound selected)
    (methods' : List.Forall₂ (fun b c => b.Mirrors c outcome'.space target) bound' selected)

/-! ## Visibilities -/

/-- A declared visibility does not depend on the hooks. -/
theorem Shows.eq_of_declared {declared : DeclaredVisibility} (h : Shows settings name declared v)
    (h' : Shows settings' name declared v') (hne : declared ≠ .unset) : v = v' := by
  cases h with
  | hook | plain => exact absurd rfl hne
  | pub | priv | prot | moduleFunction =>
    cases h'
    rfl

theorem ShowsOnSingleton.eq_of_declared {declared : DeclaredVisibility}
    (h : ShowsOnSingleton settings name declared v)
    (h' : ShowsOnSingleton settings' name declared v') (hne : declared ≠ .unset) : v = v' := by
  cases h with
  | copy =>
    cases h' with
    | copy => rfl
    | same hmf => exact absurd rfl hmf
  | same hmf h =>
    cases h' with
    | copy => exact absurd rfl hmf
    | same _ h' => exact h.eq_of_declared h' hne

theorem ShowsOnSingleton.shows_of_unset (h : ShowsOnSingleton settings name .unset v) :
    Shows settings name .unset v := by
  cases h with
  | same _ h => exact h

theorem Shows.ne_iff (h : Shows settings name .unset v) (h' : Shows settings' name .unset v') :
    v ≠ v' ↔ ¬(name ∈ settings.hooks ↔ name ∈ settings'.hooks) := by
  cases h <;> cases h' <;> simp_all

/-! ## Rows -/

/-- Two rows of one descriptor under the same name of the same owner are alike but for their
visibility. -/
theorem Descriptor.IsRow.alike (h : d.IsRow name owner r) (h' : d.IsRow name owner r') :
    r.Alike (r'.withVisibility r.visibility) := by
  apply Row.alike_of_bare
  obtain ⟨_, _, _, _, _, ⟨_, _, _⟩⟩ := r
  obtain ⟨_, _, _, _, _, ⟨_, _, _⟩⟩ := r'
  obtain ⟨rfl, rfl, rfl, rfl, rfl, rfl⟩ := h
  obtain ⟨rfl, rfl, rfl, rfl, rfl, rfl⟩ := h'
  rfl

theorem Row.Alike.alikeButHooks (h : r.Alike r') (hno : ¬undeclared) :
    r.AlikeButHooks settings settings' undeclared r' where
  alike := ⟨h.name, h.owner, rfl, h.arity, h.check, h.adapter⟩
  declared _ := h.visibility
  shows hyes := absurd hyes hno
  shows' hyes := absurd hyes hno
  differ_iff hyes := absurd hyes hno

/-- Two rows of one descriptor, if their visibilities are as its declaration says. -/
theorem Descriptor.IsRow.alikeButHooks (h : d.IsRow name owner r) (h' : d.IsRow name owner r')
    (hundeclared : undeclared ↔ d.visibility = .unset)
    (hdeclared : d.visibility ≠ .unset → r.visibility = r'.visibility)
    (hshows : d.visibility = .unset → Shows settings name .unset r.visibility)
    (hshows' : d.visibility = .unset → Shows settings' name .unset r'.visibility) :
    r.AlikeButHooks settings settings' undeclared r' where
  alike := h.alike h'
  declared hno := hdeclared fun hunset => hno (hundeclared.2 hunset)
  shows hyes := h.name ▸ hshows (hundeclared.1 hyes)
  shows' hyes := h.name ▸ hshows' (hundeclared.1 hyes)
  differ_iff hyes :=
    h.name ▸ (hshows (hundeclared.1 hyes)).ne_iff (hshows' (hundeclared.1 hyes))

/-! ## Tables -/

/-- Under a name that was selected once, what is left to the hooks is a matter of its descriptor. -/
theorem leftToHooks_iff (hnd : (selected.map (·.name)).Nodup) {c : Declaration}
    (hc : c ∈ selected) {id : ModuleId} (hat : c.WrittenAt s target id name) :
    LeftToHooks selected s target id name ↔ c.descriptor.visibility = .unset := by
  refine ⟨?_, fun hunset => ⟨c, hc, hat, hunset⟩⟩
  rintro ⟨b, hb, hb', hunset⟩
  cases List.inj_on_of_nodup_map hnd hb hc (hb'.name.trans hat.name.symm)
  exact hunset

namespace Space

theorem Rewritten.alikeButHooks (h : s.Rewritten t target selected)
    (h' : s'.Rewritten t' target selected)
    (hcell : t.singletonClass? target = t'.singletonClass? target)
    (hnd : (selected.map (·.name)).Nodup)
    (hold : ∀ id name, Option.Rel Entry.Alike (s.lookup? id name) (s'.lookup? id name))
    (id : ModuleId) (name : String) :
    Option.Rel (fun e e' => e.toRow.AlikeButHooks s.settings s'.settings
        (LeftToHooks selected t target id name) e'.toRow)
      (t.lookup? id name) (t'.lookup? id name) := by
  by_cases hwritten : ∃ c ∈ selected, c.WrittenAt t target id name
  · obtain ⟨c, hc, hat⟩ := hwritten
    have hleft := leftToHooks_iff hnd hc hat
    obtain ⟨rfl, ⟨rfl, hon⟩ | ⟨hs, hon⟩⟩ := hat
    · obtain ⟨e, he, hrow, hshows⟩ := h.own c hc hon
      obtain ⟨e', he', hrow', hshows'⟩ := h'.own c hc hon
      rw [he, he']
      exact .some (hrow.alikeButHooks hrow' hleft (hshows.eq_of_declared hshows')
        (fun hunset => hunset ▸ hshows) fun hunset => hunset ▸ hshows')
    · obtain ⟨_, e, hs₁, he, hrow, hshows⟩ := h.sing c hc hon
      obtain ⟨_, e', hs₂, he', hrow', hshows'⟩ := h'.sing c hc hon
      cases hs₁.symm.trans hs
      cases hs₂.symm.trans (hcell.symm.trans hs)
      rw [he, he']
      exact .some (hrow.alikeButHooks hrow' hleft (hshows.eq_of_declared hshows')
        (fun hunset => (hunset ▸ hshows).shows_of_unset)
        fun hunset => (hunset ▸ hshows').shows_of_unset)
  · -- neither pass writes here
    have hno : ¬LeftToHooks selected t target id name :=
      fun ⟨c, hc, hat, _⟩ => hwritten ⟨c, hc, hat⟩
    have hwritten' : ¬∃ c ∈ selected, c.WrittenAt t' target id name := by
      rintro ⟨c, hc, hname, hat⟩
      rw [← hcell] at hat
      exact hwritten ⟨c, hc, hname, hat⟩
    have hrow := hold id name
    rw [h.kept hwritten, h'.kept hwritten']
    generalize s.lookup? id name = e, s'.lookup? id name = e' at hrow
    cases hrow with
    | none => exact .none
    | some hrow => exact .some (Row.Alike.alikeButHooks hrow hno)

theorem Installed.registry_congr {singleton singleton' : ModuleId}
    {own sing own' sing' : List (Option Entry)}
    (h : s.Installed t target singleton (s.planned target selected) own sing)
    (h' : s'.Installed t' target singleton' (s'.planned target selected) own' sing')
    (hsame : s.registry = s'.registry) : t.registry = t'.registry := by
  rw [registry_eq_iff] at hsame ⊢
  intro id
  rw [h.outline, h'.outline, prepared, prepared]
  by_cases hneeds : NeedsSingleton selected
  · rw [if_neg fun hall => all_isNone_planned.1 hall hneeds,
      if_neg fun hall => all_isNone_planned.1 hall hneeds]
    exact (singletonOf_congr hsame target).2 id
  · rw [if_pos (all_isNone_planned.2 hneeds), if_pos (all_isNone_planned.2 hneeds)]
    exact hsame id

/-! ## The two passes -/

section Passes

variable (h : s.Tower) (h' : s'.Tower)
include h h'

theorem Tower.failed_alikeButHooks {e : BindError}
    (he : (s.bind hostType descriptors target).result = .error e)
    (he' : (s'.bind hostType descriptors target).result = .error e) :
    PassOutcome.AlikeButHooks s s' descriptors target (s.bind hostType descriptors target)
      (s'.bind hostType descriptors target) :=
  .failed he he' (h.bind_error he) (h'.bind_error he')

/-- Two passes that can make their selection. It is the same one, as hooks have no part in it. -/
theorem Tower.bound_alikeButHooks (hsame : s.AlikeButHooks s')
    (hreg : (s.module? target).isSome = true) (hreg' : (s'.module? target).isSome = true)
    (hsel : (select descriptors s.settings.active).result = .ok selected) :
    PassOutcome.AlikeButHooks s s' descriptors target (s.bind hostType descriptors target)
      (s'.bind hostType descriptors target) := by
  have hsel' : (select descriptors s'.settings.active).result = .ok selected :=
    hsame.active ▸ hsel
  obtain ⟨bound, hb⟩ := (bind_ok_iff h).2 ⟨hreg, selected, hsel⟩
  obtain ⟨bound', hb'⟩ := (bind_ok_iff h').2 ⟨hreg', selected, hsel'⟩
  obtain ⟨_, singleton, own, sing, hsel₁, hinst, rfl⟩ := bind_ok h hb
  cases hsel.symm.trans hsel₁
  obtain ⟨_, singleton', own', sing', hsel₂, hinst', rfl⟩ := bind_ok h' hb'
  cases hsel'.symm.trans hsel₂
  have hnd := selected_nodup hsel
  have hregistry := hinst.registry_congr hinst' hsame.registry
  have hcell := singletonClass?_congr (registry_eq_iff.1 hregistry target)
  exact .bound hsel hb hb' hregistry
    ((hinst.rewritten hnd).alikeButHooks (hinst'.rewritten hnd) hcell hnd hsame.tables)
    (hinst.mirrors hnd) (hinst'.mirrors hnd)

end Passes

end Space

/-- **Construction hooks influence undeclared visibilities only.** Take a reachable space and one
that is alike but for its construction hooks. Passes with the same descriptors into the same target
fail in both with the same error and change nothing; or they bind the same selection in both. Then
the registries are the same, and the tables have the same names, with rows that are alike but for
the visibility of those that were written for a descriptor without declared visibility: these are
private where their name is a hook, and public elsewhere. -/
theorem bind_under_other_hooks (hs : s.Reachable) (h : s.AlikeButHooks s') (hostType : String)
    (descriptors : List Descriptor) (target : ModuleId) :
    PassOutcome.AlikeButHooks s s' descriptors target (s.bind hostType descriptors target)
      (s'.bind hostType descriptors target) := by
  have houtline := Space.registry_eq_iff.1 h.registry
  have htower := hs.tower
  -- only the outlines of its modules make a space a tower
  have htower' : s'.Tower := htower.congr fun id => (houtline id).symm
  have hknown : (s'.module? target).isSome = (s.module? target).isSome := by
    rw [← Space.isSome_outline?, ← Space.isSome_outline?, houtline]
  by_cases hreg : (s.module? target).isSome = true
  · have hreg' := hknown.trans hreg
    cases hsel : (select descriptors s.settings.active).result with
    | error e =>
      have hsel' := h.active ▸ hsel
      exact htower.failed_alikeButHooks htower' (htower.bind_error_of_select hreg hsel)
        (htower'.bind_error_of_select hreg' hsel')
    | ok selected => exact htower.bound_alikeButHooks htower' h hreg hreg' hsel
  · have hreg' : ¬(s'.module? target).isSome = true := hknown ▸ hreg
    exact htower.failed_alikeButHooks htower' (htower.bind_error_of_unknown hreg)
      (htower'.bind_error_of_unknown hreg')

/-- A function for a module and its singleton class, under two names, without declared
visibility. -/
def buildDescriptor : Descriptor :=
  (Draft.ofClauses "build" [.moduleScope, .otherName "initialize",
    .host ⟨"setup", .receiver⟩]).descriptor (by decide)

/-- A space with one module, where one of these names is a hook, and not the usual one. -/
def buildSpace : Space := (Space.empty ⟨⟨"2.0"⟩, ["build"]⟩).run [.defineModule "Math"]

/-- Either name is private in one space and public in the other, in both tables. -/
theorem build_under_other_hooks :
    smallSpace.AlikeButHooks buildSpace ∧
      PassOutcome.AlikeButHooks smallSpace buildSpace [buildDescriptor] ⟨0⟩
        (smallSpace.bind "Math" [buildDescriptor] ⟨0⟩)
        (buildSpace.bind "Math" [buildDescriptor] ⟨0⟩) ∧
      ∀ name ∈ buildDescriptor.names, ∀ id ∈ [(⟨0⟩ : ModuleId), ⟨1⟩], ∃ e e',
        (smallSpace.bind "Math" [buildDescriptor] ⟨0⟩).space.lookup? id name = some e ∧
        (buildSpace.bind "Math" [buildDescriptor] ⟨0⟩).space.lookup? id name = some e' ∧
        e.visibility = (if name = "build" then .pub else .priv) ∧
        e'.visibility = (if name = "build" then .priv else .pub) := by
  have hsame : smallSpace.AlikeButHooks buildSpace := by
    refine ⟨rfl, rfl, fun id name => ?_⟩
    have hnone : smallSpace.lookup? id name = none := Space.lookup?_define ..
    have hnone' : buildSpace.lookup? id name = none := Space.lookup?_define ..
    rw [hnone, hnone']
    exact .none
  refine ⟨hsame, bind_under_other_hooks smallSpace_reachable hsame "Math" [buildDescriptor] ⟨0⟩, ?_⟩
  intro name hname id hid
  rcases List.mem_pair.1 hname with rfl | rfl <;> rcases List.mem_pair.1 hid with rfl | rfl <;>
    exact ⟨_, _, rfl, rfl, rfl, rfl⟩

end MethodBinding
