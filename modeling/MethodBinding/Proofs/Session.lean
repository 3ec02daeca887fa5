import MethodBinding.Proofs.Run
import MethodBinding.Session

/-!
# Sessions do what runs do

Every step of a session other than a call is a run of operations on its space (`Session.step_run`),
so a session that starts on a reachable space stays on reachable spaces. What a call does is up to
the host functions.
-/

namespace MethodBinding

/-- Only a call runs a host function. -/
def Command.IsCall : Command → Prop
  | .call .. => True
  | _ => False

namespace Space

/-- Changing a table to a fixed one is changing it by a function that leads there. -/
theorem modifyMethods_const {s : Space} {id : ModuleId} {m : Module} (h : s.module? id = some m)
    (f : MethodTable → MethodTable) :
    (s.modifyMethods id fun _ => f m.methods) = s.modifyMethods id f := by
  simp only [modifyMethods, modify]
  congr 1
  refine List.ext_getElem? fun j => ?_
  rw [List.getElem?_modify, List.getElem?_modify]
  by_cases hj : id.index = j
  · subst hj
    have hm : s.modules[id.index]? = some m := h
    rw [hm]
    rfl
  · simp only [hj, if_false]

end Space

namespace Session

variable {s : Session}

theorem keep_space (s : Session) (key : Option String) (e : Option Entry) :
    (s.keep key e).space = s.space := by
  cases key <;> cases e <;> rfl

theorem keepBound_space (s : Session) (key : Option String) (bound : List BoundMethod) :
    (s.keepBound key bound).space = s.space := by
  cases key with
  | none => rfl
  | some key =>
    unfold keepBound
    simp only
    generalize bound.zipIdx = numbered
    induction numbered generalizing s with
    | nil => rfl
    | cons b numbered ih =>
      rw [List.foldl_cons, ih, keep_space, keep_space]

/-- The space after a step on a table is that after its function, if the step does not fail. -/
theorem onTable_run {id : ModuleId} {key : Option String} {f : MethodTable → Answer × Session}
    (hf : ∀ m, s.space.module? id = some m →
      ∃ operations, (f m.methods).2.space = s.space.run operations) :
    ∃ operations, (s.onTable id key f).2.space = s.space.run operations := by
  unfold onTable
  cases hm : s.space.module? id with
  | none => exact ⟨[], keep_space ..⟩
  | some m => exact hf m hm

theorem onKept_run {entry : String} {key : Option String} {f : Entry → Answer × Session}
    (hf : ∀ e, ∃ operations, (f e).2.space = s.space.run operations) :
    ∃ operations, (s.onKept entry key f).2.space = s.space.run operations := by
  unfold onKept
  cases s.kept.find? entry with
  | none => exact ⟨[], keep_space ..⟩
  | some e => exact hf e

/-- Every step other than a call is a run of operations. -/
theorem step_run (does : Interpretation) (s : Session) {c : Command} (hc : ¬c.IsCall) :
    ∃ operations, (s.step does c).2.space = s.space.run operations := by
  cases c with
  | defineModule name => exact ⟨[.defineModule name], rfl⟩
  | defineClass name superclass => exact ⟨[.defineClass name superclass], rfl⟩
  | singletonOf id => exact ⟨[.singletonOf id], rfl⟩
  | bind t target key =>
    refine ⟨[.bind t target], ?_⟩
    simp only [step]
    split
    · exact keepBound_space ..
    · rfl
  | search id name key => exact ⟨[], keep_space ..⟩
  | lookup id name key => exact onTable_run fun m _ => ⟨[], keep_space ..⟩
  | remove id name key => exact onTable_run fun m _ => ⟨[.remove id name], keep_space ..⟩
  | install id name entry key =>
    exact onKept_run fun e => onTable_run fun m _ => ⟨[.install id name e], keep_space ..⟩
  | installBatch id rows =>
    simp only [step]
    split
    · exact ⟨[], rfl⟩
    · next rows _ =>
      exact onTable_run fun m hm => ⟨[.installMany id rows],
        Space.modifyMethods_const hm (·.insertMany rows)⟩
  | table id name => exact onTable_run fun m _ => ⟨[], rfl⟩
  | create name owner visibility host policy key =>
    let row : Row :=
      ⟨name, owner, visibility, policy.arity, policy.check, (s.space.adapter host policy).1⟩
    exact ⟨[.adapter host policy, .stamp row], keep_space ..⟩
  | derive entry change key =>
    exact onKept_run fun e => ⟨[.stamp (e.change change)], keep_space ..⟩
  | inspect entry => exact onKept_run fun e => ⟨[], rfl⟩
  | compare a b => exact onKept_run fun e => onKept_run fun e' => ⟨[], rfl⟩
  | call => exact absurd trivial hc
  | describe | describeNamed | settings | isHook | dump => exact ⟨[], rfl⟩

/-- A session stays on reachable spaces as long as it does not call. -/
theorem step_reachable (does : Interpretation) (h : s.space.Reachable) {c : Command}
    (hc : ¬c.IsCall) : (s.step does c).2.space.Reachable := by
  obtain ⟨settings, before, hs⟩ := h
  obtain ⟨operations, hstep⟩ := step_run does s hc
  exact ⟨settings, before ++ operations, by rw [hstep, Space.run_append, ← hs]⟩

end Session

end MethodBinding
