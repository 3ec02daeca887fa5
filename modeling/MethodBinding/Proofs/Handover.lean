import MethodBinding.Proofs.Host.Shape
import Mathlib.Data.List.Basic

/-!
# Adapters hand calls over

`HostRun` says what running a host function once means: what each shape is handed. It is defined by
shape, without reference to adapters. A run is a computation, and computations are equal only if
they do the same, whatever kind of effects they have; so a call that equals a run runs the host
function once, and a call that equals an error does not run it.

`Adapter.Answers` has a rule for each of the three ways in which an adapter can answer. If its
policy checks, a number of arguments outside the bounds is refused, whether or not the bounds fit
the slots of the host function. Otherwise the arguments must fill the slots, if there are any. All
other calls are one run of the host function. The rules exclude each other and leave no call out,
and they are what adapters do (`invoke_exact`).
-/

namespace MethodBinding

/-! ## Bounds -/

/-- A count lies within the bounds. -/
def Arity.Admits (a : Arity) (count : Nat) : Prop :=
  a.min.toNat ≤ count ∧ ∀ most, a.max = some most → count ≤ most.toNat

theorem Arity.accepts_iff_admits {a : Arity} {count : Nat} :
    a.accepts count = true ↔ a.Admits count := accepts_iff

instance (a : Arity) (count : Nat) : Decidable (a.Admits count) :=
  decidable_of_iff _ Arity.accepts_iff_admits

/-- The policy refuses a call with these arguments. -/
def ArityPolicy.Refuses (p : ArityPolicy) (args : List Value) : Prop :=
  p.check = true ∧ ¬p.arity.Admits args.length

theorem ArityPolicy.refuses_iff {p : ArityPolicy} {args : List Value} :
    (p.check && !p.arity.accepts args.length) = true ↔ p.Refuses args := by
  rw [Bool.and_eq_true, Bool.not_eq_true', ← Bool.not_eq_true, Arity.accepts_iff_admits, Refuses]

/-- The arguments are as many as the shape has slots, if it has any. -/
def HostShape.FilledBy (shape : HostShape) (args : List Value) : Prop :=
  ∀ slots, shape.Slots slots → 0 < slots → args.length = slots

/-! ## Running a host function -/

section
variable {m : Type → Type}

/-- The run of a host function of a shape for a call with these arguments. -/
inductive HostRun (ctx : Context) (recv : Value) (block : Option (BlockIn m)) :
    (shape : HostShape) → shape.BehaviourIn m → List Value → CallIn m (Option Value) → Prop where
  | receiver (f) (args : List Value) : HostRun ctx recv block .receiver f args (f recv)
  | fixed1 (f) (a : Value) : HostRun ctx recv block .fixed1 f [a] (f recv a)
  | fixed2 (f) (a b : Value) : HostRun ctx recv block .fixed2 f [a, b] (f recv a b)
  | fixed3 (f) (a b c : Value) : HostRun ctx recv block .fixed3 f [a, b, c] (f recv a b c)
  | args (f) (args : List Value) : HostRun ctx recv block .args f args (f recv args)
  | contextReceiver (f) (args : List Value) :
    HostRun ctx recv block .contextReceiver f args (f ctx recv)
  | contextFixed1 (f) (a : Value) : HostRun ctx recv block .contextFixed1 f [a] (f ctx recv a)
  | contextFixed2 (f) (a b : Value) :
    HostRun ctx recv block .contextFixed2 f [a, b] (f ctx recv a b)
  | contextFixed3 (f) (a b c : Value) :
    HostRun ctx recv block .contextFixed3 f [a, b, c] (f ctx recv a b c)
  | contextArgs (f) (args : List Value) :
    HostRun ctx recv block .contextArgs f args (f ctx recv args)
  | contextArgsBlock (f) (args : List Value) :
    HostRun ctx recv block .contextArgsBlock f args (f ctx recv args block)

variable [Monad m] {shape : HostShape} {f : shape.BehaviourIn m} {ctx : Context} {recv : Value}
  {args : List Value} {block : Option (BlockIn m)} {run : CallIn m (Option Value)}

/-- When the arguments fill the slots of a shape, handing them over is one run. -/
theorem apply_hostRun (hfill : shape.FilledBy args) (f : shape.BehaviourIn m) (ctx : Context)
    (recv : Value) (block : Option (BlockIn m)) :
    HostRun ctx recv block shape f args (shape.apply ctx f recv args block) := by
  cases shape with
  | receiver => exact .receiver f args
  | contextReceiver => exact .contextReceiver f args
  | args => exact .args f args
  | contextArgs => exact .contextArgs f args
  | contextArgsBlock => exact .contextArgsBlock f args
  | fixed1 =>
    obtain ⟨a, rfl⟩ := List.length_eq_one_iff.1 (hfill 1 .fixed1 (by decide))
    exact .fixed1 f a
  | contextFixed1 =>
    obtain ⟨a, rfl⟩ := List.length_eq_one_iff.1 (hfill 1 .contextFixed1 (by decide))
    exact .contextFixed1 f a
  | fixed2 =>
    obtain ⟨a, b, rfl⟩ := List.length_eq_two.1 (hfill 2 .fixed2 (by decide))
    exact .fixed2 f a b
  | contextFixed2 =>
    obtain ⟨a, b, rfl⟩ := List.length_eq_two.1 (hfill 2 .contextFixed2 (by decide))
    exact .contextFixed2 f a b
  | fixed3 =>
    obtain ⟨a, b, c, rfl⟩ := List.length_eq_three.1 (hfill 3 .fixed3 (by decide))
    exact .fixed3 f a b c
  | contextFixed3 =>
    obtain ⟨a, b, c, rfl⟩ := List.length_eq_three.1 (hfill 3 .contextFixed3 (by decide))
    exact .contextFixed3 f a b c

/-- There is one run only, which is that of handing the call over. -/
theorem HostRun.eq_apply (h : HostRun ctx recv block shape f args run) :
    run = shape.apply ctx f recv args block := by
  cases h <;> rfl

/-- Arguments that do not fill the slots are refused. -/
theorem apply_unfilled {slots : Nat} (hslots : shape.Slots slots) (hpos : 0 < slots)
    (hne : args.length ≠ slots) :
    shape.apply ctx f recv args block =
      throw (.arity ⟨args.length, ⟨.ofNat slots, some (.ofNat slots)⟩⟩) := by
  cases hslots with
  | receiver | contextReceiver => cases hpos
  | fixed1 | contextFixed1 =>
    match args, hne with
    | [], _ => rfl
    | [_], hne => exact absurd rfl hne
    | _ :: _ :: _, _ => rfl
  | fixed2 | contextFixed2 =>
    match args, hne with
    | [], _ => rfl
    | [_], _ => rfl
    | [_, _], hne => exact absurd rfl hne
    | _ :: _ :: _ :: _, _ => rfl
  | fixed3 | contextFixed3 =>
    match args, hne with
    | [], _ => rfl
    | [_], _ => rfl
    | [_, _], _ => rfl
    | [_, _, _], hne => exact absurd rfl hne
    | _ :: _ :: _ :: _ :: _, _ => rfl

/-! ## Adapters -/

/-- What an adapter makes of a call. -/
inductive Adapter.Answers (does : InterpretationIn m) (ctx : Context) (a : Adapter) (recv : Value)
    (args : List Value) (block : Option (BlockIn m)) : CallIn m (Option Value) → Prop where
  /-- The number of arguments is refused, with the bounds of the policy. -/
  | refused (hout : a.policy.Refuses args) :
    Answers does ctx a recv args block
      (throw (.arity ⟨args.length, ⟨a.policy.arity.min, a.policy.arity.max⟩⟩))
  /-- There are other slots than arguments, which is refused with the number of slots as bounds. -/
  | unfilled {slots : Nat} (hin : ¬a.policy.Refuses args) (hslots : a.host.shape.Slots slots)
      (hpos : 0 < slots) (hne : args.length ≠ slots) :
    Answers does ctx a recv args block
      (throw (.arity ⟨args.length, ⟨.ofNat slots, some (.ofNat slots)⟩⟩))
  | run {run : CallIn m (Option Value)} (hin : ¬a.policy.Refuses args)
      (hfill : a.host.shape.FilledBy args)
      (hrun : HostRun ctx recv block a.host.shape (does a.host) args run) :
    Answers does ctx a recv args block run

variable {does : InterpretationIn m} {a : Adapter}

theorem Adapter.invokeIn_of_refuses (h : a.policy.Refuses args) :
    a.invokeIn does ctx recv args block = throw (.arity ⟨args.length, a.policy.arity⟩) := by
  rw [invokeIn, if_pos (ArityPolicy.refuses_iff.2 h)]

theorem Adapter.invokeIn_of_not_refuses (h : ¬a.policy.Refuses args) :
    a.invokeIn does ctx recv args block =
      a.host.shape.apply ctx (does a.host) recv args block := by
  rw [invokeIn, if_neg fun hyes => h (ArityPolicy.refuses_iff.1 hyes)]

theorem Adapter.invokeIn_eq_iff {call : CallIn m (Option Value)} :
    a.invokeIn does ctx recv args block = call ↔ a.Answers does ctx recv args block call := by
  constructor
  · rintro rfl
    by_cases hout : a.policy.Refuses args
    · rw [Adapter.invokeIn_of_refuses hout]
      exact .refused hout
    rw [Adapter.invokeIn_of_not_refuses hout]
    by_cases hfill : a.host.shape.FilledBy args
    · exact .run hout hfill (apply_hostRun hfill ..)
    obtain ⟨slots, hslots, hpos, hne⟩ :
        ∃ slots, a.host.shape.Slots slots ∧ 0 < slots ∧ args.length ≠ slots := by
      simpa [HostShape.FilledBy] using hfill
    rw [apply_unfilled hslots hpos hne]
    exact .unfilled hout hslots hpos hne
  · intro h
    cases h with
    | refused hout => exact Adapter.invokeIn_of_refuses hout
    | unfilled hin hslots hpos hne =>
      rw [Adapter.invokeIn_of_not_refuses hin]
      exact apply_unfilled hslots hpos hne
    | run hin hfill hrun =>
      rw [Adapter.invokeIn_of_not_refuses hin]
      exact hrun.eq_apply.symm

end

/-- **Adapters hand calls over faithfully, or refuse them.** Under any policy, also one that no
descriptor has, and whatever effects host functions have, an adapter answers by the rules: it
refuses a number of arguments that the policy excludes, then one that does not fill the slots, with
the bounds in question and without doing anything else; every other call is one run of the host
function and nothing else. In a space, the context of the run is that of the space. -/
theorem invoke_exact :
    (∀ {m : Type → Type} [Monad m] (does : InterpretationIn m) (ctx : Context) (a : Adapter)
      (recv : Value) (args : List Value) (block : Option (BlockIn m))
      (call : CallIn m (Option Value)),
      a.invokeIn does ctx recv args block = call ↔ a.Answers does ctx recv args block call) ∧
    ∀ (does : Interpretation) (a : Adapter) (recv : Value) (args : List Value)
      (block : Option Block) (now : Space),
      (a.invoke does recv args block).run now =
        (a.invokeIn does ⟨now.settings⟩ recv args block).run now :=
  ⟨fun _ _ _ _ _ _ _ => Adapter.invokeIn_eq_iff, fun _ _ _ _ _ _ => rfl⟩

end MethodBinding
