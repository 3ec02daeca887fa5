import MethodBinding.Proofs.Binding.Rows
import MethodBinding.Proofs.Handover

/-!
# Rows enforce what they report

A row shows bounds and whether they are enforced; its adapter holds a policy of its own, and the
shape of its host function takes a number of arguments of its own. For the rows of a descriptor the
three agree (`Descriptor.policy_of_slots`), so a call is refused exactly when it is outside the
bounds shown, and any other call runs the host function once (`installed_row_enforces`).
-/

namespace MethodBinding

variable {s s' : Space} {target owner : ModuleId} {selected : List Declaration} {d : Descriptor}
  {name : String} {r : Row}

/-! ## Calls -/

/-- What a call makes of the answer of its adapter. -/
def answered : Except CallError (Option Value) → Except CallError Value
  | .ok (some v) => .ok v
  | .ok none => .ok .nil
  | .error e => .error e

theorem run_callIn {m : Type → Type} [Monad m] [LawfulMonad m] (does : InterpretationIn m)
    (ctx : Context) (r : Row) (recv : Value) (args : List Value) (block : Option (BlockIn m)) :
    (r.callIn does ctx recv args block).run =
      answered <$> (r.adapter.invokeIn does ctx recv args block).run := by
  rw [Row.callIn, ExceptT.run_bind, map_eq_pure_bind]
  congr 1
  funext answer
  rcases answer with e | _ | v <;> rfl

/-! ## The bounds of a descriptor -/

/-- The counts of a descriptor fill the slots of its host function. -/
theorem Descriptor.counts_of_slots {slots : Nat} (h : d.host.shape.Slots slots) :
    d.rest = false ∧ d.optional = 0 ∧ d.required.toNat = slots := by
  have hfits := d.fits
  unfold HostShape.countFault? at hfits
  rw [HostShape.slots?_eq_some_iff.2 h] at hfits
  simp only at hfits
  split at hfits
  · cases hfits
  split at hfits
  · cases hfits
  next hor hne =>
  have hopt : ¬0 < d.optional := fun hpos => hor (.inl hpos)
  refine ⟨Bool.eq_false_iff.2 fun hrest => hor (.inr hrest), ?_, Decidable.not_not.1 hne⟩
  rw [UInt64.lt_iff_toNat_lt, UInt64.toNat_zero] at hopt
  exact UInt64.toNat_inj.1 (by rw [UInt64.toNat_zero]; omega)

/-- A function with slots is called only after a check, for exactly as many arguments. -/
theorem Descriptor.policy_of_slots {slots : Nat} (h : d.host.shape.Slots slots)
    (hpos : 0 < slots) : d.policy.check = true ∧ d.policy.arity.min.toNat = slots ∧
      d.policy.arity.max = some d.policy.arity.min := by
  obtain ⟨hrest, hopt, hreq⟩ := d.counts_of_slots h
  have hslots : d.host.shape.hasSlots = true := HostShape.hasSlots_iff.2 ⟨slots, h, hpos⟩
  refine ⟨d.checked hslots, ?_⟩
  simp [policy, ArityPolicy.resolve, hrest, hopt, Arity.range, hreq]

/-! ## Rows of a descriptor -/

/-- What a row promises, whatever effects host functions have: it refuses a call outside the bounds
it shows, if it shows that it checks them, and does nothing else then; any other call is one run of
its host function. -/
def Row.Enforces (r : Row) : Prop :=
  ∀ {m : Type → Type} [Monad m] [LawfulMonad m] (does : InterpretationIn m) (ctx : Context)
    (recv : Value) (args : List Value) (block : Option (BlockIn m)),
    (r.check = true ∧ ¬r.arity.Admits args.length →
      (r.callIn does ctx recv args block).run =
        pure (.error (.arity ⟨args.length, ⟨r.arity.min, r.arity.max⟩⟩))) ∧
    (¬(r.check = true ∧ ¬r.arity.Admits args.length) → ∃ run,
      HostRun ctx recv block r.adapter.host.shape (does r.adapter.host) args run ∧
      (r.callIn does ctx recv args block).run = answered <$> run.run)

theorem Descriptor.IsRow.enforces (h : d.IsRow name owner r) : r.Enforces := by
  intro m _ _ does ctx recv args block
  have hpolicy : r.adapter.policy = d.policy := h.policy
  have hcheck : r.check = d.policy.check := h.check
  have harity : r.arity = d.policy.arity := h.arity
  have hrefuses : r.adapter.policy.Refuses args ↔ r.check = true ∧ ¬r.arity.Admits args.length := by
    rw [ArityPolicy.Refuses, hpolicy, hcheck, harity]
  rw [run_callIn]
  refine ⟨fun hout => ?_, fun hin => ?_⟩
  · rw [Adapter.invokeIn_of_refuses (hrefuses.2 hout), hpolicy, ← harity]
    exact map_pure ..
  · rw [Adapter.invokeIn_of_not_refuses (mt hrefuses.1 hin)]
    refine ⟨_, apply_hostRun ?_ .., rfl⟩
    intro slots hslots hpos
    rw [h.host] at hslots
    obtain ⟨hon, hmin, hmax⟩ := d.policy_of_slots hslots hpos
    rw [← hcheck] at hon
    rw [← harity] at hmin hmax
    obtain ⟨hle, hge⟩ : r.arity.Admits args.length := Decidable.by_contra fun hno => hin ⟨hon, hno⟩
    have := hge _ hmax
    omega

/-! ## Rows of a pass -/

/-- A pass from `s` installed the entry: it is among what the pass answers, or some table holds it
that did not before. -/
def PassOutcome.Installs (outcome : PassOutcome) (s : Space) (e : Entry) : Prop :=
  (∃ bound, outcome.result = .ok bound ∧
    ∃ b ∈ bound, b.onModule = some e ∨ b.onSingleton = some e) ∨
  ∃ id name, outcome.space.lookup? id name = some e ∧ s.lookup? id name ≠ some e

theorem mem_boundMethods {methods : List PlannedMethod} {own sing : List (Option Entry)}
    {b : BoundMethod} (hb : b ∈ boundMethods methods own sing) :
    b.onModule ∈ own ∧ b.onSingleton ∈ sing := by
  obtain ⟨⟨m, e, e'⟩, hmem, rfl⟩ := List.mem_map.1 hb
  exact List.of_mem_zip (List.of_mem_zip hmem).2

/-- Every entry that was written is a row of a selected descriptor. -/
theorem Space.Installed.isRow_of_mem {singleton : ModuleId} {own sing : List (Option Entry)}
    (h : s.Installed s' target singleton (s.planned target selected) own sing) {e : Entry}
    (he : some e ∈ own ∨ some e ∈ sing) :
    ∃ c ∈ selected, ∃ owner, c.descriptor.IsRow c.name owner e.toRow := by
  rcases he with he | he
  · obtain ⟨c, hc, hrow⟩ := plansRow_onModule.isRow_of_mem h.own_rows he
    exact ⟨c, hc, target, hrow⟩
  · obtain ⟨c, hc, hrow⟩ := plansRow_onSingleton.isRow_of_mem h.sing_rows he
    exact ⟨c, hc, singleton, hrow⟩

/-- An entry that a table has got was written. -/
theorem Space.Installed.mem_of_lookup? {singleton : ModuleId} {methods : List PlannedMethod}
    {own sing : List (Option Entry)} (h : s.Installed s' target singleton methods own sing)
    {id : ModuleId} {e : Entry} (hnew : s'.lookup? id name = some e)
    (hold : s.lookup? id name ≠ some e) : some e ∈ own ∨ some e ∈ sing := by
  rw [h.table, Option.or_eq_some_iff] at hnew
  rcases hnew with hnew | ⟨-, hnew⟩
  · split at hnew
    · exact .inl (mem_of_entryNamed? hnew).1
    · split at hnew
      · exact .inr (mem_of_entryNamed? hnew).1
      · cases hnew
  · exact absurd hnew hold

/-- **A row enforces what it reports.** An entry that a pass in a reachable space has installed is
a row of one of the descriptors. Whatever the host functions do, a call in any context with any
arguments is refused with the bounds of the entry if it is outside of them and the entry checks
them, and then nothing else is done; any other call is one run of the host function. In particular
an entry for a function with slots checks for exactly their number. In a space, the context of the
call is that of the space. -/
theorem installed_row_enforces (hs : s.Reachable) {hostType : String}
    {descriptors : List Descriptor} {bound : List BoundMethod}
    (hb : (s.bind hostType descriptors target).result = .ok bound) {e : Entry}
    (he : (s.bind hostType descriptors target).Installs s e) :
    (∃ d ∈ descriptors, ∃ name ∈ d.name :: d.aliases, ∃ owner, d.IsRow name owner e.toRow) ∧
      e.toRow.Enforces ∧
      (∀ slots, e.adapter.host.shape.Slots slots → 0 < slots →
        e.check = true ∧ e.arity.min.toNat = slots ∧ e.arity.max = some e.arity.min) ∧
      ∀ (does : Interpretation) (recv : Value) (args : List Value) (block : Option Block)
        (now : Space), (e.call does recv args block).run now =
          (e.callIn does ⟨now.settings⟩ recv args block).run now := by
  obtain ⟨selected, singleton, own, sing, hsel, hinst, rfl⟩ := Space.bind_ok hs.tower hb
  have hmem : some e ∈ own ∨ some e ∈ sing := by
    rcases he with ⟨bound, hb', b, hmem, hat⟩ | ⟨id, name, hnew, hold⟩
    · rw [hb] at hb'
      cases hb'
      obtain ⟨hown, hsing⟩ := mem_boundMethods hmem
      rcases hat with hat | hat
      · exact .inl (hat ▸ hown)
      · exact .inr (hat ▸ hsing)
    · exact hinst.mem_of_lookup? hnew hold
  obtain ⟨c, hc, owner, hrow⟩ := hinst.isRow_of_mem hmem
  obtain ⟨hat, hname⟩ := ((mem_selected hsel).1 hc).1
  refine ⟨⟨c.descriptor, List.mem_of_getElem? hat, c.name, hname, owner, hrow⟩, hrow.enforces,
    fun slots hslots hpos => ?_, fun _ _ _ _ _ => rfl⟩
  rw [hrow.host] at hslots
  rw [hrow.arity, hrow.check]
  exact c.descriptor.policy_of_slots hslots hpos

theorem installed_root_enforces :
    ∃ e, (smallSpace.bind "Math" [setupDescriptor, sqrtDescriptor] ⟨0⟩).space.lookup? ⟨0⟩ "root" =
        some e ∧ e.toRow.Enforces ∧ e.check = true ∧ e.arity.min.toNat = 1 := by
  obtain ⟨bound, hb⟩ : ∃ bound,
      (smallSpace.bind "Math" [setupDescriptor, sqrtDescriptor] ⟨0⟩).result = .ok bound := ⟨_, rfl⟩
  have hold : smallSpace.lookup? ⟨0⟩ "root" = none := rfl
  refine ⟨_, rfl, ?_⟩
  obtain ⟨-, henforces, hslots, -⟩ := installed_row_enforces smallSpace_reachable hb
    (.inr ⟨⟨0⟩, "root", rfl, by rw [hold]; nofun⟩)
  obtain ⟨hcheck, hmin, -⟩ := hslots 1 .fixed1 (by decide)
  exact ⟨henforces, hcheck, hmin⟩

end MethodBinding
