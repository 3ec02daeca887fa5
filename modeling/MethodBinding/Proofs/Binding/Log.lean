import MethodBinding.Proofs.Binding.Report
import MethodBinding.Proofs.Selection.Picks

/-!
# The log of a pass

What a pass logs is what it did. The names that a selection passes over are those without a
descriptor for the active version (`unserved`), in order of first declaration, up to the first
ambiguous name (`skipped_of_ok`, `skipped_of_ambiguous`). The rows that are logged as installed are
those of the answer, hence those that the tables have afterwards, and a pass that fails logs none
(`log_tells_what_was_done`).

What a log says is written out, line by line (`LogLine`): the level, the message, and each field.
-/

namespace MethodBinding

variable {s s' : Space} {target : ModuleId} {hostType : String} {descriptors : List Descriptor}
  {active : VersionTag} {selected : List Declaration} {bound : List BoundMethod} {name : String}

/-! ## The names that are passed over -/

/-- Those of the names that have no descriptor for the active version. -/
def unserved (descriptors : List Descriptor) (active : VersionTag) (names : List String) :
    List String :=
  names.filter fun name => ∀ d ∈ descriptors, name ∈ d.name :: d.aliases → ¬d.IsFor active

theorem applicable_eq_nil_iff : applicable active (declarations descriptors) name = [] ↔
    ∀ d ∈ descriptors, name ∈ d.name :: d.aliases → ¬d.IsFor active := by
  rw [List.eq_nil_iff_forall_not_mem]
  refine ⟨fun h d hd hname hfor => ?_, fun h c hc => ?_⟩
  · obtain ⟨i, hdeclares⟩ := exists_declares.2 ⟨hd, hname⟩
    exact h ⟨name, i, d⟩ (mem_applicable.2 ⟨rfl, hdeclares, hfor⟩)
  · obtain ⟨-, hdeclares, hfor⟩ := mem_applicable.1 hc
    obtain ⟨hd, hname⟩ := exists_declares.1 ⟨_, hdeclares⟩
    exact h _ hd hname hfor

/-- The walk over the names passes over those without a descriptor, as long as none is ambiguous. -/
theorem skipped_ofNames_append {before : List String}
    (h : ∀ n ∈ before, (applicable active (declarations descriptors) n).length ≤ 1)
    (after : List String) :
    (Selection.ofNames active (declarations descriptors) (before ++ after)).skipped =
      unserved descriptors active before ++
        (Selection.ofNames active (declarations descriptors) after).skipped := by
  induction before with
  | nil => rfl
  | cons n before ih =>
    obtain ⟨hn, hbefore⟩ := List.forall_mem_cons.1 h
    have ih := ih hbefore
    have hnil := @applicable_eq_nil_iff descriptors active n
    rw [List.cons_append, Selection.ofNames, unserved, List.filter_cons]
    generalize applicable active (declarations descriptors) n = found at hn hnil ⊢
    rcases found with _ | ⟨c, _ | ⟨d, found⟩⟩
    · rw [if_pos (decide_eq_true (hnil.1 rfl))]
      exact congrArg (n :: ·) ih
    · rw [if_neg (by simpa using hnil.not.1 (by simp))]
      exact ih
    · simp at hn

/-- A selection that fails for a duplicate passes over nothing. -/
theorem skipped_of_duplicate {tag : Option VersionTag}
    (h : (select descriptors active).result = .error (.duplicateName name tag)) :
    (select descriptors active).skipped = [] := by
  have hr := firstRepeat?_keys.2 (select_duplicate_iff.1 h)
  unfold Declaration.key at hr
  simp only [select, hr]

theorem skipped_of_ok (h : (select descriptors active).result = .ok selected) :
    (select descriptors active).skipped =
      unserved descriptors active (declaredNames descriptors).eraseDups := by
  obtain ⟨hno, hna, -⟩ := select_ok_iff.1 h
  have hone : ∀ n ∈ (declaredNames descriptors).eraseDups,
      (applicable active (declarations descriptors) n).length ≤ 1 :=
    fun n _ => (length_applicable_le_one hno).2 (hna n)
  have hskipped := skipped_ofNames_append hone []
  rw [List.append_nil] at hskipped
  rw [select_distinct hno, hskipped]
  exact List.append_nil _

/-- A selection that fails for an ambiguous name has passed over names before it only. -/
theorem skipped_of_ambiguous {tag : VersionTag}
    (h : (select descriptors active).result = .error (.ambiguousName name tag)) :
    (select descriptors active).skipped = unserved descriptors active
      ((declaredNames descriptors).eraseDups.takeWhile (· ≠ name)) := by
  obtain ⟨hno, -, hfirst⟩ := select_ambiguous_iff.1 h
  obtain ⟨before, after, hnames, ha, hbefore⟩ := firstAmbiguous_iff.1 hfirst
  have htake : (before ++ name :: after).takeWhile (· ≠ name) = before := by
    rw [List.takeWhile_append_of_pos, List.takeWhile_cons_of_neg (by simp), List.append_nil]
    rintro n hn
    refine decide_eq_true fun heq => ?_
    exact hbefore n hn (heq ▸ ha)
  -- the walk has ended at the ambiguous name
  have hend : (Selection.ofNames active (declarations descriptors) (name :: after)).skipped =
      [] := by
    have hmany := (length_applicable_le_one hno).not.2 (not_not.2 ha)
    rw [Selection.ofNames]
    generalize applicable active (declarations descriptors) name = found at hmany ⊢
    rcases found with _ | ⟨c, _ | ⟨d, found⟩⟩
    · simp at hmany
    · simp at hmany
    · rfl
  rw [select_distinct hno, hnames, htake, skipped_ofNames_append, hend, List.append_nil]
  exact fun n hn => (length_applicable_le_one hno).2 (hbefore n hn)

/-! ## The rows that are logged -/

instance : DecidablePred Descriptor.OnModule :=
  fun d => inferInstanceAs (Decidable (d.metaScope = false))

instance : DecidablePred Descriptor.OnSingleton :=
  fun _ => inferInstanceAs (Decidable (_ ∨ _ ∨ _))

/-- The entries that a report shows for one of the two tables, in order. -/
def entriesFor (bound : List BoundMethod) (table : TargetTable) : List Entry :=
  bound.filterMap (·.entryIn? table)

/-- What is logged for the entries of one table. -/
theorem installingEvents_eq (entries : List (Option Entry)) :
    installingEvents entries = (entries.filterMap id).map fun e => .installing e.toRow := by
  rw [installingEvents, List.map_filterMap]
  rfl

/-- The entries of a report that mirrors a selection stand for the declarations with a row in the
table, one for each, in order. -/
theorem forall₂_entriesFor {On : Descriptor → Prop} [DecidablePred On] {table : TargetTable}
    {R : BoundMethod → Declaration → Prop} {Stored : Entry → Declaration → Prop}
    (h : List.Forall₂ R bound selected)
    (hon : ∀ b c, R b c → ((b.entryIn? table).isSome = true ↔ On c.descriptor))
    (hstored : ∀ b c e, R b c → b.entryIn? table = some e → Stored e c) :
    List.Forall₂ Stored (entriesFor bound table) (selected.filter (On ·.descriptor)) := by
  rw [← List.filterMap_eq_filter]
  refine List.rel_filterMap (fun b c hbc => ?_) h
  have hiff := hon b c hbc
  cases hentry : b.entryIn? table with
  | none =>
    have hno : ¬On c.descriptor := fun hc => by simpa [hentry] using hiff.2 hc
    rw [Option.guard_eq_none_iff.2 (by simpa using hno)]
    exact .none
  | some e =>
    have hyes : On c.descriptor := hiff.1 (by rw [hentry]; rfl)
    rw [Option.guard_pos (by simpa using hyes)]
    exact .some (hstored b c e hbc hentry)

/-! ## Lines of a log -/

/-- What is read in a log. -/
structure LogLine where
  level : Level
  message : String
  fields : List (String × FieldValue)
deriving DecidableEq

namespace LogLine

/-- The line of a record. -/
def ofRecord (r : LogRecord) : LogLine := ⟨r.event.level, r.event.message, r.event.fields⟩

/-- A name is passed over. -/
def passedOver (active : VersionTag) (name : String) : LogLine where
  level := .trace
  message := "no descriptor for active compat"
  fields := [("name", .text name), ("compat", .text active.text)]

/-- An entry is installed. -/
def installing (e : Entry) : LogLine where
  level := .debug
  message := "installing method"
  fields := [
    ("name", .text e.name),
    ("owner", .number e.owner.index),
    ("visibility", .text (match e.visibility with
      | .pub => "public"
      | .priv => "private"
      | .prot => "protected")),
    ("min", .number e.arity.min.toNat),
    ("max", .text (match e.arity.max with
      | none => "None"
      | some most => "Some(" ++ toString most.toNat ++ ")")),
    ("check_arity", .flag e.check)]

/-- A pass has bound so many names. -/
def complete (count : Nat) : LogLine where
  level := .debug
  message := "binding pass complete"
  fields := [("count", .number count)]

/-- A pass has failed, with an error that reads so. -/
def aborted (error : String) : LogLine where
  level := .warn
  message := "binding pass aborted, nothing installed"
  fields := [("error", .text error)]

end LogLine

/-- The log of a pass consists of these lines, all of them from within the pass. -/
structure Logs (hostType : String) (target : ModuleId) (lines : List LogLine)
    (log : List LogRecord) : Prop where
  lines : log.map LogLine.ofRecord = lines
  within : ∀ r ∈ log, r.span = some ⟨hostType, target⟩

theorem logs_passLog {events : List Event} {lines : List LogLine}
    (h : events.map (fun event => LogLine.ofRecord ⟨event, some ⟨hostType, target⟩⟩) = lines) :
    Logs hostType target lines (passLog hostType target events) where
  lines := by rw [passLog, List.map_map, ← h]; rfl
  within r hr := by
    obtain ⟨_, -, rfl⟩ := List.mem_map.1 hr
    rfl

theorem ofRecord_installing (e : Entry) (span : Option Span) :
    LogLine.ofRecord ⟨.installing e.toRow, span⟩ = .installing e := by
  obtain ⟨⟨_, _, visibility, ⟨_, max⟩, _, _⟩, _⟩ := e
  cases visibility <;> cases max <;> rfl

/-- What the log of a pass says when the pass has bound methods: it passes over the names without a
descriptor, in order of first declaration, then it installs the rows of the target and those of its
singleton class, each in the order of the selection, and then it is complete. The rows are those
that the tables have now, and nothing else was written. -/
structure LogsInstallation (s s' : Space) (hostType : String) (descriptors : List Descriptor)
    (target : ModuleId) (selected : List Declaration) (bound : List BoundMethod)
    (log : List LogRecord) : Prop where
  logs : Logs hostType target
    ((unserved descriptors s.settings.active (declaredNames descriptors).eraseDups).map
        (.passedOver s.settings.active) ++
      (entriesFor bound .ofModule).map .installing ++
      (entriesFor bound .ofSingleton).map .installing ++ [.complete bound.length]) log
  onModule : List.Forall₂ (fun e c => s'.lookup? target c.name = some e)
    (entriesFor bound .ofModule) (selected.filter (·.descriptor.OnModule))
  onSingleton : List.Forall₂ (fun e c => ∃ singleton,
      s'.singletonClass? target = some singleton ∧ s'.lookup? singleton c.name = some e)
    (entriesFor bound .ofSingleton) (selected.filter (·.descriptor.OnSingleton))
  nothingElse : ∀ id name e, s'.lookup? id name = some e → s.lookup? id name ≠ some e →
    e ∈ entriesFor bound .ofModule ++ entriesFor bound .ofSingleton

/-! ## Failures -/

/-- The names that a pass with this error passes over before it fails, and how the error reads. -/
inductive FailsAfter (descriptors : List Descriptor) (active : VersionTag) (hostType : String)
    (target : ModuleId) : BindError → List String → String → Prop where
  | unknownModule :
    FailsAfter descriptors active hostType target (.unknownModule hostType target) []
      ("cannot bind " ++ hostType ++ ": unknown target module #" ++ toString target.index)
  | duplicateName (name : String) :
    FailsAfter descriptors active hostType target
      (.descriptor hostType name (.duplicateName name none)) []
      ("cannot bind " ++ hostType ++ "#" ++ name ++ ": duplicate method '" ++ name ++
        "' for all versions")
  | duplicateTagged (name : String) (tag : VersionTag) :
    FailsAfter descriptors active hostType target
      (.descriptor hostType name (.duplicateName name (some tag))) []
      ("cannot bind " ++ hostType ++ "#" ++ name ++ ": duplicate method '" ++ name ++
        "' for compat " ++ tag.text)
  | ambiguousName (name : String) (h : FirstAmbiguous descriptors active name) :
    FailsAfter descriptors active hostType target
      (.descriptor hostType name (.ambiguousName name active))
      (unserved descriptors active ((declaredNames descriptors).eraseDups.takeWhile (· ≠ name)))
      ("cannot bind " ++ hostType ++ "#" ++ name ++ ": method '" ++ name ++
        "' is declared both untagged and for compat " ++ active.text)

theorem FailsAfter.message_eq {e : BindError} {skipped : List String} {text : String}
    (h : FailsAfter descriptors active hostType target e skipped text) : e.message = text := by
  cases h with
  | unknownModule => rfl
  | duplicateName name =>
    have hduplicate : ": duplicate method '" = ": " ++ ("duplicate " ++ "method '") := by decide
    have hall : "' for all versions" = "'" ++ " for all versions" := by decide
    show "cannot bind " ++ hostType ++ "#" ++ name ++ ": " ++
      ("duplicate " ++ ("method '" ++ name ++ "'" ++ " for all versions")) = _
    rw [hduplicate, hall]
    simp only [String.append_assoc, -String.reduceAppend]
  | duplicateTagged name tag =>
    have hduplicate : ": duplicate method '" = ": " ++ ("duplicate " ++ "method '") := by decide
    have hfor : "' for compat " = "'" ++ " for compat " := by decide
    show "cannot bind " ++ hostType ++ "#" ++ name ++ ": " ++
      ("duplicate " ++ ("method '" ++ name ++ "'" ++ (" for compat " ++ tag.text))) = _
    rw [hduplicate, hfor]
    simp only [String.append_assoc, -String.reduceAppend]
  | ambiguousName name =>
    have hmethod : ": method '" = ": " ++ "method '" := by decide
    have hboth : "' is declared both untagged and for compat " =
        "'" ++ " is declared both untagged and for compat " := by decide
    show "cannot bind " ++ hostType ++ "#" ++ name ++ ": " ++
      ("method '" ++ name ++ "'" ++
        (" is declared both untagged and for compat " ++ active.text)) = _
    rw [hmethod, hboth]
    simp only [String.append_assoc, -String.reduceAppend]

/-- What the log of a pass says when the pass has failed: it passes over some names, and then it is
aborted with the error. -/
structure LogsFailure (hostType : String) (target : ModuleId) (active : VersionTag)
    (skipped : List String) (error : String) (log : List LogRecord) : Prop where
  logs : Logs hostType target (skipped.map (.passedOver active) ++ [.aborted error]) log
  noInstalling : ∀ r ∈ log, r.event.message ≠ "installing method"
  oneWarning : (log.map LogLine.ofRecord).filter (·.level = .warn) = [.aborted error]

theorem FailsAfter.logsFailure {e : BindError} {skipped : List String} {text : String}
    (h : FailsAfter descriptors active hostType target e skipped text) :
    LogsFailure hostType target active skipped text
      (passLog hostType target (skipped.map (.noDescriptor · active) ++ [.aborted e])) := by
  have hlogs : Logs hostType target (skipped.map (.passedOver active) ++ [.aborted text])
      (passLog hostType target (skipped.map (.noDescriptor · active) ++ [.aborted e])) := by
    apply logs_passLog
    rw [List.map_append, List.map_map, ← h.message_eq]
    rfl
  refine ⟨hlogs, ?_, ?_⟩
  · intro r hr
    have hline := List.mem_map_of_mem (f := LogLine.ofRecord) hr
    rw [hlogs.lines, List.mem_append, List.mem_singleton, List.mem_map] at hline
    show (LogLine.ofRecord r).message ≠ "installing method"
    obtain ⟨name, -, hline⟩ | hline := hline
    · rw [← hline]
      show "no descriptor for active compat" ≠ "installing method"
      decide
    · rw [hline]
      show "binding pass aborted, nothing installed" ≠ "installing method"
      decide
  · have hskipped : (skipped.map (LogLine.passedOver active)).filter (·.level = .warn) = [] := by
      simp [List.filter_eq_nil_iff, LogLine.passedOver]
    rw [hlogs.lines, List.filter_append, hskipped]
    rfl

/-! ## The pass -/

theorem Space.Installed.logsInstallation {singleton : ModuleId} {own sing : List (Option Entry)}
    (h : s.Installed s' target singleton (s.planned target selected) own sing)
    (hsel : (select descriptors s.settings.active).result = .ok selected) (hostType : String) :
    LogsInstallation s s' hostType descriptors target selected
      (boundMethods (s.planned target selected) own sing)
      (passLog hostType target (skippedEvents s descriptors ++
        (installingEvents own ++ installingEvents sing) ++
        [.complete (boundMethods (s.planned target selected) own sing).length])) := by
  have hmirrors := h.mirrors (selected_nodup hsel)
  have hown : entriesFor (boundMethods (s.planned target selected) own sing) .ofModule =
      own.filterMap id := by
    conv =>
      rhs
      rw [← map_onModule_boundMethods h.own_rows.length_eq h.sing_rows.length_eq]
    rw [List.filterMap_map]
    rfl
  have hsing : entriesFor (boundMethods (s.planned target selected) own sing) .ofSingleton =
      sing.filterMap id := by
    conv =>
      rhs
      rw [← map_onSingleton_boundMethods h.own_rows.length_eq h.sing_rows.length_eq]
    rw [List.filterMap_map]
    rfl
  refine ⟨?_, ?_, ?_, fun id name e hnew hold => ?_⟩
  · apply logs_passLog
    rw [skippedEvents, skipped_of_ok hsel, installingEvents_eq, installingEvents_eq, ← hown,
      ← hsing]
    simp only [List.map_append, List.map_map, Function.comp_def, ofRecord_installing,
      List.append_assoc]
    rfl
  · exact forall₂_entriesFor hmirrors (fun _ _ hb => hb.onModule_iff)
      fun _ _ e hb he => hb.onModule e he
  · exact forall₂_entriesFor hmirrors (fun _ _ hb => hb.onSingleton_iff)
      fun _ _ e hb he => hb.onSingleton e he
  · rw [hown, hsing]
    refine List.mem_append.2 ((h.mem_of_lookup? hnew hold).imp ?_ ?_) <;>
      exact fun hmem => List.mem_filterMap.2 ⟨_, hmem, rfl⟩

/-- **The log of a pass tells what was done.** In a reachable space, a pass that succeeds logs the
names it passed over, the rows that it has installed, and that it is complete. A pass that fails
installs nothing and says so: it logs no row, and exactly one warning with the error, at the end;
before that come the names passed over before the first ambiguous name, and nothing for any other
error. -/
theorem log_tells_what_was_done (hs : s.Reachable) (hostType : String)
    (descriptors : List Descriptor) (target : ModuleId) :
    (∀ bound, (s.bind hostType descriptors target).result = .ok bound →
      ∃ selected, (select descriptors s.settings.active).result = .ok selected ∧
        LogsInstallation s (s.bind hostType descriptors target).space hostType descriptors target
          selected bound (s.bind hostType descriptors target).log) ∧
    ∀ e, (s.bind hostType descriptors target).result = .error e →
      ∃ skipped text, FailsAfter descriptors s.settings.active hostType target e skipped text ∧
        LogsFailure hostType target s.settings.active skipped text
          (s.bind hostType descriptors target).log := by
  obtain ⟨-, hb⟩ | ⟨cause, -, hsel, hb⟩ |
      ⟨selected, singleton, own, sing, s', -, hsel, hinst, hb⟩ :=
    Space.bind_cases hs.tower hostType descriptors target <;> rw [hb]
  · refine ⟨nofun, fun e he => ?_⟩
    cases he
    have hfails := @FailsAfter.unknownModule descriptors s.settings.active hostType target
    exact ⟨_, _, hfails, hfails.logsFailure⟩
  · refine ⟨nofun, fun e he => ?_⟩
    cases he
    obtain ⟨-, name, tag, hdup⟩ | ⟨-, -, name, hamb⟩ | ⟨-, -, selected, hok⟩ :=
      select_cases descriptors s.settings.active
    · cases hsel.symm.trans hdup
      rw [skippedEvents, skipped_of_duplicate hsel]
      cases tag with
      | none =>
        have hfails := @FailsAfter.duplicateName descriptors s.settings.active hostType target name
        exact ⟨_, _, hfails, hfails.logsFailure⟩
      | some tag =>
        have hfails :=
          @FailsAfter.duplicateTagged descriptors s.settings.active hostType target name tag
        exact ⟨_, _, hfails, hfails.logsFailure⟩
    · cases hsel.symm.trans hamb
      rw [skippedEvents, skipped_of_ambiguous hsel]
      have hfails := @FailsAfter.ambiguousName descriptors s.settings.active hostType target name
        (select_ambiguous_iff.1 hsel).2.2
      exact ⟨_, _, hfails, hfails.logsFailure⟩
    · cases hsel.symm.trans hok
  · refine ⟨fun bound hbound => ?_, nofun⟩
    cases hbound
    exact ⟨selected, hsel, hinst.logsInstallation hsel hostType⟩

/-- A method of an earlier version. -/
def legacyDescriptor : Descriptor :=
  (Draft.ofClauses "legacy" [.tag ⟨"1.8"⟩, .host ⟨"setup", .receiver⟩]).descriptor (by decide)

/-- The square root for all versions. -/
def plainSqrtDescriptor : Descriptor :=
  (Draft.ofClauses "sqrt" [.required 1, .host ⟨"sqrt", .fixed1⟩]).descriptor (by decide)

/-- The earlier method is passed over, the hook goes into one table and the square root into two.
For all versions and for this one the square root is ambiguous, and then no row is logged. -/
theorem log_of_legacy_and_sqrt :
    (∃ bound, (smallSpace.bind "Math" [legacyDescriptor, setupDescriptor, sqrtDescriptor]
        ⟨0⟩).result = .ok bound ∧
      (smallSpace.bind "Math" [legacyDescriptor, setupDescriptor, sqrtDescriptor] ⟨0⟩).log.map
          LogLine.ofRecord = [.passedOver ⟨"2.0"⟩ "legacy"] ++
        (entriesFor bound .ofModule).map .installing ++
        (entriesFor bound .ofSingleton).map .installing ++ [.complete 3] ∧
      (entriesFor bound .ofModule).map (·.name) = ["initialize", "sqrt", "root"] ∧
      (entriesFor bound .ofSingleton).map (·.name) = ["sqrt", "root"]) ∧
    (smallSpace.bind "Math" [legacyDescriptor, plainSqrtDescriptor, sqrtDescriptor] ⟨0⟩).log.map
        LogLine.ofRecord = [.passedOver ⟨"2.0"⟩ "legacy", .aborted
          "cannot bind Math#sqrt: method 'sqrt' is declared both untagged and for compat 2.0"] := by
  constructor
  · obtain ⟨bound, hb, hnames, hnames'⟩ : ∃ bound, (smallSpace.bind "Math"
        [legacyDescriptor, setupDescriptor, sqrtDescriptor] ⟨0⟩).result = .ok bound ∧
        (entriesFor bound .ofModule).map (·.name) = ["initialize", "sqrt", "root"] ∧
        (entriesFor bound .ofSingleton).map (·.name) = ["sqrt", "root"] := ⟨_, rfl, rfl, rfl⟩
    obtain ⟨hsuccess, -⟩ := log_tells_what_was_done smallSpace_reachable "Math"
      [legacyDescriptor, setupDescriptor, sqrtDescriptor] ⟨0⟩
    obtain ⟨selected, hsel, hlog⟩ := hsuccess bound hb
    refine ⟨bound, hb, ?_, hnames, hnames'⟩
    rw [hlog.logs.lines]
    cases hb
    rfl
  · obtain ⟨-, hfailure⟩ := log_tells_what_was_done smallSpace_reachable "Math"
      [legacyDescriptor, plainSqrtDescriptor, sqrtDescriptor] ⟨0⟩
    obtain ⟨skipped, text, hfails, hlog⟩ :=
      hfailure (.ofDescriptor "Math" (.ambiguousName "sqrt" ⟨"2.0"⟩)) rfl
    rw [hlog.logs.lines]
    cases hfails
    rfl

end MethodBinding
