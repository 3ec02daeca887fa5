import MethodBinding.Binding.Pass
import MethodBinding.Call

/-!
# Sessions

A session works on one space, step by step, and keeps entries under keys of its own, so that a later
step can speak of an entry that has left its table. `Session.step` is one step: a `Command` and its
`Answer`. What host functions do is given by an interpretation.
-/

namespace MethodBinding

/-- A space, and the entries kept under keys. -/
structure Session where
  space : Space
  kept : NameMap Entry

/-- What of a row is to be different. -/
structure RowChange where
  name : Option String
  visibility : Option Visibility
  owner : Option ModuleId

/-- The row with the changes made. -/
def Row.change (r : Row) (c : RowChange) : Row :=
  let r := (c.name.map r.withName).getD r
  let r := (c.visibility.map r.withVisibility).getD r
  (c.owner.map r.withOwner).getD r

/-- Where the method of a call is found. -/
inductive Callee where
  | kept (key : String)
  | method (id : ModuleId) (name : String)

/-- One step. A command with a key keeps the entry that it comes to. -/
inductive Command where
  | defineModule (name : String)
  | defineClass (name : String) (superclass : Option ModuleId)
  | singletonOf (id : ModuleId)
  | describe (id : ModuleId)
  | describeNamed (name : String)
  | settings
  | isHook (name : String)
  | dump
  | bind (hostType : HostType) (target : ModuleId) (key : Option String)
  | search (id : ModuleId) (name : String) (key : Option String)
  | lookup (id : ModuleId) (name : String) (key : Option String)
  | remove (id : ModuleId) (name : String) (key : Option String)
  | install (id : ModuleId) (name entry : String) (key : Option String)
  | installBatch (id : ModuleId) (rows : List (String × String))
  | table (id : ModuleId) (name : Option String)
  | create (name : String) (owner : ModuleId) (visibility : Visibility) (host : HostFunction)
      (policy : ArityPolicy) (key : Option String)
  | derive (entry : String) (change : RowChange) (key : Option String)
  | inspect (entry : String)
  | compare (a b : String)
  | call (callee : Callee) (recv : Value) (args : List Value) (block : Option Block)

/-- What a step answers. -/
inductive Answer where
  | noModule
  | noEntry
  | number (id : Option ModuleId)
  | module (m : Module)
  | space (s : Space)
  | settings (s : Space)
  | flag (b : Bool)
  | bound (result : Except BindError (List BoundMethod)) (log : List LogRecord)
  | entry (e : Option Entry)
  | names (names : List String)
  | table (t : MethodTable) (contains : Option Bool)
  | row (r : Row)
  | compared (shared same : Bool)
  | called (result : Except CallError Value)

namespace Session

/-- A session on a space. -/
def start (s : Space) : Session := ⟨s, .empty⟩

/-- Keeps an entry under a key, or forgets the key if there is no entry. -/
def keep (s : Session) (key : Option String) (e : Option Entry) : Session :=
  match key, e with
  | none, _ => s
  | some key, some e => { s with kept := s.kept.insert key e }
  | some key, none => { s with kept := s.kept.erase key }

/-- Keeps the entries of bound methods. Under `key`, method `n` has the places `n/i` for the entry
in the module's table and `n/s` for that in the table of its singleton class. -/
def keepBound (s : Session) (key : Option String) (bound : List BoundMethod) : Session :=
  match key with
  | none => s
  | some key =>
    bound.zipIdx.foldl (fun s (b, n) =>
      let place := key ++ "/" ++ toString n
      (s.keep (some (place ++ "/i")) b.onModule).keep (some (place ++ "/s")) b.onSingleton) s

/-- Keeps and answers an entry. -/
def answerEntry (s : Session) (key : Option String) (e : Option Entry) : Answer × Session :=
  (.entry e, s.keep key e)

/-- A step that needs a module, on its method table. -/
def onTable (s : Session) (id : ModuleId) (key : Option String)
    (f : MethodTable → Answer × Session) : Answer × Session :=
  match s.space.module? id with
  | none => (.noModule, s.keep key none)
  | some m => f m.methods

/-- A step that needs a kept entry. -/
def onKept (s : Session) (entry : String) (key : Option String)
    (f : Entry → Answer × Session) : Answer × Session :=
  match s.kept.find? entry with
  | none => (.noEntry, s.keep key none)
  | some e => f e

/-- Makes a row an entry, keeps it and answers it. -/
def answerStamped (s : Session) (key : Option String) (r : Row) : Answer × Session :=
  let (e, space) := s.space.stamp r
  answerEntry { s with space } key (some e)

/-- Calls an entry. -/
def callEntry (s : Session) (does : Interpretation) (e : Entry) (recv : Value) (args : List Value)
    (block : Option Block) : Answer × Session :=
  let (result, space) := (e.call does recv args block).runIn s.space
  (.called result, { s with space })

/-- One step of a session. -/
def step (does : Interpretation) (s : Session) : Command → Answer × Session
  | .defineModule name =>
    (.number (some s.space.nextId), { s with space := s.space.define name .plain })
  | .defineClass name superclass =>
    (.number (some s.space.nextId), { s with space := s.space.define name (.ofClass superclass) })
  | .singletonOf id =>
    let (singleton, space) := s.space.singletonOf id
    (.number singleton, { s with space })
  | .describe id => (((s.space.module? id).map .module).getD .noModule, s)
  | .describeNamed name => (((s.space.moduleNamed? name).map .module).getD .noModule, s)
  | .settings => (.settings s.space, s)
  | .isHook name => (.flag (s.space.settings.isHook name), s)
  | .dump => (.space s.space, s)
  | .bind hostType target key =>
    let outcome := s.space.bindHostType hostType target
    let s := { s with space := outcome.space }
    (.bound outcome.result outcome.log,
      match outcome.result with
      | .ok bound => s.keepBound key bound
      | .error _ => s)
  | .search id name key => s.answerEntry key (s.space.search id name)
  | .lookup id name key => s.onTable id key fun t => s.answerEntry key (t.find? name)
  | .remove id name key => s.onTable id key fun t =>
    answerEntry { s with space := s.space.remove id name } key (t.find? name)
  | .install id name entry key => s.onKept entry key fun e => s.onTable id key fun t =>
    answerEntry { s with space := s.space.install id name e } key (t.find? name)
  | .installBatch id rows =>
    match rows.mapM fun (name, entry) => (s.kept.find? entry).map (name, ·) with
    | none => (.noEntry, s)
    | some rows => s.onTable id none fun t =>
      let t := t.insertMany rows
      (.names t.names, { s with space := s.space.modifyMethods id fun _ => t })
  | .table id name => s.onTable id none fun t => (.table t (name.map t.contains), s)
  | .create name owner visibility host policy key =>
    let (adapter, space) := s.space.adapter host policy
    answerStamped { s with space } key
      { name, owner, visibility, arity := policy.arity, check := policy.check, adapter }
  | .derive entry change key => s.onKept entry key fun e => s.answerStamped key (e.change change)
  | .inspect entry => s.onKept entry none fun e => (.row e.toRow, s)
  | .compare a b => s.onKept a none fun a => s.onKept b none fun b =>
    (.compared (a.toRow.sharesAdapter b.toRow) (a.stamp == b.stamp), s)
  | .call (.kept key) recv args block =>
    s.onKept key none fun e => s.callEntry does e recv args block
  | .call (.method id name) recv args block =>
    match s.space.search id name with
    | none => (.noEntry, s)
    | some e => s.callEntry does e recv args block

end Session

end MethodBinding
