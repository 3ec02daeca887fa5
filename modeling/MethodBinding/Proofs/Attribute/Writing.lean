import MethodBinding.Attribute.Expansion
import MethodBinding.Proofs.Attribute.Signature
import Mathlib.Data.List.Forall2

/-!
# How generated code is written

The tokens of generated code, written out: the types of the parameters of the host function
(`TypeExpr.WrittenAs`), the calls in the chain (`Call.WrittenAs`), the host function itself
(`hostFunction`), and the whole (`Expansion.tokens_eq`). Each call is read back from its tokens
(`Call.WrittenAs.unique`), so what running the code gives is what the chain in it says
(`Expansion.build?_of_chain`).
-/

namespace MethodBinding

open Code

/-- In generated code the declaration has this name. -/
inductive DeclaredVisibility.IsVariant : DeclaredVisibility → String → Prop where
  | unset : IsVariant .unset "Unset"
  | pub : IsVariant .pub "Public"
  | priv : IsVariant .priv "Private"
  | prot : IsVariant .prot "Protected"
  | moduleFunction : IsVariant .moduleFunction "ModuleFunction"

theorem DeclaredVisibility.isVariant_variant (v : DeclaredVisibility) : v.IsVariant v.variant := by
  cases v <;> constructor

theorem DeclaredVisibility.IsVariant.unique {v w : DeclaredVisibility} {text : String}
    (hv : v.IsVariant text) (hw : w.IsVariant text) : v = w := by
  generalize htext : text = text' at hw
  cases hv <;> cases hw <;> first | rfl | exact absurd htext (by decide)

namespace Attribute

/-- The tokens of a path from the root. -/
def rootPath (segments : List String) : List Token :=
  segments.flatMap fun segment => [.mark "::", .word segment]

theorem rootPath_append (front back : List String) :
    rootPath front ++ rootPath back = rootPath (front ++ back) :=
  List.flatMap_append.symm

theorem bindingPath_eq : bindingPath = rootPath ["garnet_bind"] := by decide +kernel

theorem corePath_eq : corePath = rootPath ["garnet_bind", "garnet_core"] := by decide +kernel

/-! ## Types -/

/-- How the types of generated parameters are written. -/
inductive TypeExpr.WrittenAs : TypeExpr → List Token → Prop where
  | path (segments : List String) : WrittenAs (.path true segments none) (rootPath segments)
  | withLifetime (segments : List String) (name : String) :
    WrittenAs (.path true segments (some [.lifetime name]))
      (rootPath segments ++ [.mark "<", .lifetime name, .mark ">"])
  | withType (segments : List String) {t : TypeExpr} {ts : List Token} (h : WrittenAs t ts) :
    WrittenAs (.path true segments (some [.type t]))
      (rootPath segments ++ [.mark "<"] ++ ts ++ [.mark ">"])
  | reference {t : TypeExpr} {ts : List Token} (h : WrittenAs t ts) :
    WrittenAs (.reference none false t) (.mark "&" :: ts)
  | slice {t : TypeExpr} {ts : List Token} (h : WrittenAs t ts) :
    WrittenAs (.slice t) (.opening .bracket :: ts ++ [.closing .bracket])

/-- The type that is written for a kind has this kind. -/
theorem ParamKind.tokens_writtenAs (kind : ParamKind) :
    ∃ t : TypeExpr, t.WrittenAs kind.tokens ∧ t.HasKind kind := by
  have endsIn (name : String) (arguments : Option (List GenericArgument)) :
      (TypeExpr.path true (["garnet_bind", "garnet_core"] ++ [name]) arguments).EndsIn name :=
    .path true ["garnet_bind", "garnet_core"] name arguments
  have hvalue : code ":: Value" = rootPath ["Value"] := by decide +kernel
  cases kind with
  | context =>
    have hcontext : code ":: CallContext < '_ >" =
        rootPath ["CallContext"] ++ [.mark "<", .lifetime "'_", .mark ">"] := by decide +kernel
    rw [tokens, corePath_eq, hcontext, List.append_assoc, ← List.append_assoc (rootPath _),
      rootPath_append]
    exact ⟨_, .reference (.withLifetime _ _), .context none false (endsIn _ _)⟩
  | value =>
    rw [tokens, corePath_eq, hvalue, List.append_assoc, rootPath_append]
    exact ⟨_, .reference (.path _), .value none false (endsIn _ _)⟩
  | slice =>
    rw [tokens, corePath_eq, hvalue, rootPath_append]
    exact ⟨_, .reference (.slice (.path _)), .slice none false (endsIn _ _)⟩
  | block =>
    have hoption : code ":: core :: option :: Option < &" =
        rootPath ["core", "option", "Option"] ++ [.mark "<", .mark "&"] := by decide +kernel
    have hblock : code ":: Block >" = rootPath ["Block"] ++ [.mark ">"] := by decide +kernel
    have htokens : ParamKind.block.tokens = rootPath ["core", "option", "Option"] ++ [.mark "<"] ++
        .mark "&" :: rootPath (["garnet_bind", "garnet_core"] ++ ["Block"]) ++ [.mark ">"] := by
      simp [tokens, corePath_eq, hoption, hblock, rootPath]
    rw [htokens]
    exact ⟨_, .withType _ (.reference (.path _)),
      .block true ["core", "option"] none false (endsIn _ _) []⟩

/-! ## Calls -/

/-- The method of the draft that a call in the chain is for, and the arguments it passes. -/
inductive Call.Passes : Call → String → List Token → Prop where
  | required (count : List Token) : Passes (.required count) "required" count
  | optional (count : List Token) : Passes (.optional count) "optional" count
  | rest : Passes .rest "rest" []
  | checkArity : Passes (.checkArity true) "check_arity" [.word "true"]
  | skipArity : Passes (.checkArity false) "check_arity" [.word "false"]
  | visibility {v : DeclaredVisibility} {variant : String} (h : v.IsVariant variant) :
    Passes (.visibility v) "visibility" (rootPath ["garnet_bind", "DeclaredVisibility", variant])
  | moduleScope : Passes .moduleScope "module" []
  | metaScope : Passes .metaScope "meta" []
  | tag (text : StringLiteral) : Passes (.tag text) "compat" [.string text]
  | otherName (name : StringLiteral) : Passes (.otherName name) "alias" [.string name]

/-- How a call in the chain is written. -/
inductive Call.WrittenAs : Call → List Token → Prop where
  | mk {c : Call} {method : String} {arguments : List Token} (h : c.Passes method arguments) :
    WrittenAs c ([.mark ".", .word method, .opening .paren] ++ arguments ++ [.closing .paren])

theorem Call.tokens_writtenAs (c : Call) : c.WrittenAs c.tokens := by
  cases c with
  | required count => exact .mk (.required count)
  | optional count => exact .mk (.optional count)
  | rest => exact .mk .rest
  | checkArity enabled =>
    cases enabled with
    | false => exact .mk .skipArity
    | true => exact .mk .checkArity
  | visibility v =>
    have hname : code ":: DeclaredVisibility ::" =
        rootPath ["DeclaredVisibility"] ++ [.mark "::"] := by decide +kernel
    rw [tokens, bindingPath_eq, hname, ← List.append_assoc, rootPath_append]
    exact .mk (.visibility v.isVariant_variant)
  | moduleScope => exact .mk .moduleScope
  | metaScope => exact .mk .metaScope
  | tag text => exact .mk (.tag text)
  | otherName name => exact .mk (.otherName name)

theorem Call.Passes.unique {c c' : Call} {method : String} {arguments : List Token}
    (h : c.Passes method arguments) (h' : c'.Passes method arguments) : c = c' := by
  generalize hmethod : method = method' at h'
  generalize harguments : arguments = arguments' at h'
  cases h with
  | visibility hv =>
    cases h' with
    | visibility hv' =>
      obtain rfl : _ = _ := by simpa [rootPath] using harguments
      rw [hv.unique hv']
    | _ => exact absurd hmethod (by decide)
  | _ =>
    -- Methods of different names are different, and the others pass what the call holds.
    cases h' <;> first
      | exact absurd hmethod (by decide)
      | simp_all

/-- A call is read back from its tokens. -/
theorem Call.WrittenAs.unique {c c' : Call} {ts : List Token} (h : c.WrittenAs ts)
    (h' : c'.WrittenAs ts) : c = c' := by
  generalize hts : ts = ts' at h'
  cases h with
  | mk h =>
    cases h' with
    | mk h' =>
      simp only [List.cons_append, List.nil_append, List.cons.injEq, Token.word.injEq, true_and,
        List.append_cancel_right_eq] at hts
      obtain ⟨rfl, rfl⟩ := hts
      exact h.unique h'

/-! ## The generated code -/

open Token in
/-- A host function that passes its parameters on to a function, in order. Each parameter is given
by its name and the tokens of its type. -/
def hostFunction (function : String) (parameters : List (String × List Token)) : List Token :=
  [word "fn", word "__host", opening .paren] ++
    [mark ","].intercalate (parameters.map fun p => [word p.1, mark ":"] ++ p.2) ++
  [closing .paren, mark "->"] ++ rootPath ["garnet_bind", "garnet_core", "HostResult"] ++
  [opening .brace] ++
    rootPath ["garnet_bind", "garnet_core", "IntoHostResult", "into_host_result"] ++
    [opening .paren, word function, opening .paren] ++
      [mark ","].intercalate (parameters.map fun p => [word p.1]) ++
    [closing .paren, closing .paren] ++
  [closing .brace]

open Token in
/-- A host function, and the chain of calls that makes a draft of the method, names the host
function and its shape, and builds the descriptor. -/
def descriptorBody (host : List Token) (name : StringLiteral) (chain : List (List Token))
    (variant : String) : List Token :=
  host ++
  rootPath ["garnet_bind", "MethodDescriptor", "builder"] ++
    [opening .paren, string name, closing .paren] ++
  chain.flatten ++
  [mark ".", word "host", opening .paren] ++
    rootPath ["garnet_bind", "HostFunction", variant] ++
    [opening .paren, word "__host", closing .paren, closing .paren] ++
  [mark ".", word "build", opening .paren, closing .paren]

theorem Inferred.callArguments_eq (i : Inferred) :
    i.callArguments = i.hostParameters.map (·.name) := by
  obtain ⟨context, slots, block⟩ := i
  cases context <;> cases slots <;> cases block <;> simp [callArguments, hostParameters]

namespace Expansion

theorem hostTokens_eq (e : Expansion) :
    e.hostTokens = hostFunction e.function.name
      (e.inferred.hostParameters.map fun p => (p.name, p.kind.tokens)) := by
  have hname : code "fn __host" = [.word "fn", .word "__host"] := by decide +kernel
  have harrow : code "->" = [.mark "->"] := by decide +kernel
  have hresult : code ":: HostResult" = rootPath ["HostResult"] := by decide +kernel
  have hinto : code ":: IntoHostResult :: into_host_result" =
      rootPath ["IntoHostResult", "into_host_result"] := by decide +kernel
  simp [hostTokens, hname, harrow, hresult, hinto, corePath_eq, Inferred.parameterTokens,
    Inferred.argumentTokens, Inferred.callArguments_eq, commaSeparated, hostFunction, Token.group,
    rootPath, Function.comp_def]

open Token in
theorem tokens_eq (e : Expansion) :
    e.tokens =
      [mark "#", opening .bracket, word "doc", mark "=",
        ofText ("Binding metadata for [`" ++ e.function.name ++ "`]"), closing .bracket] ++
      e.function.visibility ++
      [word "fn", word e.descriptorName, opening .paren, closing .paren, mark "->"] ++
      rootPath ["core", "result", "Result"] ++
      [mark "<"] ++ rootPath ["garnet_bind", "MethodDescriptor"] ++ [mark ","] ++
        rootPath ["garnet_bind", "DescriptorError"] ++ [mark ">"] ++
      [opening .brace] ++
        descriptorBody e.hostTokens e.methodName (e.calls.map Call.tokens)
          e.inferred.shape.variant ++
      [closing .brace] := by
  have hdoc : code "doc =" = [word "doc", mark "="] := by decide +kernel
  have hresult : code "( ) -> :: core :: result :: Result <" =
      [opening .paren, closing .paren, mark "->"] ++ rootPath ["core", "result", "Result"] ++
        [mark "<"] := by decide +kernel
  have hdescriptor : code ":: MethodDescriptor ," =
      rootPath ["MethodDescriptor"] ++ [mark ","] := by decide +kernel
  have herror : code ":: DescriptorError >" = rootPath ["DescriptorError"] ++ [mark ">"] := by
    decide +kernel
  have hbuilder : code ":: MethodDescriptor :: builder" =
      rootPath ["MethodDescriptor", "builder"] := by decide +kernel
  have hvariant : code ":: HostFunction ::" = rootPath ["HostFunction"] ++ [mark "::"] := by
    decide +kernel
  have hhost : code "( __host )" = [opening .paren, word "__host", closing .paren] := by
    decide +kernel
  simp [tokens, hdoc, hresult, hdescriptor, herror, hbuilder, hvariant, hhost, bindingPath_eq,
    descriptorBody, Token.group, Call.write, rootPath, List.flatMap_def]

/-- What running the generated code gives is what the calls that are read back from it say. -/
theorem build?_of_chain (e : Expansion) {calls : List Call} {chain : List (List Token)}
    (hchain : List.Forall₂ Call.WrittenAs e.calls chain)
    (hcalls : List.Forall₂ Call.WrittenAs calls chain) (symbol : String) :
    e.build? symbol = (calls.mapM Call.clause?).map fun clauses =>
      (Draft.ofClauses e.methodName.value
        (clauses ++ [.host ⟨symbol, e.inferred.shape⟩])).build := by
  have hunique : Relator.LeftUnique Call.WrittenAs := fun _ _ _ => Call.WrittenAs.unique
  obtain rfl := List.left_unique_forall₂' hunique hcalls hchain
  rw [build?, Option.map_eq_bind]
  rfl

end Expansion

end Attribute

end MethodBinding
