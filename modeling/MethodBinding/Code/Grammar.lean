import MethodBinding.Code.Grammar.Declaration
import MethodBinding.Code.Grammar.Expression
import MethodBinding.Code.Grammar.Statement

/-!
# The grammar of expressions

`Grammar.within n` reads what nests at most `n` deep. No token list nests deeper than in proportion
to its length, so `readExpression` finds its own bound.
-/

namespace MethodBinding.Code

namespace Grammar

/-- The grammar one level above another. -/
def above (g : Grammar) : Grammar where
  expression := expressionStep g
  statementExpression := statementExpressionStep g
  operand := operandStep g
  continuation := continuationStep g
  rightOperand := rightOperandStep g
  type := typeStep g
  argument := argumentStep g
  pattern := patternStep g
  statements := statementsStep g
  declaration := declarationStep g
  useTree := useTreeStep g

/-- The grammar of nothing. -/
def empty : Grammar where
  expression _ := Parser.failExpecting ["an expression"]
  statementExpression := Parser.failExpecting ["an expression"]
  operand _ := Parser.failExpecting ["an expression"]
  continuation _ _ form := return form
  rightOperand _ _ form := return form
  type _ := Parser.failExpectingOne ("for" :: typeStarts)
  argument := Parser.failExpectingOne ("for" :: typeStarts)
  pattern := Parser.failExpectingOne [.name]
  statements := pure ()
  declaration := pure ()
  useTree := pure ()

/-- The grammar of what nests at most `n` deep. -/
def within : Nat → Grammar
  | 0 => empty
  | n + 1 => above (within n)

end Grammar

/-- An expression. What is written of it is returned. -/
def readExpression : Parser (List Token) := do
  let depth := 8 * (extent (← Parser.rest) + 1)
  let (_, written) ← Parser.collect ((Grammar.within depth).expression true)
  written.forM Parser.emit
  return written

end MethodBinding.Code
