import QueryTemplate.Inline.Scan

/-! Invocations: a template literal and, after a comma, argument expressions between commas. A comma
may stand after the last of them. -/

set_option autoImplicit false

namespace QueryTemplate.Inline

inductive Token where
  | literal (text : Text)
  | comma
  | expression (source : String)
  deriving DecidableEq, Repr

structure Invocation where
  template : Text
  arguments : List String
  deriving DecidableEq, Repr

inductive InvocationError where
  | missingLiteral
  | expectedLiteral
  | expectedComma
  | expectedExpression
  deriving DecidableEq, Repr

def InvocationError.message : InvocationError → String
  | missingLiteral => "unexpected end of input, expected string literal"
  | expectedLiteral => "expected string literal"
  | expectedComma => "expected `,`"
  | expectedExpression => "expected an expression"

namespace Invocation

def expressions : List Token → Except InvocationError (List String)
  | [] => .ok []
  | [.expression source] => .ok [source]
  | .expression source :: .comma :: rest => (expressions rest).map (source :: ·)
  | .expression _ :: _ => .error .expectedComma
  | _ => .error .expectedExpression

def ofTokens : List Token → Except InvocationError Invocation
  | [] => .error .missingLiteral
  | [.literal template] => .ok ⟨template, []⟩
  | .literal template :: .comma :: rest => (expressions rest).map fun arguments => ⟨template, arguments⟩
  | .literal _ :: _ => .error .expectedComma
  | _ => .error .expectedLiteral

def parts (invocation : Invocation) : List Part := scan invocation.template

end Invocation

end QueryTemplate.Inline
