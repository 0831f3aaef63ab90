import ArrowScript.Syntax.TypeRef

/-!
# Expressions

Expressions are built from literals, operators, `new` and chains. A chain is a path of links separated
by dots; a link is a name, an indexed name or a call. The analysis fills in what the names stand for
and which types the expressions have; until then these fields are empty.
-/

namespace ArrowScript

/-- What a name stands for. -/
inductive Binding
  | variable (node : NodeId)
  | function (node : NodeId)
  | type (type : TypeId)
deriving DecidableEq

/-- Operators between two operands, the assignment arrow among them. -/
inductive BinaryOperator
  | add | subtract | multiply | divide | modulo
  | equal | notEqual | greater | less | greaterEqual | lessEqual
  | and | or
  | assign
deriving DecidableEq

/-- Operators that give a truth value whatever their operands are. -/
def BinaryOperator.isBoolean : BinaryOperator → Bool
  | equal | notEqual | greater | less | greaterEqual | lessEqual | and | or => true
  | add | subtract | multiply | divide | modulo | assign => false

/-- Operators before one operand. -/
inductive UnaryOperator
  | negate | not
deriving DecidableEq

/-- The kinds of literals. -/
inductive LiteralKind
  | integer | decimal | boolean | string
deriving DecidableEq

/-- The type of a kind of literals. -/
def LiteralKind.type : LiteralKind → TypeId
  | integer => .int
  | decimal => .decimal
  | boolean => .bool
  | string => .str

/-- A name within a chain. -/
structure Identifier where
  span : Span
  binding : Option Binding
deriving DecidableEq

/-- A name that does not yet stand for anything. -/
def Identifier.unbound (span : Span) : Identifier :=
  ⟨span, none⟩

/-- The name as text. -/
def Identifier.name (identifier : Identifier) : String :=
  identifier.span.content

mutual

/-- The forms of expressions. -/
inductive Expr
  | binary (operator : BinaryOperator) (operatorSpan : Span) (left right : Expr) (type : Option TypeId)
  | unary (operator : UnaryOperator) (operatorSpan : Span) (operand : Expr) (type : Option TypeId)
  | chain (path : Chain)
  | literal (kind : LiteralKind) (span : Span) (type : Option TypeId)
  /-- A new value of the type that the chain starts with; `keyword` is the span of `new`. -/
  | new (keyword : Span) (path : Chain)
  /-- A new array that holds one element. -/
  | newArray (keyword : Span) (element : Expression)
  | nothing (span : Span)
  /-- Stands where a term was malformed, which has been reported. -/
  | missing (span : Span)

/-- A whole expression with the type that was found for it. -/
structure Expression where
  root : Expr
  type : Option TypeId

/-- Links separated by dots, and the span of the first token. -/
structure Chain where
  links : List Link
  span : Span
  type : Option TypeId

/-- One step of a chain; `close` is the bracket that ends it. -/
inductive Link
  | name (identifier : Identifier)
  | index (identifier : Identifier) (index : Expression) (close : Span)
  | call (identifier : Identifier) (typeArguments : Option (List TypeRef))
      (arguments : List Expression) (close : Span)

end

/-- The span of the first token of an expression that is not a bracket. -/
def Expr.span : Expr → Span
  | binary _ _ left _ _ => left.span
  | unary _ operatorSpan _ _ => operatorSpan
  | chain path => path.span
  | literal _ span _ => span
  | new keyword _ => keyword
  | newArray keyword _ => keyword
  | nothing span => span
  | missing span => span

/-- An expression whose type is not known yet. -/
def Expression.untyped (root : Expr) : Expression :=
  ⟨root, none⟩

namespace Link

/-- The name of a link. -/
def identifier : Link → Identifier
  | name identifier => identifier
  | index identifier _ _ => identifier
  | call identifier _ _ _ => identifier

/-- The last token of a link. -/
def close : Link → Span
  | name identifier => identifier.span
  | index _ _ close => close
  | call _ _ _ close => close

/-- Whether a link is a call. -/
def isCall : Link → Bool
  | call .. => true
  | name _ | index .. => false

/-- Whether a link is a plain name. -/
def isName : Link → Bool
  | name _ => true
  | index .. | call .. => false

end Link

namespace Chain

/-- Whether a chain is one plain name. -/
def isSingleName : Chain → Bool
  | ⟨[.name _], _, _⟩ => true
  | _ => false

/-- Whether the last link of a chain is a call. -/
def endsInCall (chain : Chain) : Bool :=
  chain.links.getLast?.any Link.isCall

/-- Whether the first link of a chain is a call or an index. -/
def startsWithBrackets (chain : Chain) : Bool :=
  chain.links.head?.any (!·.isName)

/-- Whether a chain has plain names only. -/
def isPlain (chain : Chain) : Bool :=
  chain.links.all Link.isName

end Chain

end ArrowScript
