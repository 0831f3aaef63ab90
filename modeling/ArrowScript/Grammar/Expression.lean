import ArrowScript.Grammar.TypeRef

/-!
# Parsing expressions

Binary operators come in levels, the loosest first; operators of one level group to the left. They are
found by peeking past trivia, so an expression may go on after a line end but always ends on its own last
token. A `<` behind a name opens type arguments only if what follows is a list of types that is closed
and followed by a call; otherwise it compares.
-/

namespace ArrowScript.Grammar

/-- The binary operators of one level. -/
abbrev Level := Token.Kind → Option BinaryOperator

namespace Level

/-- Operators on truth values. -/
def logical : Level
  | .kwAnd => some .and
  | .kwOr => some .or
  | _ => none

/-- Operators that compare for equality. -/
def equality : Level
  | .equal => some .equal
  | .notEqual => some .notEqual
  | _ => none

/-- Operators that compare by order. -/
def relational : Level
  | .greater => some .greater
  | .less => some .less
  | .greaterEqual => some .greaterEqual
  | .lessEqual => some .lessEqual
  | _ => none

/-- Operators that add. -/
def additive : Level
  | .plus => some .add
  | .minus => some .subtract
  | _ => none

/-- Operators that multiply. -/
def multiplicative : Level
  | .star => some .multiply
  | .slash => some .divide
  | .percent => some .modulo
  | _ => none

/-- The levels from the loosest to the tightest. -/
def all : List Level :=
  [logical, equality, relational, additive, multiplicative]

end Level

/-- The unary operator that a kind of token stands for. -/
def unaryOperator? : Token.Kind → Option UnaryOperator
  | .minus => some .negate
  | .kwNot => some .not
  | _ => none

/-- The kind of literal that a kind of token is. -/
def literalKind? : Token.Kind → Option LiteralKind
  | .integer => some .integer
  | .decimal => some .decimal
  | .boolean => some .boolean
  | .string => some .string
  | _ => none

/-- Goes on behind the left operand with all operators of one level. -/
def operationsFrom (operand : Parser Expr) (level : Level) : Nat → Expr → Parser Expr
  | 0, left => return left
  | bound + 1, left => do
    let some operator := level (← peek) | return left
    advance
    let operatorSpan ← span
    advance
    let right ← operand
    operationsFrom operand level bound (.binary operator operatorSpan left right none)

/-- Operations of some levels, the loosest first, between the given operands. -/
def operations (operand : Parser Expr) (bound : Nat) : List Level → Parser Expr
  | [] => operand
  | level :: tighter => do
    operationsFrom (operations operand bound tighter) level bound (← operations operand bound tighter)

/-- Unary operators before a term. -/
def unaryOperations (term : Parser Expr) : Nat → Parser Expr
  | 0 => return .missing (← span)
  | bound + 1 => do
    let some operator := unaryOperator? (← kind) | term
    let operatorSpan ← span
    advance
    return .unary operator operatorSpan (← unaryOperations term bound) none

/-! ## Chains -/

/-- Kinds that may stand in a list of type arguments, angle brackets apart. -/
def isTypeListPart : Token.Kind → Bool
  | .identifier | .builtinType | .nothing | .comma | .leftBracket | .rightBracket => true
  | _ => false

/-- Whether the kinds go on with the rest of a list of types within `depth` others, its closing `>`s, and
an opening parenthesis. -/
def closesBeforeCall : Nat → List Token.Kind → Bool
  | depth, .less :: rest => closesBeforeCall (depth + 1) rest
  | 0, .greater :: rest => rest.head? = some .leftParen
  | depth + 1, .greater :: rest => closesBeforeCall depth rest
  | depth, kind :: rest => isTypeListPart kind && closesBeforeCall depth rest
  | _, [] => false

/-- Whether the kinds start with type arguments that belong to a call. -/
def typeArgumentsBeforeCall : List Token.Kind → Bool
  | .less :: rest => closesBeforeCall 0 rest
  | _ => false

/-- Whether type arguments of a call follow the current token. -/
def genericCallAhead : Parser Bool :=
  return typeArgumentsBeforeCall (← get).cursor.lookahead

/-- The arguments of a call behind its opening parenthesis, up to the closing one. -/
def argumentList (expression : Parser Expression) : Nat → Parser (List Expression)
  | 0 => return []
  | bound + 1 => do
    let first ← expression
    match ← peek with
    | .rightParen =>
      advance
      return [first]
    | .comma =>
      advance
      advance
      return first :: (← argumentList expression bound)
    | .endOfFile | .leftBrace | .rightBrace | .rightBracket =>
      reportAt .callWithoutClosing (← peekSpan)
      return [first]
    | _ =>
      reportAt .argumentsUnseparated (← peekSpan)
      advance
      return first :: (← argumentList expression bound)

/-- The arguments of a call, starting on the opening parenthesis, and the token that they end on. -/
def callArguments (expression : Parser Expression) (bound : Nat) :
    Parser (List Expression × Span) := do
  if (← peek) = .rightParen then
    advance
    return ([], ← span)
  advance
  let arguments ← argumentList expression bound
  return (arguments, ← span)

/-- A name with an index in brackets, starting on the name. -/
def indexLink (expression : Parser Expression) : Parser Link := do
  let identifier := Identifier.unbound (← span)
  advance
  if (← peek) = .rightBracket then
    advance
    report .indexMissing
    let close ← span
    return .index identifier (.untyped (.missing close)) close
  advance
  let index ← expression
  return .index identifier index (← closeWith .rightBracket .indexUnclosed)

/-- A call, starting on the name. -/
def callLink (expression : Parser Expression) (bound : Nat) : Parser Link := do
  let identifier := Identifier.unbound (← span)
  advance
  let types ← do
    if ← standsOn .less then
      let types ← typeArguments bound
      advance
      pure (some types)
    else pure none
  expect .leftParen .callWithoutOpening
  let (arguments, close) ← callArguments expression bound
  return .call identifier types arguments close

/-- Kinds that the name of a link can be. -/
def isLinkName : Token.Kind → Bool
  | .identifier | .builtinType => true
  | _ => false

/-- A link of a chain; nothing when the current token cannot start one. -/
def link? (expression : Parser Expression) (bound : Nat) : Parser (Option Link) := do
  let kind ← kind
  let next ← peek
  if isLinkName kind && next = .leftBracket then
    return some (← indexLink expression)
  else if isLinkName kind && (next = .leftParen || (← genericCallAhead)) then
    return some (← callLink expression bound)
  else if kind = .identifier then
    return some (.name (.unbound (← span)))
  else
    report .linkExpected
    return none

/-- Links separated by dots; nothing when one of them cannot be started. -/
def links? (link? : Parser (Option Link)) : Nat → Parser (Option (List Link))
  | 0 => return none
  | bound + 1 => do
    let some first ← link? | return none
    if (← peek) ≠ .dot then return some [first]
    advance
    advance
    return (← links? link? bound).map (first :: ·)

/-- A chain; nothing when one of its links cannot be started. -/
def chain? (expression : Parser Expression) (bound : Nat) : Parser (Option Chain) := do
  let start ← span
  return (← links? (link? expression bound) bound).map fun links => ⟨links, start, none⟩

/-! ## Terms -/

/-- A new array or a new value, starting on `new`. -/
def newTerm (expression : Parser Expression) (bound : Nat) : Parser Expr := do
  let keyword ← span
  advance
  if ← standsOn .leftBracket then
    advance
    let element ← expression
    discard (closeWith .rightBracket .bracketExpected)
    return .newArray keyword element
  match ← chain? expression bound with
  | some path =>
    if path.startsWithBrackets then return .new keyword path
    report .invalidNew
    return .missing keyword
  | none =>
    report .invalidNew
    return .missing keyword

/-- An operand without operators, unless it is in parentheses. -/
def term (expression : Parser Expression) (bound : Nat) : Parser Expr := do
  let start ← span
  let kind ← kind
  if let some literal := literalKind? kind then return .literal literal start none
  match kind with
  | .nothing => return .nothing start
  | .leftParen =>
    advance
    let inner ← expression
    discard (closeWith .rightParen .parenthesisExpected)
    return inner.root
  | .kwNew => newTerm expression bound
  | .identifier | .builtinType =>
    return (← chain? expression bound).elim (.missing start) .chain
  | _ =>
    report .invalidTerm
    return .missing start

/-- An expression, starting on its first token. -/
def expression : Nat → Parser Expression
  | 0 => return .untyped (.missing (← span))
  | bound + 1 => do
    let operand := unaryOperations (term (expression bound) bound) (bound + 1)
    return .untyped (← operations operand (bound + 1) Level.all)

/-- A chain with expressions inside. -/
def chain (bound : Nat) : Parser (Option Chain) :=
  chain? (expression bound) bound

end ArrowScript.Grammar
