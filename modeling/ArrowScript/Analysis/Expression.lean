import ArrowScript.Analysis.Name

/-!
# Types of expressions

Every expression gets the type that can be found for it. Links of a chain are visited from left to right;
once the type of one is unknown, which has been reported, the rest of the chain is left alone. Operands
of different types are reported, and the operation then has the type of the left one.
-/

namespace ArrowScript.Analysis

/-- The type of an operation with operands of the given types. -/
def operationType (operator : BinaryOperator) (operatorSpan : Span) (left right : Option TypeId) :
    Step (Option TypeId) := do
  match left, right with
  | some left, some right =>
    if left ≠ right then
      report (.operandsDiffer left right) operatorSpan
      return some left
    return some (if operator.isBoolean then .bool else left)
  | _, _ => return if operator.isBoolean then some .bool else none

/-- The span of a chain that ends in a call, when it is the target of an assignment. -/
def calledTarget? : BinaryOperator → Expr → Except Fault (Option Span)
  | .assign, .chain path =>
    match path.links.getLast? with
    | some (.call _ _ _ close) => some <$> path.span.combine close
    | _ => .ok none
  | _, _ => .ok none

/-- Checks the type of an index. -/
def checkIndex (index : Expression) (type : Option TypeId) : Step Unit := do
  if let some found := type then
    unless found = .int || (← get).types.isGeneric found do
      report (.indexNotInt found) index.root.span

mutual

/-- Fills in an expression and gives its type. -/
def visitExpr : Expr → Visit Expr (Expr × Option TypeId)
  | .binary operator operatorSpan left right type => do
    let (left, leftType) ← within (.binary operator operatorSpan · right type) (visitExpr left)
    let call? ← askFor (.binary operator operatorSpan left right type) fun _ =>
      calledTarget? operator left
    if let some call := call? then report .assignsToCall call
    let (right, rightType) ← within (.binary operator operatorSpan left · type) (visitExpr right)
    let type ← operationType operator operatorSpan leftType rightType
    return (.binary operator operatorSpan left right type, type)
  | .unary operator operatorSpan operand type => do
    let (operand, type) ← within (.unary operator operatorSpan · type) (visitExpr operand)
    return (.unary operator operatorSpan operand type, type)
  | .chain path => do
    let (path, type) ← within .chain (visitChain path)
    return (.chain path, type)
  | .literal kind span _ => return (.literal kind span (some kind.type), some kind.type)
  | .new keyword path => do
    let (path, type) ← within (.new keyword) (visitNew path)
    return (.new keyword path, type)
  | .newArray keyword element => do
    let (element, type) ← within (.newArray keyword) (visitExpression element)
    match type with
    | some type => return (.newArray keyword element, some (← arrayOf type))
    | none => return (.newArray keyword element, none)
  | .nothing span => return (.nothing span, some .nothing)
  | .missing span => return (.missing span, none)

/-- Fills in a whole expression. -/
def visitExpression : Expression → Visit Expression (Expression × Option TypeId)
  | ⟨root, type⟩ => do
    let (root, type) ← within (⟨·, type⟩) (visitExpr root)
    return (⟨root, type⟩, type)

/-- Fills in a chain, which has the type of its last link. -/
def visitChain : Chain → Visit Chain (Chain × Option TypeId)
  | ⟨links, span, type⟩ => do
    let (links, type) ← within (⟨·, span, type⟩) (visitLinks none links)
    return (⟨links, span, type⟩, type)

/-- Fills in the chain behind `new`, whose first link makes a value. -/
def visitNew : Chain → Visit Chain (Chain × Option TypeId)
  | ⟨[], span, type⟩ => return (⟨[], span, type⟩, none)
  | ⟨first :: rest, span, type⟩ => do
    let (first, made) ← within (⟨· :: rest, span, type⟩) (visitMade first)
    match made with
    | none => return (⟨first :: rest, span, none⟩, none)
    | some owner =>
      let (rest, type) ← within (⟨first :: ·, span, type⟩) (visitLinks (some owner) rest)
      return (⟨first :: rest, span, type⟩, type)

/-- Fills in links as far as their types are known; the first is a member of the owner, if any. -/
def visitLinks (owner : Option TypeId) : List Link → Visit (List Link) (List Link × Option TypeId)
  | [] => return ([], owner)
  | link :: rest => do
    let (link, type) ← within (· :: rest) (visitLink owner link)
    match type with
    | none => return (link :: rest, none)
    | some owner =>
      let (rest, type) ← within (link :: ·) (visitLinks (some owner) rest)
      return (link :: rest, type)

/-- Fills in a link. An index takes an element of an array and leaves any other type as it is. -/
def visitLink (owner : Option TypeId) : Link → Visit Link (Link × Option TypeId)
  | .name identifier => do
    let (identifier, type) ← within .name (bindVariable owner identifier)
    return (.name identifier, type)
  | .index identifier index close => do
    let (index, indexType) ← within (.index identifier · close) (visitExpression index)
    checkIndex index indexType
    let (identifier, type) ← within (.index · index close) (bindVariable owner identifier)
    let types := (← get).types
    return (.index identifier index close, type.map fun type => (types.element? type).getD type)
  | .call identifier written arguments close => do
    let (arguments, found) ← within (.call identifier written · close) (visitArguments arguments)
    let (written, arity) ← within (.call identifier · arguments close) (bindTypeArguments written)
    let (identifier, type) ←
      within (.call · written arguments close) (bindFunction owner arity found identifier)
    return (.call identifier written arguments close, type)

/-- Fills in the link that makes a new value: a call of a type, or the size of a new array. -/
def visitMade : Link → Visit Link (Link × Option TypeId)
  | .name identifier => return (.name identifier, none)
  | .index identifier index close => do
    let (index, indexType) ← within (.index identifier · close) (visitExpression index)
    checkIndex index indexType
    let (identifier, element) ← within (.index · index close) (bindConstructed 0 identifier)
    match element with
    | some element => return (.index identifier index close, some (← arrayOf element))
    | none => return (.index identifier index close, none)
  | .call identifier written arguments close => do
    let (arguments, _) ← within (.call identifier written · close) (visitArguments arguments)
    let (written, arity) ← within (.call identifier · arguments close) (bindTypeArguments written)
    let (identifier, type) ← within (.call · written arguments close) (bindConstructed arity identifier)
    return (.call identifier written arguments close, type)

/-- Fills in arguments and gives their types with the spans of the arguments. -/
def visitArguments :
    List Expression → Visit (List Expression) (List Expression × List (Option TypeId × Span))
  | [] => return ([], [])
  | argument :: rest => do
    let (argument, type) ← within (· :: rest) (visitExpression argument)
    let (rest, types) ← within (argument :: ·) (visitArguments rest)
    return (argument :: rest, (type, argument.root.span) :: types)

end

end ArrowScript.Analysis
