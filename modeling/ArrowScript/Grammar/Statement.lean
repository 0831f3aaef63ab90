import ArrowScript.Grammar.Expression

/-!
# Parsing statements

A statement ends with its line, before a closing brace or at the end of the file. Where a statement
cannot be made out, this is noted, one token is dropped and parsing goes on behind it. `parse` reads the
whole list of tokens as one block.
-/

namespace ArrowScript.Grammar

/-- Kinds that end a statement. -/
def endsStatement : Token.Kind → Bool
  | .endOfLine | .endOfFile | .rightBrace => true
  | _ => false

/-- Steps off the last token of a statement onto the next one. -/
def finishStatement : Parser Unit := do
  discard (advanceWith .toLineEnds)
  match ← kind with
  | .endOfLine => advance
  | .endOfFile | .rightBrace => return
  | _ => report .statementsShareLine

/-- Whether statements of a kind of block end at a kind of token. -/
def endsBlock (block : BlockKind) (kind : Token.Kind) : Bool :=
  kind = .endOfFile || (kind = .rightBrace && block = .braced)

/-- The statements up to the end of a block. -/
def statements (statement? : Parser (Option Statement)) (block : BlockKind) :
    Nat → Parser (List Statement)
  | 0 => return []
  | bound + 1 => do
    if endsBlock block (← kind) then return []
    match ← statement? with
    | some first =>
      finishStatement
      return first :: (← statements statement? block bound)
    | none =>
      if ← tryAdvance then statements statement? block bound
      else return []

/-- A block in braces; `unopened` is noted when the opening one is absent. -/
def block (statement? : Parser (Option Statement)) (bound : Nat) (unopened : SyntaxProblem) :
    Parser Block := do
  let id ← freshId
  let span ← span
  expect .leftBrace unopened
  advance
  let statements ← statements statement? .braced bound
  expect .rightBrace .blockUnclosed
  return { id, kind := .braced, statements, span }

/-! ## Definitions -/

/-- A parameter with its type. -/
def parameter (bound : Nat) : Parser Parameter := do
  expect .identifier .parameterUnnamed
  let name ← span
  advance
  expect .colon .parameterWithoutColon
  advance
  let written ← typeRef bound
  return { id := ← freshId, name, written }

/-- The parameters of a function behind the opening parenthesis, up to the closing one. -/
def parameters (bound : Nat) : Parser (List Parameter) := do
  if ← standsOn .rightParen then return []
  commaList (parameter bound) .rightParen .parametersUnseparated .functionWithoutClosing bound

/-- The type parameters of a definition if there are any; moves behind them. -/
def optionalTypeParameters (bound : Nat) : Parser (Option (List Span)) := do
  if ← standsOn .less then
    let names ← typeParameters bound
    advance
    return some names
  return none

/-- The type behind a colon if there is one; moves behind it. -/
def optionalReturn (bound : Nat) : Parser (Option TypeRef) := do
  if ← standsOn .colon then
    advance
    let written ← typeRef bound
    advance
    return some written
  return none

/-- A function, starting on `function`. -/
def functionDef (block : SyntaxProblem → Parser Block) (bound : Nat) : Parser FunctionDef := do
  let keyword ← span
  let id ← freshId
  advance
  expect .identifier .functionUnnamed
  let name ← span
  advance
  let typeParameters ← optionalTypeParameters bound
  expect .leftParen .functionWithoutOpening
  advance
  let parameters ← parameters bound
  advance
  let returns ← optionalReturn bound
  let body ← block .functionWithoutBody
  return { id, name, typeParameters, parameters, returns, body, keyword }

/-- The rest of a declaration, starting on the colon behind the name. -/
def declaration (name : Span) (bound : Nat) : Parser Declaration := do
  let id ← freshId
  let written ← do
    if (← peekWith .toLineEnds).isTypeName then
      advance
      pure (some (← typeRef bound))
    else pure none
  if (← peekWith .toLineEnds) = .arrow then
    advance
    advance
    return { id, name, written, initial := some (← expression bound), type := none }
  if written.isNone then report .untypedWithoutValue
  return { id, name, written, initial := none, type := none }

/-- A statement that starts with a name: a declaration, an assignment or a call. -/
def namedStatement? (bound : Nat) : Parser (Option Statement) := do
  let some target ← chain bound | return none
  match ← peek with
  | .colon =>
    advance
    if target.isSingleName then return some (.variable (← declaration target.span bound))
    report .declaresNoVariable
    return none
  | .arrow =>
    advance
    let arrow ← span
    advance
    let value ← expression bound
    return some (.expression (.untyped (.binary .assign arrow (.chain target) value.root none)))
  | _ =>
    if target.endsInCall then return some (.expression (.untyped (.chain target)))
    report .solitaryChain
    return none

/-- The fields and methods of a type up to the closing brace. -/
def members (functionDef : Parser FunctionDef) (named? : Parser (Option Statement)) :
    Nat → Parser (List Declaration × List FunctionDef)
  | 0 => return ([], [])
  | bound + 1 => do
    match ← kind with
    | .endOfFile | .rightBrace => return ([], [])
    | .identifier =>
      let statement ← named?
      if let some (.variable field) := statement then
        advance
        let (fields, methods) ← members functionDef named? bound
        return (field :: fields, methods)
      if statement.isSome then report .memberNotVariable
      advance
      members functionDef named? bound
    | .kwFunction =>
      let method ← functionDef
      advance
      let (fields, methods) ← members functionDef named? bound
      return (fields, method :: methods)
    | _ =>
      report .memberNotDefinition
      advance
      members functionDef named? bound

/-- A type, starting on `type`. -/
def typeDef (functionDef : Parser FunctionDef) (bound : Nat) : Parser TypeDef := do
  let keyword ← span
  let id ← freshId
  advance
  expect .identifier .typeUnnamed
  let name ← span
  advance
  let typeParameters ← optionalTypeParameters bound
  expect .leftBrace .typeWithoutBody
  advance
  let (fields, methods) ← members functionDef (namedStatement? bound) bound
  expect .rightBrace (.typeUnclosed name.content)
  return { id, name, typeParameters, fields, methods, keyword, binding := none }

/-! ## Control -/

/-- The value of a return on the same line, starting on `return`. -/
def returning (bound : Nat) : Parser Statement := do
  let keyword ← span
  if endsStatement (← peekWith .toLineEnds) then return .returning keyword none
  advance
  return .returning keyword (some (← expression bound))

/-- A loop, starting on `while`. -/
def whileLoop (block : SyntaxProblem → Parser Block) (bound : Nat) : Parser Statement := do
  let keyword ← span
  advance
  let condition ← expression bound
  advance
  return .whileLoop keyword condition (← block .whileWithoutBody)

/-- A condition and its block, starting on `if`; `otherwise` reads what follows the block. -/
def conditional (block : SyntaxProblem → Parser Block) (bound : Nat) (otherwise : Parser Otherwise) :
    Parser Conditional := do
  let keyword ← span
  advance
  let condition ← expression bound
  advance
  let body ← block .ifWithoutBody
  return { condition, body, otherwise := ← otherwise, keyword }

/-- What is done when a condition fails, starting on the end of the conditional block. -/
def otherwise (block : SyntaxProblem → Parser Block) (bound : Nat) : Nat → Parser Otherwise
  | 0 => return .nothing
  | rounds + 1 => do
    if (← peek) ≠ .kwElse then return .nothing
    advance
    advance
    match ← kind with
    | .kwIf => return .conditional (← conditional block bound (otherwise block bound rounds))
    | .leftBrace => return .block (← block .invalidElse)
    | _ =>
      report .invalidElse
      return .nothing

/-- A chain of plain names behind a keyword on the same line. -/
def chainBehind? (absent invalid : SyntaxProblem) (bound : Nat) : Parser (Option Chain) := do
  if endsStatement (← peekWith .toLineEnds) then
    report absent
    return none
  advance
  let some target ← chain bound
    | report absent
      return none
  unless target.isPlain do report invalid
  return some target

/-- An import, starting on `import`. -/
def importing? (bound : Nat) : Parser (Option Statement) := do
  let keyword ← span
  return (← chainBehind? .missingImport .invalidImport bound).map (.importing keyword)

/-- A path, starting on `path`. -/
def path? (bound : Nat) : Parser (Option Statement) := do
  let keyword ← span
  return (← chainBehind? .missingPath .invalidPath bound).map (.path keyword)

/-! ## Programs -/

/-- A statement; nothing when none could be made out. -/
def statement? : Nat → Parser (Option Statement)
  | 0 => return none
  | bound + 1 => do
    let block := block (statement? bound) bound
    match ← kind with
    | .kwType => return some (.type (← typeDef (functionDef block bound) bound))
    | .kwFunction => return some (.function (← functionDef block bound))
    | .kwReturn => return some (← returning bound)
    | .kwBreak => return some (.breaking (← span))
    | .kwContinue => return some (.continuing (← span))
    | .kwWhile => return some (← whileLoop block bound)
    | .kwIf => return some (.conditional (← conditional block bound (otherwise block bound bound)))
    | .kwImport => importing? bound
    | .kwPath => path? bound
    | .identifier => namedStatement? bound
    | .builtinType =>
      report .misplacedType
      return none
    | _ =>
      report .invalidStatement
      return none

/-- A whole program, with a bound larger than the number of tokens. -/
def program (bound : Nat) : Parser Block := do
  let id ← freshId
  let span ← span
  let statements ← statements (statement? bound) .program bound
  return { id, kind := .program, statements, span }

/-- A parsed program and the problems that were noted on the way. -/
structure Parsed where
  program : Program
  findings : List (Finding SyntaxProblem)

/-- The noted problems in words. -/
def Parsed.diagnostics (parsed : Parsed) : List Diagnostic :=
  parsed.findings.map SyntaxProblem.diagnostic

/-- Parses tokens as a program of the file that the first of them comes from. -/
def parse (tokens : List Token) : Parsed :=
  let cursor := Cursor.onFirst tokens
  let (root, state) := program (cursor.pending.length + 1)
    { cursor := cursor.skip .insensitive, nextId := 0, findings := #[] }
  { program := { file := cursor.current.span.file, root }
    findings := state.findings.toList }

end ArrowScript.Grammar
