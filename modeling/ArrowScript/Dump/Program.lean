import ArrowScript.Dump.Form
import ArrowScript.Syntax.Statement
import ArrowScript.Token

/-!
# Dumps of tokens and programs

The forms of tokens and of all parts of a program, and the sections of a dump. Tokens are shown one per
line, a program with every part on a line of its own.
-/

namespace ArrowScript.Dump

/-- The form of a span. -/
def spanForm (span : Span) : Form :=
  .record "Span"
    [⟨"text", .optional (span.text.map .quoted)⟩, ⟨"file_path", .quoted span.file⟩,
      ⟨"offset", .number span.offset⟩, ⟨"len", .number span.length⟩, ⟨"line", .number span.line⟩,
      ⟨"column", .number span.column⟩]

/-- The form of a token. -/
def tokenForm (token : Token) : Form :=
  .record "Token" [⟨"kind", .word token.kind.name⟩, ⟨"span", spanForm token.span⟩]

/-- The form of the handle of a node. -/
def nodeForm (node : NodeId) : Form :=
  .tuple "NodeId" [.number node.index]

/-- The form of the handle of a type. -/
def typeForm (type : TypeId) : Form :=
  .tuple "TypeId" [.number type.index]

/-- The form of a type that may not be known. -/
def optionalTypeForm (type : Option TypeId) : Form :=
  .optional (type.map typeForm)

/-- The form of what a name stands for. -/
def bindingForm : Binding → Form
  | .variable node => .tuple "Variable" [nodeForm node]
  | .function node => .tuple "Function" [nodeForm node]
  | .type type => .tuple "Type" [typeForm type]

/-- The word for an operator between two operands. -/
def binaryWord : BinaryOperator → String
  | .add => "Add"
  | .subtract => "Subtract"
  | .multiply => "Multiply"
  | .divide => "Divide"
  | .modulo => "Modulo"
  | .equal => "Equal"
  | .notEqual => "NotEqual"
  | .greater => "Greater"
  | .less => "Less"
  | .greaterEqual => "GreaterEqual"
  | .lessEqual => "LessEqual"
  | .and => "And"
  | .or => "Or"
  | .assign => "Assign"

/-- The word for an operator before an operand. -/
def unaryWord : UnaryOperator → String
  | .negate => "Negate"
  | .not => "Not"

/-- The word for a kind of literals. -/
def literalWord : LiteralKind → String
  | .integer => "Integer"
  | .decimal => "Decimal"
  | .boolean => "Boolean"
  | .string => "StringLiteral"

/-- The form of a name in a chain. -/
def identifierForm (identifier : Identifier) : Form :=
  .record "Identifier"
    [⟨"span", spanForm identifier.span⟩,
      ⟨"binding", .optional (identifier.binding.map bindingForm)⟩]

mutual

/-- The form of a written type. -/
def typeRefForm : TypeRef → Form
  | ⟨name, builtin, arguments, array, binding⟩ =>
    .record "TypeRef"
      [⟨"name", spanForm name⟩, ⟨"builtin", .truth builtin⟩,
        ⟨"generics", .list (typeRefForms arguments)⟩, ⟨"array", .truth array⟩,
        ⟨"binding", optionalTypeForm binding⟩]

/-- The forms of some written types. -/
def typeRefForms : List TypeRef → List Form
  | [] => []
  | written :: rest => typeRefForm written :: typeRefForms rest

end

/-! ## Expressions -/

mutual

/-- The form of an expression. -/
def exprForm : Expr → Form
  | .binary operator operatorSpan left right type =>
    .tuple "Binary" [.record "BinaryOp"
      [⟨"kind", .word (binaryWord operator)⟩, ⟨"left", exprForm left⟩, ⟨"right", exprForm right⟩,
        ⟨"op_span", spanForm operatorSpan⟩, ⟨"resolved_type", optionalTypeForm type⟩]]
  | .unary operator operatorSpan operand type =>
    .tuple "Unary" [.record "UnaryOp"
      [⟨"kind", .word (unaryWord operator)⟩, ⟨"operand", exprForm operand⟩,
        ⟨"op_span", spanForm operatorSpan⟩, ⟨"resolved_type", optionalTypeForm type⟩]]
  | .chain path => .tuple "Chain" [chainForm path]
  | .literal kind span type =>
    .tuple (literalWord kind) [.record "Literal"
      [⟨"span", spanForm span⟩, ⟨"resolved_type", optionalTypeForm type⟩]]
  | .new keyword path =>
    .tuple "New" [.record "New" [⟨"chain", chainForm path⟩, ⟨"span", spanForm keyword⟩]]
  | .newArray keyword element =>
    .tuple "ArrayInitializer" [.record "ArrayInitializer"
      [⟨"expr", expressionForm element⟩, ⟨"span", spanForm keyword⟩]]
  | .nothing span => .tuple "Nothing" [spanForm span]
  | .missing span => .tuple "Missing" [spanForm span]

/-- The form of a whole expression. -/
def expressionForm : Expression → Form
  | ⟨root, type⟩ =>
    .record "Expression" [⟨"root", exprForm root⟩, ⟨"resolved_type", optionalTypeForm type⟩]

/-- The forms of some whole expressions. -/
def expressionForms : List Expression → List Form
  | [] => []
  | expression :: rest => expressionForm expression :: expressionForms rest

/-- The form of a chain. -/
def chainForm : Chain → Form
  | ⟨links, span, type⟩ =>
    .record "AccessorChain"
      [⟨"links", .list (linkForms links)⟩, ⟨"span", spanForm span⟩,
        ⟨"resolved_type", optionalTypeForm type⟩]

/-- The form of a link. -/
def linkForm : Link → Form
  | .name identifier => .tuple "Identifier" [identifierForm identifier]
  | .index identifier index close =>
    .record "Indexor"
      [⟨"identifier", identifierForm identifier⟩, ⟨"index", expressionForm index⟩,
        ⟨"end", spanForm close⟩]
  | .call identifier typeArguments arguments close =>
    .record "FunctionCall"
      [⟨"identifier", identifierForm identifier⟩,
        ⟨"type_args", .optional (typeArguments.map fun written => .list (typeRefForms written))⟩,
        ⟨"args", .list (expressionForms arguments)⟩, ⟨"end", spanForm close⟩]

/-- The forms of some links. -/
def linkForms : List Link → List Form
  | [] => []
  | link :: rest => linkForm link :: linkForms rest

end

/-! ## Statements -/

/-- The form of an expression that may be absent. -/
def optionalExpressionForm (expression : Option Expression) : Form :=
  .optional (expression.map expressionForm)

/-- The form of a written type that may be absent. -/
def optionalTypeRefForm (written : Option TypeRef) : Form :=
  .optional (written.map typeRefForm)

/-- The form of a list of type parameters that may be absent. -/
def typeParametersForm (names : Option (List Span)) : Form :=
  .optional (names.map fun names => .list (names.map spanForm))

/-- The form of a field or variable. -/
def declarationForm (declaration : Declaration) : Form :=
  .record "VarDecl"
    [⟨"id", nodeForm declaration.id⟩, ⟨"name", spanForm declaration.name⟩,
      ⟨"declared_type", optionalTypeRefForm declaration.written⟩,
      ⟨"init", optionalExpressionForm declaration.initial⟩,
      ⟨"resolved_type", optionalTypeForm declaration.type⟩]

/-- The form of a parameter. -/
def parameterForm (parameter : Parameter) : Form :=
  .record "Parameter"
    [⟨"id", nodeForm parameter.id⟩, ⟨"name", spanForm parameter.name⟩,
      ⟨"ty", typeRefForm parameter.written⟩]

/-- The word for a kind of block. -/
def blockWord : BlockKind → String
  | .program => "TopLevel"
  | .braced => "Block"

mutual

/-- The form of a block. -/
def blockForm : Block → Form
  | ⟨id, kind, statements, span⟩ =>
    .record "Block"
      [⟨"id", nodeForm id⟩, ⟨"kind", .word (blockWord kind)⟩,
        ⟨"children", .list (statementForms statements)⟩, ⟨"span", spanForm span⟩]

/-- The form of a statement. -/
def statementForm : Statement → Form
  | .type definition => .tuple "TypeDef" [typeDefForm definition]
  | .function definition => .tuple "FunctionDef" [functionDefForm definition]
  | .variable declaration => .tuple "VarDecl" [declarationForm declaration]
  | .returning keyword value =>
    .tuple "Return" [.record "Return"
      [⟨"expr", optionalExpressionForm value⟩, ⟨"span", spanForm keyword⟩]]
  | .breaking keyword => .tuple "Break" [spanForm keyword]
  | .continuing keyword => .tuple "Continue" [spanForm keyword]
  | .whileLoop keyword condition body =>
    .tuple "While" [.record "While"
      [⟨"cond", expressionForm condition⟩, ⟨"body", blockForm body⟩, ⟨"span", spanForm keyword⟩]]
  | .conditional conditional => .tuple "If" [conditionalForm conditional]
  | .importing keyword target =>
    .tuple "Import" [.record "Import" [⟨"chain", chainForm target⟩, ⟨"span", spanForm keyword⟩]]
  | .path keyword target =>
    .tuple "Path" [.record "PathDecl" [⟨"chain", chainForm target⟩, ⟨"span", spanForm keyword⟩]]
  | .expression expression => .tuple "Expression" [expressionForm expression]

/-- The forms of some statements. -/
def statementForms : List Statement → List Form
  | [] => []
  | statement :: rest => statementForm statement :: statementForms rest

/-- The form of a conditional. -/
def conditionalForm : Conditional → Form
  | ⟨condition, body, otherwise, keyword⟩ =>
    .record "If"
      [⟨"cond", expressionForm condition⟩, ⟨"body", blockForm body⟩,
        ⟨"else_branch", .optional (otherwiseForm otherwise)⟩, ⟨"span", spanForm keyword⟩]

/-- The form of what is done when a condition fails, if anything is. -/
def otherwiseForm : Otherwise → Option Form
  | .nothing => none
  | .conditional conditional => some (.tuple "If" [conditionalForm conditional])
  | .block block => some (.tuple "Else" [blockForm block])

/-- The form of a function. -/
def functionDefForm : FunctionDef → Form
  | ⟨id, name, typeParameters, parameters, returns, body, keyword⟩ =>
    .record "FunctionDef"
      [⟨"id", nodeForm id⟩, ⟨"name", spanForm name⟩,
        ⟨"type_params", typeParametersForm typeParameters⟩,
        ⟨"parameters", .list (parameters.map parameterForm)⟩,
        ⟨"return_type", optionalTypeRefForm returns⟩, ⟨"body", blockForm body⟩,
        ⟨"span", spanForm keyword⟩]

/-- The forms of some functions. -/
def functionDefForms : List FunctionDef → List Form
  | [] => []
  | definition :: rest => functionDefForm definition :: functionDefForms rest

/-- The form of a type. -/
def typeDefForm : TypeDef → Form
  | ⟨id, name, typeParameters, fields, methods, keyword, binding⟩ =>
    .record "TypeDef"
      [⟨"id", nodeForm id⟩, ⟨"name", spanForm name⟩,
        ⟨"type_params", typeParametersForm typeParameters⟩,
        ⟨"fields", .list (fields.map declarationForm)⟩,
        ⟨"methods", .list (functionDefForms methods)⟩, ⟨"span", spanForm keyword⟩,
        ⟨"binding", optionalTypeForm binding⟩]

end

/-- The form of a program. -/
def programForm (program : Program) : Form :=
  .record "SyntaxTree"
    [⟨"file_path", .quoted program.file⟩, ⟨"root", blockForm program.root⟩]

/-! ## Sections -/

/-- The section that lists tokens. -/
def tokens (tokens : List Token) : String :=
  "=== Tokens ===\n" ++ String.join (tokens.map fun token => (tokenForm token).inline ++ "\n")
    ++ "=== End Tokens ===\n\n"

/-- The section that shows a program. -/
def program (program : Program) : String :=
  "=== AST ===\n" ++ (programForm program).indented ++ "\n=== End AST ===\n\n"

end ArrowScript.Dump
