import ArrowScript.Span

/-!
# Tokens

A token is a kind and a span. Most kinds have a single spelling, which is also what messages show for
them; the others are classes of lexemes with a description. Blanks, line ends and comments are trivia.
-/

namespace ArrowScript

/-- The kinds of tokens. -/
inductive Token.Kind
  | endOfFile | endOfLine | whitespace | comment
  | identifier | builtinType | nothing | boolean | integer | decimal | string
  | kwFunction | kwType | kwIf | kwElse | kwWhile | kwFor | kwTo | kwImport | kwPath
  | kwReturn | kwBreak | kwContinue | kwNew | kwAnd | kwOr | kwNot
  | arrow | plus | minus | star | slash | percent
  | equal | notEqual | greater | less | greaterEqual | lessEqual
  | dot | comma | colon | semicolon
  | leftBrace | rightBrace | leftParen | rightParen | leftBracket | rightBracket
deriving DecidableEq, Inhabited

namespace Token.Kind

/-- All kinds, in the order of their declaration. -/
def all : List Kind :=
  [endOfFile, endOfLine, whitespace, comment,
    identifier, builtinType, nothing, boolean, integer, decimal, string,
    kwFunction, kwType, kwIf, kwElse, kwWhile, kwFor, kwTo, kwImport, kwPath,
    kwReturn, kwBreak, kwContinue, kwNew, kwAnd, kwOr, kwNot,
    arrow, plus, minus, star, slash, percent,
    equal, notEqual, greater, less, greaterEqual, lessEqual,
    dot, comma, colon, semicolon,
    leftBrace, rightBrace, leftParen, rightParen, leftBracket, rightBracket]

/-- The spelling of a kind that has exactly one. -/
def spelling? : Kind → Option String
  | endOfFile | endOfLine | whitespace | comment => none
  | identifier | builtinType | boolean | integer | decimal | string => none
  | nothing => "nothing"
  | kwFunction => "function"
  | kwType => "type"
  | kwIf => "if"
  | kwElse => "else"
  | kwWhile => "while"
  | kwFor => "for"
  | kwTo => "to"
  | kwImport => "import"
  | kwPath => "path"
  | kwReturn => "return"
  | kwBreak => "break"
  | kwContinue => "continue"
  | kwNew => "new"
  | kwAnd => "and"
  | kwOr => "or"
  | kwNot => "not"
  | arrow => "->"
  | plus => "+"
  | minus => "-"
  | star => "*"
  | slash => "/"
  | percent => "%"
  | equal => "=="
  | notEqual => "!="
  | greater => ">"
  | less => "<"
  | greaterEqual => ">="
  | lessEqual => "<="
  | dot => "."
  | comma => ","
  | colon => ":"
  | semicolon => ";"
  | leftBrace => "\x7b"
  | rightBrace => "\x7d"
  | leftParen => "("
  | rightParen => ")"
  | leftBracket => "["
  | rightBracket => "]"

/-- How a kind is shown to the user: its spelling, or a description of the class. -/
def display : Kind → String
  | endOfFile => "end of file"
  | endOfLine => "end of line"
  | whitespace => "whitespace"
  | comment => "comment"
  | identifier => "identifier"
  | builtinType => "built-in type"
  | boolean => "boolean"
  | integer => "integer"
  | decimal => "decimal"
  | string => "string literal"
  | kind => kind.spelling?.getD ""

/-- The name of a kind in listings of tokens. -/
def name : Kind → String
  | endOfFile => "EndOfFile"
  | endOfLine => "EndOfLine"
  | whitespace => "Whitespace"
  | comment => "Comment"
  | identifier => "Identifier"
  | builtinType => "BuiltInType"
  | nothing => "Nothing"
  | boolean => "Boolean"
  | integer => "Integer"
  | decimal => "Decimal"
  | string => "StringLiteral"
  | kwFunction => "Function"
  | kwType => "Type"
  | kwIf => "If"
  | kwElse => "Else"
  | kwWhile => "While"
  | kwFor => "For"
  | kwTo => "To"
  | kwImport => "Import"
  | kwPath => "Path"
  | kwReturn => "Return"
  | kwBreak => "Break"
  | kwContinue => "Continue"
  | kwNew => "New"
  | kwAnd => "And"
  | kwOr => "Or"
  | kwNot => "Not"
  | arrow => "Assign"
  | plus => "Plus"
  | minus => "Minus"
  | star => "Star"
  | slash => "Slash"
  | percent => "Percent"
  | equal => "EqEq"
  | notEqual => "NotEq"
  | greater => "Gt"
  | less => "Lt"
  | greaterEqual => "GtEq"
  | lessEqual => "LtEq"
  | dot => "Dot"
  | comma => "Comma"
  | colon => "Colon"
  | semicolon => "Semi"
  | leftBrace => "LBrace"
  | rightBrace => "RBrace"
  | leftParen => "LParen"
  | rightParen => "RParen"
  | leftBracket => "LBracket"
  | rightBracket => "RBracket"

/-- The kind with a name. -/
def ofName? (name : String) : Option Kind :=
  all.find? (·.name = name)

/-- Kinds that only lay a program out. -/
def isTrivia : Kind → Bool
  | whitespace | endOfLine | comment => true
  | _ => false

/-- Kinds that are the name of a type known from the start. -/
def isBuiltinName : Kind → Bool
  | builtinType | nothing => true
  | _ => false

/-- Kinds that can name a type. -/
def isTypeName (kind : Kind) : Bool :=
  kind = identifier || kind.isBuiltinName

end Token.Kind

/-- A lexeme of a program: its kind and where it stands. -/
structure Token where
  kind : Token.Kind
  span : Span
deriving DecidableEq, Inhabited

end ArrowScript
