import ArrowScript.Token

/-!
# Lexical patterns

Every kind of token but the end of file is given by patterns. `Pattern.longest?` is the length of the
longest prefix of a text that a pattern matches. `munch?` tries the patterns of all kinds and takes the
longest match; of equally long ones the first in `rules` wins, where fixed spellings stand before words.
-/

namespace ArrowScript.Token

/-- A set of lexemes. -/
inductive Pattern
  /-- One fixed text. -/
  | exactly (text : List Char)
  /-- A carriage return, a line feed, or both in this order. -/
  | lineEnd
  /-- Spaces, tabs and form feeds. -/
  | blanks
  /-- Two slashes and the rest of the line. -/
  | comment
  /-- A letter or underscore, then letters, underscores and digits. -/
  | word
  /-- Digits. -/
  | integer
  /-- Digits with further groups of digits, each led by a point. -/
  | decimal
  /-- A quote, characters of the line other than quotes, and the closing quote unless it is missing. -/
  | quoted

/-- Characters that end a line. -/
def isLineEnd (c : Char) : Bool :=
  c = '\n' || c = '\r'

/-- Characters that separate lexemes within a line. -/
def isBlank (c : Char) : Bool :=
  c = ' ' || c = '\t' || c = '\x0c'

/-- Characters that a word starts with. -/
def isWordStart (c : Char) : Bool :=
  c.isAlpha || c = '_'

/-- Characters that a word goes on with. -/
def isWordRest (c : Char) : Bool :=
  c.isAlphanum || c = '_'

/-- Characters that a quoted text may hold. -/
def isQuotable (c : Char) : Bool :=
  !(c = '"' || isLineEnd c)

/-- How many characters at the start of a text belong to a class. -/
def runLength (class? : Char → Bool) : List Char → Nat
  | [] => 0
  | c :: rest => if class? c then runLength class? rest + 1 else 0

theorem runLength_le (class? : Char → Bool) (text : List Char) :
    runLength class? text ≤ text.length := by
  induction text with
  | nil => simp [runLength]
  | cons c rest ih => by_cases h : class? c <;> simp [runLength, h, ih]

/-- How many characters at the start of a text belong to a class, if any do. -/
def run? (class? : Char → Bool) (text : List Char) : Option Nat :=
  match runLength class? text with
  | 0 => none
  | length => some length

/-- The total length of the groups at the start of a text that are a point and digits. -/
def groupsLength : List Char → Nat
  | '.' :: rest =>
    match runLength Char.isDigit rest with
    | 0 => 0
    | length + 1 => 2 + length + groupsLength (rest.drop (length + 1))
  | _ => 0
termination_by text => text.length
decreasing_by
  simp only [List.length_drop, List.length_cons]
  omega

/-- The length of the longest prefix that the pattern matches. -/
def Pattern.longest? : Pattern → List Char → Option Nat
  | exactly fixed, text => if fixed.isPrefixOf text then some fixed.length else none
  | lineEnd, '\r' :: '\n' :: _ => some 2
  | lineEnd, c :: _ => if isLineEnd c then some 1 else none
  | lineEnd, [] => none
  | blanks, text => run? isBlank text
  | comment, '/' :: '/' :: text => some (2 + runLength (!isLineEnd ·) text)
  | comment, _ => none
  | word, c :: text => if isWordStart c then some (1 + runLength isWordRest text) else none
  | word, [] => none
  | integer, text => run? Char.isDigit text
  | decimal, text => do
    let whole ← run? Char.isDigit text
    match groupsLength (text.drop whole) with
    | 0 => none
    | length => some (whole + length)
  | quoted, '"' :: text =>
    let length := runLength isQuotable text
    some (1 + length + if text[length]? = some '"' then 1 else 0)
  | quoted, _ => none

/-- The names of the built-in types that are not a kind of their own. -/
def builtinTypeNames : List String :=
  ["int", "decimal", "bool", "str", "byte"]

/-- The names of the truth values. -/
def booleanNames : List String :=
  ["true", "false"]

/-- The patterns of the language with their kinds; earlier ones win over later ones of equal length. -/
def rules : List (Pattern × Kind) :=
  Kind.all.filterMap (fun kind => kind.spelling?.map fun text => (.exactly text.toList, kind))
    ++ builtinTypeNames.map (fun name => (.exactly name.toList, .builtinType))
    ++ booleanNames.map (fun name => (.exactly name.toList, .boolean))
    ++ [(.lineEnd, .endOfLine), (.blanks, .whitespace), (.comment, .comment), (.word, .identifier),
        (.integer, .integer), (.decimal, .decimal), (.quoted, .string)]

/-- The longer of two matches, the first when both are equally long. -/
def longer : Option (Kind × Nat) → Option (Kind × Nat) → Option (Kind × Nat)
  | some first, some second => if first.2 < second.2 then some second else some first
  | some first, none => some first
  | none, second => second

/-- The kind and length of the longest lexeme at the start of a text. -/
def munch? (text : List Char) : Option (Kind × Nat) :=
  rules.foldl (fun best rule => longer best ((rule.1.longest? text).map (rule.2, ·))) none

end ArrowScript.Token
