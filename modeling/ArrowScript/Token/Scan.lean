import ArrowScript.Token.Pattern
import ArrowScript.Diagnostic
import ArrowScript.Text.Bytes

/-!
# Scanning

A source text is cut into lexemes, each the longest that the lexical patterns allow; a character that
starts none of them stands alone and is reported. The lexemes are then placed one after the other: the
byte offset always grows, a line end starts a new line, and every other lexeme moves the column on.
-/

namespace ArrowScript.Token

/-- What scanning can report. -/
inductive LexicalProblem
  | unexpected (text : String)
  | tooManyPoints
  | missingQuote
deriving DecidableEq

/-- The wording of a lexical problem. -/
def LexicalProblem.message : LexicalProblem → String
  | unexpected text => s!"Unexpected character '{text}'."
  | tooManyPoints => "Too many decimal points."
  | missingQuote => "Missing end quote."

/-- The diagnostic for a lexical problem. -/
def LexicalProblem.diagnostic (finding : Finding LexicalProblem) : Diagnostic :=
  finding.diagnostic .lexical message

/-- A piece of a source text; one without a kind is a character that no pattern starts with. -/
structure Lexeme where
  kind? : Option Kind
  text : List Char
deriving DecidableEq

/-- Cuts a text into lexemes. -/
def lexemes : List Char → List Lexeme
  | [] => []
  | c :: rest =>
    match munch? (c :: rest) with
    | some (kind, length) =>
      ⟨some kind, c :: rest.take (length - 1)⟩ :: lexemes (rest.drop (length - 1))
    | none => ⟨none, [c]⟩ :: lexemes rest
termination_by text => text.length
decreasing_by
  all_goals
    simp only [List.length_drop, List.length_cons]
    omega

/-- Whether a quoted lexeme ends with a quote other than the one it starts with. -/
def isClosedQuote (text : List Char) : Bool :=
  2 ≤ text.length && text.getLast? = some '"'

/-- What there is to report about a lexeme. -/
def Lexeme.problem? (lexeme : Lexeme) : Option LexicalProblem :=
  match lexeme.kind? with
  | none => some (.unexpected (String.ofList lexeme.text))
  | some .decimal => if 1 < lexeme.text.count '.' then some .tooManyPoints else none
  | some .string => if isClosedQuote lexeme.text then none else some .missingQuote
  | some _ => none

/-- A place in a source text. -/
structure Place where
  offset : Nat
  line : Nat
  column : Nat
deriving DecidableEq

/-- The start of a source text. -/
def Place.start : Place :=
  ⟨0, 1, 1⟩

/-- The place after a lexeme. -/
def Place.after (place : Place) (lexeme : Lexeme) : Place :=
  let offset := place.offset + Text.byteLength lexeme.text
  if lexeme.kind? = some .endOfLine then ⟨offset, place.line + 1, 1⟩
  else ⟨offset, place.line, place.column + lexeme.text.length⟩

/-- The span of a text that starts at a place. -/
def Place.span (place : Place) (file : String) (text : List Char) : Span where
  text := some (String.ofList text)
  file := file
  offset := place.offset
  length := Text.byteLength text
  line := place.line
  column := place.column

/-- The end of file at a place. -/
def Place.endOfFile (place : Place) (file : String) : Token :=
  ⟨.endOfFile, { place.span file [] with text := none }⟩

/-- The result of scanning: the tokens, trivia included, and what was reported. -/
structure Scan where
  tokens : List Token
  findings : List (Finding LexicalProblem)

/-- What was reported, in words. -/
def Scan.diagnostics (scan : Scan) : List Diagnostic :=
  scan.findings.map LexicalProblem.diagnostic

/-- Places lexemes one after the other and closes the tokens with the end of file. -/
def scanFrom (file : String) : Place → List Lexeme → Scan
  | place, [] => ⟨[place.endOfFile file], []⟩
  | place, lexeme :: rest =>
    let after := scanFrom file (place.after lexeme) rest
    let span := place.span file lexeme.text
    { tokens := (lexeme.kind?.map (⟨·, span⟩)).toList ++ after.tokens
      findings := (lexeme.problem?.map (⟨·, span⟩)).toList ++ after.findings }

/-- The tokens of a source text. -/
def scan (file source : String) : Scan :=
  scanFrom file .start (lexemes source.toList)

end ArrowScript.Token
