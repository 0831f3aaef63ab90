import ArrowScript.Token

/-!
# Cursor

A cursor stands on a token of a list that an end of file closes. Moving it drops the token it stands on
and then the trivia that the move does not stop on; peeking tells where a move would lead. No move goes
beyond the closing end of file. An end of file that stands earlier in the list is a token like any other.
-/

namespace ArrowScript.Grammar

/-- Which trivia a move stops on. Comments are always skipped. -/
structure Sensitivity where
  blanks : Bool
  lineEnds : Bool

namespace Sensitivity

/-- Stops on no trivia. -/
def insensitive : Sensitivity := ⟨false, false⟩

/-- Stops on line ends. -/
def toLineEnds : Sensitivity := ⟨false, true⟩

/-- Stops on line ends and blanks. -/
def toLayout : Sensitivity := ⟨true, true⟩

/-- Whether a move goes past a kind of token. -/
def skips (sensitivity : Sensitivity) : Token.Kind → Bool
  | .comment => true
  | .whitespace => !sensitivity.blanks
  | .endOfLine => !sensitivity.lineEnds
  | _ => false

end Sensitivity

/-- The tokens from the current one on, and the span of the end of file that closes them. -/
structure Cursor where
  pending : List Token
  closing : Span

namespace Cursor

/-- The end of file that closes the tokens. -/
def closingToken (cursor : Cursor) : Token :=
  ⟨.endOfFile, cursor.closing⟩

/-- The token that the cursor stands on. -/
def current (cursor : Cursor) : Token :=
  cursor.pending.headD cursor.closingToken

/-- Goes past trivia, beginning with the current token. -/
def skip (sensitivity : Sensitivity) (cursor : Cursor) : Cursor :=
  { cursor with pending := cursor.pending.dropWhile fun token => sensitivity.skips token.kind }

/-- Moves on by one token and past trivia; there is no move off the closing end of file. -/
def move? (sensitivity : Sensitivity) (cursor : Cursor) : Option Cursor :=
  match cursor.pending with
  | [] => none
  | _ :: rest => some (skip sensitivity { cursor with pending := rest })

theorem closing_of_move? {cursor next : Cursor} {sensitivity : Sensitivity}
    (h : cursor.move? sensitivity = some next) : next.closing = cursor.closing := by
  unfold move? at h
  split at h
  · cases h
  · cases h
    rfl

/-- The first of the tokens after the current one that a move would stop on. -/
def next? (sensitivity : Sensitivity) (cursor : Cursor) : Option Token :=
  match cursor.pending with
  | [] => none
  | _ :: rest =>
    some ((rest.find? fun token => !sensitivity.skips token.kind).getD cursor.closingToken)

/-- The kind of the next token, end of file when there is none. -/
def peekKind (sensitivity : Sensitivity) (cursor : Cursor) : Token.Kind :=
  (cursor.next? sensitivity).elim .endOfFile Token.kind

/-- The span of the next token past all trivia, the current one's when there is none. -/
def peekSpan (cursor : Cursor) : Span :=
  (cursor.next? .insensitive).elim cursor.current.span Token.span

/-- The kinds of all tokens after the current one, without trivia. -/
def lookahead (cursor : Cursor) : List Token.Kind :=
  match cursor.pending with
  | [] => []
  | _ :: rest => (rest.map Token.kind).filter (!·.isTrivia) ++ [.endOfFile]

/-- The end of file that closes tokens whose last one has a span. -/
def endAfter (last : Span) : Span where
  text := none
  file := last.file
  offset := last.stop
  length := 0
  line := last.line
  column := last.column + last.length

/-- The end of file of an empty list of tokens. -/
def emptyEnd : Span where
  text := none
  file := ""
  offset := 0
  length := 0
  line := 1
  column := 1

/-- A cursor on the first of some tokens. An end of file is supplied unless they end with one. -/
def onFirst (tokens : List Token) : Cursor :=
  match tokens.getLast? with
  | some last =>
    if last.kind = .endOfFile then ⟨tokens.dropLast, last.span⟩ else ⟨tokens, endAfter last.span⟩
  | none => ⟨[], emptyEnd⟩

end Cursor

end ArrowScript.Grammar
