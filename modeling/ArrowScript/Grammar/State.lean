import ArrowScript.Grammar.Cursor
import ArrowScript.Grammar.Problem
import ArrowScript.Syntax.Statement

/-!
# Parsing state

Parsing moves a cursor, hands out handles for nodes and notes problems. A routine starts on the first
token of what it parses and ends on its last; the caller moves on. When an expected token is absent this
is noted, and parsing goes on as if it had been there.

Routines that call themselves, directly or through others, take a bound: a number larger than the number
of tokens left. At least one token is read before a routine is entered again and on every round of a
loop, so the bound is never used up.
-/

namespace ArrowScript.Grammar

/-- The cursor, the next handle and what was noted so far. -/
structure State where
  cursor : Cursor
  nextId : Nat
  findings : Array (Finding SyntaxProblem)

/-- An action on the parsing state. -/
abbrev Parser := StateM State

/-- The kind of the current token. -/
def kind : Parser Token.Kind :=
  return (← get).cursor.current.kind

/-- The span of the current token. -/
def span : Parser Span :=
  return (← get).cursor.current.span

/-- Whether the current token is of a kind. -/
def standsOn (expected : Token.Kind) : Parser Bool :=
  return (← kind) = expected

/-- The kind of the token that a move would lead to. -/
def peekWith (sensitivity : Sensitivity) : Parser Token.Kind :=
  return (← get).cursor.peekKind sensitivity

/-- The kind of the next token past all trivia. -/
def peek : Parser Token.Kind :=
  peekWith .insensitive

/-- The span of the next token past all trivia. -/
def peekSpan : Parser Span :=
  return (← get).cursor.peekSpan

/-- Moves on, and tells whether there was anything to move to. -/
def advanceWith (sensitivity : Sensitivity) : Parser Bool :=
  modifyGet fun state =>
    match state.cursor.move? sensitivity with
    | some cursor => (true, { state with cursor })
    | none => (false, state)

/-- Moves on past all trivia, and tells whether there was anything to move to. -/
def tryAdvance : Parser Bool :=
  advanceWith .insensitive

/-- Moves on past all trivia. -/
def advance : Parser Unit :=
  discard tryAdvance

/-- A handle that has not been given to another node. -/
def freshId : Parser NodeId :=
  modifyGet fun state => (⟨state.nextId⟩, { state with nextId := state.nextId + 1 })

/-- Notes a problem at a span. -/
def reportAt (problem : SyntaxProblem) (span : Span) : Parser Unit :=
  modify fun state => { state with findings := state.findings.push ⟨problem, span⟩ }

/-- Notes a problem at the current token. -/
def report (problem : SyntaxProblem) : Parser Unit := do
  reportAt problem (← span)

/-- Notes a problem unless the current token is of a kind. -/
def expect (expected : Token.Kind) (problem : SyntaxProblem) : Parser Unit := do
  unless ← standsOn expected do report problem

/-- Moves onto a closing token if it is next, otherwise notes its absence there and stays. The span of
the token where this ends is the closing one. -/
def closeWith (expected : Token.Kind) (problem : SyntaxProblem) : Parser Span := do
  if (← peek) = expected then advance else reportAt problem (← peekSpan)
  span

/-- The elements of a list, from the first element to the closing token. Elements are separated by
commas. -/
def commaList {α : Type} (element : Parser α) (closing : Token.Kind)
    (unseparated unclosed : SyntaxProblem) : Nat → Parser (List α)
  | 0 => return []
  | bound + 1 => do
    let first ← element
    advance
    if ← standsOn closing then return [first]
    expect .comma unseparated
    if ← tryAdvance then
      return first :: (← commaList element closing unseparated unclosed bound)
    expect closing unclosed
    return [first]

end ArrowScript.Grammar
