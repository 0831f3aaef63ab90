import ArrowScript.Fault

/-!
# Spans

A span is a piece of a source file: where it starts, how many bytes it has and, when known, its text.
Two spans of one file combine to the span from the start of the first to the end of the second.
-/

namespace ArrowScript

/-- A piece of a file. Offsets and lengths count bytes, columns count characters from one. -/
structure Span where
  text : Option String
  file : String
  offset : Nat
  length : Nat
  line : Nat
  column : Nat
deriving DecidableEq, Inhabited

namespace Span

/-- The text of a span, empty when it is not known. -/
def content (span : Span) : String :=
  span.text.getD ""

/-- The offset just after a span. -/
def stop (span : Span) : Nat :=
  span.offset + span.length

/-- Where a span starts, as shown to the user. -/
def locus (span : Span) : String :=
  let ⟨_, file, _, _, line, column⟩ := span
  s!"{file}:({line},{column})"

/-- The text of two combined spans: joined where they touch, kept where they are the same span. -/
def joinedText (first second : Span) : Option String :=
  match first.text, second.text with
  | some left, some right =>
    if first.stop = second.offset then some (left ++ right)
    else if first = second then some left
    else none
  | _, _ => none

/-- The span from the start of the first to the end of the second, both of one file. -/
def combine (first second : Span) : Except Fault Span :=
  if first.file = second.file then
    .ok { first with
      text := joinedText first second
      length := second.stop - first.offset }
  else
    .error (.filesDiffer first.file second.file)

end Span

end ArrowScript
