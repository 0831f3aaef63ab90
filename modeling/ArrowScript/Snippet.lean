import ArrowScript.Diagnostic
import ArrowScript.Snippet.Line

/-!
# Snippets

A snippet shows the lines of a source text that a diagnostic is about, with their numbers, and marks the
bytes of its span. Bytes on one line are marked by carets underneath. A span over several lines is marked
by a line at the left that starts at the first byte and ends before the last; of the lines in between,
the first three and the last are shown.
-/

namespace ArrowScript.Snippet

/-- The width of the number of a line. -/
def numberWidth (number : Nat) : Nat :=
  (toString number).length

/-- A row that shows a border but no source. -/
def unnumbered (padding : Nat) (border : String) : String :=
  String.ofList (List.replicate (padding + 1) ' ') ++ border ++ "\n"

/-- A row that shows a line of the source behind its number and what marks the line at the left. -/
def numbered (padding number : Nat) (mark : String) (shown : List Char) : String :=
  let digits := toString number
  String.ofList (List.replicate (padding - digits.length) ' ') ++ digits ++ " │" ++ mark ++ " "
    ++ shownText shown ++ "\n"

/-- A message behind a mark. -/
def behindMark (message : String) : String :=
  if message.isEmpty then "" else " " ++ message

/-! ## One line -/

/-- The cell just behind a shown line, which takes one column. -/
def endCell (shown : List Char) : Cell where
  byte := Text.byteLength shown
  character := '\x00'
  width := 1

/-- The carets under the cells that overlap the bytes from `start` to `stop`, and the spaces before
them. -/
def carets (shown : List Char) (start stop : Nat) : String :=
  let mark (cell : Cell) : List Char :=
    if max cell.byte start < min cell.stop stop then cell.fill '^'
    else if cell.byte < stop then cell.fill ' '
    else []
  String.ofList ((cells shown ++ [endCell shown]).flatMap mark)

/-- The rows for a span on one line; an empty span is marked like one of a byte. -/
def singleLine (padding number : Nat) (line : Line) (span : Span) (message : String) : String :=
  let start := span.offset - line.start
  let stop := max (span.stop - line.start) (start + 1)
  unnumbered padding "│" ++ numbered padding number "" line.shown
    ++ unnumbered padding ("│ " ++ carets line.shown start stop ++ behindMark message)

/-! ## Several lines -/

/-- A rule over all cells of a line that start before a byte. -/
def rule (shown : List Char) (stop : Nat) : String :=
  String.ofList (((cells shown).takeWhile (·.byte < stop)).flatMap (·.fill '─'))

/-- The rows of the first line; the mark stands on the line itself if only white space is before it. -/
def firstRows (padding number : Nat) (line : Line) (start : Nat) : String :=
  let shown := line.shown
  if start ≤ indentation shown then numbered padding number " ╭" shown
  else
    numbered padding number "  " shown
      ++ unnumbered padding ("│ ╭" ++ rule shown (start + 1) ++ "^")

/-- The row of a line between the first and the last. -/
def middleRow (padding : Nat) (line : Line × Nat) : String :=
  numbered padding (line.2 + 1) " │" line.1.shown

/-- How many lines behind the first are shown. -/
def shownBehindFirst : Nat := 3

/-- How many lines before the last are shown. -/
def shownBeforeLast : Nat := 1

/-- The rows of the lines between the first and the last. Where more than one line is left out, a row
with a dot stands for them. -/
def middleRows (padding : Nat) (between : List (Line × Nat)) : String :=
  let leading := between.take shownBehindFirst
  let others := between.drop shownBehindFirst
  let hidden := others.length - shownBeforeLast
  let rows (lines : List (Line × Nat)) : String := String.join (lines.map (middleRow padding))
  if hidden ≤ 1 then rows between
  else rows leading ++ unnumbered padding "· │" ++ rows (others.drop hidden)

/-- The rows of the last line. -/
def lastRows (padding number : Nat) (line : Line) (stop : Nat) (message : String) : String :=
  let shown := line.shown
  numbered padding number " │" shown
    ++ unnumbered padding ("│ ╰" ++ rule shown stop ++ "^" ++ behindMark message)

/-- The rows for a span over several lines, each given with its index. -/
def severalLines (padding : Nat) (lines : List (Line × Nat)) (first last : Line × Nat) (span : Span)
    (message : String) : String :=
  let between := (lines.take last.2).drop (first.2 + 1)
  unnumbered padding "│  "
    ++ firstRows padding (first.2 + 1) first.1 (span.offset - first.1.start)
    ++ middleRows padding between
    ++ lastRows padding (last.2 + 1) last.1 (span.stop - last.1.start) message

/-! ## Diagnostics -/

/-- The rows of a diagnostic about a file. -/
def rows (file source : String) (diagnostic : Diagnostic) : String :=
  let lines := lines source
  let span := diagnostic.span
  match lineAt? lines span.offset, lineAt? lines span.stop with
  | some first, some last =>
    let padding := numberWidth (last.2 + 1)
    let line := first.2 + 1
    let column := first.1.column span.offset
    unnumbered padding s!"┌─ {file}:{line}:{column}"
      ++ if first.2 = last.2 then singleLine padding line first.1 span diagnostic.message
        else severalLines padding lines.zipIdx first last span diagnostic.message
  | _, _ => ""

/-- A diagnostic with its snippet. -/
def diagnosticText (file source : String) (diagnostic : Diagnostic) : String :=
  let title := diagnostic.kind.title
  s!"error: {title}\n" ++ rows file source diagnostic ++ "\n"

end ArrowScript.Snippet
