import ArrowScript.Text.Bytes
import ArrowScript.Text.Width

/-!
# Source lines

A source text is shown line by line. Lines are divided at line feeds only. What is shown of a line is cut
into cells, one per character; a cell knows its first byte and how many columns it takes. A tab takes as
many columns as lead to the next multiple of four.
-/

namespace ArrowScript.Snippet

/-- A line of a source text: the offset of its first byte and its characters up to the line feed. -/
structure Line where
  start : Nat
  text : List Char

/-- The lines of a text that starts at an offset. There is at least one, and one behind every line
feed. -/
def linesFrom (offset : Nat) : List Char → List Line
  | [] => [⟨offset, []⟩]
  | c :: rest =>
    let behind := linesFrom (offset + c.utf8Size) rest
    if c = '\n' then ⟨offset, []⟩ :: behind
    else
      match behind with
      | [] => []
      | first :: others => ⟨offset, c :: first.text⟩ :: others

/-- The lines of a source text. -/
def lines (source : String) : List Line :=
  linesFrom 0 source.toList

/-- The line that a byte is on, with its index; the last line also holds everything behind the text. -/
def lineAt? (lines : List Line) (offset : Nat) : Option (Line × Nat) :=
  (lines.zipIdx.takeWhile fun line => line.1.start ≤ offset).getLast?

/-- How many characters stand wholly before a byte, when the first one starts at another. -/
def charactersBefore (stop : Nat) : Nat → List Char → Nat
  | _, [] => 0
  | byte, c :: rest =>
    let next := byte + c.utf8Size
    if next ≤ stop then 1 + charactersBefore stop next rest else 0

/-- The column of a byte on a line, counted in characters from one. -/
def Line.column (line : Line) (offset : Nat) : Nat :=
  1 + charactersBefore offset line.start line.text

/-- Characters that are not shown at the end of a line. -/
def isLineTail (c : Char) : Bool :=
  c = '\n' || c = '\r' || c = '\x00'

/-- What is shown of a line. -/
def Line.shown (line : Line) : List Char :=
  (line.text.reverse.dropWhile isLineTail).reverse

/-- A shown character: its first byte on the line, and the columns that it takes. -/
structure Cell where
  byte : Nat
  character : Char
  width : Nat

/-- How many columns a character takes behind others that take `column` columns. -/
def cellWidth (column : Nat) (c : Char) : Nat :=
  if c = '\t' then 4 - column % 4 else Text.width c

/-- The cells of characters from a byte and a column on. -/
def cellsFrom (byte column : Nat) : List Char → List Cell
  | [] => []
  | c :: rest =>
    let width := cellWidth column c
    ⟨byte, c, width⟩ :: cellsFrom (byte + c.utf8Size) (column + width) rest

/-- The cells of a shown line. -/
def cells (shown : List Char) : List Cell :=
  cellsFrom 0 0 shown

/-- The byte behind a cell. -/
def Cell.stop (cell : Cell) : Nat :=
  cell.byte + cell.character.utf8Size

/-- A text that takes the columns of a cell, filled with one character. -/
def Cell.fill (cell : Cell) (c : Char) : List Char :=
  List.replicate cell.width c

/-- A cell as it is shown; a tab is shown as spaces. -/
def Cell.text (cell : Cell) : List Char :=
  if cell.character = '\t' then cell.fill ' ' else [cell.character]

/-- A shown line as text. -/
def shownText (shown : List Char) : String :=
  String.ofList ((cells shown).flatMap Cell.text)

/-- The ranges of characters that are white space. -/
def whiteSpaceRanges : List (Nat × Nat) :=
  [(0x9, 0xd), (0x20, 0x20), (0x85, 0x85), (0xa0, 0xa0), (0x1680, 0x1680), (0x2000, 0x200a),
    (0x2028, 0x2029), (0x202f, 0x202f), (0x205f, 0x205f), (0x3000, 0x3000)]

/-- How many bytes of white space a shown line starts with. -/
def indentation (shown : List Char) : Nat :=
  Text.byteLength (shown.takeWhile (Text.inRanges whiteSpaceRanges))

end ArrowScript.Snippet
