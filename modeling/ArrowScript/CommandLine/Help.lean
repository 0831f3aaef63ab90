import ArrowScript.CommandLine.Mistake

/-!
# Help

What the program tells about itself. The short help has a line for everything that can be given; the long
one has a paragraph, and explains the formats.
-/

namespace ArrowScript.CommandLine

/-- What a format shows. -/
def Format.purpose : Format → String
  | plain => "`file:(line,column)` followed by the message"
  | pretty => "Annotated source snippets"

/-- What a switch is for, at length or not. -/
def Switch.purpose (long : Bool) : Switch → String
  | format => "Diagnostic output format"
  | verbose => "Verbose output"
  | dumpProgram => "Dump AST (for debugging)"
  | dumpTokens => "Dump tokens (for debugging)"
  | help => if long then "Print help (see a summary with '-h')" else "Print help (see more with '--help')"
  | version => "Print version"

namespace Help

/-- How a switch is listed. -/
def label (switch : Switch) : String :=
  let letter := match switch.letter? with
    | some letter => String.ofList ['-', letter, ',', ' ']
    | none => "    "
  letter ++ switch.shown

/-- The format that is chosen without being given. -/
def defaultFormat : String :=
  "[default: pretty]"

/-- The length of the longest label. -/
def labelLength : Nat :=
  (Switch.all.map fun switch => (label switch).length).foldl max 0

/-- The line of a switch. -/
def line (switch : Switch) : String :=
  let gap := String.ofList (List.replicate (labelLength - (label switch).length) ' ')
  let formats := ", ".intercalate (Format.all.map Format.name)
  let values := if switch = .format then s!" {defaultFormat} [possible values: {formats}]" else ""
  "  " ++ label switch ++ gap ++ "  " ++ switch.purpose false ++ values ++ "\n"

/-- The space before the text of a paragraph. -/
def indent : String :=
  "          "

/-- The explanation of a format, behind a name as long as the longest one. -/
def item (format : Format) : String :=
  let longest := (Format.all.map fun format => format.name.length).foldl max 0
  let gap := String.ofList (List.replicate (longest - format.name.length) ' ')
  "\n" ++ indent ++ "- " ++ format.name ++ ": " ++ gap ++ format.purpose

/-- The paragraph of a switch. -/
def paragraph (switch : Switch) : String :=
  let values :=
    if switch = .format then
      "\n\n" ++ indent ++ "Possible values:" ++ String.join (Format.all.map item)
        ++ "\n\n" ++ indent ++ defaultFormat
    else ""
  "  " ++ label switch ++ "\n" ++ indent ++ switch.purpose true ++ values ++ "\n"

/-- All that the program tells about itself, at length or not. -/
def text (long : Bool) : String :=
  let usage := Usage.general.line
  let input := "Input source file"
  let opening := s!"Front end for the Fractals scripting language\n\n{usage}\nArguments:\n  <INPUT>"
  if long then
    opening ++ "\n" ++ indent ++ input ++ "\n\nOptions:\n"
      ++ "\n".intercalate (Switch.all.map paragraph)
  else
    opening ++ "  " ++ input ++ "\n\nOptions:\n" ++ String.join (Switch.all.map line)

end Help

end ArrowScript.CommandLine
