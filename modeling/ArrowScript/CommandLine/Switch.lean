/-!
# Switches

What can be given on the command line beside the input file. Every switch has a name, and some have a
letter.
-/

namespace ArrowScript.CommandLine

/-- How diagnostics are shown. -/
inductive Format
  | plain
  | pretty
deriving DecidableEq

namespace Format

/-- All formats, in the order in which they are listed. -/
def all : List Format :=
  [plain, pretty]

/-- What a format is called. -/
def name : Format → String
  | plain => "plain"
  | pretty => "pretty"

/-- The format with a name. -/
def ofName? (name : String) : Option Format :=
  all.find? (·.name = name)

end Format

/-- What can be switched on, chosen or asked for. -/
inductive Switch
  | format
  | verbose
  | dumpProgram
  | dumpTokens
  | help
  | version
deriving DecidableEq

namespace Switch

/-- All switches, in the order in which they are listed. -/
def all : List Switch :=
  [format, verbose, dumpProgram, dumpTokens, help, version]

/-- What a switch is called behind two dashes. -/
def name : Switch → String
  | format => "format"
  | verbose => "verbose"
  | dumpProgram => "dump-ast"
  | dumpTokens => "dump-tokens"
  | help => "help"
  | version => "version"

/-- The letter of a switch behind one dash. -/
def letter? : Switch → Option Char
  | format => some 'f'
  | verbose => some 'v'
  | help => some 'h'
  | version => some 'V'
  | dumpProgram | dumpTokens => none

/-- How a switch is shown to the user. -/
def shown : Switch → String
  | format => "--format <FORMAT>"
  | switch => "--" ++ switch.name

/-- Whether a switch asks for something that is told instead of compiling. -/
def asks : Switch → Bool
  | help | version => true
  | format | verbose | dumpProgram | dumpTokens => false

/-- The switch with a name. -/
def ofName? (name : String) : Option Switch :=
  all.find? (·.name = name)

/-- The switch with a letter. -/
def ofLetter? (letter : Char) : Option Switch :=
  all.find? (·.letter? = some letter)

end Switch

end ArrowScript.CommandLine
