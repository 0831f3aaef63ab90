import ArrowScript.CommandLine.Switch
import ArrowScript.Text.Similarity
import ArrowScript.Text.Terminal

/-!
# Mistakes

What can be wrong with arguments, and how it is explained. A name that is close to a known one is taken
for a slip, and the known one is suggested. What the user wrote is shown without what steers a terminal.
-/

namespace ArrowScript.CommandLine

open Text

/-- How the program is called, as far as it matters for a mistake. -/
inductive Usage
  /-- With any switches and the input file. -/
  | general
  /-- With some switches and the input file. -/
  | given (switches : List Switch)
  /-- With a switch, and with at least one of all that matters for compiling. -/
  | choice (switch : Switch)

/-- All that matters for compiling, as a choice. -/
def choices : String :=
  "<" ++ "|".intercalate ("INPUT" :: (Switch.all.filter (!·.asks)).map Switch.shown) ++ ">"

/-- The arguments that are shown in a usage. A switch that is among the choices is not shown again. -/
def Usage.arguments : Usage → String
  | general => "[OPTIONS] <INPUT>"
  | given switches => String.join (switches.map fun switch => switch.shown ++ " ") ++ "<INPUT>"
  | choice switch => if switch.asks then switch.shown ++ " " ++ choices else choices

/-- The line that shows a usage. -/
def Usage.line (usage : Usage) : String :=
  "Usage: fractalsc " ++ usage.arguments ++ "\n"

/-- Adds a switch to some, unless it is one of them. -/
def withSwitch (switches : List Switch) (switch : Switch) : List Switch :=
  if switch ∈ switches then switches else switches ++ [switch]

/-- Why arguments cannot be understood. For some mistakes it matters what was given before. -/
inductive Mistake
  /-- There is no input file. -/
  | noInput (given : List Switch)
  | emptyInput
  | extraInput (input : String)
  | noFormat
  | unknownFormat (value : String)
  | repeated (switch : Switch)
  /-- A value behind a switch that has none, perhaps in the first argument that was looked at. -/
  | unexpectedValue (switch : Switch) (value : String) (first : Bool)
  /-- A name that no switch has, perhaps in the first argument that means anything. -/
  | unknownName (name : String) (first : Bool) (given : List Switch)
  | unknownLetter (letter : Char)

namespace Mistake

/-- The formats that can be chosen. -/
def possibleFormats : String :=
  "\n  [possible values: " ++ ", ".intercalate (Format.all.map Format.name) ++ "]"

/-- The switch that may be meant by a name. -/
def meant? (name : String) : Option Switch :=
  closest? Switch.name name Switch.all

/-- What is said about an argument that means nothing. -/
def meaningless (argument : String) : String :=
  s!"unexpected argument '{argument}' found"

/-- What is wrong. -/
def problem : Mistake → String
  | noInput _ => "the following required arguments were not provided:\n  <INPUT>"
  | emptyInput => "a value is required for '<INPUT>' but none was supplied"
  | extraInput input => meaningless (withoutSteering input)
  | noFormat =>
    let shown := Switch.format.shown
    s!"a value is required for '{shown}' but none was supplied" ++ possibleFormats
  | unknownFormat value =>
    let value := withoutSteering value
    let shown := Switch.format.shown
    s!"invalid value '{value}' for '{shown}'" ++ possibleFormats
  | repeated switch =>
    let shown := switch.shown
    s!"the argument '{shown}' cannot be used multiple times"
  | unexpectedValue switch value _ =>
    let value := withoutSteering value
    let shown := switch.shown
    s!"unexpected value '{value}' for '{shown}' found; no more were expected"
  | unknownName name _ _ => meaningless ("--" ++ withoutSteering name)
  | unknownLetter letter => meaningless ("-" ++ withoutSteering letter.toString)

/-- How an argument can be given as an input file although it looks like a switch. -/
def asInput (argument : String) : String :=
  s!"to pass '{argument}' as a value, use '-- {argument}'"

/-- What could be done about a mistake. -/
def tip? : Mistake → Option String
  | unknownFormat value =>
    (closest? Format.name value Format.all).map fun format =>
      let name := format.name
      s!"a similar value exists: '{name}'"
  | unknownName name _ _ =>
    match meant? name with
    | some switch =>
      let name := switch.name
      some s!"a similar argument exists: '--{name}'"
    | none => some (asInput ("--" ++ withoutSteering name))
  | unknownLetter letter => some (asInput ("-" ++ withoutSteering letter.toString))
  | _ => none

/-- The usage that helps with a mistake. Beside an unknown name it has the switches that were given, and the
one that is meant; as long as nothing was given and none is meant, it is the general one. -/
def usage? : Mistake → Option Usage
  | noInput given => some (.given given)
  | emptyInput | noFormat | unknownFormat _ => none
  | extraInput _ | repeated _ | unknownLetter _ => some .general
  | unexpectedValue switch _ first => some (if first then .given [switch] else .choice switch)
  | unknownName name first given =>
    match meant? name with
    | some switch => some (.given (withSwitch given switch))
    | none => some (if first then .general else .given given)

/-- The wording of a mistake. -/
def message (mistake : Mistake) : String :=
  let tip := (mistake.tip?.map fun tip => s!"\n  tip: {tip}\n").getD ""
  let usage := (mistake.usage?.map fun usage => "\n" ++ usage.line).getD ""
  "error: " ++ mistake.problem ++ "\n" ++ tip ++ usage ++ "\nFor more information, try '--help'.\n"

end Mistake

end ArrowScript.CommandLine
