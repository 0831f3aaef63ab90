import ArrowScript.CommandLine.Mistake

/-!
# Arguments

The command line takes one input file and some switches. Arguments are read from left to right and the
first mistake ends the reading; asking for help or for the version ends it as well. Behind two dashes every
argument is an input file. Letters of switches may be written together, and the value of the last of them
may follow in the same argument.

A value that is an argument of its own is looked at when the next argument is understood, or at the end. So
an argument that cannot be understood is told rather than a wrong value right before it.
-/

namespace ArrowScript.CommandLine

/-- A value that was not looked at yet. -/
inductive Waiting
  | input (value : String)
  /-- A format, which may still be missing. -/
  | format (value? : Option String)

/-- What was read from arguments; switches are in the order in which they were given. -/
structure Arguments where
  input : Option String
  format : Option Format
  given : List Switch
  waiting : Option Waiting

/-- What arguments ask for. -/
inductive Intent
  /-- Help, which may be told at length. -/
  | help (long : Bool)
  | version
  | compile (input : String) (format : Format) (given : List Switch)

namespace Arguments

/-- Nothing was read yet. -/
def empty : Arguments :=
  ⟨none, none, [], none⟩

/-- Marks a switch as given, which can be done once. -/
def mark (arguments : Arguments) (switch : Switch) : Except Mistake Arguments :=
  if switch ∈ arguments.given then .error (.repeated switch)
  else .ok { arguments with given := arguments.given ++ [switch] }

/-- Sets the format to what a value means. -/
def setFormat (arguments : Arguments) (value : String) : Except Mistake Arguments := do
  let arguments ← arguments.mark .format
  if value.isEmpty then throw .noFormat
  match Format.ofName? value with
  | some format => return { arguments with format := some format }
  | none => throw (.unknownFormat value)

/-- Looks at the value that is waiting. -/
def settle (arguments : Arguments) : Except Mistake Arguments :=
  let settled := { arguments with waiting := none }
  match arguments.waiting with
  | none => .ok settled
  | some (.input value) =>
    if value.isEmpty then .error .emptyInput else .ok { settled with input := some value }
  | some (.format none) => .error .noFormat
  | some (.format (some value)) => settled.setFormat value

/-- Whether nothing was looked at. -/
def isFresh (arguments : Arguments) : Bool :=
  arguments.input.isNone && arguments.given.isEmpty

/-- Whether an input file was given. -/
def hasInput (arguments : Arguments) : Bool :=
  match arguments.waiting with
  | some (.input _) => true
  | _ => arguments.input.isSome

/-- The switches that count as given once an argument cannot be understood. A format that is waiting
counts, whether it is one or not; if one was chosen before, neither counts. -/
def counted (arguments : Arguments) : List Switch :=
  match arguments.waiting with
  | some (.format (some _)) =>
    if .format ∈ arguments.given then arguments.given.erase .format
    else arguments.given ++ [.format]
  | _ => arguments.given

/-- The mistake at a name that no switch has. -/
def unknownName (arguments : Arguments) (name : String) : Mistake :=
  let given := arguments.counted
  .unknownName name (!arguments.hasInput && given.isEmpty) given

/-- Switches something on. -/
def switchOn (arguments : Arguments) (switch : Switch) : Except Mistake Arguments := do
  (← arguments.settle).mark switch

/-- Chooses a format with a value that is in the same argument. -/
def choose (arguments : Arguments) (value : String) : Except Mistake Arguments := do
  (← arguments.settle).setFormat value

/-- Lets a format be chosen with the next argument. -/
def awaitFormat (arguments : Arguments) : Except Mistake Arguments := do
  return { (← arguments.settle) with waiting := some (.format none) }

/-- Takes an input file, of which there is one. -/
def take (arguments : Arguments) (input : String) : Except Mistake Arguments := do
  if arguments.hasInput then throw (.extraInput input)
  return { (← arguments.settle) with waiting := some (.input input) }

/-- Takes an argument that is not a switch: a format if one is missing, or else an input file. -/
def receive (arguments : Arguments) (value : String) : Except Mistake Arguments :=
  match arguments.waiting with
  | some (.format none) => .ok { arguments with waiting := some (.format (some value)) }
  | _ => arguments.take value

/-- What the arguments ask for once all of them are read. -/
def intent (arguments : Arguments) : Except Mistake Intent := do
  let arguments ← arguments.settle
  match arguments.input with
  | some input => return .compile input (arguments.format.getD .pretty) arguments.given
  | none => throw (.noInput arguments.given)

end Arguments

/-- What an argument is by its form. -/
inductive Shape
  /-- Two dashes alone. -/
  | separator
  /-- Two dashes and a name, which a value may follow behind an equals sign. -/
  | named (name : String) (value? : Option String)
  /-- A dash and letters. -/
  | letters (letters : List Char)
  /-- Anything else. -/
  | value

/-- The form of an argument. -/
def shape (argument : String) : Shape :=
  match argument.toList with
  | ['-', '-'] => .separator
  | '-' :: '-' :: rest =>
    let name := String.ofList (rest.takeWhile (· ≠ '='))
    match rest.dropWhile (· ≠ '=') with
    | [] => .named name none
    | _ :: value => .named name (some (String.ofList value))
  | '-' :: letter :: letters => .letters (letter :: letters)
  | _ => .value

/-- What reading an argument leads to. -/
inductive Progress
  | more (arguments : Arguments)
  /-- The rest of the arguments does not matter. -/
  | done (intent : Intent)

/-- Reads a name behind two dashes, and the value that may come with it. -/
def readName (arguments : Arguments) (name : String) (value? : Option String) :
    Except Mistake Progress := do
  match Switch.ofName? name, value? with
  | none, _ => throw (arguments.unknownName name)
  | some .format, some value => return .more (← arguments.choose value)
  | some .format, none => return .more (← arguments.awaitFormat)
  | some switch, some value => throw (.unexpectedValue switch value arguments.isFresh)
  | some .help, none => let _ ← arguments.settle; return .done (.help true)
  | some .version, none => let _ ← arguments.settle; return .done .version
  | some switch, none => return .more (← arguments.switchOn switch)

/-- Reads letters behind a dash. -/
def readLetters (arguments : Arguments) : List Char → Except Mistake Progress
  | [] => return .more arguments
  | letter :: rest => do
    match Switch.ofLetter? letter, rest with
    | none, _ => throw (.unknownLetter letter)
    | some .format, [] => return .more (← arguments.awaitFormat)
    | some .format, '=' :: value => return .more (← arguments.choose (String.ofList value))
    | some .format, value => return .more (← arguments.choose (String.ofList value))
    | some .help, _ => let _ ← arguments.settle; return .done (.help false)
    | some .version, _ => let _ ← arguments.settle; return .done .version
    | some switch, _ => readLetters (← arguments.switchOn switch) rest

/-- Reads the arguments behind two dashes. -/
def readInputs (arguments : Arguments) : List String → Except Mistake Intent
  | [] => arguments.intent
  | input :: rest => do readInputs (← arguments.take input) rest

/-- Reads arguments behind others. -/
def readFrom (arguments : Arguments) : List String → Except Mistake Intent
  | [] => arguments.intent
  | argument :: rest => do
    let progress ← match shape argument with
      | .separator => return (← readInputs arguments rest)
      | .value => pure (.more (← arguments.receive argument))
      | .named name value? => readName arguments name value?
      | .letters letters => readLetters arguments letters
    match progress with
    | .done intent => return intent
    | .more arguments => readFrom arguments rest

/-- Reads arguments. -/
def read (arguments : List String) : Except Mistake Intent :=
  readFrom .empty arguments

end ArrowScript.CommandLine
