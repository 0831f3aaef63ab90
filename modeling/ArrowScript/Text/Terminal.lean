/-!
# Text for a terminal

Some characters steer a terminal instead of showing on it: controls, and what follows an escape character.
They are left out of text that is not written to a terminal. White space stays.
-/

namespace ArrowScript.Text

/-- What a character belongs to. -/
inductive Stretch
  /-- Text that is shown. -/
  | shown
  /-- What follows an escape character. -/
  | escape
  /-- The rest of an escape sequence of several characters. -/
  | escapeRest
  /-- A control sequence, which ends with a letter. -/
  | sequence
  /-- A command to the system, which ends with a bell. -/
  | command
  /-- A string for a device, which ends with a terminator. -/
  | device

/-- Whether a control moves to another column or line. -/
def isBlankControl (c : Char) : Bool :=
  c = '\t' || c = '\n' || c = '\x0c' || c = '\r'

/-- What a printable character behind an escape character starts. -/
def Stretch.startedBy : Char → Stretch
  | '[' => sequence
  | ']' => command
  | 'P' | 'X' | '^' | '_' => device
  | c => if c < '0' then escapeRest else shown

/-- What the next character belongs to after a character in a stretch, and whether the character shows. -/
def Stretch.next (stretch : Stretch) (c : Char) : Stretch × Bool :=
  let ascii := ' ' ≤ c && c ≤ '~'
  if c = '\x1b' then (escape, false)
  else if c = '\x18' || c = '\x1a' then (shown, false)
  else match stretch with
    | shown => (shown, isBlankControl c || ' ' ≤ c && c ≠ '\x7f')
    | command => (if c = '\x07' then shown else command, false)
    | device => (if c = '\u009c' then shown else device, false)
    | escape =>
      if isBlankControl c then (shown, true)
      else (if ascii then startedBy c else escape, false)
    | escapeRest =>
      if isBlankControl c then (shown, true)
      else (if ascii && '0' ≤ c then shown else escapeRest, false)
    | sequence =>
      if isBlankControl c then (shown, true)
      else (if ascii && '@' ≤ c then shown else sequence, false)

/-- The characters that show, from a stretch on. -/
def shownFrom : Stretch → List Char → List Char
  | _, [] => []
  | stretch, c :: rest =>
    let (next, shows) := stretch.next c
    if shows then c :: shownFrom next rest else shownFrom next rest

/-- A text without what steers a terminal. -/
def withoutSteering (text : String) : String :=
  String.ofList (shownFrom .shown text.toList)

end ArrowScript.Text
