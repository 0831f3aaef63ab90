import ArrowScript.Text.Quoted

/-!
# Forms

A form is a value as it is shown in a dump: a word, a record with named fields, a tuple or a list.
It is laid out either on one line or with every part on a line of its own, which is indented by four
columns more than what it belongs to and ended by a comma.
-/

namespace ArrowScript.Dump

mutual

/-- A value as it is shown. -/
inductive Form
  | word (text : String)
  | record (name : String) (fields : List Field)
  | tuple (name : String) (parts : List Form)
  | list (elements : List Form)

/-- A part of a record. -/
structure Field where
  name : String
  value : Form

end

/-- Where the parts of a form are put: one behind the other, or on lines of their own at a depth. -/
inductive Layout
  | inline
  | lines (depth : Nat)

namespace Layout

/-- The layout of the parts of what is laid out in another. -/
def deeper : Layout → Layout
  | inline => inline
  | lines depth => lines (depth + 1)

/-- A new line at a depth. -/
def newLine (depth : Nat) : String :=
  "\n" ++ String.ofList (List.replicate (4 * depth) ' ')

/-- Puts parts, laid out in the deeper layout, between brackets. `pad` comes inside the brackets when
everything is on one line. -/
def enclose (layout : Layout) (opening closing pad : String) (parts : List String) : String :=
  match layout with
  | inline => opening ++ pad ++ ", ".intercalate parts ++ pad ++ closing
  | lines depth =>
    let indented := parts.map fun part => newLine (depth + 1) ++ part ++ ","
    opening ++ String.join indented ++ newLine depth ++ closing

end Layout

mutual

/-- The text of a form in a layout. -/
def Form.text (layout : Layout) : Form → String
  | .word text => text
  | .record name fields =>
    layout.enclose (name ++ " \x7b") "\x7d" " " (fieldTexts layout.deeper fields)
  | .tuple name parts => layout.enclose (name ++ "(") ")" "" (formTexts layout.deeper parts)
  | .list [] => "[]"
  | .list (first :: rest) =>
    layout.enclose "[" "]" "" (first.text layout.deeper :: formTexts layout.deeper rest)

/-- The texts of some forms in a layout. -/
def formTexts (layout : Layout) : List Form → List String
  | [] => []
  | form :: rest => form.text layout :: formTexts layout rest

/-- The texts of some fields in a layout. -/
def fieldTexts (layout : Layout) : List Field → List String
  | [] => []
  | ⟨name, value⟩ :: rest => (name ++ ": " ++ value.text layout) :: fieldTexts layout rest

end

/-- The text of a form on one line. -/
def Form.inline (form : Form) : String :=
  form.text .inline

/-- The text of a form with every part on a line of its own. -/
def Form.indented (form : Form) : String :=
  form.text (.lines 0)

namespace Form

/-- A number. -/
def number (value : Nat) : Form :=
  word (toString value)

/-- A truth value. -/
def truth (value : Bool) : Form :=
  word (if value then "true" else "false")

/-- A quoted text. -/
def quoted (text : String) : Form :=
  word (Text.quote text)

/-- A value that may be absent. -/
def optional : Option Form → Form
  | none => word "None"
  | some form => tuple "Some" [form]

end Form

end ArrowScript.Dump
