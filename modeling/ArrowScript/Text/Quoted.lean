import ArrowScript.Text.Invisible

/-!
# Quoted texts

A quoted text stands between quotes. Quotes and backslashes inside are led by a backslash, the common
controls have a letter behind a backslash, and other invisible characters are given by the hexadecimal
digits of their code point in braces.
-/

namespace ArrowScript.Text

/-- A character given by its code point. -/
def codePoint (c : Char) : List Char :=
  ['\\', 'u', '\x7b'] ++ Nat.toDigits 16 c.toNat ++ ['\x7d']

/-- A character as it stands between quotes. -/
def escape (c : Char) : List Char :=
  if c = '\x00' then ['\\', '0']
  else if c = '\t' then ['\\', 't']
  else if c = '\r' then ['\\', 'r']
  else if c = '\n' then ['\\', 'n']
  else if c = '\\' || c = '"' then ['\\', c]
  else if isInvisible c then codePoint c
  else [c]

/-- A text between quotes. -/
def quote (text : String) : String :=
  String.ofList ('"' :: text.toList.flatMap escape ++ ['"'])

end ArrowScript.Text
