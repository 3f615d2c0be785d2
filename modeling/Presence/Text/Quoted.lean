import Presence.Text.Visible

/-!
Quoted texts in messages: the text between double quotes, with escapes for the characters that are
not visible.
-/

namespace Presence.Text

/-- A number in hexadecimal, lowercase, without leading zeros. -/
def hexDigits (n : Nat) : String :=
  String.ofList (Nat.toDigits 16 n)

/-- One character inside the quotes. -/
def quotedChar (c : Char) : String :=
  if c = '\x00' then "\\0"
  else if c = '\t' then "\\t"
  else if c = '\r' then "\\r"
  else if c = '\n' then "\\n"
  else if c = '"' then "\\\""
  else if c = '\\' then "\\\\"
  else if isVisible c then c.toString
  else "\\u" ++ "\x7b" ++ hexDigits c.toNat ++ "\x7d"

/-- The text in quotes. -/
def quoted (s : String) : String :=
  "\"" ++ String.join (s.toList.map quotedChar) ++ "\""

end Presence.Text
