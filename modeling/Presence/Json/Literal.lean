/-!
Strings as JSON literals. Each character is encoded independently: the quote, the backslash and the
controls below U+0020 as escapes, all others unchanged.
-/

namespace Presence.Json

/-- A digit of a `\u` escape, lowercase. -/
def hexDigit (n : Nat) : Char :=
  if n < 10 then Char.ofNat ('0'.toNat + n) else Char.ofNat ('a'.toNat + (n - 10))

/-- One character of a literal. -/
def escape (c : Char) : List Char :=
  if c = '"' then ['\\', '"']
  else if c = '\\' then ['\\', '\\']
  else if c = '\x08' then ['\\', 'b']
  else if c = '\x0c' then ['\\', 'f']
  else if c = '\n' then ['\\', 'n']
  else if c = '\r' then ['\\', 'r']
  else if c = '\t' then ['\\', 't']
  else if c.toNat < 0x20 then
    ['\\', 'u', '0', '0', hexDigit (c.toNat / 16), hexDigit (c.toNat % 16)]
  else [c]

/-- The literal of a text, its quotes included. -/
def literalChars (cs : List Char) : List Char :=
  '"' :: cs.flatMap escape ++ ['"']

/-- The literal of a string. -/
def literal (s : String) : String :=
  String.ofList (literalChars s.toList)

end Presence.Json
