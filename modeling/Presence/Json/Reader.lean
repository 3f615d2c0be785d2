import Presence.Json.Value

/-!
A JSON reader from left to right. Every reader takes the remaining text and returns a value with the
text after it, or the first fault: the text ended, or a character is not allowed. Nesting is bounded
by `depth`.
-/

namespace Presence.Json

/-- Faults of a reader. -/
inductive Fault
  | ended
  | malformed
deriving DecidableEq, Repr

/-- The four blanks of JSON. -/
def isSpace (c : Char) : Bool :=
  c = ' ' || c = '\t' || c = '\n' || c = '\r'

def skipSpaces (cs : List Char) : List Char :=
  cs.dropWhile isSpace

/-- The rest of a fixed word. -/
def word : List Char → List Char → Except Fault (List Char)
  | [], rest => .ok rest
  | _ :: _, [] => .error .ended
  | w :: ws, c :: rest => if w = c then word ws rest else .error .malformed

/-! ### Strings -/

def hexValue? (c : Char) : Option Nat :=
  if '0' ≤ c ∧ c ≤ '9' then some (c.toNat - '0'.toNat)
  else if 'a' ≤ c ∧ c ≤ 'f' then some (c.toNat - 'a'.toNat + 10)
  else if 'A' ≤ c ∧ c ≤ 'F' then some (c.toNat - 'A'.toNat + 10)
  else none

/-- The four digits of a `\u` escape. All four must be present before any is checked; the remaining
length is measured in bytes. -/
def hexUnit (cs : List Char) : Except Fault (Nat × List Char) :=
  match cs with
  | a :: b :: c :: d :: rest =>
    match hexValue? a, hexValue? b, hexValue? c, hexValue? d with
    | some a, some b, some c, some d => .ok (((a * 16 + b) * 16 + c) * 16 + d, rest)
    | _, _, _, _ => .error .malformed
  | short => if (String.ofList short).utf8ByteSize < 4 then .error .ended else .error .malformed

/-- The second escape of a surrogate pair. -/
def lowSurrogate (high : Nat) (cs : List Char) : Except Fault (Char × List Char) :=
  match cs with
  | [] => .error .ended
  | '\\' :: [] => .error .ended
  | '\\' :: 'u' :: rest => do
    let (low, rest) ← hexUnit rest
    if 0xdc00 ≤ low ∧ low ≤ 0xdfff then
      .ok (Char.ofNat (0x10000 + (high - 0xd800) * 0x400 + (low - 0xdc00)), rest)
    else
      .error .malformed
  | _ => .error .malformed

/-- The character of an escape, after its backslash. -/
def escaped (cs : List Char) : Except Fault (Char × List Char) :=
  match cs with
  | [] => .error .ended
  | '"' :: rest => .ok ('"', rest)
  | '\\' :: rest => .ok ('\\', rest)
  | '/' :: rest => .ok ('/', rest)
  | 'b' :: rest => .ok ('\x08', rest)
  | 'f' :: rest => .ok ('\x0c', rest)
  | 'n' :: rest => .ok ('\n', rest)
  | 'r' :: rest => .ok ('\r', rest)
  | 't' :: rest => .ok ('\t', rest)
  | 'u' :: rest => do
    let (unit, rest) ← hexUnit rest
    if 0xdc00 ≤ unit ∧ unit ≤ 0xdfff then .error .malformed
    else if 0xd800 ≤ unit ∧ unit ≤ 0xdbff then lowSurrogate unit rest
    else .ok (Char.ofNat unit, rest)
  | _ => .error .malformed

/-- The characters of a string up to its closing quote. Each takes at least one character of the
text, so `fuel` of at least the text's length is never used up. -/
def stringChars : (fuel : Nat) → List Char → Except Fault (List Char × List Char)
  | 0, _ => .error .ended
  | _ + 1, [] => .error .ended
  | fuel + 1, c :: rest =>
    if c = '"' then .ok ([], rest)
    else if c = '\\' then do
      let (c, rest) ← escaped rest
      let (cs, rest) ← stringChars fuel rest
      .ok (c :: cs, rest)
    else if c.toNat < 0x20 then .error .malformed
    else do
      let (cs, rest) ← stringChars fuel rest
      .ok (c :: cs, rest)

/-- A string, after its opening quote. -/
def stringTail (cs : List Char) : Except Fault (String × List Char) := do
  let (content, rest) ← stringChars (cs.length + 1) cs
  .ok (String.ofList content, rest)

/-! ### Numbers -/

/-- At least one digit, and all that follow. -/
def digits (cs : List Char) : Except Fault (List Char × List Char) :=
  match cs with
  | [] => .error .ended
  | c :: _ =>
    if isDigit c then .ok (cs.takeWhile isDigit, cs.dropWhile isDigit) else .error .malformed

/-- The digits before the point, without leading zeros. -/
def wholePart (cs : List Char) : Except Fault (List Char × List Char) := do
  let (ds, rest) ← digits cs
  match ds with
  | '0' :: _ :: _ => .error .malformed
  | _ => .ok (ds, rest)

/-- The digits after the point, if any. -/
def fractionPart (cs : List Char) : Except Fault (Option (List Char) × List Char) :=
  match cs with
  | '.' :: rest => do
    let (ds, rest) ← digits rest
    .ok (some ds, rest)
  | _ => .ok (none, cs)

/-- The power of ten, if any. -/
def exponentPart (cs : List Char) : Except Fault (Option Int × List Char) :=
  match cs with
  | c :: rest =>
    if c = 'e' || c = 'E' then
      match rest with
      | '-' :: rest => do
        let (ds, rest) ← digits rest
        .ok (some (-(digitsValue ds : Int)), rest)
      | '+' :: rest => do
        let (ds, rest) ← digits rest
        .ok (some (digitsValue ds : Int), rest)
      | rest => do
        let (ds, rest) ← digits rest
        .ok (some (digitsValue ds : Int), rest)
    else .ok (none, cs)
  | [] => .ok (none, [])

/-- A number without its sign. -/
def unsigned (negative : Bool) (cs : List Char) : Except Fault (Number × List Char) := do
  let (whole, rest) ← wholePart cs
  let (fraction, rest) ← fractionPart rest
  let (exponent, rest) ← exponentPart rest
  let n := Number.ofParts negative whole fraction exponent
  if n.isFinite then .ok (n, rest) else .error .malformed

/-- A number. -/
def number (cs : List Char) : Except Fault (Number × List Char) :=
  match cs with
  | '-' :: rest => unsigned true rest
  | _ => unsigned false cs

/-! ### Values -/

/-- A value other than a list or an object. -/
def scalar (cs : List Char) : Except Fault (Value × List Char) :=
  match cs with
  | [] => .error .ended
  | 'n' :: rest => return (.null, ← word "ull".toList rest)
  | 't' :: rest => return (.bool true, ← word "rue".toList rest)
  | 'f' :: rest => return (.bool false, ← word "alse".toList rest)
  | '"' :: rest => do
    let (s, rest) ← stringTail rest
    .ok (.string s, rest)
  | c :: _ =>
    if c = '-' || isDigit c then do
      let (n, rest) ← number cs
      .ok (.number n, rest)
    else .error .malformed

/-- The items after the first one, up to the closing bracket. Each takes a comma of the text, so
`fuel` above the text's length is never used up. -/
def moreItems {α : Type} (close : Char) (item : List Char → Except Fault (α × List Char)) :
    (fuel : Nat) → List Char → Except Fault (List α × List Char)
  | 0, _ => .error .ended
  | fuel + 1, cs =>
    match skipSpaces cs with
    | [] => .error .ended
    | c :: rest =>
      if c = close then .ok ([], rest)
      else if c = ',' then do
        let (a, rest) ← item (skipSpaces rest)
        let (as, rest) ← moreItems close item fuel rest
        .ok (a :: as, rest)
      else .error .malformed

/-- The items between brackets, after the opening one. -/
def items {α : Type} (close : Char) (item : List Char → Except Fault (α × List Char))
    (cs : List Char) : Except Fault (List α × List Char) :=
  match skipSpaces cs with
  | [] => .error .ended
  | c :: rest =>
    if c = close then .ok ([], rest)
    else do
      let (a, rest) ← item (c :: rest)
      let (as, rest) ← moreItems close item (rest.length + 1) rest
      .ok (a :: as, rest)

/-- A member's key. -/
def key (cs : List Char) : Except Fault (String × List Char) :=
  match cs with
  | [] => .error .ended
  | '"' :: rest => stringTail rest
  | _ => .error .malformed

/-- The colon after a key. -/
def colon (cs : List Char) : Except Fault (List Char) :=
  match skipSpaces cs with
  | [] => .error .ended
  | ':' :: rest => .ok (skipSpaces rest)
  | _ => .error .malformed

/-- One member of an object. -/
def member {α : Type} (item : List Char → Except Fault (α × List Char)) (cs : List Char) :
    Except Fault ((String × α) × List Char) := do
  let (k, rest) ← key cs
  let rest ← colon rest
  let (a, rest) ← item rest
  .ok ((k, a), rest)

/-- A value with at most `depth` nested brackets. -/
def value : (depth : Nat) → List Char → Except Fault (Value × List Char)
  | depth, cs =>
    match cs with
    | '[' :: rest =>
      match depth with
      | 0 => .error .malformed
      | depth + 1 => do
        let (as, rest) ← items ']' (value depth) rest
        .ok (.array as, rest)
    | '{' :: rest =>
      match depth with
      | 0 => .error .malformed
      | depth + 1 => do
        let (as, rest) ← items '}' (member (value depth)) rest
        .ok (.object as, rest)
    | cs => scalar cs

/-- The bound on nested brackets in a whole text. -/
def maxDepth : Nat := 127

/-- The end of the text, after blanks. -/
def finish (cs : List Char) : Except Fault Unit :=
  if (skipSpaces cs).isEmpty then .ok () else .error .malformed

/-- The value of a whole text. -/
def read (text : String) : Except Fault Value := do
  let (v, rest) ← value maxDepth (skipSpaces text.toList)
  finish rest
  .ok v

end Presence.Json
