import Presence.Toml.Document

/-!
A TOML reader from left to right. A reader takes the remaining text and returns a value with the
text after it, or a fault: its position as the number of characters left, and its message. A final
fault excludes the alternatives of what was being read.
-/

namespace Presence.Toml

/-- Faults of a reader. -/
structure Fault where
  left : Nat
  /-- The production that was being read. -/
  label : Option String := none
  /-- The characters or productions expected. -/
  expected : List String := []
  reason : Option String := none
  final : Bool := false
deriving Repr

/-- The message of a fault. -/
def Fault.message (f : Fault) : String :=
  let label := (f.label.map fun l => "invalid " ++ l).toList
  let expected := if f.expected.isEmpty then [] else ["expected " ++ ", ".intercalate f.expected]
  "\n".intercalate (label ++ expected ++ f.reason.toList)

/-- A fault without a cause. -/
def miss {α : Type} (cs : List Char) : Except Fault α := .error { left := cs.length }

/-- A fault with a cause. -/
def refuse {α : Type} (cs : List Char) (reason : String) : Except Fault α :=
  .error { left := cs.length, reason := some reason }

/-- Makes a fault final. -/
def insist {α : Type} (r : Except Fault α) : Except Fault α :=
  r.mapError fun f => { f with final := true }

/-- Labels a fault, unless it has a label. -/
def named {α : Type} (label : String) (r : Except Fault α) : Except Fault α :=
  r.mapError fun f => { f with label := f.label <|> some label }

/-- Adds what was expected to a fault. -/
def wanting {α : Type} (what : List String) (r : Except Fault α) : Except Fault α :=
  r.mapError fun f => { f with expected := f.expected ++ what }

/-- The second reader, if the first fails with a fault that is not final. -/
def orElse {α : Type} (r other : Except Fault α) : Except Fault α :=
  match r with
  | .ok a => .ok a
  | .error f => if f.final then .error f else other

/-- A text between marks, as in messages. -/
def shown (s : String) : String := "\x60" ++ s ++ "\x60"

/-! ### Blanks, comments and line ends -/

def isSpace (c : Char) : Bool := c = ' ' || c = '\t'

def skipSpaces (cs : List Char) : List Char := cs.dropWhile isSpace

/-- Characters of comments and strings. -/
def isPlain (c : Char) : Bool := c = '\t' || (0x20 ≤ c.toNat && c.toNat ≠ 0x7f)

/-- Drops a comment. -/
def skipComment (cs : List Char) : List Char :=
  match cs with
  | '#' :: rest => rest.dropWhile isPlain
  | _ => cs

/-- A line break. -/
def lineBreak? (cs : List Char) : Option (List Char) :=
  match cs with
  | '\n' :: rest => some rest
  | '\r' :: '\n' :: rest => some rest
  | _ => none

/-- The end of a line: a line break or the end of the text. -/
def lineEnd (cs : List Char) : Except Fault (List Char) :=
  if cs.isEmpty then .ok []
  else
    match lineBreak? cs with
    | some rest => .ok rest
    | none => miss cs

/-- The rest of a line after a definition. -/
def restOfLine (cs : List Char) : Except Fault (List Char) :=
  wanting ["newline", shown "#"] (lineEnd (skipComment (skipSpaces cs)))

/-- Skips blanks, comments and line breaks on at most `fuel` lines. -/
def skipLines : (fuel : Nat) → List Char → List Char
  | 0, cs => cs
  | fuel + 1, cs =>
    let rest := skipComment (skipSpaces cs)
    match lineBreak? rest with
    | some rest => skipLines fuel rest
    | none => rest

/-- Skips all blanks, comments and line breaks. -/
def skipAll (cs : List Char) : List Char := skipLines (cs.length + 1) cs

/-! ### Strings -/

def hexValue? (c : Char) : Option Nat :=
  if '0' ≤ c ∧ c ≤ '9' then some (c.toNat - '0'.toNat)
  else if 'a' ≤ c ∧ c ≤ 'f' then some (c.toNat - 'a'.toNat + 10)
  else if 'A' ≤ c ∧ c ≤ 'F' then some (c.toNat - 'A'.toNat + 10)
  else none

/-- The number denoted by digits of a base. -/
def valueIn (base : Nat) (ds : List Char) : Nat :=
  ds.foldl (fun n d => n * base + (hexValue? d).getD 0) 0

def outOfRange : String := "value is out of range"

/-- A character given by hexadecimal digits. -/
def unicode (count : Nat) (cs : List Char) : Except Fault (Char × List Char) :=
  let ds := (cs.take count).takeWhile fun c => (hexValue? c).isSome
  let n := valueIn 16 ds
  insist (named ("unicode " ++ toString count ++ "-digit hex code")
    (if ds.length < count then miss cs
     else if n.isValidChar then .ok (Char.ofNat n, cs.drop count)
     else refuse cs outOfRange))

/-- The letters after a backslash. -/
def escapes : List String := ["b", "f", "n", "r", "t", "u", "U", "\\", "\""]

/-- The character of an escape, after its backslash. -/
def escaped (cs : List Char) : Except Fault (Char × List Char) :=
  match cs with
  | 'b' :: rest => .ok ('\x08', rest)
  | 'f' :: rest => .ok ('\x0c', rest)
  | 'n' :: rest => .ok ('\n', rest)
  | 'r' :: rest => .ok ('\r', rest)
  | 't' :: rest => .ok ('\t', rest)
  | '\\' :: rest => .ok ('\\', rest)
  | '"' :: rest => .ok ('"', rest)
  | 'u' :: rest => unicode 4 rest
  | 'U' :: rest => unicode 8 rest
  | c :: rest =>
    -- The fault lies behind the letter, where that is one byte.
    insist (named "escape sequence" (wanting (escapes.map shown)
      (miss (if c.toNat < 0x80 then rest else cs))))
  | [] => miss cs

/-- The characters of a string on one line, after its opening quote. -/
def basicChars : (fuel : Nat) → List Char → Except Fault (List Char × List Char)
  | 0, cs => miss cs
  | fuel + 1, cs =>
    match cs with
    | '"' :: rest => .ok ([], rest)
    | '\\' :: rest =>
      if rest.isEmpty then miss cs
      else do
        let (c, rest) ← escaped rest
        let (s, rest) ← basicChars fuel rest
        .ok (c :: s, rest)
    | c :: rest =>
      if isPlain c then do
        let (s, rest) ← basicChars fuel rest
        .ok (c :: s, rest)
      else miss cs
    | [] => miss cs

/-- A string on one line, after its opening quote. -/
def basicString (cs : List Char) : Except Fault (List Char × List Char) :=
  insist (named "basic string" (basicChars (cs.length + 1) cs))

/-- A literal string on one line, after its opening quote. -/
def literalString (cs : List Char) : Except Fault (List Char × List Char) :=
  let isInside (c : Char) : Bool := isPlain c && c ≠ '\''
  match cs.dropWhile isInside with
  | '\'' :: rest => .ok (cs.takeWhile isInside, rest)
  | rest => insist (named "literal string" (miss rest))

/-- The closing quotes of a string of several lines: of five quotes up to two belong to the
string. -/
def closing? (quote : Char) (cs : List Char) : Option (List Char × List Char) :=
  let n := min (cs.takeWhile (· = quote)).length 5
  if 3 ≤ n then some (List.replicate (n - 3) quote, cs.drop n) else none

/-- Whether a string of several lines can continue here. -/
def goesOn (cs : List Char) : Bool :=
  match cs with
  | [] => false
  | c :: _ => isPlain c || (lineBreak? cs).isSome

/-- Blanks and line breaks after a backslash at the end of a line. -/
def skipContinuation (cs : List Char) : List Char :=
  cs.dropWhile fun c => isSpace c || c = '\n' || c = '\r'

/-- The characters of a string of several lines, after its opening quotes. -/
def longChars (quote : Char) (withEscapes : Bool) : (fuel : Nat) → List Char →
    Except Fault (List Char × List Char)
  | 0, cs => miss cs
  | fuel + 1, cs =>
    match closing? quote cs with
    | some (tail, rest) => .ok (tail, rest)
    | none =>
      match lineBreak? cs, cs with
      | some rest, _ => do
        let (s, rest) ← longChars quote withEscapes fuel rest
        .ok ('\n' :: s, rest)
      | none, [] => miss cs
      | none, c :: rest =>
        if c = quote && !goesOn (cs.dropWhile (· = quote)) then miss cs
        else if withEscapes && c = '\\' then
          if (lineBreak? (skipSpaces rest)).isSome then
            longChars quote withEscapes fuel (skipContinuation rest)
          else if rest.isEmpty then miss cs
          else do
            let (c, rest) ← escaped rest
            let (s, rest) ← longChars quote withEscapes fuel rest
            .ok (c :: s, rest)
        else if isPlain c then do
          let (s, rest) ← longChars quote withEscapes fuel rest
          .ok (c :: s, rest)
        else miss cs

/-- A string of several lines, after its opening quotes. A line break directly after them is
dropped. -/
def longString (quote : Char) (cs : List Char) : Except Fault (List Char × List Char) :=
  let cs := (lineBreak? cs).getD cs
  let label := if quote = '"' then "multiline basic string" else "multiline literal string"
  insist (named label (longChars quote (quote = '"') (cs.length + 1) cs))

/-- The fault where a value was expected. -/
def asString {α : Type} (r : Except Fault α) : Except Fault α :=
  named "string" (wanting [shown "\"", shown "'"] r)

/-- A string of any kind. -/
def string (cs : List Char) : Except Fault (String × List Char) := do
  let (s, rest) ← match cs with
    | '"' :: '"' :: '"' :: rest => longString '"' rest
    | '"' :: rest => basicString rest
    | '\'' :: '\'' :: '\'' :: rest => longString '\'' rest
    | '\'' :: rest => literalString rest
    | _ => asString (miss cs)
  .ok (String.ofList s, rest)

/-! ### Keys -/

def isKeyChar (c : Char) : Bool := c.isAlphanum || c = '-' || c = '_'

/-- A key without dots. -/
def simpleKey (cs : List Char) : Except Fault (String × List Char) :=
  match cs with
  | '"' :: rest => do
    let (s, rest) ← basicString rest
    .ok (String.ofList s, rest)
  | '\'' :: rest => do
    let (s, rest) ← literalString rest
    .ok (String.ofList s, rest)
  | _ =>
    if (cs.takeWhile isKeyChar).isEmpty then miss cs
    else .ok (String.ofList (cs.takeWhile isKeyChar), cs.dropWhile isKeyChar)

/-- Keys between dots, and the blanks after them. A dot without a key after it is left unread. -/
def keyParts : (fuel : Nat) → List Char → Except Fault (List String × List Char)
  | 0, cs => miss cs
  | fuel + 1, cs => do
    let (k, rest) ← simpleKey (skipSpaces cs)
    let rest := skipSpaces rest
    match rest with
    | '.' :: more =>
      orElse (do
        let (ks, rest) ← keyParts fuel more
        .ok (k :: ks, rest)) (.ok ([k], rest))
    | rest => .ok ([k], rest)

/-- The bound on nested arrays and tables, and on the parts of a key. -/
def maxDepth : Nat := 79

def tooDeep : String := "recursion limit exceeded"

/-- A key with dots, and the blanks after it. -/
def key (cs : List Char) : Except Fault (List String × List Char) := do
  let (ks, rest) ← named "key" (keyParts (cs.length + 1) cs)
  if maxDepth < ks.length then refuse cs tooDeep else .ok (ks, rest)

/-! ### Numbers, dates and times -/

def isDigit (c : Char) : Bool := '0' ≤ c && c ≤ '9'

def digitsValue (ds : List Char) : Nat :=
  ds.foldl (fun n d => n * 10 + (d.toNat - '0'.toNat)) 0

/-- Digits with single underscores between them. -/
def digitRun (isDigit : Char → Bool) : List Char → Except Fault (List Char × List Char)
  | [] => .ok ([], [])
  | c :: rest =>
    if c = '_' then
      match rest with
      | d :: more =>
        if isDigit d then do
          let (ds, rest) ← digitRun isDigit more
          .ok (d :: ds, rest)
        else wanting ["digit"] (insist (miss rest))
      | [] => wanting ["digit"] (insist (miss rest))
    else if isDigit c then do
      let (ds, rest) ← digitRun isDigit rest
      .ok (c :: ds, rest)
    else .ok ([], c :: rest)

/-- At least one digit, then digits with single underscores between them. -/
def digits (isDigit : Char → Bool) (cs : List Char) : Except Fault (List Char × List Char) :=
  match cs with
  | c :: rest =>
    if isDigit c then do
      let (ds, rest) ← digitRun isDigit rest
      .ok (c :: ds, rest)
    else miss cs
  | [] => miss cs

/-- A sign, if there is one. -/
def sign (cs : List Char) : Bool × List Char :=
  match cs with
  | '-' :: rest => (true, rest)
  | '+' :: rest => (false, rest)
  | _ => (false, cs)

/-- A sign and whole digits without leading zeros. -/
def signedDigits (cs : List Char) : Except Fault ((Bool × List Char) × List Char) :=
  let (negative, rest) := sign cs
  named "integer" (match rest with
    | '0' :: rest => .ok ((negative, ['0']), rest)
    | _ => do
      let (ds, rest) ← digits isDigit rest
      .ok ((negative, ds), rest))

/-- A power of ten. -/
def power (cs : List Char) : Except Fault (Int × List Char) :=
  match cs with
  | c :: rest =>
    if c = 'e' || c = 'E' then do
      let (negative, rest) := sign rest
      let (ds, rest) ← insist (digits isDigit rest)
      let n : Int := digitsValue ds
      .ok (if negative then -n else n, rest)
    else miss cs
  | [] => miss cs

/-- Digits after a point. -/
def places (cs : List Char) : Except Fault (List Char × List Char) :=
  match cs with
  | '.' :: rest => wanting ["digit"] (insist (digits isDigit rest))
  | _ => miss cs

/-- The part of a decimal after its whole digits: places, a power of ten, or both. -/
def decimalRest (cs : List Char) : Except Fault ((List Char × Int) × List Char) :=
  orElse (do
    let (p, rest) ← power cs
    .ok (([], p), rest)) (do
    let (ds, rest) ← places cs
    orElse (do
      let (p, rest) ← power rest
      .ok ((ds, p), rest)) (.ok ((ds, 0), rest)))

/-- A number with a point or a power of ten. Positive infinity is rejected. -/
def decimal (cs : List Char) : Except Fault (Double × List Char) := do
  let ((negative, whole), rest) ← signedDigits cs
  let ((fraction, p), rest) ← decimalRest rest
  let places : Int := fraction.length
  let x := Double.ofDecimal ⟨negative, digitsValue (whole ++ fraction), p - places⟩
  if x.isFinite || negative then .ok (x, rest) else insist (miss cs)

/-- The words for infinity and NaN. -/
def notANumber (cs : List Char) : Except Fault (Double × List Char) :=
  let (negative, rest) := sign cs
  match rest with
  | 'i' :: 'n' :: 'f' :: rest => .ok (.infinite negative, rest)
  | 'n' :: 'a' :: 'n' :: rest => .ok (.undefined, rest)
  | _ => miss rest

def float (cs : List Char) : Except Fault (Double × List Char) :=
  named "floating-point number" (orElse (decimal cs) (notANumber cs))

/-- Rejects a whole number beyond 64 bits. -/
def withinRange (start : List Char) (n : Int) (rest : List Char) :
    Except Fault (Int × List Char) :=
  if 0x8000000000000000 ≤ n then insist (refuse start "number too large to fit in target type")
  else if n < -0x8000000000000000 then insist (refuse start "number too small to fit in target type")
  else .ok (n, rest)

/-- A whole number in another base, after its mark. -/
def based (label : String) (base : Nat) (isDigit : Char → Bool) (start cs : List Char) :
    Except Fault (Int × List Char) := do
  let (ds, rest) ← insist (named label (digits isDigit cs))
  withinRange start (valueIn base ds) rest

/-- A whole number within 64 bits. -/
def integer (cs : List Char) : Except Fault (Int × List Char) :=
  match cs with
  | '0' :: 'x' :: rest => based "hexadecimal integer" 16 (fun c => (hexValue? c).isSome) cs rest
  | '0' :: 'o' :: rest => based "octal integer" 8 (fun c => '0' ≤ c && c ≤ '7') cs rest
  | '0' :: 'b' :: rest => based "binary integer" 2 (fun c => c = '0' || c = '1') cs rest
  | _ => do
    let ((negative, ds), rest) ← signedDigits cs
    let n : Int := digitsValue ds
    withinRange cs (if negative then -n else n) rest

/-- A number of fixed width, within bounds. -/
def field (count low high : Nat) (cs : List Char) : Except Fault (List Char × List Char) :=
  let ds := cs.take count
  if ds.length = count ∧ ds.all isDigit = true then
    if low ≤ digitsValue ds ∧ digitsValue ds ≤ high then .ok (ds, cs.drop count)
    else refuse cs outOfRange
  else miss cs

def mark (c : Char) (cs : List Char) : Except Fault (List Char) :=
  match cs with
  | d :: rest => if c = d then .ok rest else miss cs
  | [] => miss cs

/-- The number of days of a month. -/
def daysOf (year month : Nat) : Nat :=
  if month = 2 then
    if (year % 4 = 0 ∧ year % 100 ≠ 0) ∨ year % 400 = 0 then 29 else 28
  else if month = 4 ∨ month = 6 ∨ month = 9 ∨ month = 11 then 30
  else 31

def date (cs : List Char) : Except Fault (List Char × List Char) := do
  let (y, rest) ← field 4 0 9999 cs
  let rest ← mark '-' rest
  let (m, rest) ← insist (field 2 1 12 rest)
  let rest ← insist (mark '-' rest)
  let (d, rest) ← insist (field 2 1 (daysOf (digitsValue y) (digitsValue m)) rest)
  .ok (y ++ '-' :: m ++ '-' :: d, rest)

/-- The digits after the seconds: at most nine, trailing zeros dropped. -/
def secondParts (cs : List Char) : List Char × List Char :=
  match cs with
  | '.' :: rest =>
    let ds := rest.takeWhile isDigit
    if ds.isEmpty then ([], cs)
    else
      let kept := ((ds.take 9).reverse.dropWhile (· = '0')).reverse
      (if kept.isEmpty then [] else '.' :: kept, rest.dropWhile isDigit)
  | _ => ([], cs)

def time (cs : List Char) : Except Fault (List Char × List Char) := do
  let (h, rest) ← field 2 0 23 cs
  let rest ← mark ':' rest
  let (m, rest) ← insist (field 2 0 59 rest)
  let rest ← insist (mark ':' rest)
  let (s, rest) ← insist (field 2 0 60 rest)
  let (parts, rest) := secondParts rest
  .ok (h ++ ':' :: m ++ ':' :: s ++ parts, rest)

/-- The offset from UTC, if any. -/
def offset (cs : List Char) : Except Fault (List Char × List Char) :=
  named "time offset" (match cs with
    | 'Z' :: rest => .ok (['Z'], rest)
    | 'z' :: rest => .ok (['Z'], rest)
    | c :: rest =>
      if c = '+' || c = '-' then do
        let (h, rest) ← insist (field 2 0 23 rest)
        let rest ← insist (mark ':' rest)
        let (m, rest) ← insist (field 2 0 59 rest)
        .ok (c :: h ++ ':' :: m, rest)
      else .ok ([], cs)
    | [] => .ok ([], []))

/-- The time after a date, if any. -/
def timeOfDay (cs : List Char) : Except Fault (List Char × List Char) :=
  match cs with
  | c :: rest =>
    if c = 'T' || c = 't' || c = ' ' then
      orElse (do
        let (t, rest) ← time rest
        let (o, rest) ← offset rest
        .ok ('T' :: t ++ o, rest)) (.ok ([], cs))
    else .ok ([], cs)
  | [] => .ok ([], [])

/-- A date, a time, or both. -/
def moment (cs : List Char) : Except Fault (String × List Char) := do
  let (s, rest) ← orElse
    (named "date-time" do
      let (d, rest) ← date cs
      let (t, rest) ← timeOfDay rest
      .ok (d ++ t, rest))
    (named "time" (time cs))
  .ok (String.ofList s, rest)

/-- A number, a date or a time. -/
def numeric (cs : List Char) : Except Fault (Value × List Char) :=
  let asValue {α : Type} (f : α → Value) (r : Except Fault (α × List Char)) :
      Except Fault (Value × List Char) := do
    let (a, rest) ← r
    .ok (f a, rest)
  orElse (asValue .text (moment cs))
    (orElse (asValue .real (float cs)) (asValue .whole (integer cs)))

/-! ### Values -/

/-- The message of a conflict. -/
def Conflict.message : Conflict → String
  | .duplicate k none => "duplicate key " ++ shown k
  | .duplicate k (some []) => "duplicate key " ++ shown k ++ " in document root"
  | .duplicate k (some path) =>
    "duplicate key " ++ shown k ++ " in table " ++ shown (".".intercalate path)
  | .wrongType path type =>
    "dotted key " ++ shown (".".intercalate path) ++
      " attempted to extend non-table type (" ++ type ++ ")"

/-- A reader of values. -/
abbrev ValueReader := List Char → Except Fault (Value × List Char)

/-- The items of an array; stops before anything else, after any comma. -/
def arrayItems (item : ValueReader) : (fuel : Nat) → List Char →
    Except Fault (List Value × List Char)
  | 0, cs => .ok ([], cs)
  | fuel + 1, cs =>
    match item (skipAll cs) with
    | .error f => if f.final then .error f else .ok ([], cs)
    | .ok (v, rest) =>
      match skipAll rest with
      | ',' :: rest => do
        let (vs, rest) ← arrayItems item fuel rest
        .ok (v :: vs, rest)
      | rest => .ok ([v], rest)

/-- An array, after its opening bracket. -/
def array (item : ValueReader) (cs : List Char) : Except Fault (List Value × List Char) := do
  let (vs, rest) ← insist (arrayItems item (cs.length + 1) cs)
  match skipAll rest with
  | ']' :: rest => .ok (vs, rest)
  | rest => insist (named "array" (wanting [shown "]"] (miss rest)))

/-- A key with its value. -/
def keyValue (item : ValueReader) (cs : List Char) :
    Except Fault ((List String × Value) × List Char) := do
  let (k, rest) ← key cs
  match rest with
  | '=' :: rest => do
    let (v, rest) ← insist (item (skipSpaces rest))
    .ok ((k, v), skipSpaces rest)
  | rest => insist (wanting [shown ".", shown "="] (miss rest))

/-- The definitions of an inline table; stops before anything else, or before the comma in front of
it. -/
def inlineDefinitions (item : ValueReader) : (fuel : Nat) → List Char →
    Except Fault ((List (List String × Value)) × List Char)
  | 0, cs => .ok ([], cs)
  | fuel + 1, cs => do
    let (d, rest) ← keyValue item cs
    match rest with
    | ',' :: more =>
      orElse (do
        let (ds, rest) ← inlineDefinitions item fuel more
        .ok (d :: ds, rest)) (.ok ([d], rest))
    | rest => .ok ([d], rest)

/-- A node as a value of an inline table. -/
def Node.value : Node → Value
  | .leaf v => v
  | .table _ _ es => .table (es.attach.map fun ⟨e, _⟩ => (e.1, e.2.value))
  | .tables ts => .list (ts.reverse.map fun _ => .table [])
decreasing_by
  simp_wf
  rename_i h
  have := List.sizeOf_lt_of_mem h
  cases e
  simp_all
  omega

/-- The table of a list of definitions. -/
def inlineTable (ds : List (List String × Value)) : Except Conflict Entries :=
  ds.foldlM (fun es d => defineInline es d.1 d.2) []

/-- An inline table, after its opening brace. -/
def inlineValue (item : ValueReader) (cs : List Char) : Except Fault (Value × List Char) := do
  let (ds, rest) ← insist (orElse (inlineDefinitions item (cs.length + 1) cs) (.ok ([], cs)))
  match inlineTable ds with
  | .error e => insist (refuse cs e.message)
  | .ok es =>
    match skipSpaces rest with
    | '}' :: rest => .ok (.table (es.map fun e => (e.1, e.2.value)), rest)
    | rest => insist (named "inline table" (wanting [shown "\x7d"] (miss rest)))

/-- A truth value. -/
def word (text : String) (cs : List Char) : Except Fault (Unit × List Char) :=
  let w := text.toList
  if cs.take w.length = w then .ok ((), cs.drop w.length) else asString (insist (miss cs))

/-- A value with at most `depth` nested arrays and tables. -/
def value : (depth : Nat) → List Char → Except Fault (Value × List Char)
  | depth, cs =>
    match cs with
    | [] => miss cs
    | c :: rest =>
      if c = '"' || c = '\'' then do
        let (s, rest) ← string cs
        .ok (.text s, rest)
      else if c = '[' then
        match depth with
        | 0 => insist (refuse rest tooDeep)
        | depth + 1 => do
          let (vs, rest) ← array (value depth) rest
          .ok (.list vs, rest)
      else if c = '{' then
        match depth with
        | 0 => insist (refuse rest tooDeep)
        | depth + 1 => inlineValue (value depth) rest
      else if c = '+' || c = '-' || isDigit c then numeric cs
      else if c = '_' then do
        let (n, rest) ← wanting ["leading digit"] (integer cs)
        .ok (.whole n, rest)
      else if c = '.' then do
        let (x, rest) ← wanting ["leading digit"] (float cs)
        .ok (.real x, rest)
      else if c = 't' then do
        let (_, rest) ← word "true" cs
        .ok (.flag true, rest)
      else if c = 'f' then do
        let (_, rest) ← word "false" cs
        .ok (.flag false, rest)
      else if c = 'i' || c = 'n' then do
        let (x, rest) ← asString (notANumber cs)
        .ok (.real x, rest)
      else asString (miss cs)

/-! ### Documents -/

/-- A document and the path of the table opened last. -/
structure State where
  root : Entries
  opened : List String

/-- Adds a definition that was read from `start` on, or faults with its conflict. -/
def accept (start : List Char) (r : Except Conflict Entries) : Except Fault Entries :=
  match r with
  | .ok es => .ok es
  | .error e => refuse start e.message

/-- The end of a header: its closing brackets and the rest of its line. -/
def headerEnd (closing : String) (cs : List Char) : Except Fault (List Char) :=
  let marks := closing.toList
  if cs.take marks.length = marks then restOfLine (cs.drop marks.length)
  else wanting [shown ".", shown closing] (miss cs)

/-- The header of a table. -/
def header (s : State) (start : List Char) : Except Fault (State × List Char) :=
  named "table header" (match start with
    | '[' :: '[' :: rest => do
      let (k, rest) ← key rest
      let rest ← headerEnd "]]" rest
      .ok (⟨← accept start (addTable s.root k), k⟩, rest)
    | '[' :: c :: rest => do
      let (k, rest) ← key (c :: rest)
      let rest ← headerEnd "]" rest
      .ok (⟨← accept start (openTable s.root k), k⟩, rest)
    | _ => miss start)

/-- One line. -/
def line (s : State) (cs : List Char) : Except Fault (State × List Char) :=
  let start := skipSpaces cs
  match start with
  | [] => .ok (s, [])
  | c :: _ =>
    if c = '[' then header s start
    else if c = '#' || c = '\n' || c = '\r' then do
      let rest ← lineEnd (skipComment start)
      .ok (s, rest)
    else do
      let ((k, v), rest) ← keyValue (value maxDepth) start
      let rest ← restOfLine rest
      .ok (⟨← accept start (define s.root s.opened k v), s.opened⟩, rest)

/-- All lines. -/
def lines : (fuel : Nat) → State → List Char → Except Fault State
  | 0, s, _ => .ok s
  | fuel + 1, s, cs =>
    if cs.isEmpty then .ok s
    else do
      let (s, rest) ← line s cs
      lines fuel s rest

/-- The top level of a document. -/
def read (text : String) : Except Fault (List (String × Node)) := do
  let cs := match text.toList with
    | '\ufeff' :: cs => cs
    | cs => cs
  let s ← lines (cs.length + 1) ⟨[], []⟩ cs
  .ok s.root

/-! ### Reports -/

/-- The position of a fault: line number, column, and the text of the line. A fault at the end of a
text is behind its last character, even if that is a line break. -/
def place (text : List Char) (left : Nat) : Nat × Nat × List Char :=
  let last := text.length - max left 1
  let before := text.take last
  let start := before.length - (before.reverse.takeWhile (· ≠ '\n')).length
  let lineNumber := (before.filter (· = '\n')).length + 1
  let lineText := (text.drop start).takeWhile (· ≠ '\n')
  let inLine := text.extract start last
  let wide := left ≠ 0 && (text.drop last).head?.any fun c => c.utf8Size ≠ 1
  let column := if wide then (String.ofList inLine).utf8ByteSize else inLine.length
  (lineNumber, column + (if left = 0 then 1 else 0), lineText)

/-- The report of a fault: its position, the line with a mark below it, and the message. -/
def Fault.report (f : Fault) (text : String) : List String :=
  let cs := text.toList
  let (lineNumber, column, content) := place cs f.left
  let width := ((cs.drop (cs.length - f.left)).head?.map Char.utf8Size).getD 1
  let marks := max 1 (min width ((String.ofList content).utf8ByteSize - column))
  let gutter := String.ofList (List.replicate ((toString lineNumber).length + 1) ' ')
  let pad := String.ofList (List.replicate (column + 1) ' ')
  ["TOML parse error at line " ++ toString lineNumber ++ ", column " ++ toString (column + 1),
   gutter ++ "|",
   toString lineNumber ++ " | " ++ String.ofList content,
   gutter ++ "|" ++ pad ++ String.ofList (List.replicate marks '^')] ++ f.message.splitOn "\n"

end Presence.Toml
