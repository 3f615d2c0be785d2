import Presence.Text.Blank
import Presence.Text.Lowercase

/-!
Files of environment variables, one `NAME=value` per line. Values may be quoted, quoted values may
span lines, and `$NAME` is substituted from the environment or an earlier line. Reading stops at the
first line with a fault; the lines before it are kept.
-/

namespace Presence.Dotenv

/-! ### Lines -/

/-- The state of a scan for the end of a line. -/
inductive Scan
  | plain
  | blank
  | escape
  | weak
  | weakEscape
  | strong
  | strongEscape
  | comment
deriving DecidableEq, Repr

/-- Step of the scan on one character. -/
def Scan.step (s : Scan) (c : Char) : Scan :=
  let opening (other : Scan) : Scan :=
    if c = '\\' then .escape else if c = '"' then .weak else if c = '\'' then .strong else other
  match s with
  | .blank => if c = '#' then .comment else opening .plain
  | .escape => .plain
  | .plain =>
    if Text.isBlank c && c ≠ '\n' && c ≠ '\r' then .blank else opening .plain
  | .weak => if c = '\\' then .weakEscape else if c = '"' then .plain else .weak
  | .weakEscape => .weak
  | .strong => if c = '\\' then .strongEscape else if c = '\'' then .plain else .strong
  | .strongEscape => .strong
  | .comment => .comment

/-- Scans a line up to a comment; returns the text before it. -/
def scanLine (s : Scan) : List Char → Scan × List Char
  | [] => (s, [])
  | c :: rest =>
    match s.step c with
    | .comment => (.comment, [])
    | s =>
      let (last, kept) := scanLine s rest
      (last, c :: kept)

/-- Cuts a text after each line break. -/
def rawLines : List Char → List Char → List (List Char)
  | [], [] => []
  | line, [] => [line]
  | line, c :: rest =>
    if c = '\n' then (line ++ [c]) :: rawLines [] rest else rawLines (line ++ [c]) rest

/-- A line without its line break. -/
def chomp (line : List Char) : List Char :=
  match line.reverse with
  | '\n' :: '\r' :: rest => rest.reverse
  | '\n' :: rest => rest.reverse
  | _ => line

/-- A line with a fault, and the position of the fault in it. -/
structure Fault where
  text : List Char
  index : Nat
deriving Repr

def Fault.message (f : Fault) : String :=
  "Error parsing line: '" ++ String.ofList f.text ++ "', error at line index: " ++ toString f.index

/-- The length of a text in UTF-8. -/
def byteLength (cs : List Char) : Nat := (String.ofList cs).utf8ByteSize

/-- Joins raw lines until their quotes are closed. A text that ends within quotes is a fault. -/
def joinLines (s : Scan) (held : List Char) : List (List Char) → List (Except Fault (List Char))
  | [] => if s = .plain then [] else [.error ⟨held, byteLength held⟩]
  | raw :: rest =>
    let line := held ++ raw
    if (line.dropWhile Text.isBlank).head? = some '#' then .ok [] :: joinLines .plain [] rest
    else
      match scanLine s raw with
      | (.comment, kept) => .ok (held ++ kept) :: joinLines .plain [] rest
      | (.plain, _) => .ok (chomp line) :: joinLines .plain [] rest
      | (s, _) => joinLines s line rest

/-! ### Values -/

/-- The reader of a name after `$`. -/
inductive Naming
  | none
  | bare (name : List Char)
  | braced (name : List Char)

/-- The state of the reader of a value. -/
structure Value where
  out : List Char
  strong : Bool
  weak : Bool
  escaped : Bool
  /-- The value has ended; only blanks and a comment may follow. -/
  ending : Bool
  /-- A comment has begun. -/
  finished : Bool
  naming : Naming

/-- Letters and digits of a name. -/
def isNameChar (c : Char) : Bool := c.isAlphanum || Text.isCased c

/-- Step of the reader on one character. -/
def Value.step (lookup : List Char → List Char) (v : Value) (c : Char) : Option Value :=
  if v.finished then some v
  else if v.ending then
    if c = ' ' || c = '\t' then some v
    else if c = '#' then some { v with finished := true }
    else none
  else if v.escaped then
    if ['\\', '\'', '"', '$', ' '].contains c then
      some { v with out := v.out ++ [c], escaped := false }
    else if c = 'n' then some { v with out := v.out ++ ['\n'], escaped := false }
    else none
  else if v.strong then
    if c = '\'' then some { v with strong := false } else some { v with out := v.out ++ [c] }
  else
    match v.naming with
    | .bare name =>
      if isNameChar c then some { v with naming := .bare (name ++ [c]) }
      else if c = '{' && name.isEmpty then some { v with naming := .braced [] }
      else
        let out := v.out ++ lookup name
        if c = '$' then some { v with out, naming := .bare [] }
        else some { v with out := out ++ [c], naming := .none }
    | .braced name =>
      if isNameChar c then some { v with naming := .braced (name ++ [c]) }
      else if c = '}' then some { v with out := v.out ++ lookup name, naming := .none }
      else some { v with naming := .braced (name ++ [c]) }
    | .none =>
      if c = '$' then some { v with naming := .bare [] }
      else if v.weak then
        if c = '"' then some { v with weak := false }
        else if c = '\\' then some { v with escaped := true }
        else some { v with out := v.out ++ [c] }
      else if c = '\'' then some { v with strong := true }
      else if c = '"' then some { v with weak := true }
      else if c = '\\' then some { v with escaped := true }
      else if c = ' ' || c = '\t' then some { v with ending := true }
      else some { v with out := v.out ++ [c] }

/-- Steps up to the end of the value, or to the first fault. -/
def Value.steps (lookup : List Char → List Char) : Value → Nat → List Char → Except Nat Value
  | v, _, [] => .ok v
  | v, i, c :: rest =>
    match v.step lookup c with
    | some v => v.steps lookup (i + 1) rest
    | none => .error i

/-- The value in the rest of a line. -/
def value (lookup : List Char → List Char) (cs : List Char) : Except Fault (List Char) :=
  match Value.steps lookup ⟨[], false, false, false, false, false, .none⟩ 0 cs with
  | .error i => .error ⟨cs, i⟩
  | .ok v =>
    let unclosed : Except Fault (List Char) := .error ⟨cs, byteLength cs - 1⟩
    if v.strong || v.weak then unclosed
    else
      match v.naming with
      | .braced _ => unclosed
      | .bare name => .ok (v.out ++ lookup name)
      | .none => .ok v.out

/-! ### Definitions -/

def skipBlanks (cs : List Char) : List Char := cs.dropWhile Text.isBlank

/-- The name at the start of a line. -/
def key? (cs : List Char) : Option (List Char × List Char) :=
  let isKeyChar (c : Char) : Bool := c.isAlphanum || c = '_' || c = '.'
  match cs with
  | c :: _ =>
    if c.isAlpha || c = '_' then some (cs.takeWhile isKeyChar, cs.dropWhile isKeyChar) else none
  | [] => none

def equals? (cs : List Char) : Option (List Char) :=
  match cs with
  | '=' :: rest => some rest
  | _ => none

/-- The definition in a line, if any. -/
def definition (lookup : List Char → List Char) (line : List Char) :
    Except Fault (Option (String × String)) := do
  let cs := Text.trimEnd line
  /- A reader's answer, or the fault of standing before `rest`. -/
  let expect {α : Type} (rest : List Char) : Option α → Except Fault α
    | some a => .ok a
    | none => .error ⟨line, byteLength cs - byteLength rest⟩
  let rest := skipBlanks cs
  if rest.isEmpty || rest.head? = some '#' then return none
  let (key, rest) ← expect rest (key? rest)
  let rest := skipBlanks rest
  let (key, rest) ←
    match key == "export".toList, equals? rest with
    | _, some rest => pure (key, rest)
    | false, none => expect rest none
    | true, none => do
      let (key, rest) ← expect rest (key? rest)
      let rest := skipBlanks rest
      let rest ← expect rest (equals? rest)
      pure (key, rest)
  let rest := skipBlanks rest
  if rest.isEmpty || rest.head? = some '#' then return some (String.ofList key, "")
  let value ← value lookup rest
  return some (String.ofList key, String.ofList value)

/-- Names and values, the latest definition of a name last. -/
abbrev Environment := List (String × String)

def Environment.get? (env : Environment) (name : String) : Option String :=
  (env.find? fun e => e.1 = name).map Prod.snd

/-- Adds definitions to an environment. A variable that exists keeps its value, but later lines of
the file see the file's definitions where the environment has none. -/
def load (env : Environment) (said : Environment) :
    List (Except Fault (List Char)) → Option Fault × Environment
  | [] => (none, env)
  | .error f :: _ => (some f, env)
  | .ok line :: rest =>
    let lookup (name : List Char) : List Char :=
      let name := String.ofList name
      ((env.get? name).or (said.get? name)).elim [] String.toList
    match definition lookup line with
    | .error f => (some f, env)
    | .ok none => load env said rest
    | .ok (some (key, value)) =>
      let env := if (env.get? key).isSome then env else env ++ [(key, value)]
      load env ((key, value) :: said) rest

/-- The environment extended by a file, and the fault at which reading stopped, if any. -/
def extend (env : Environment) (text : String) : Option Fault × Environment :=
  let cs := match text.toList with
    | '\ufeff' :: cs => cs
    | cs => cs
  load env [] (joinLines .plain [] (rawLines [] cs))

end Presence.Dotenv
