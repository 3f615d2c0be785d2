/-!
Command line arguments. They are read level by level: the program's own up to a subcommand, then
those of the subcommand. At each level the first argument that does not fit decides the error. After
`--` every argument is positional.
-/

namespace Presence.CommandLine

/-- Results other than a command. -/
inductive Stop
  /-- Help or the version was requested. -/
  | help
  | misuse
deriving DecidableEq, Repr

/-- The arguments that a level accepts. -/
structure Level where
  /-- The option with a value: its name and letter. -/
  option : Option (String × Option Char) := none
  /-- The name of the flag. -/
  flag : Option String := none
  /-- The subcommands. -/
  words : List String := []
  /-- The number of positional arguments. -/
  places : Nat := 0
  /-- Whether `--version` is accepted. -/
  version : Bool := false

/-- The arguments read at a level. -/
structure Said where
  value : Option String
  flagged : Bool
  places : List String
  /-- The subcommand and the arguments after it. -/
  next : Option (String × List String)
deriving DecidableEq, Repr

/-- The state of the reader. -/
inductive Phase
  | free
  /-- The next argument is the value of the option. -/
  | awaiting
  /-- Every further argument is positional. -/
  | literal
deriving DecidableEq, Repr

namespace Level

/-- Sets the option, which must not be set already. -/
def giveValue (s : Said) (value : String) : Except Stop Said :=
  if value.isEmpty || s.value.isSome then .error .misuse else .ok { s with value := some value }

/-- Adds a positional argument, if one is missing. -/
def givePlace (l : Level) (s : Said) (name : String) : Except Stop Said :=
  if s.places.length < l.places then .ok { s with places := s.places ++ [name] }
  else .error .misuse

/-- Reads an argument that begins with `--`: a name, optionally with `=` and a value. -/
def readLong (l : Level) (s : Said) (body : List Char) : Except Stop (Said × Phase) :=
  let name := String.ofList (body.takeWhile (· ≠ '='))
  let attached := (body.dropWhile (· ≠ '=')).tail?
  if l.option.map Prod.fst = some name then
    match attached with
    | some value => do return (← giveValue s (String.ofList value), .free)
    | none => .ok (s, .awaiting)
  else if attached.isSome then .error .misuse
  else if l.flag = some name then
    if s.flagged then .error .misuse else .ok ({ s with flagged := true }, .free)
  else if name = "help" || (name = "version" && l.version) then .error .help
  else .error .misuse

/-- Reads an argument that begins with `-`: a letter, optionally with a value. -/
def readShort (l : Level) (s : Said) (letter : Char) (rest : List Char) :
    Except Stop (Said × Phase) :=
  if l.option.bind Prod.snd = some letter then
    match rest with
    | [] => .ok (s, .awaiting)
    | '=' :: value => do return (← giveValue s (String.ofList value), .free)
    | value => do return (← giveValue s (String.ofList value), .free)
  else if letter = 'h' || (letter = 'V' && l.version) then .error .help
  else .error .misuse

/-- Reads arguments up to a subcommand or the end. -/
def readFrom (l : Level) (s : Said) : Phase → List String → Except Stop Said
  | .awaiting, [] => .error .misuse
  | _, [] => if s.places.length = l.places then .ok s else .error .misuse
  | .literal, arg :: rest => do (l.readFrom (← l.givePlace s arg) .literal rest)
  | .awaiting, arg :: rest =>
    if arg.startsWith "-" && arg ≠ "-" then .error .misuse
    else do l.readFrom (← giveValue s arg) .free rest
  | .free, arg :: rest =>
    if l.words.contains arg then .ok { s with next := some (arg, rest) }
    else if arg = "--" then l.readFrom s .literal rest
    else
      match arg.toList with
      | '-' :: '-' :: body => do
        let (s, phase) ← l.readLong s body
        l.readFrom s phase rest
      | '-' :: letter :: more => do
        let (s, phase) ← l.readShort s letter more
        l.readFrom s phase rest
      | _ => do l.readFrom (← l.givePlace s arg) .free rest

def read (l : Level) (args : List String) : Except Stop Said :=
  l.readFrom ⟨none, false, [], none⟩ .free args

end Level

/-! ### Commands -/

/-- The `db` commands, with names as given. -/
inductive DatabaseAction
  | init
  | addFriend (user friend : String) (pending : Bool)
  | removeFriend (user friend : String)
  | addMember (party user : String) (invited : Bool)
  | removeMember (party user : String)
  | dump
deriving DecidableEq, Repr

inductive Command
  /-- Run the server with the settings at a path. -/
  | run (settings : Option String)
  | database (path : String) (action : DatabaseAction)
deriving DecidableEq, Repr

/-- The level of the program. -/
def programLevel : Level :=
  { option := some ("config", some 'c'), words := ["run", "db", "help"], version := true }

def databaseWords : List String :=
  ["init", "add-friend", "remove-friend", "add-member", "remove-member", "dump"]

/-- The level of `db`. -/
def databaseLevel : Level :=
  { option := some ("path", none), words := databaseWords ++ ["help"] }

/-- The default path of the database. -/
def standardPath : String := "data/socialite.db"

/-- Whether `help` is requested for subcommands that exist. -/
def askHelp (words : List String) : Stop :=
  match words with
  | [] | ["run"] | ["help"] | ["db"] | ["db", "help"] => .help
  | ["db", word] => if databaseWords.contains word then .help else .misuse
  | _ => .misuse

/-- Two positional names and the flag. -/
def readPair (flag : Option String) (args : List String) : Except Stop (String × String × Bool) := do
  let said ← Level.read { flag, places := 2 } args
  match said.places with
  | [a, b] => .ok (a, b, said.flagged)
  | _ => .error .misuse

/-- The action of a subcommand with its arguments. -/
def DatabaseAction.parse (word : String) (args : List String) : Except Stop DatabaseAction := do
  match word with
  | "init" => do
    let _ ← Level.read {} args
    return .init
  | "add-friend" => do
    let (a, b, pending) ← readPair (some "pending") args
    return .addFriend a b pending
  | "remove-friend" => do
    let (a, b, _) ← readPair none args
    return .removeFriend a b
  | "add-member" => do
    let (p, u, invited) ← readPair (some "invited") args
    return .addMember p u invited
  | "remove-member" => do
    let (p, u, _) ← readPair none args
    return .removeMember p u
  | "dump" => do
    let _ ← Level.read {} args
    return .dump
  | "help" => .error (askHelp ("db" :: args))
  | _ => .error .misuse

/-- The command of an argument list. -/
def Command.parse (args : List String) : Except Stop Command := do
  let said ← programLevel.read args
  match said.next with
  | none => return .run said.value
  | some ("run", rest) => do
    let _ ← Level.read {} rest
    return .run said.value
  | some ("db", rest) => do
    let database ← databaseLevel.read rest
    match database.next with
    | some (word, rest) => do
      return .database (database.value.getD standardPath) (← DatabaseAction.parse word rest)
    | none => .error .misuse
  | some (_, rest) => .error (askHelp rest)

end Presence.CommandLine
