import Presence.Json.Reader

/-!
Messages from clients. The only one is the ping: an object whose member `msg_type` is the string
`ping`, with any other members, or an array of just that string. The text is read from left to right
and the first error decides; errors of shape are distinguished from errors of JSON.
-/

namespace Presence

inductive Inbound
  | ping
deriving DecidableEq, Repr

/-- Errors of `parse`. -/
inductive InboundError
  | ended
  | malformed
  | missingTag
  | duplicateTag
  | unknownTag (tag : String)
  | wrongShape
deriving DecidableEq, Repr

namespace Inbound

open Json

def ofFault : Fault → InboundError
  | .ended => .ended
  | .malformed => .malformed

/-- A JSON reader inside a message. -/
def lift {α : Type} (r : Except Fault α) : Except InboundError α :=
  match r with
  | .ok a => .ok a
  | .error f => .error (ofFault f)

/-- The key of the tag. -/
def tagKey : String := "msg_type"

/-- The remaining depth for values inside a message. -/
def innerDepth : Nat := maxDepth - 1

/-- The value of the tag; a value of another kind is rejected at its first character. -/
def tag (cs : List Char) : Except InboundError (Inbound × List Char) :=
  match cs with
  | '[' :: _ => .error .wrongShape
  | '{' :: _ => .error .wrongShape
  | cs => do
    match ← lift (scalar cs) with
    | (.string "ping", rest) => .ok (.ping, rest)
    | (.string other, _) => .error (.unknownTag other)
    | _ => .error .wrongShape

/-- One member: the tag, if the key is `tagKey` and no tag was read before, otherwise any value. -/
def taggedMember (found : Option Inbound) (cs : List Char) :
    Except InboundError (Option Inbound × List Char) := do
  let (k, rest) ← lift (key cs)
  if k = tagKey then
    if found.isSome then
      .error .duplicateTag
    else
      let (m, rest) ← tag (← lift (colon rest))
      .ok (some m, rest)
  else
    let (_, rest) ← lift (value innerDepth (← lift (colon rest)))
    .ok (found, rest)

/-- The end of an object. -/
def closeObject (found : Option Inbound) (rest : List Char) :
    Except InboundError (Inbound × List Char) :=
  match found with
  | some m => .ok (m, rest)
  | none => .error .missingTag

/-- The members after one of them. -/
def moreTagged : (fuel : Nat) → Option Inbound → List Char →
    Except InboundError (Inbound × List Char)
  | 0, _, _ => .error .ended
  | fuel + 1, found, cs =>
    match skipSpaces cs with
    | [] => .error .ended
    | '}' :: rest => closeObject found rest
    | ',' :: rest => do
      let (found, rest) ← taggedMember found (skipSpaces rest)
      moreTagged fuel found rest
    | _ => .error .malformed

/-- A message in its object form, after the opening brace. -/
def object (cs : List Char) : Except InboundError (Inbound × List Char) :=
  match skipSpaces cs with
  | [] => .error .ended
  | '}' :: rest => closeObject none rest
  | cs => do
    let (found, rest) ← taggedMember none cs
    moreTagged (rest.length + 1) found rest

/-- A message in its array form, after the opening bracket. -/
def array (cs : List Char) : Except InboundError (Inbound × List Char) :=
  match skipSpaces cs with
  | [] => .error .ended
  | ']' :: _ => .error .missingTag
  | cs => do
    let (m, rest) ← tag cs
    let (more, rest) ← lift (moreItems ']' (value innerDepth) (rest.length + 1) rest)
    if more.isEmpty then .ok (m, rest) else .error .wrongShape

/-- The message that a text writes. -/
def parse (text : String) : Except InboundError Inbound := do
  let (m, rest) ← match skipSpaces text.toList with
    | '{' :: rest => object rest
    | '[' :: rest => array rest
    | cs => do
      let _ ← lift (scalar cs)
      .error .wrongShape
  lift (finish rest)
  .ok m

end Inbound

/-- The message of an error of shape. -/
def InboundError.message? : InboundError → Option String
  | .missingTag => some "missing field \x60msg_type\x60"
  | .duplicateTag => some "duplicate field \x60msg_type\x60"
  | .unknownTag t => some ("unknown variant \x60" ++ t ++ "\x60, expected \x60ping\x60")
  | _ => none

end Presence
