import Presence.Text.Letters

/-!
Lowercasing of texts. Every character is mapped independently, except that a capital sigma becomes
`ς` at the end of a word and `σ` elsewhere, and `İ` becomes two characters.
-/

namespace Presence.Text

/-- Unicode `Cased`. -/
def isCased (c : Char) : Bool := casedRanges.holds c

/-- Unicode `Case_Ignorable`. -/
def isCaseIgnorable (c : Char) : Bool := caseIgnorableRanges.holds c

/-- The lowercase of a character outside the final sigma rule. -/
def lowerChar (c : Char) : List Char :=
  if c = 'İ' then
    ['i', '\u0307']
  else
    match caseRuns.findSome? (·.lower? c.toNat) with
    | some n => [Char.ofNat n]
    | none => [c]

/-- Whether the first character that is not case-ignorable is cased. -/
def meetsCased (cs : List Char) : Bool :=
  match cs.dropWhile isCaseIgnorable with
  | [] => false
  | c :: _ => isCased c

/-- The condition of the final sigma rule; `before` is the text before the sigma, nearest character
first. -/
def endsWord (before after : List Char) : Bool :=
  meetsCased before && !meetsCased after

/-- Lowercases the rest of a text; `before` is the text before it, nearest character first. -/
def lowerFrom (before : List Char) : List Char → List Char
  | [] => []
  | c :: rest =>
    (if c = 'Σ' then [if endsWord before rest then 'ς' else 'σ'] else lowerChar c) ++
      lowerFrom (c :: before) rest

/-- The lowercase of a whole text. -/
def lower (cs : List Char) : List Char :=
  lowerFrom [] cs

end Presence.Text
