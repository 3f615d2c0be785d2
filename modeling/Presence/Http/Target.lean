/-!
Request targets: which texts are targets, the path of a target, and percent-decoding of path
segments.
-/

namespace Presence.Http

/-- Characters of a path, including all beyond ASCII. -/
def isPathChar (c : Char) : Bool :=
  let n := c.toNat
  n = 0x21 || (0x24 ≤ n && n ≤ 0x3b) || n = 0x3d || (0x40 ≤ n && n ≤ 0x5f) ||
    (0x61 ≤ n && n ≤ 0x7a) || n = 0x7c || n = 0x7e || 0x7f ≤ n || c = '"' || c = '{' || c = '}'

/-- Characters of a query. -/
def isQueryChar (c : Char) : Bool :=
  let n := c.toNat
  n = 0x21 || (0x24 ≤ n && n ≤ 0x3b) || n = 0x3d || 0x3f ≤ n

/-- Characters of a host. -/
def isHostChar (c : Char) : Bool :=
  c.isAlphanum || "-._~!$&'()*+,;=:@[]%".toList.contains c

/-- The path of a target in origin form, without query and fragment. -/
def ofPath? (cs : List Char) : Option (List Char) :=
  let path := cs.takeWhile fun c => c ≠ '?' && c ≠ '#'
  let query := match cs.dropWhile fun c => c ≠ '?' && c ≠ '#' with
    | '?' :: rest => rest.takeWhile (· ≠ '#')
    | _ => []
  if path.all isPathChar && query.all isQueryChar then some path else none

/-- The path of a target after its host. -/
def ofHost? (cs : List Char) : Option (List Char) :=
  let ends (c : Char) : Bool := c = '/' || c = '?' || c = '#'
  let host := cs.takeWhile fun c => !ends c
  if host.isEmpty || !host.all isHostChar then none
  else
    match cs.dropWhile fun c => !ends c with
    | [] => some ['/']
    | '/' :: rest => ofPath? ('/' :: rest)
    | rest => (ofPath? rest).map fun _ => ['/']

/-- The path of a target; `none` if the text is not one. A host alone has no path. -/
def path? (target : String) : Option String :=
  match target.toList with
  | [] => none
  | '/' :: rest => (ofPath? ('/' :: rest)).map String.ofList
  | ['*'] => some "*"
  | cs =>
    let isSchemeChar (c : Char) : Bool := c.isAlphanum || c = '+' || c = '-' || c = '.'
    match cs.dropWhile isSchemeChar with
    | ':' :: '/' :: '/' :: rest => (ofHost? rest).map String.ofList
    | _ => if cs.all isHostChar then some "" else none

def hexValue? (c : Char) : Option Nat :=
  if '0' ≤ c ∧ c ≤ '9' then some (c.toNat - '0'.toNat)
  else if 'a' ≤ c ∧ c ≤ 'f' then some (c.toNat - 'a'.toNat + 10)
  else if 'A' ≤ c ∧ c ≤ 'F' then some (c.toNat - 'A'.toNat + 10)
  else none

/-- Percent-decoding to bytes; a `%` that begins no escape is kept. -/
def decodeBytes : List Char → List UInt8
  | [] => []
  | '%' :: a :: b :: rest =>
    match hexValue? a, hexValue? b with
    | some x, some y => UInt8.ofNat (x * 16 + y) :: decodeBytes rest
    | _, _ => '%'.toString.toUTF8.toList ++ decodeBytes (a :: b :: rest)
  | c :: rest => c.toString.toUTF8.toList ++ decodeBytes rest

/-- Percent-decoding to text; `none` if the bytes are not UTF-8. -/
def decodeSegment (s : String) : Option String :=
  String.fromUTF8? ⟨(decodeBytes s.toList).toArray⟩

end Presence.Http
