import Presence.Json.Reader

/-!
The JSON grammar, independent of any reader: which texts write which values. Nesting is counted, and
a condition on numbers is a parameter.
-/

namespace Presence.Json

/-- A text of blanks. -/
def Blank (cs : List Char) : Prop := ∀ c ∈ cs, isSpace c = true

/-! ### Numbers -/

/-- One digit or more. -/
def Digits (ds : List Char) : Prop := ds ≠ [] ∧ ∀ d ∈ ds, isDigit d = true

/-- The digits before the point, without leading zeros. -/
inductive WholeText : List Char → Prop
  | zero : WholeText ['0']
  | digits {d : Char} {ds : List Char} (h : Digits (d :: ds)) (hz : d ≠ '0') : WholeText (d :: ds)

/-- The point and the digits after it. -/
inductive FractionText : List Char → Option (List Char) → Prop
  | absent : FractionText [] none
  | present {ds : List Char} (h : Digits ds) : FractionText ('.' :: ds) (some ds)

/-- The power of ten. -/
inductive ExponentText : List Char → Option Int → Prop
  | absent : ExponentText [] none
  | plain {e : Char} {ds : List Char} (he : e = 'e' ∨ e = 'E') (h : Digits ds) :
      ExponentText (e :: ds) (some (digitsValue ds))
  | plus {e : Char} {ds : List Char} (he : e = 'e' ∨ e = 'E') (h : Digits ds) :
      ExponentText (e :: '+' :: ds) (some (digitsValue ds))
  | minus {e : Char} {ds : List Char} (he : e = 'e' ∨ e = 'E') (h : Digits ds) :
      ExponentText (e :: '-' :: ds) (some (-(digitsValue ds : Int)))

/-- A number without its sign. -/
inductive UnsignedText (negative : Bool) : List Char → Number → Prop
  | parts {ws fs es : List Char} {fraction : Option (List Char)} {exponent : Option Int}
      (hw : WholeText ws) (hf : FractionText fs fraction) (he : ExponentText es exponent) :
      UnsignedText negative (ws ++ fs ++ es) (.ofParts negative ws fraction exponent)

/-- A number. -/
inductive NumberText : List Char → Number → Prop
  | positive {t : List Char} {n : Number} (h : UnsignedText false t n) : NumberText t n
  | negative {t : List Char} {n : Number} (h : UnsignedText true t n) : NumberText ('-' :: t) n

/-! ### Strings -/

/-- The short escapes and their characters. -/
def shortEscapes : List (Char × Char) :=
  [('"', '"'), ('\\', '\\'), ('/', '/'), ('b', '\x08'), ('f', '\x0c'), ('n', '\n'), ('r', '\r'),
    ('t', '\t')]

/-- A hexadecimal digit, lowercase or uppercase. -/
def HexDigit (c : Char) (n : Nat) : Prop :=
  n < 16 ∧ (c = Nat.digitChar n ∨ c = (Nat.digitChar n).toUpper)

/-- Four hexadecimal digits, and the number of 16 bits that they denote. -/
inductive UnitText : List Char → Nat → Prop
  | digits {a b c d : Char} {i j k l : Nat} (ha : HexDigit a i) (hb : HexDigit b j)
      (hc : HexDigit c k) (hd : HexDigit d l) :
      UnitText [a, b, c, d] (((i * 16 + j) * 16 + k) * 16 + l)

/-- A character of a string. A character beyond 16 bits is escaped as a pair of surrogates; a single
surrogate is not a character. -/
inductive CharText : List Char → Char → Prop
  | plain {c : Char} (hq : c ≠ '"') (hb : c ≠ '\\') (hc : 0x20 ≤ c.toNat) : CharText [c] c
  | short {e c : Char} (h : (e, c) ∈ shortEscapes) : CharText ['\\', e] c
  | unit {ds : List Char} {n : Nat} (h : UnitText ds n) (hn : n < 0xd800 ∨ 0xdfff < n) :
      CharText ('\\' :: 'u' :: ds) (Char.ofNat n)
  | pair {ds ds' : List Char} {high low : Nat} (h : UnitText ds high)
      (hh : 0xd800 ≤ high ∧ high ≤ 0xdbff) (h' : UnitText ds' low)
      (hl : 0xdc00 ≤ low ∧ low ≤ 0xdfff) :
      CharText ('\\' :: 'u' :: ds ++ '\\' :: 'u' :: ds')
        (Char.ofNat (0x10000 + (high - 0xd800) * 0x400 + (low - 0xdc00)))

/-- The characters of a string. -/
inductive CharsText : List Char → List Char → Prop
  | nil : CharsText [] []
  | cons {t ts : List Char} {c : Char} {cs : List Char} (h : CharText t c) (hs : CharsText ts cs) :
      CharsText (t ++ ts) (c :: cs)

/-- A string. -/
inductive StringText : List Char → String → Prop
  | quoted {body cs : List Char} (h : CharsText body cs) :
      StringText ('"' :: body ++ ['"']) (String.ofList cs)

/-! ### Values -/

section
variable {α : Type}

/-- One item or more, with commas between them and blanks around them. -/
inductive ItemsText (writes : List Char → α → Prop) : List Char → List α → Prop
  | last {w t w' : List Char} {a : α} (hw : Blank w) (h : writes t a) (hw' : Blank w') :
      ItemsText writes (w ++ t ++ w') [a]
  | more {w t w' ts : List Char} {a : α} {as : List α} (hw : Blank w) (h : writes t a)
      (hw' : Blank w') (hs : ItemsText writes ts as) :
      ItemsText writes (w ++ t ++ w' ++ ',' :: ts) (a :: as)

/-- The items between brackets. -/
inductive ListText (writes : List Char → α → Prop) : List Char → List α → Prop
  | empty {w : List Char} (hw : Blank w) : ListText writes w []
  | items {ts : List Char} {as : List α} (h : ItemsText writes ts as) : ListText writes ts as

/-- A member of an object. -/
inductive MemberText (writes : List Char → α → Prop) : List Char → String × α → Prop
  | member {kt w w' t : List Char} {k : String} {a : α} (hk : StringText kt k) (hw : Blank w)
      (hw' : Blank w') (h : writes t a) : MemberText writes (kt ++ w ++ ':' :: w' ++ t) (k, a)

end

/-- A value without parts. -/
inductive ScalarText (fits : Number → Prop) : List Char → Value → Prop
  | null : ScalarText fits ['n', 'u', 'l', 'l'] .null
  | yes : ScalarText fits ['t', 'r', 'u', 'e'] (.bool true)
  | no : ScalarText fits ['f', 'a', 'l', 's', 'e'] (.bool false)
  | number {t : List Char} {n : Number} (h : NumberText t n) (hf : fits n) :
      ScalarText fits t (.number n)
  | string {t : List Char} {s : String} (h : StringText t s) : ScalarText fits t (.string s)

/-- A value, given a grammar of its parts. -/
inductive ValueText (fits : Number → Prop) (writes : List Char → Value → Prop) :
    List Char → Value → Prop
  | scalar {t : List Char} {v : Value} (h : ScalarText fits t v) : ValueText fits writes t v
  | array {body : List Char} {vs : List Value} (h : ListText writes body vs) :
      ValueText fits writes ('[' :: body ++ [']']) (.array vs)
  | object {body : List Char} {ms : List (String × Value)}
      (h : ListText (MemberText writes) body ms) :
      ValueText fits writes ('{' :: body ++ ['}']) (.object ms)

/-- The text writes the value, with at most `depth` nested brackets. -/
def Writes (fits : Number → Prop) : (depth : Nat) → List Char → Value → Prop
  | 0 => ScalarText fits
  | depth + 1 => ValueText fits (Writes fits depth)

/-- A whole text: a value between blanks. -/
structure Document (fits : Number → Prop) (text : String) (before body after : List Char)
    (v : Value) : Prop where
  parts : text.toList = before ++ body ++ after
  before : Blank before
  body : Writes fits maxDepth body v
  after : Blank after

/-- The text is JSON with this value. -/
def Spells (fits : Number → Prop) (text : String) (v : Value) : Prop :=
  ∃ before body after, Document fits text before body after v

end Presence.Json
