import Presence.Text.Blank
import Presence.Text.Lowercase

/-!
Names of users and parties. A raw name is trimmed and lowercased; a nonempty result is the identity.
Two raw names denote the same user exactly when their normal forms agree, and all tables are keyed
by identities.
-/

namespace Presence

/-- The normal form of a raw name: trimmed, in lowercase. -/
def normalize (raw : String) : String :=
  String.ofList (Text.lower (Text.trim raw.toList))

/-- The kinds of names. -/
inductive NameKind
  | user
  | party
deriving DecidableEq, Repr

/-- A nonempty name in normal form. -/
structure Name (kind : NameKind) where
  text : String
  nonempty : text ≠ ""
  normal : ∃ raw, normalize raw = text
deriving DecidableEq

/-- The identity of a user. -/
abbrev User := Name .user

/-- The identity of a party. -/
abbrev Party := Name .party

namespace Name

variable {kind : NameKind}

/-- The name that a raw text denotes; `none` for a text of blanks only. -/
def parse? (raw : String) : Option (Name kind) :=
  if h : normalize raw = "" then none else some ⟨normalize raw, h, raw, rfl⟩

theorem ext_text {a b : Name kind} (h : a.text = b.text) : a = b := by
  cases a; cases b; simp_all

theorem text_of_parse? {raw : String} {n : Name kind} (h : parse? raw = some n) :
    n.text = normalize raw := by
  unfold parse? at h
  split at h
  · cases h
  · cases h; rfl

/-- The order of names is that of their code points. -/
instance : LT (Name kind) := ⟨fun a b => a.text < b.text⟩

instance (a b : Name kind) : Decidable (a < b) :=
  inferInstanceAs (Decidable (a.text < b.text))

/-- Insertion into an ascending list without repetition. -/
def insertSorted (n : Name kind) : List (Name kind) → List (Name kind)
  | [] => [n]
  | m :: rest =>
    if n < m then n :: m :: rest
    else if n = m then m :: rest
    else m :: insertSorted n rest

/-- The names of a list, strictly ascending. -/
def sortedSet (names : List (Name kind)) : List (Name kind) :=
  names.foldr insertSorted []

theorem mem_insertSorted {n m : Name kind} {names : List (Name kind)} :
    m ∈ insertSorted n names ↔ m = n ∨ m ∈ names := by
  induction names with
  | nil => simp [insertSorted]
  | cons a rest ih =>
    unfold insertSorted
    split
    · simp
    · split
      · simp_all
      · simp [ih, or_left_comm]

@[simp] theorem mem_sortedSet {m : Name kind} {names : List (Name kind)} :
    m ∈ sortedSet names ↔ m ∈ names := by
  induction names with
  | nil => simp [sortedSet]
  | cons a rest ih =>
    rw [show sortedSet (a :: rest) = insertSorted a (sortedSet rest) from rfl, mem_insertSorted, ih,
      List.mem_cons]

end Name

end Presence
