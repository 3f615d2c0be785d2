/-!
Sets of characters as lists of closed code point ranges, the form in which Unicode publishes its
properties.
-/

namespace Presence.Text

/-- A set of characters as closed code point ranges. -/
abbrev Ranges := List (Nat × Nat)

/-- Whether some range of the set holds the character. -/
def Ranges.holds (set : Ranges) (c : Char) : Bool :=
  set.any fun r => r.1 ≤ c.toNat && c.toNat ≤ r.2

theorem Ranges.holds_iff (set : Ranges) (c : Char) :
    set.holds c = true ↔ ∃ r ∈ set, r.1 ≤ c.toNat ∧ c.toNat ≤ r.2 := by
  simp [Ranges.holds]

end Presence.Text
