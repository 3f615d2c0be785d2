import Presence.Failure

/-!
Bounded channels with a sender that never waits: `trySend` pushes an item, or fails because the
channel is full or closed. Items are received in the order in which they were sent.
-/

namespace Presence

/-- The items sent and not yet received, oldest first. -/
structure Channel (α : Type) where
  capacity : Nat
  items : List α
  isOpen : Bool
deriving DecidableEq

namespace Channel

variable {α : Type}

/-- The largest capacity, `2 ^ 61 - 1`: the number of permits of a semaphore. -/
def maxCapacity : Nat := Nat.pow 2 61 - 1

/-- An empty channel; `none` for a capacity of zero or beyond `maxCapacity`. -/
def create? (capacity : Nat) : Option (Channel α) :=
  if 1 ≤ capacity ∧ capacity ≤ maxCapacity then some ⟨capacity, [], true⟩ else none

def hasRoom (c : Channel α) : Bool := c.items.length < c.capacity

/-- Appends an item, also to a full channel. -/
def push (c : Channel α) (a : α) : Channel α := { c with items := c.items ++ [a] }

/-- Appends an item if the channel is open and has room. -/
def trySend (c : Channel α) (a : α) : Except DeliveryError (Channel α) :=
  if !c.isOpen then .error .closed
  else if c.hasRoom then .ok (c.push a)
  else .error .full

/-- Removes the oldest item. -/
def take? (c : Channel α) : Option (α × Channel α) :=
  match c.items with
  | [] => none
  | a :: rest => some (a, { c with items := rest })

/-- Closes the sending side; items already sent can still be received. -/
def close (c : Channel α) : Channel α := { c with isOpen := false }

/-- Closes the receiving side and drops the items. -/
def hangUp (c : Channel α) : Channel α := { c with items := [], isOpen := false }

@[simp] theorem items_push (c : Channel α) (a : α) : (c.push a).items = c.items ++ [a] := rfl

@[simp] theorem isOpen_push (c : Channel α) (a : α) : (c.push a).isOpen = c.isOpen := rfl

@[simp] theorem items_hangUp (c : Channel α) : c.hangUp.items = [] := rfl

@[simp] theorem isOpen_hangUp (c : Channel α) : c.hangUp.isOpen = false := rfl

theorem trySend_eq_ok_iff {c d : Channel α} {a : α} :
    c.trySend a = .ok d ↔ c.isOpen = true ∧ c.hasRoom = true ∧ d = c.push a := by
  unfold trySend
  cases c.isOpen <;> cases c.hasRoom <;> simp [eq_comm]

theorem trySend_eq_full_iff {c : Channel α} {a : α} :
    c.trySend a = .error .full ↔ c.isOpen = true ∧ c.hasRoom = false := by
  unfold trySend
  cases c.isOpen <;> cases c.hasRoom <;> simp

theorem trySend_eq_closed_iff {c : Channel α} {a : α} :
    c.trySend a = .error .closed ↔ c.isOpen = false := by
  unfold trySend
  cases c.isOpen <;> cases c.hasRoom <;> simp

theorem take?_eq_some_iff {c d : Channel α} {a : α} :
    c.take? = some (a, d) ↔ c.items = a :: d.items ∧ d.capacity = c.capacity ∧
      d.isOpen = c.isOpen := by
  obtain ⟨_, _ | ⟨_, _⟩, _⟩ := c <;> obtain ⟨_, _, _⟩ := d
  · simp [take?]
  · simp only [take?]
    grind

end Channel

end Presence
