import Presence.Channel
import Presence.Message
import Presence.Table

/-!
Outbound channels and the registry. Every session has a line, the channel of frames to its client.
The registry maps a user to the handle of the session registered last; a handle is a session number
and a line number.
-/

namespace Presence

abbrev SessionId := Nat

/-- The outbound channel of a session. -/
structure Line where
  frames : Channel Message
  /-- The session was requested to close. -/
  closing : Bool

/-- A handle through which a session is reached. -/
structure Handle where
  session : SessionId
  /-- The number of the line. -/
  line : Nat
deriving DecidableEq, Repr

/-- All lines by number, and the registry. -/
structure Switchboard where
  lines : List Line
  registry : Table User Handle

namespace Switchboard

def empty : Switchboard := ⟨[], .empty⟩

/-! ### Lines -/

def line? (b : Switchboard) (n : Nat) : Option Line := b.lines[n]?

def updateLine (b : Switchboard) (n : Nat) (f : Line → Line) : Switchboard :=
  { b with lines := b.lines.modify n f }

def updateFrames (b : Switchboard) (n : Nat) (f : Channel Message → Channel Message) :
    Switchboard :=
  b.updateLine n fun l => { l with frames := f l.frames }

/-- Appends a line with an empty channel. -/
def addLine? (b : Switchboard) (capacity : Nat) : Option Switchboard :=
  (Channel.create? capacity).map fun c => { b with lines := b.lines ++ [⟨c, false⟩] }

/-- Delivers a frame to a line. -/
def deliver (b : Switchboard) (n : Nat) (m : Message) : Except DeliveryError Switchboard :=
  match b.line? n with
  | none => .error .closed
  | some l =>
    match l.frames.trySend m with
    | .ok c => .ok (b.updateFrames n fun _ => c)
    | .error e => .error e

/-- Whether the receiving end of a line is closed. -/
def isClosed (b : Switchboard) (n : Nat) : Bool :=
  match b.line? n with
  | some l => !l.frames.isOpen
  | none => true

/-- Requests the session of a line to close. -/
def requestClose (b : Switchboard) (n : Nat) : Switchboard :=
  b.updateLine n fun l => { l with closing := true }

/-- Whether the session of a line was requested to close. -/
def closeRequested (b : Switchboard) (n : Nat) : Bool :=
  match b.line? n with
  | some l => l.closing
  | none => false

/-- Closes the receiving end of a line. -/
def hangUp (b : Switchboard) (n : Nat) : Switchboard :=
  b.updateFrames n Channel.hangUp

/-! ### Registry -/

def lookup (b : Switchboard) (u : User) : Option Handle := b.registry.get? u

/-- Registers a session for a user, in place of any other. -/
def register (b : Switchboard) (u : User) (h : Handle) : Switchboard :=
  { b with registry := b.registry.insert u h }

def deregister (b : Switchboard) (u : User) : Switchboard :=
  { b with registry := b.registry.erase u }

/-- Deregisters a user if the given session is the registered one. -/
def deregisterSession (b : Switchboard) (u : User) (s : SessionId) : Bool × Switchboard :=
  match b.lookup u with
  | some h => if h.session = s then (true, b.deregister u) else (false, b)
  | none => (false, b)

/-! ### Lemmas on lines and the registry -/

variable {b b' : Switchboard}

@[simp] theorem line?_updateLine (n : Nat) (f : Line → Line) (m : Nat) :
    (b.updateLine n f).line? m = if m = n then (b.line? m).map f else b.line? m := by
  unfold updateLine line?
  rw [List.getElem?_modify]
  by_cases h : m = n
  · simp [h]
  · simp [h, Ne.symm h]

@[simp] theorem length_updateLine (n : Nat) (f : Line → Line) :
    (b.updateLine n f).lines.length = b.lines.length :=
  List.length_modify ..

/-- Replacing the frames of a line by `f` of them is `updateFrames f`. -/
theorem updateFrames_const {n : Nat} {l : Line} {c : Channel Message}
    {f : Channel Message → Channel Message} (hl : b.line? n = some l) (hc : c = f l.frames) :
    (b.updateFrames n fun _ => c) = b.updateFrames n f := by
  unfold updateFrames updateLine
  unfold line? at hl
  congr 1
  apply List.ext_getElem?
  intro m
  rw [List.getElem?_modify, List.getElem?_modify]
  by_cases h : n = m
  · subst h
    simp [hl, hc]
  · simp [h]

theorem addLine?_eq_some {capacity : Nat} (h : b.addLine? capacity = some b') :
    b' = { b with lines := b.lines ++ [⟨⟨capacity, [], true⟩, false⟩] } := by
  unfold addLine? Channel.create? at h
  split at h <;> simp at h
  exact h.symm

/-- A delivery succeeds on an open line with room, and pushes the frame. -/
theorem deliver_eq_ok {n : Nat} {m : Message} (h : b.deliver n m = .ok b') :
    ∃ l, b.line? n = some l ∧ l.frames.isOpen = true ∧ l.frames.hasRoom = true ∧
      b' = b.updateFrames n (·.push m) := by
  unfold deliver at h
  split at h
  · cases h
  · rename_i l hl
    split at h
    · rename_i c hc
      obtain ⟨ho, hr, rfl⟩ := Channel.trySend_eq_ok_iff.1 hc
      cases h
      exact ⟨l, hl, ho, hr, updateFrames_const hl rfl⟩
    · cases h

theorem isClosed_of_deliver_eq {n : Nat} {m : Message} (h : b.deliver n m = .error .closed) :
    b.isClosed n = true := by
  unfold deliver at h
  unfold isClosed
  split at h
  · rename_i hl
    rw [hl]
  · rename_i l hl
    split at h
    · cases h
    · rename_i hc
      cases h
      rw [hl]
      simp [Channel.trySend_eq_closed_iff.1 hc]

@[simp] theorem lookup_register (u : User) (h : Handle) (v : User) :
    (b.register u h).lookup v = if v = u then some h else b.lookup v :=
  Table.get?_insert ..

@[simp] theorem lookup_deregister (u v : User) :
    (b.deregister u).lookup v = if v = u then none else b.lookup v :=
  Table.get?_erase ..

@[simp] theorem lines_deregisterSession (u : User) (s : SessionId) :
    (b.deregisterSession u s).2.lines = b.lines := by
  unfold deregisterSession
  repeat' split <;> try rfl

theorem lookup_deregisterSession (u : User) (s : SessionId) (v : User) :
    (b.deregisterSession u s).2.lookup v =
      if v = u ∧ (b.lookup u).map Handle.session = some s then none else b.lookup v := by
  unfold deregisterSession
  cases hu : b.lookup u with
  | none => simp
  | some h => by_cases hs : h.session = s <;> by_cases hv : v = u <;> simp_all

end Switchboard

end Presence
