import Presence.Proofs.Store.Listing

/-!
Friendships in the store. After any list of calls the store has one row for each pair of users whose
last call was a put, with its status; the friend lists read from it name two users to each other
exactly if this status is `confirmed`.
-/

namespace Presence

/-- Calls that change friendships. -/
inductive FriendshipCall
  | put (a b : User) (status : FriendshipStatus)
  | delete (a b : User)
deriving DecidableEq

namespace FriendshipCall

/-- The users of a call, as given. -/
def users : FriendshipCall → User × User
  | put a b _ => (a, b)
  | delete a b => (a, b)

/-- A call about two users, in any order. -/
def isOn (u v : User) (c : FriendshipCall) : Bool := c.users = (u, v) || c.users = (v, u)

/-- The status that a call sets, if any. -/
def status? : FriendshipCall → Option FriendshipStatus
  | put _ _ status => some status
  | delete _ _ => none

/-- The store after a call; a failed call leaves it unchanged. -/
def apply (s : Store) : FriendshipCall → Store
  | put a b status =>
    match s.putFriendship a b status with
    | .ok s => s
    | .error _ => s
  | delete a b => (s.deleteFriendship a b).2

/-- The last call about two users. -/
def lastOn (u v : User) (cs : List FriendshipCall) : Option FriendshipCall :=
  (cs.filter (isOn u v)).getLast?

/-- The last call about two users confirmed their friendship. -/
def Confirmed (u v : User) (cs : List FriendshipCall) : Prop :=
  ∃ a b, lastOn u v cs = some (.put a b .confirmed)

section
variable {u v : User} {cs : List FriendshipCall} {c : FriendshipCall}

theorem isOn_comm (u v : User) : isOn u v = isOn v u := by
  funext c
  exact Bool.or_comm ..

theorem confirmed_comm : Confirmed u v cs ↔ Confirmed v u cs := by
  unfold Confirmed lastOn
  rw [isOn_comm]

theorem lastOn_concat :
    lastOn u v (cs ++ [c]) = if c.isOn u v then some c else lastOn u v cs := by
  unfold lastOn
  rw [List.filter_append]
  split <;> simp_all

/-- A call is about two users exactly if it changes their row. -/
theorem isOn_iff (h : u < v) : c.isOn u v = true ↔ Store.ordered c.users.1 c.users.2 = (u, v) := by
  rw [Store.ordered_eq_iff h]
  simp [isOn, Prod.ext_iff]

theorem lastOn_concat_of_lt (h : u < v) : lastOn u v (cs ++ [c]) =
    if Store.ordered c.users.1 c.users.2 = (u, v) then some c else lastOn u v cs := by
  rw [lastOn_concat]
  simp only [isOn_iff h]

end

end FriendshipCall

/-- The row of a friendship. -/
def Friendship.row (f : Friendship) : Row :=
  ⟨.text f.user1.text, .text f.user2.text, .text f.status.text⟩

namespace Store

open FriendshipCall

/-- The store after a list of calls on an empty one. -/
def after (cs : List FriendshipCall) : Store := cs.foldl apply empty

/-- The status of each ordered pair after a list of calls. -/
def lastStatus (cs : List FriendshipCall) (u v : User) : Option FriendshipStatus :=
  if u < v then (lastOn u v cs).bind status? else none

/-- The rows hold the statuses after a list of calls. -/
structure Mirrors (s : Store) (cs : List FriendshipCall) : Prop where
  ascending : Rows.Ascending s.friendships
  rows : ∀ {r}, r ∈ s.friendships ↔ ∃ f : Friendship, r = f.row ∧ f.user1 < f.user2 ∧
    ∃ a b, lastOn f.user1 f.user2 cs = some (.put a b f.status)

section
variable {s : Store} {cs : List FriendshipCall}

theorem lastStatus_eq_some {u v : User} {status : FriendshipStatus} :
    lastStatus cs u v = some status ↔ u < v ∧ ∃ a b, lastOn u v cs = some (.put a b status) := by
  unfold lastStatus
  split
  · rename_i hlt
    rcases lastOn u v cs with _ | ⟨a, b, status'⟩ | ⟨a, b⟩ <;> simp [status?, hlt]
  · rename_i hlt
    simp [hlt]

/-- Rows mirror calls exactly if they hold these statuses. -/
theorem mirrors_iff :
    Mirrors s cs ↔ Rows.Holds FriendshipStatus.text s.friendships (lastStatus cs) := by
  have same (r : Row) : (∃ f : Friendship, r = f.row ∧ f.user1 < f.user2 ∧
        ∃ a b, lastOn f.user1 f.user2 cs = some (.put a b f.status)) ↔
      ∃ a b status, r = .of a b (FriendshipStatus.text status) ∧
        lastStatus cs a b = some status := by
    simp only [lastStatus_eq_some]
    exact ⟨fun ⟨f, hr, hl⟩ => ⟨f.user1, f.user2, f.status, hr, hl⟩,
      fun ⟨a, b, status, hr, hl⟩ => ⟨⟨a, b, status⟩, hr, hl⟩⟩
  exact ⟨fun h => ⟨h.ascending, fun r => h.rows.trans (same r)⟩,
    fun h => ⟨h.ascending, fun {r} => (h.mem r).trans (same r).symm⟩⟩

/-- A call sets its own status for its two users. -/
theorem lastStatus_concat {c : FriendshipCall} (h : c.users.1 ≠ c.users.2 ∨ c.status? = none) :
    lastStatus (cs ++ [c]) = assign (lastStatus cs) (ordered c.users.1 c.users.2).1
      (ordered c.users.1 c.users.2).2 c.status? := by
  funext u v
  unfold lastStatus assign
  by_cases hlt : u < v
  · simp only [if_pos hlt, lastOn_concat_of_lt hlt, Prod.ext_iff, eq_comm (b := u), eq_comm (b := v)]
    split <;> rfl
  · simp only [if_neg hlt]
    split
    · rename_i he
      refine (h.resolve_left fun hne => hlt ?_).symm
      rw [he.1, he.2]
      exact ordered_lt hne
    · rfl

/-- A pair of equal users has no row. -/
theorem lastStatus_self (a : User) (status : FriendshipStatus) :
    lastStatus (cs ++ [.put a a status]) = lastStatus cs := by
  funext u v
  unfold lastStatus
  split
  · rename_i hlt
    rw [lastOn_concat_of_lt hlt, if_neg]
    intro he
    obtain ⟨rfl, rfl⟩ := Prod.mk.inj ((ordered_self a).symm.trans he)
    exact Name.lt_irrefl a hlt
  · rfl

theorem Mirrors.put (h : Mirrors s cs) (a b : User) (status : FriendshipStatus) :
    Mirrors (apply s (.put a b status)) (cs ++ [.put a b status]) := by
  rw [mirrors_iff] at h ⊢
  by_cases hab : a = b
  · -- the call fails
    subst hab
    rw [lastStatus_self]
    simpa [apply, putFriendship] using h
  · have rows : (apply s (.put a b status)).friendships =
        Rows.put (.of (ordered a b).1 (ordered a b).2 status.text) s.friendships := by
      simp [apply, putFriendship, hab, Row.of]
    rw [lastStatus_concat (c := .put a b status) (.inl hab), rows]
    exact h.put _ _ status

theorem Mirrors.delete (h : Mirrors s cs) (a b : User) :
    Mirrors (apply s (.delete a b)) (cs ++ [.delete a b]) := by
  rw [mirrors_iff] at h ⊢
  rw [lastStatus_concat (.inr rfl)]
  exact h.delete _ _

theorem Mirrors.call (h : Mirrors s cs) (c : FriendshipCall) : Mirrors (apply s c) (cs ++ [c]) := by
  cases c with
  | put a b status => exact h.put a b status
  | delete a b => exact h.delete a b

theorem Mirrors.calls (h : Mirrors s cs) (rest : List FriendshipCall) :
    Mirrors (rest.foldl apply s) (cs ++ rest) := by
  induction rest generalizing s cs with
  | nil => simpa using h
  | cons c rest ih => simpa using ih (h.call c)

theorem mirrors_after (cs : List FriendshipCall) : Mirrors (after cs) cs := by
  have none : Mirrors empty [] := ⟨List.Pairwise.nil, by simp [empty, lastOn]⟩
  exact none.calls cs

/-! ### Friend lists -/

theorem confirmed_iff {u v : User} : v ≠ u ∧ Confirmed u v cs ↔
    lastStatus cs u v = some .confirmed ∨ lastStatus cs v u = some .confirmed := by
  rw [lastStatus_eq_some, lastStatus_eq_some]
  change _ ↔ u < v ∧ Confirmed u v cs ∨ v < u ∧ Confirmed v u cs
  rw [confirmed_comm (u := v), ← or_and_right]
  refine and_congr_left fun _ => ⟨fun hne => ?_, ?_⟩
  · by_cases hlt : u < v
    · exact .inl hlt
    · exact .inr (Name.lt_of_not_lt hlt hne.symm)
  · rintro (hlt | hlt) rfl <;> exact Name.lt_irrefl _ hlt

/-- The friend lists can be read, and name to each other the users whose friendship was
confirmed. -/
theorem Mirrors.friendLists_ok (h : Mirrors s cs) :
    ∃ g, s.friendLists = .ok g ∧
      ∀ u v, v ∈ (g.get? u).getD [] ↔ v ≠ u ∧ Confirmed u v cs := by
  obtain ⟨g, read, lists⟩ :=
    Store.friendLists_ok (mirrors_iff.1 h) fun hs => (lastStatus_eq_some.1 hs).1
  exact ⟨g, read, fun u v => lists.mem.trans confirmed_iff.symm⟩

end

end Store

end Presence
