import Presence.Proofs.Naming
import Presence.Refresh

/-!
Cached lists. For any answers of the source every friend list is strictly ascending.
-/

namespace Presence.Relationships

variable {r : Relationships} {u v : User}

/-- A refresh adopts the members of each list. -/
theorem mem_friendsOf_refresh {g : Graph .friends} :
    v ∈ (r.refresh .friends g).friendsOf u ↔ v ∈ (g.get? u).getD [] := by
  unfold friendsOf refresh
  simp only [Table.get?_mapValues]
  cases g.get? u <;> simp

def lists (r : Relationships) : (kind : RefreshKind) → Graph kind
  | .friends => r.friends
  | .parties => r.parties

theorem lists_refresh {kind : RefreshKind} {g : Graph kind} :
    (r.refresh kind g).lists kind = g.mapValues Name.sortedSet := by
  cases kind <;> rfl

theorem lists_refresh_other {kind k : RefreshKind} {g : Graph kind} (h : k ≠ kind) :
    (r.refresh kind g).lists k = r.lists k := by
  cases kind with
  | friends =>
    cases k with
    | friends => exact absurd rfl h
    | parties => rfl
  | parties =>
    cases k with
    | friends => rfl
    | parties => exact absurd rfl h

/-- The lists are those of a graph, without repetition. -/
structure Shows {kind : RefreshKind} (lists g : Graph kind) : Prop where
  owners : ∀ o, (lists.get? o).isSome = (g.get? o).isSome
  mem : ∀ o v, v ∈ (lists.get? o).getD [] ↔ v ∈ (g.get? o).getD []
  nodup : ∀ o, ((lists.get? o).getD []).Nodup

theorem shows_refresh {kind : RefreshKind} {g : Graph kind} :
    Shows ((r.refresh kind g).lists kind) g := by
  rw [lists_refresh]
  constructor
  case owners => simp [Table.get?_mapValues]
  case mem =>
    intro o v
    rw [Table.get?_mapValues]
    cases g.get? o <;> simp
  case nodup =>
    intro o
    rw [Table.get?_mapValues]
    cases g.get? o with
    | none => exact List.nodup_nil
    | some names => exact Name.nodup_of_pairwise (Name.pairwise_sortedSet names)

/-- Every friend list is strictly ascending. -/
def Ascending (r : Relationships) : Prop := ∀ u, (r.friendsOf u).Pairwise (· < ·)

theorem ascending_empty : Ascending empty := fun _ => by simp [friendsOf, empty]

theorem Ascending.nodup (h : Ascending r) (u : User) : (r.friendsOf u).Nodup :=
  Name.nodup_of_pairwise (h u)

theorem ascending_refresh {g : Graph .friends} : Ascending (r.refresh .friends g) := by
  intro u
  unfold friendsOf refresh
  simp only [Table.get?_mapValues]
  cases g.get? u with
  | none => simp
  | some names => exact Name.pairwise_sortedSet names

theorem Ascending.refresh (h : Ascending r) (kind : RefreshKind) (g : Graph kind) :
    Ascending (r.refresh kind g) := by
  cases kind with
  | friends => exact ascending_refresh
  | parties => exact h

theorem Ascending.replaceFriends (h : Ascending r) (w : User) (list : List User) :
    Ascending (r.replaceFriends w list) := by
  intro u
  unfold friendsOf Relationships.replaceFriends
  rw [Table.get?_insert]
  split
  · exact Name.pairwise_sortedSet list
  · exact h u

/-- Lists that are reachable by replacements and refreshes. -/
inductive Filled : Relationships → Prop
  | empty : Filled .empty
  | friends {r : Relationships} (h : Filled r) (u : User) (list : List User) :
      Filled (r.replaceFriends u list)
  | members {r : Relationships} (h : Filled r) (p : Party) (list : List User) :
      Filled (r.replaceMembers p list)
  | refreshed {r : Relationships} (h : Filled r) (kind : RefreshKind) (g : Graph kind) :
      Filled (r.refresh kind g)

/-- Reachable friend lists are strictly ascending. -/
theorem Filled.ascending (h : Filled r) : Ascending r := by
  induction h with
  | empty => exact ascending_empty
  | friends _ u list ih => exact ih.replaceFriends u list
  | members _ _ _ ih => exact ih
  | refreshed _ kind g ih => exact ih.refresh kind g

theorem Ascending.absorb (h : Ascending r) (kind : RefreshKind) (a : Answer (Graph kind)) :
    Ascending (r.absorb kind a).2 := by
  cases a with
  | error f => exact h
  | ok g => exact h.refresh kind g

end Presence.Relationships
