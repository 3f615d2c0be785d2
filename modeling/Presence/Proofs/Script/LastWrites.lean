import Presence.Proofs.Relationships
import Presence.Script.Lists

/-!
Lists after a history of steps. A replacement writes the list of one owner, a refresh all lists of
its kind; a list is read as it was written last, strictly ascending. Steps on one kind of lists do
not affect the other.
-/

namespace Presence.Script.Lists

open Relationships

/-! ### Writes -/

/-- What a step writes to the list of an owner, if it writes it: a list, or its removal. -/
def Step.told? : (kind : RefreshKind) → Name kind.owner → Step → Option (Option (List User))
  | .friends, u, .replaceFriends u' list => if u = u' then some (some list) else none
  | .friends, u, .refreshFriends g => some (g.get? u)
  | .parties, p, .replaceMembers p' list => if p = p' then some (some list) else none
  | .parties, p, .refreshMembers g => some (g.get? p)
  | _, _, _ => none

/-- The last write to the list of an owner in a history. -/
def lastWritten (kind : RefreshKind) (k : Name kind.owner) (history : List Step) :
    Option (List User) :=
  (history.reverse.findSome? (Step.told? kind k)).getD none

/-- The lists after a history from empty lists. -/
def after (history : List Step) : Relationships :=
  history.foldl (fun r s => (step r s).2) .empty

/-- The step that reads the list of an owner. -/
def Step.reading : (kind : RefreshKind) → Name kind.owner → Step
  | .friends, u => .friends u
  | .parties, p => .members p

/-- The step that replaces all lists of a kind. -/
def Step.refreshing : (kind : RefreshKind) → Graph kind → Step
  | .friends, g => .refreshFriends g
  | .parties, g => .refreshMembers g

/-- The kind of lists that a step is about; counting is about both. -/
def Step.kind? : Step → Option RefreshKind
  | .replaceFriends .. | .friends _ | .refreshFriends _ => some .friends
  | .replaceMembers .. | .members _ | .refreshMembers _ => some .parties
  | .counts => none

/-! ### One step -/

section
variable {r r' : Relationships} {kind : RefreshKind} {k : Name kind.owner} {s : Step}

/-- A list after a step is what the step writes to it, or unchanged. -/
theorem get?_step : ((step r s).2.lists kind).get? k =
    ((s.told? kind k).map fun said => said.map Name.sortedSet).getD ((r.lists kind).get? k) := by
  cases kind with
  | friends =>
    cases s with
    | replaceFriends u list =>
      show (r.friends.insert u (Name.sortedSet list)).get? k =
        ((if k = u then some (some list) else none).map _).getD (r.friends.get? k)
      rw [Table.get?_insert]
      split <;> rfl
    | refreshFriends g => exact Table.get?_mapValues g Name.sortedSet k
    | _ => rfl
  | parties =>
    cases s with
    | replaceMembers p list =>
      show (r.parties.insert p (Name.sortedSet list)).get? k =
        ((if k = p then some (some list) else none).map _).getD (r.parties.get? k)
      rw [Table.get?_insert]
      split <;> rfl
    | refreshMembers g => exact Table.get?_mapValues g Name.sortedSet k
    | _ => rfl

/-- A step of another kind changes no list. -/
theorem lists_step_other (h : s.kind? ≠ some kind) : (step r s).2.lists kind = r.lists kind := by
  cases kind with
  | friends => cases s <;> first | rfl | exact absurd rfl h
  | parties => cases s <;> first | rfl | exact absurd rfl h

/-- The effect of a step on the lists of its kind depends only on these. -/
theorem lists_step_congr (h : r.lists kind = r'.lists kind) :
    (step r s).2.lists kind = (step r' s).2.lists kind := by
  cases kind with
  | friends =>
    cases s with
    | replaceFriends u list => exact congrArg (·.insert u (Name.sortedSet list)) h
    | refreshFriends g => rfl
    | _ => exact h
  | parties =>
    cases s with
    | replaceMembers p list => exact congrArg (·.insert p (Name.sortedSet list)) h
    | refreshMembers g => rfl
    | _ => exact h

theorem step_reading : (step r (.reading kind k)).1 =
    .texts ((((r.lists kind).get? k).getD []).map Name.text) := by
  cases kind <;> rfl

/-- The reply to a step depends only on the lists of its kind. -/
theorem reply_congr (h : r.lists kind = r'.lists kind) (hs : s.kind? = some kind) :
    (step r s).1 = (step r' s).1 := by
  have texts (k : Name kind.owner) :
      (step r (.reading kind k)).1 = (step r' (.reading kind k)).1 := by
    rw [step_reading, step_reading, h]
  cases kind with
  | friends =>
    cases s with
    | friends u => exact texts u
    | replaceFriends => rfl
    | refreshFriends => rfl
    | _ => cases hs
  | parties =>
    cases s with
    | members p => exact texts p
    | replaceMembers => rfl
    | refreshMembers => rfl
    | _ => cases hs

theorem count_eq : r.count kind = (r.lists kind).size := by
  cases kind <;> rfl

end

/-! ### Histories -/

section
variable {kind : RefreshKind} {k : Name kind.owner} {history : List Step}

/-- A list after a history is its last write, or unchanged. -/
theorem get?_foldl (r : Relationships) (history : List Step) :
    ((history.foldl (fun r s => (step r s).2) r).lists kind).get? k =
      ((history.reverse.findSome? (Step.told? kind k)).map fun said => said.map Name.sortedSet).getD
        ((r.lists kind).get? k) := by
  induction history generalizing r with
  | nil => rfl
  | cons s history ih =>
    rw [List.foldl_cons, ih, get?_step, List.reverse_cons, List.findSome?_append,
      List.findSome?_singleton]
    cases history.reverse.findSome? (Step.told? kind k) <;> rfl

theorem get?_after :
    ((after history).lists kind).get? k = (lastWritten kind k history).map Name.sortedSet := by
  have none_ : (Relationships.empty.lists kind).get? k = none := by cases kind <;> rfl
  unfold after lastWritten
  rw [get?_foldl, none_]
  cases history.reverse.findSome? (Step.told? kind k) <;> rfl

/-- Removing the steps of the other kind does not change the lists. -/
theorem lists_after_filter :
    (after (history.filter fun s => s.kind? = some kind)).lists kind = (after history).lists kind := by
  have along (r r' : Relationships) (h : r.lists kind = r'.lists kind) :
      ((history.filter fun s => s.kind? = some kind).foldl (fun r s => (step r s).2) r).lists kind =
        (history.foldl (fun r s => (step r s).2) r').lists kind := by
    induction history generalizing r r' with
    | nil => exact h
    | cons s history ih =>
      by_cases hs : s.kind? = some kind
      · rw [List.filter_cons_of_pos (by simpa using hs), List.foldl_cons, List.foldl_cons]
        exact ih _ _ (lists_step_congr h)
      · rw [List.filter_cons_of_neg (by simpa using hs), List.foldl_cons]
        exact ih _ _ (h.trans (lists_step_other hs).symm)
  exact along _ _ rfl

end

/-- After any history a list is read as its last write, by a replacement or by a refresh with that
owner, strictly ascending, and as empty if there is none. The count of a kind is the number of
owners with a list, empty ones included, and a refresh replies with the number of lists of its
graph. Steps on the other kind affect neither lists nor replies. -/
theorem lists_follow_last_writes (history : List Step) (kind : RefreshKind) :
    (∀ k, ∃ list : List User,
      (step (after history) (.reading kind k)).1 = .texts (list.map Name.text) ∧
      list.Pairwise (· < ·) ∧
      ∀ v, v ∈ list ↔ v ∈ (lastWritten kind k history).getD []) ∧
    (∃ keys : List (Name kind.owner), keys.Nodup ∧
      (∀ k, k ∈ keys ↔ (lastWritten kind k history).isSome = true) ∧
      (after history).count kind = keys.length) ∧
    (step (after history) .counts).1 =
      .counts [(after history).count .friends, (after history).count .parties] ∧
    (∀ g, ∃ keys : List (Name kind.owner), keys.Nodup ∧
      (∀ k, k ∈ keys ↔ (g.get? k).isSome = true) ∧
      (step (after history) (.refreshing kind g)).1 = .count keys.length) ∧
    (after (history.filter fun s => s.kind? = some kind)).lists kind = (after history).lists kind ∧
    ∀ s : Step, s.kind? = some kind →
      (step (after (history.filter fun s => s.kind? = some kind)) s).1 =
        (step (after history) s).1 := by
  refine ⟨fun k => ⟨_, step_reading, ?_, fun v => ?_⟩, ?_, rfl, fun g => ?_, lists_after_filter,
    fun s hs => reply_congr lists_after_filter hs⟩
  · rw [get?_after]
    cases lastWritten kind k history with
    | none => exact List.Pairwise.nil
    | some list => exact Name.pairwise_sortedSet list
  · rw [get?_after]
    cases lastWritten kind k history with
    | none => exact Iff.rfl
    | some list => exact Name.mem_sortedSet
  · obtain ⟨keys, hnodup, hkeys, hsize⟩ := Table.exists_keys ((after history).lists kind)
    refine ⟨keys, hnodup, fun k => ?_, count_eq.trans hsize⟩
    rw [hkeys, get?_after, Option.isSome_map]
  · obtain ⟨keys, hnodup, hkeys, hsize⟩ := Table.exists_keys g
    refine ⟨keys, hnodup, hkeys, ?_⟩
    rw [← hsize]
    cases kind <;> rfl

/-- A replaced list loses its members, a refresh removes it, and an empty list counts; steps on
friend lists do not affect a party. -/
theorem lists_follow_last_writes_each :
    ∃ (ann bob : User) (duo : Party), let history : List Step :=
        [.replaceFriends ann [bob, ann, bob], .replaceFriends bob [ann], .replaceMembers duo [bob],
          .refreshFriends (.ofList [(bob, [])]), .replaceFriends ann [bob]]
      lastWritten .friends ann history = some [bob] ∧ lastWritten .friends bob history = some [] ∧
      (∃ list : List User, (step (after history) (.friends ann)).1 = .texts (list.map Name.text) ∧
        list.Pairwise (· < ·) ∧ ∀ v, v ∈ list ↔ v ∈ [bob]) ∧
      (after history).count .friends = 2 ∧ Step.kind? (.members duo) = some .parties ∧
      (step (after [.replaceMembers duo [bob]]) (.members duo)).1 =
        (step (after history) (.members duo)).1 := by
  refine ⟨⟨"ann", by decide, "ann", rfl⟩, ⟨"bob", by decide, "bob", rfl⟩,
    ⟨"duo", by decide, "duo", rfl⟩, ?_⟩
  intro history
  obtain ⟨-, -, -, -, -, replies⟩ := lists_follow_last_writes history .parties
  refine ⟨?_, ?_, (lists_follow_last_writes history .friends).1 _, ?_, rfl, replies (.members _) rfl⟩
  all_goals decide +kernel

end Presence.Script.Lists
