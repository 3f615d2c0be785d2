import Presence.Proofs.Store.Listing
import Presence.Proofs.Store.Reopening

/-!
The store as a pair of maps: the status of each unordered pair of users, and the status of each user
in each party. Every call refines an update of these maps, reopening is the identity, and everything
read from the rows is determined by the maps.
-/

namespace Presence

/-- The statuses of pairs of users and of memberships. -/
structure Ties where
  friends : User → User → Option FriendshipStatus
  members : Party → User → Option MembershipStatus
  comm : ∀ u v, friends u v = friends v u
  irrefl : ∀ u, friends u u = none

/-- Calls that change the store, and reopening it. -/
inductive StoreCall
  | putFriendship (a b : User) (status : FriendshipStatus)
  | deleteFriendship (a b : User)
  | putMembership (p : Party) (u : User) (status : MembershipStatus)
  | deleteMembership (p : Party) (u : User)
  | reopen

/-- The answer to a call. -/
inductive StoreAnswer
  | done
  /-- Whether the row to be removed existed. -/
  | removed (was : Bool)
  | failed (e : StoreError)
deriving DecidableEq

/-- A list of calls, with their answers. -/
def StoreCall.run {σ : Type} (call : σ → StoreCall → StoreAnswer × σ) (s : σ) :
    List StoreCall → List StoreAnswer × σ
  | [] => ([], s)
  | c :: cs => ((call s c).1 :: (run call (call s c).2 cs).1, (run call (call s c).2 cs).2)

namespace Ties

/-- The empty maps. -/
def none : Ties := ⟨fun _ _ => .none, fun _ _ => .none, fun _ _ => rfl, fun _ => rfl⟩

/-- Sets or removes the status of two users. -/
def tie (t : Ties) (a b : User) (v : Option FriendshipStatus) (h : a = b → v = .none) : Ties where
  friends x y := if x = a ∧ y = b ∨ x = b ∧ y = a then v else t.friends x y
  members := t.members
  comm x y := by
    rw [t.comm x y]
    exact ite_congr (propext (by grind)) (fun _ => rfl) fun _ => rfl
  irrefl x := by
    split
    · rename_i hx
      exact h (by grind)
    · exact t.irrefl x

/-- Sets or removes the status of a membership. -/
def place (t : Ties) (p : Party) (u : User) (v : Option MembershipStatus) : Ties :=
  { t with members := assign t.members p u v }

/-- Specification of a call. -/
def call (t : Ties) : StoreCall → StoreAnswer × Ties
  | .putFriendship a b status =>
    if h : a = b then (.failed (.selfFriendship a), t)
    else (.done, t.tie a b (some status) fun he => absurd he h)
  | .deleteFriendship a b => (.removed (t.friends a b).isSome, t.tie a b .none fun _ => rfl)
  | .putMembership p u status => (.done, t.place p u (some status))
  | .deleteMembership p u => (.removed (t.members p u).isSome, t.place p u .none)
  | .reopen => (.done, t)

/-- The map of ordered pairs. -/
def pairs (t : Ties) (a b : User) : Option FriendshipStatus :=
  if a < b then t.friends a b else .none

theorem pairs_ordered (t : Ties) (a b : User) :
    t.pairs (Store.ordered a b).1 (Store.ordered a b).2 = t.friends a b := by
  by_cases hab : a = b
  · subst hab
    simp [Store.ordered_self, pairs, t.irrefl]
  · have hlt := Store.ordered_lt hab
    rw [pairs, if_pos hlt]
    rcases (Store.ordered_eq_iff hlt).1 rfl with ⟨h1, h2⟩ | ⟨h1, h2⟩
    · rw [← h1, ← h2]
    · rw [← h1, ← h2, t.comm]

theorem pairs_eq_some {t : Ties} {a b : User} {status : FriendshipStatus} :
    t.pairs a b = some status ↔ a < b ∧ t.friends a b = some status := by
  unfold pairs
  split <;> simp [*]

theorem pairs_or {t : Ties} {a b : User} {status : FriendshipStatus} :
    t.pairs a b = some status ∨ t.pairs b a = some status ↔ t.friends a b = some status := by
  rw [pairs_eq_some, pairs_eq_some, t.comm b a, ← or_and_right]
  refine and_iff_right_of_imp fun ht => ?_
  by_cases hab : a < b
  · exact .inl hab
  · refine .inr (Name.lt_of_not_lt hab ?_)
    rintro rfl
    simp [t.irrefl] at ht

theorem pairs_tie (t : Ties) (a b : User) (v : Option FriendshipStatus) (h : a = b → v = .none) :
    (t.tie a b v h).pairs = assign t.pairs (Store.ordered a b).1 (Store.ordered a b).2 v := by
  funext x y
  unfold pairs tie assign
  by_cases hxy : x < y
  · have named : (x = a ∧ y = b ∨ x = b ∧ y = a) ↔
        x = (Store.ordered a b).1 ∧ y = (Store.ordered a b).2 := by
      have := Store.ordered_eq_iff (a := a) (b := b) hxy
      grind
    simp only [if_pos hxy, named]
  · simp only [if_neg hxy]
    split
    · rename_i he
      refine (h (Classical.byContradiction fun hab => hxy ?_)).symm
      rw [he.1, he.2]
      exact Store.ordered_lt hab
    · rfl

end Ties

/-! ### Refinement -/

namespace Store

/-- The rows of a store hold the maps. -/
structure Holds (s : Store) (t : Ties) : Prop where
  friends : Rows.Holds FriendshipStatus.text s.friendships t.pairs
  members : Rows.Holds MembershipStatus.text s.members t.members

section
variable {s : Store} {t : Ties}

theorem holds_empty : Holds .empty .none where
  friends := by
    have nothing : Ties.none.pairs = fun _ _ => .none := by
      funext a b
      exact ite_self _
    rw [nothing]
    exact Rows.holds_nil
  members := Rows.holds_nil

theorem Holds.putFriendship (h : s.Holds t) {a b : User} (hab : a ≠ b) (status : FriendshipStatus) :
    ∃ s', s.putFriendship a b status = .ok s' ∧
      s'.Holds (t.tie a b (some status) fun he => absurd he hab) := by
  refine ⟨_, if_neg hab, ?_, h.members⟩
  rw [Ties.pairs_tie]
  exact h.friends.put _ _ status

theorem Holds.deleteFriendship (h : s.Holds t) (a b : User) :
    (s.deleteFriendship a b).1 = (t.friends a b).isSome ∧
      (s.deleteFriendship a b).2.Holds (t.tie a b .none fun _ => rfl) := by
  refine ⟨?_, ?_, h.members⟩
  · rw [← t.pairs_ordered a b]
    exact h.friends.contains _ _
  · rw [Ties.pairs_tie]
    exact h.friends.delete _ _

theorem Holds.putMembership (h : s.Holds t) (p : Party) (u : User) (status : MembershipStatus) :
    (s.putMembership p u status).Holds (t.place p u (some status)) :=
  ⟨h.friends, h.members.put p u status⟩

theorem Holds.deleteMembership (h : s.Holds t) (p : Party) (u : User) :
    (s.deleteMembership p u).1 = (t.members p u).isSome ∧
      (s.deleteMembership p u).2.Holds (t.place p u .none) :=
  ⟨h.members.contains p u, h.friends, h.members.delete p u⟩

end

end Store

/-- An open store and the disk it is kept on. -/
structure OpenStore where
  store : Store
  disk : Disk

namespace OpenStore

/-- Commits `s` as the store's new rows. -/
def keep (locator : Locator) (path : String) (o : OpenStore) (s : Store) : OpenStore :=
  ⟨s, ((CommandLine.keepStore (Disk.files locator) path s).run o.disk).2⟩

/-- Runs a call on a store that is open at a path. -/
def call (locator : Locator) (path : String) (o : OpenStore) : StoreCall → StoreAnswer × OpenStore
  | .putFriendship a b status =>
    match o.store.putFriendship a b status with
    | .ok s => (.done, o.keep locator path s)
    | .error e => (.failed e, o)
  | .deleteFriendship a b =>
    (.removed (o.store.deleteFriendship a b).1, o.keep locator path (o.store.deleteFriendship a b).2)
  | .putMembership p u status => (.done, o.keep locator path (o.store.putMembership p u status))
  | .deleteMembership p u =>
    (.removed (o.store.deleteMembership p u).1, o.keep locator path (o.store.deleteMembership p u).2)
  | .reopen =>
    match (CommandLine.openStore (Disk.files locator) path).run o.disk with
    | (.ok s, d) => (.done, ⟨s, d⟩)
    | (.error e, d) => (.failed e, ⟨o.store, d⟩)

/-- The rows of an open store hold the maps, and the disk has the same rows. -/
structure Means (path name : String) (o : OpenStore) (t : Ties) : Prop where
  friends : Rows.Holds FriendshipStatus.text o.store.friendships t.pairs
  members : Rows.Holds MembershipStatus.text o.store.members t.members
  kept : CommandLine.Keeps path name o.store o.disk

section
variable {locator : Locator} {path name : String} {o : OpenStore} {t : Ties}

theorem Means.holds (h : Means path name o t) : o.store.Holds t := ⟨h.friends, h.members⟩

theorem Means.putFriendship (h : Means path name o t) (hp : locator.locate path = .file name) (a b : User)
    (status : FriendshipStatus) :
    (o.call locator path (.putFriendship a b status)).1 = (t.call (.putFriendship a b status)).1 ∧
      Means path name (o.call locator path (.putFriendship a b status)).2
        (t.call (.putFriendship a b status)).2 := by
  by_cases hab : a = b
  · subst hab
    simpa [call, Store.putFriendship, Ties.call] using h
  · obtain ⟨s, put, holds⟩ := h.holds.putFriendship hab status
    have answered : o.call locator path (.putFriendship a b status) = (.done, o.keep locator path s) := by
      simp only [OpenStore.call, put]
    have tied : t.call (.putFriendship a b status) =
        (.done, t.tie a b (some status) fun he => absurd he hab) := dif_neg hab
    rw [answered, tied]
    exact ⟨rfl, holds.friends, holds.members, h.kept.keep hp s⟩

theorem Means.deleteFriendship (h : Means path name o t) (hp : locator.locate path = .file name)
    (a b : User) :
    (o.call locator path (.deleteFriendship a b)).1 = (t.call (.deleteFriendship a b)).1 ∧
      Means path name (o.call locator path (.deleteFriendship a b)).2 (t.call (.deleteFriendship a b)).2 := by
  obtain ⟨was, holds⟩ := h.holds.deleteFriendship a b
  exact ⟨congrArg StoreAnswer.removed was, holds.friends, holds.members, h.kept.keep hp _⟩

theorem Means.reopen (h : Means path name o t) (hp : locator.locate path = .file name) :
    (o.call locator path .reopen).1 = (t.call .reopen).1 ∧
      Means path name (o.call locator path .reopen).2 (t.call .reopen).2 := by
  obtain ⟨d, hd, hk⟩ := h.kept.reopen hp
  have found : o.call locator path .reopen = (.done, ⟨o.store, d⟩) := by
    simp only [OpenStore.call, hd]
  rw [found]
  exact ⟨rfl, h.friends, h.members, hk⟩

/-- Every call is answered as specified, and preserves `Means`. -/
theorem Means.call (h : Means path name o t) (hp : locator.locate path = .file name) (c : StoreCall) :
    (o.call locator path c).1 = (t.call c).1 ∧ Means path name (o.call locator path c).2 (t.call c).2 := by
  cases c with
  | putFriendship a b status => exact h.putFriendship hp a b status
  | deleteFriendship a b => exact h.deleteFriendship hp a b
  | putMembership p u status =>
    exact ⟨rfl, h.friends, h.members.put p u status, h.kept.keep hp _⟩
  | deleteMembership p u =>
    exact ⟨congrArg StoreAnswer.removed (h.members.contains p u), h.friends,
      h.members.delete p u, h.kept.keep hp _⟩
  | reopen => exact h.reopen hp

theorem Means.run (h : Means path name o t) (hp : locator.locate path = .file name)
    (cs : List StoreCall) :
    (StoreCall.run (OpenStore.call locator path) o cs).1 = (StoreCall.run Ties.call t cs).1 ∧
      Means path name (StoreCall.run (OpenStore.call locator path) o cs).2
        (StoreCall.run Ties.call t cs).2 := by
  induction cs generalizing o t with
  | nil => exact ⟨rfl, h⟩
  | cons c cs ih =>
    obtain ⟨same, next⟩ := h.call hp c
    obtain ⟨rest, last⟩ := ih next
    exact ⟨congr (congrArg List.cons same) rest, last⟩

/-- A store just created holds the empty maps. -/
theorem means_none {d d' : Disk} (hp : locator.locate path = .file name)
    (h : (CommandLine.openStore (Disk.files locator) path).run d = (.ok .empty, d')) :
    Means path name ⟨.empty, d'⟩ .none where
  friends := Store.holds_empty.friends
  members := Store.holds_empty.members
  kept := .of_open hp h

end

end OpenStore

/-! ### Reading -/

namespace Store

/-- Specification of all readings of a store by its maps: every entry once, in ascending order. -/
structure Reads (s : Store) (t : Ties) : Prop where
  friendships : ∃ fs, s.listFriendships = .ok fs ∧
    (fs.Pairwise fun f g => f.user1 < g.user1 ∨ f.user1 = g.user1 ∧ f.user2 < g.user2) ∧
    ∀ f, f ∈ fs ↔ f.user1 < f.user2 ∧ t.friends f.user1 f.user2 = some f.status
  memberships : ∃ ms, s.listMemberships = .ok ms ∧
    (ms.Pairwise fun x y => x.party < y.party ∨ x.party = y.party ∧ x.user < y.user) ∧
    ∀ x, x ∈ ms ↔ t.members x.party x.user = some x.status
  membership : ∀ p u, s.fetchMembership p u = .ok ((t.members p u).map fun status => ⟨p, u, status⟩)
  friendLists : ∃ g, s.fetchFriendLists = .ok g ∧
    Lists g fun u v => t.friends u v = some .confirmed
  activeMembers : ∃ g, s.fetchActiveMembers = .ok g ∧
    Lists g fun p u => t.members p u = some .active

theorem Holds.reads {s : Store} {t : Ties} (h : s.Holds t) : s.Reads t where
  friendships := by
    simpa only [Ties.pairs_eq_some] using listFriendships_ok h.friends
  memberships := listMemberships_ok h.members
  membership p u := by
    rw [fetchMembership, membership?_ok h.members]
    rfl
  friendLists := by
    obtain ⟨g, read, lists⟩ := friendLists_ok h.friends fun hp => (Ties.pairs_eq_some.1 hp).1
    refine ⟨g, by rw [fetchFriendLists, read]; rfl, ?_⟩
    simpa only [Ties.pairs_or] using lists
  activeMembers := by
    obtain ⟨g, read, lists⟩ := activeMembers_ok h.members
    exact ⟨g, by rw [fetchActiveMembers, read]; rfl, lists⟩

theorem reads_of_means {path name : String} {o : OpenStore} {t : Ties} (h : o.Means path name t) :
    Reads o.store t :=
  h.holds.reads

end Store

/-! ### The main statement -/

/-- Refinement: a store created in a file answers every sequence of calls as a pair of maps does, across
reopenings, and all that is read from it afterwards is what the maps hold. -/
theorem store_refines_ties {locator : Locator} {path name : String} {d d' : Disk}
    (hp : locator.locate path = .file name)
    (ho : (CommandLine.openStore (Disk.files locator) path).run d = (.ok .empty, d'))
    (cs : List StoreCall) :
    (StoreCall.run (OpenStore.call locator path) ⟨.empty, d'⟩ cs).1 =
      (StoreCall.run Ties.call .none cs).1 ∧
    (StoreCall.run (OpenStore.call locator path) ⟨.empty, d'⟩ cs).2.store.Reads
      (StoreCall.run Ties.call .none cs).2 := by
  obtain ⟨same, means⟩ := (OpenStore.means_none hp ho).run hp cs
  exact ⟨same, Store.reads_of_means means⟩

/-- A confirmed friendship is put again with its users swapped and status `sent`, is found so after
reopening, and is removed once. -/
theorem store_refines_ties_reopened :
    ∃ ann bob : User, ∃ cs d,
      (CommandLine.openStore (Disk.files .standard) "t").run ⟨.empty⟩ = (.ok .empty, d) ∧
      cs = [.putFriendship ann bob .confirmed, .putFriendship ann ann .sent,
        .putFriendship bob ann .sent, .reopen, .deleteFriendship ann bob, .deleteFriendship bob ann] ∧
      (StoreCall.run (OpenStore.call .standard "t") ⟨.empty, d⟩ cs).1 =
        [.done, .failed (.selfFriendship ann), .done, .done, .removed true, .removed false] ∧
      (StoreCall.run (OpenStore.call .standard "t") ⟨.empty, d⟩ cs).2.store.Reads
        (StoreCall.run Ties.call .none cs).2 := by
  obtain ⟨d, made⟩ := CommandLine.openStore_fresh .standard
  have located : Locator.standard.locate "t" = .file "t" := by decide
  have refines (ann bob : User) := store_refines_ties located made
    [.putFriendship ann bob .confirmed, .putFriendship ann ann .sent,
      .putFriendship bob ann .sent, .reopen, .deleteFriendship ann bob, .deleteFriendship bob ann]
  obtain ⟨answers, reads⟩ := refines ⟨"ann", by decide, "ann", rfl⟩ ⟨"bob", by decide, "bob", rfl⟩
  refine ⟨_, _, _, d, made, rfl, answers.trans ?_, reads⟩
  decide +kernel

end Presence
