import Presence.Proofs.Store.Bindings

/-!
Reading stores whose rows hold maps. Every row is read in order; the friend lists name both users of
every confirmed friendship to each other, and the members of a party are its active ones.
-/

namespace Presence

theorem FriendshipStatus.parse_text (status : FriendshipStatus) :
    parse status.text = .ok status := by
  cases status <;> rfl

theorem MembershipStatus.parse_text (status : MembershipStatus) :
    parse status.text = .ok status := by
  cases status <;> rfl

namespace Store

variable {s : Store}

/-! ### Friendships -/

section
variable {m : User → User → Option FriendshipStatus}

theorem friendshipOf_of (a b : User) (status : FriendshipStatus) :
    friendshipOf (.of a b status.text) = .ok (some ⟨a, b, status⟩) := by
  unfold friendshipOf rowTexts Row.of cellText
  simp only [bind, Except.bind, Name.parse?_text, FriendshipStatus.parse_text]

/-- The friendships are read in the order of their rows, and are those of the map. -/
theorem listFriendships_ok (h : Rows.Holds FriendshipStatus.text s.friendships m) :
    ∃ fs, s.listFriendships = .ok fs ∧
      (fs.Pairwise fun f g => f.user1 < g.user1 ∨ f.user1 = g.user1 ∧ f.user2 < g.user2) ∧
      ∀ f, f ∈ fs ↔ m f.user1 f.user2 = some f.status := by
  obtain ⟨es, hes, sorted, mem⟩ := h.entries
  have each (e : User × User × FriendshipStatus) :
      friendshipOf (.of e.1 e.2.1 e.2.2.text) = .ok (some ⟨e.1, e.2.1, e.2.2⟩) :=
    friendshipOf_of e.1 e.2.1 e.2.2
  refine ⟨es.map fun e => ⟨e.1, e.2.1, e.2.2⟩, ?_, List.pairwise_map.2 sorted, fun f => ?_⟩
  · unfold listFriendships
    rw [hes, collect_map each]
  · rw [← mem]
    exact mem_map_entries (g := fun f : Friendship => (f.user1, f.user2, f.status))
      (fun _ => rfl) fun _ => rfl

/-- Both directions of a confirmed friendship. -/
def ends (f : Friendship) : List (User × User) :=
  if f.status = .confirmed then [(f.user1, f.user2), (f.user2, f.user1)] else []

theorem mem_ends {f : Friendship} {u v : User} : (u, v) ∈ ends f ↔
    f.status = .confirmed ∧ (f.user1 = u ∧ f.user2 = v ∨ f.user1 = v ∧ f.user2 = u) := by
  unfold ends
  split <;> simp [*]
  grind

/-- For one owner, the friends ascend in the order of the rows. -/
theorem ends_ascend {f g : Friendship} (hf : f.user1 < f.user2) (hg : g.user1 < g.user2)
    (h : f.user1 < g.user1 ∨ f.user1 = g.user1 ∧ f.user2 < g.user2) :
    ∀ x ∈ ends f, ∀ y ∈ ends g, x.1 = y.1 → x.2 < y.2 := by
  rintro ⟨u, v⟩ hx ⟨_, w⟩ hy rfl
  obtain ⟨a, b, _⟩ := f
  obtain ⟨c, d, _⟩ := g
  rcases (mem_ends.1 hx).2 with ⟨rfl, rfl⟩ | ⟨rfl, rfl⟩ <;>
    rcases (mem_ends.1 hy).2 with ⟨rfl, rfl⟩ | ⟨rfl, rfl⟩
  case inl.inl =>
    exact (h.resolve_left (Name.lt_irrefl _)).2
  case inl.inr =>
    -- the later friendship would begin with a smaller name
    rcases h with h | ⟨he, -⟩
    · exact absurd (Name.lt_trans h hg) (Name.lt_irrefl _)
    · exact absurd (he ▸ hg) (Name.lt_irrefl _)
  case inr.inl => exact Name.lt_trans hf hg
  case inr.inr => exact h.resolve_right fun h => Name.lt_irrefl _ h.2

theorem ends_apart {f : Friendship} (hf : f.user1 < f.user2) :
    (ends f).Pairwise fun x y => x.1 = y.1 → x.2 < y.2 := by
  unfold ends
  split
  · refine List.pairwise_pair.2 fun he => absurd hf ?_
    rw [show f.user1 = f.user2 from he]
    exact Name.lt_irrefl _
  · exact List.Pairwise.nil

/-- The friend lists are collected from all directed friendships. -/
theorem friendLists_of_list {fs : List Friendship} (h : s.listFriendships = .ok fs) :
    s.friendLists = .ok ((fs.flatMap ends).foldl (fun t e => addTo t e.1 e.2) .empty) := by
  have both (t : Graph .friends) (f : Friendship) :
      (ends f).foldl (fun t e => addTo t e.1 e.2) t =
        if f.status = .confirmed then addTo (addTo t f.user1 f.user2) f.user2 f.user1 else t := by
    unfold ends
    split <;> rfl
  unfold friendLists
  rw [h, List.foldl_flatMap]
  simp only [both]
  rfl

/-- The friend lists can be read, and name to each other the users with a confirmed friendship. -/
theorem friendLists_ok (h : Rows.Holds FriendshipStatus.text s.friendships m)
    (hlt : ∀ {a b status}, m a b = some status → a < b) :
    ∃ g, s.friendLists = .ok g ∧
      Lists g fun u v => m u v = some .confirmed ∨ m v u = some .confirmed := by
  obtain ⟨fs, hfs, sorted, mem⟩ := listFriendships_ok h
  have ascending : (fs.flatMap ends).Pairwise fun x y => x.1 = y.1 → x.2 < y.2 := by
    rw [List.pairwise_flatMap]
    refine ⟨fun f hf => ends_apart (hlt ((mem f).1 hf)), sorted.imp_of_mem fun {f g} hf hg => ?_⟩
    exact ends_ascend (hlt ((mem f).1 hf)) (hlt ((mem g).1 hg))
  have named (u v : User) :
      (u, v) ∈ fs.flatMap ends ↔ m u v = some .confirmed ∨ m v u = some .confirmed := by
    rw [List.mem_flatMap]
    constructor
    · rintro ⟨⟨a, b, _⟩, hf, hu⟩
      obtain ⟨rfl, ⟨rfl, rfl⟩ | ⟨rfl, rfl⟩⟩ := mem_ends.1 hu
      · exact .inl ((mem _).1 hf)
      · exact .inr ((mem _).1 hf)
    · rintro (hm | hm)
      · exact ⟨⟨u, v, .confirmed⟩, (mem _).2 hm, mem_ends.2 ⟨rfl, .inl ⟨rfl, rfl⟩⟩⟩
      · exact ⟨⟨v, u, .confirmed⟩, (mem _).2 hm, mem_ends.2 ⟨rfl, .inr ⟨rfl, rfl⟩⟩⟩
  exact ⟨_, friendLists_of_list hfs, lists_foldl_addTo ascending named⟩

end

/-! ### Memberships -/

section
variable {m : Party → User → Option MembershipStatus}

theorem membershipOf_of (p : Party) (u : User) (status : MembershipStatus) :
    membershipOf (.of p u status.text) = .ok (some ⟨p, u, status⟩) := by
  unfold membershipOf rowTexts Row.of cellText
  simp only [bind, Except.bind, Name.parse?_text, MembershipStatus.parse_text]

/-- The memberships are read in the order of their rows, and are those of the map. -/
theorem listMemberships_ok (h : Rows.Holds MembershipStatus.text s.members m) :
    ∃ ms, s.listMemberships = .ok ms ∧
      (ms.Pairwise fun x y => x.party < y.party ∨ x.party = y.party ∧ x.user < y.user) ∧
      ∀ x, x ∈ ms ↔ m x.party x.user = some x.status := by
  obtain ⟨es, hes, sorted, mem⟩ := h.entries
  have each (e : Party × User × MembershipStatus) :
      membershipOf (.of e.1 e.2.1 e.2.2.text) = .ok (some ⟨e.1, e.2.1, e.2.2⟩) :=
    membershipOf_of e.1 e.2.1 e.2.2
  refine ⟨es.map fun e => ⟨e.1, e.2.1, e.2.2⟩, ?_, List.pairwise_map.2 sorted, fun x => ?_⟩
  · unfold listMemberships
    rw [hes, collect_map each]
  · rw [← mem]
    exact mem_map_entries (g := fun x : Membership => (x.party, x.user, x.status))
      (fun _ => rfl) fun _ => rfl

theorem membership?_ok (h : Rows.Holds MembershipStatus.text s.members m) (p : Party) (u : User) :
    s.membership? p u = .ok ((m p u).map fun status => ⟨p, u, status⟩) := by
  unfold membership?
  rw [h.find?]
  cases m p u with
  | none => rfl
  | some status =>
    simp only [Option.map_some, Row.of, cellText, bind, Except.bind, MembershipStatus.parse_text]

/-- An active member with the party as owner. -/
def place (x : Membership) : List (Party × User) :=
  if x.status = .active then [(x.party, x.user)] else []

theorem mem_place {x : Membership} {p : Party} {u : User} :
    (p, u) ∈ place x ↔ x = ⟨p, u, .active⟩ := by
  obtain ⟨q, v, status⟩ := x
  cases status <;> simp [place, eq_comm]

/-- The members are collected from all active memberships. -/
theorem activeMembers_of_list {ms : List Membership} (h : s.listMemberships = .ok ms) :
    s.activeMembers = .ok ((ms.flatMap place).foldl (fun t e => addTo t e.1 e.2) .empty) := by
  have one (t : Graph .parties) (x : Membership) :
      (place x).foldl (fun t e => addTo t e.1 e.2) t =
        if x.status = .active then addTo t x.party x.user else t := by
    unfold place
    split <;> rfl
  unfold activeMembers
  rw [h, List.foldl_flatMap]
  simp only [one]
  rfl

/-- The member lists can be read, and are those of the active memberships. -/
theorem activeMembers_ok (h : Rows.Holds MembershipStatus.text s.members m) :
    ∃ g, s.activeMembers = .ok g ∧ Lists g fun p u => m p u = some .active := by
  obtain ⟨ms, hms, sorted, mem⟩ := listMemberships_ok h
  have ascending : (ms.flatMap place).Pairwise fun x y => x.1 = y.1 → x.2 < y.2 := by
    rw [List.pairwise_flatMap]
    refine ⟨fun x _ => ?_, sorted.imp fun {x y} hlt => ?_⟩
    · unfold place
      split <;> simp
    · rintro ⟨p, u⟩ hx ⟨_, v⟩ hy rfl
      cases mem_place.1 hx
      cases mem_place.1 hy
      exact (hlt.resolve_left (Name.lt_irrefl _)).2
  have named (p : Party) (u : User) : (p, u) ∈ ms.flatMap place ↔ m p u = some .active := by
    simp [List.mem_flatMap, mem_place, mem]
  exact ⟨_, activeMembers_of_list hms, lists_foldl_addTo ascending named⟩

end

end Store

end Presence
