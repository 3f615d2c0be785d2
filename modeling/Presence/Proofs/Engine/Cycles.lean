import Presence.Proofs.Engine.Refreshes
import Presence.Proofs.Store.Sheets

/-!
Refreshes over stores with arbitrary rows. A table with a failing row is not absorbed; from any
other table each owner gets the list of all users that its rows relate to it.
-/

namespace Presence

namespace Store

/-- The answer of the store to a fetch. -/
def fetch (s : Store) : (kind : RefreshKind) → Answer (Graph kind)
  | .friends => s.fetchFriendLists
  | .parties => s.fetchActiveMembers

/-- The table of a kind has a row that fails. -/
def Faulty (s : Store) : RefreshKind → Prop
  | .friends => ∃ r ∈ s.friendships, ∃ err, Sheet.friendships.Fails r err
  | .parties => ∃ r ∈ s.members, ∃ err, Sheet.members.Fails r err

/-- A row relates a user to an owner: a confirmed friendship relates both of its users to each
other, an active membership its user to its party. -/
def Related (s : Store) : (kind : RefreshKind) → Name kind.owner → User → Prop
  | .friends, u, v => ∃ r ∈ s.friendships,
      Sheet.friendships.Says r u v .confirmed ∨ Sheet.friendships.Says r v u .confirmed
  | .parties, p, u => ∃ r ∈ s.members, Sheet.members.Says r p u .active

/-- The lists before and after a refresh over a store. -/
structure Refreshed (s : Store) (kind : RefreshKind) (r r' : Relationships) : Prop where
  faulty : s.Faulty kind → r' = r
  whole : ¬ s.Faulty kind → Lists (r'.lists kind) (s.Related kind)
  others : ∀ k, k ≠ kind → r'.lists k = r.lists k

section
variable {s : Store}

/-- A fetch fails if a row of its table fails; otherwise its answer lists what the rows relate. -/
theorem fetch_cases (s : Store) (kind : RefreshKind) :
    (s.Faulty kind ∧ ∃ f, s.fetch kind = .error f) ∨ (¬ s.Faulty kind ∧
      ∃ pairs : List (Name kind.owner × User),
        s.fetch kind = .ok (pairs.foldl (fun t e => addTo t e.1 e.2) .empty) ∧
        ∀ o u, (o, u) ∈ pairs ↔ s.Related kind o u) := by
  cases kind with
  | friends =>
    have faulty : (∃ err, s.listFriendships = .error err) ↔ s.Faulty .friends :=
      reads_friendshipOf.faulty_iff
    cases hl : s.listFriendships with
    | error err =>
      refine .inl ⟨faulty.1 ⟨err, hl⟩, .failed err.asSource, ?_⟩
      simp only [fetch, fetchFriendLists, friendLists, hl]
      rfl
    | ok fs =>
      refine .inr ⟨fun hf => ?_, fs.flatMap ends, ?_, fun u v => ?_⟩
      · obtain ⟨err, he⟩ := faulty.2 hf
        cases hl.symm.trans he
      · simp only [fetch, fetchFriendLists, friendLists_of_list hl]
        rfl
      · rw [Related, List.mem_flatMap]
        constructor
        · rintro ⟨⟨a, b, _⟩, hf, hu⟩
          obtain ⟨rfl, ⟨rfl, rfl⟩ | ⟨rfl, rfl⟩⟩ := mem_ends.1 hu
          · obtain ⟨r, hr, hs⟩ := (mem_listFriendships hl).1 hf
            exact ⟨r, hr, .inl hs⟩
          · obtain ⟨r, hr, hs⟩ := (mem_listFriendships hl).1 hf
            exact ⟨r, hr, .inr hs⟩
        · rintro ⟨r, hr, hs | hs⟩
          · exact ⟨_, (mem_listFriendships hl).2 ⟨r, hr, hs⟩, mem_ends.2 ⟨rfl, .inl ⟨rfl, rfl⟩⟩⟩
          · exact ⟨_, (mem_listFriendships hl).2 ⟨r, hr, hs⟩, mem_ends.2 ⟨rfl, .inr ⟨rfl, rfl⟩⟩⟩
  | parties =>
    have faulty : (∃ err, s.listMemberships = .error err) ↔ s.Faulty .parties :=
      reads_membershipOf.faulty_iff
    cases hl : s.listMemberships with
    | error err =>
      refine .inl ⟨faulty.1 ⟨err, hl⟩, .failed err.asSource, ?_⟩
      simp only [fetch, fetchActiveMembers, activeMembers, hl]
      rfl
    | ok ms =>
      refine .inr ⟨fun hf => ?_, ms.flatMap place, ?_, fun p u => ?_⟩
      · obtain ⟨err, he⟩ := faulty.2 hf
        cases hl.symm.trans he
      · simp only [fetch, fetchActiveMembers, activeMembers_of_list hl]
        rfl
      · simp [Related, List.mem_flatMap, mem_place, mem_listMemberships hl]

end

end Store

namespace Engine

/-- The actions by which an engine absorbs a fetch: in a loop or on demand. -/
inductive Takes (e : Engine) : (kind : RefreshKind) → Answer (Graph kind) → Action → Prop
  | loop {kind : RefreshKind} {g : Answer (Graph kind)} (hs : e.shutdown = false)
      (hf : (e.loop kind).phase = .fetching) : Takes e kind g (.loopAnswered kind g)
  | friends {t : Nat} {g : Answer (Graph .friends)}
      (hc : e.calls.get? t = some .refreshFriends) : Takes e .friends g (.friendsAnswered t g)
  | parties {t n : Nat} {g : Answer (Graph .parties)}
      (hc : e.calls.get? t = some (.refreshParties n)) : Takes e .parties g (.partiesAnswered t g)

section
variable {e : Engine} {kind : RefreshKind} {g : Answer (Graph kind)} {a : Action} {s : Store}

theorem relations_takes (h : e.Takes kind g a) :
    (e.step a).1.relations = (e.relations.absorb kind g).2 := by
  cases h with
  | loop hs hf =>
    simp only [step, loopAnswered, hs, Bool.false_eq_true, if_false, RefreshLoop.answer?, hf]
    exact relations_withLoop _ _ _
  | @friends _ g hc =>
    cases g with
    | error f => rw [friendsAnswered_error hc]; rfl
    | ok g => rw [friendsAnswered_ok hc]; rfl
  | @parties _ _ g hc =>
    cases g with
    | error f => rw [partiesAnswered_error hc]; rfl
    | ok g => rw [partiesAnswered_ok hc]; rfl

theorem refreshed_absorb (s : Store) (kind : RefreshKind) (r : Relationships) :
    s.Refreshed kind r (r.absorb kind (s.fetch kind)).2 := by
  rcases s.fetch_cases kind with ⟨hf, f, he⟩ | ⟨hf, pairs, he, named⟩
  · rw [he]
    exact ⟨fun _ => rfl, fun hn => absurd hf hn, fun _ _ => rfl⟩
  · rw [he]
    refine ⟨fun h => absurd h hf, fun _ => ?_, fun _ => Relationships.lists_refresh_other⟩
    have sorted := Store.lists_sorted pairs
    simp only [named] at sorted
    show Store.Lists ((r.refresh kind _).lists kind) _
    rw [Relationships.lists_refresh]
    exact sorted

/-- For arbitrary rows, the listing of a table fails with the failure of the first row that has one,
and otherwise has one entry for each row with two names, in order. A refresh leaves all lists
unchanged if a row of its table fails; otherwise the lists of its kind become those of the confirmed
friendships, for both users, or of the active memberships. -/
theorem refreshed_from_rows (hf : s.friendships.Ascending) (hm : s.members.Ascending) :
    Sheet.friendships.Listing Friendship.entry s.friendships s.listFriendships ∧
    Sheet.members.Listing Membership.entry s.members s.listMemberships ∧
    ∀ {e : Engine} {kind : RefreshKind} {a : Action}, e.Takes kind (s.fetch kind) a →
      s.Refreshed kind e.relations (e.step a).1.relations := by
  refine ⟨Store.reads_friendshipOf.listing hf, Store.reads_membershipOf.listing hm,
    fun {e kind a} h => ?_⟩
  rw [relations_takes h]
  exact refreshed_absorb s kind e.relations

/-- A user is spelled in two ways and a nameless row has an unknown status: both friends of ann are
absorbed. Nothing of the parties is, since a row has an unknown status. -/
theorem refreshed_from_rows_mixed :
    ∃ (s : Store) (e : Engine) (ann bob cy : User),
      s = ⟨[⟨.text " ", .text "bob", .text "blocked"⟩, ⟨.text "Ann ", .text "BOB", .text "confirmed"⟩,
          ⟨.text "ann", .text "cy", .text "confirmed"⟩],
        [⟨.text "Raid", .text "ann", .text "active"⟩, ⟨.text "raid", .text "cy", .text "owner"⟩]⟩ ∧
      s.friendships.Ascending ∧ s.members.Ascending ∧
      e.Takes .friends (s.fetch .friends) (.loopAnswered .friends (s.fetch .friends)) ∧
      (∃ fs, s.listFriendships = .ok fs ∧ fs.length = 2) ∧
      bob ∈ (e.step (.loopAnswered .friends (s.fetch .friends))).1.relations.friendsOf ann ∧
      cy ∈ (e.step (.loopAnswered .friends (s.fetch .friends))).1.relations.friendsOf ann ∧
      s.listMemberships = .error (.unknownStatus "owner") := by
  let ann : User := ⟨"ann", by decide, "ann", rfl⟩
  let bob : User := ⟨"bob", by decide, "bob", rfl⟩
  let cy : User := ⟨"cy", by decide, "cy", rfl⟩
  let s : Store := ⟨[⟨.text " ", .text "bob", .text "blocked"⟩,
    ⟨.text "Ann ", .text "BOB", .text "confirmed"⟩, ⟨.text "ann", .text "cy", .text "confirmed"⟩],
    [⟨.text "Raid", .text "ann", .text "active"⟩, ⟨.text "raid", .text "cy", .text "owner"⟩]⟩
  let e : Engine := ((fresh Config.standard ⟨0, .empty⟩).step (.wakeLoop .friends)).1
  have hf : s.friendships.Ascending := by
    unfold Rows.Ascending
    decide +kernel
  have hm : s.members.Ascending := by
    unfold Rows.Ascending
    decide +kernel
  have ha : e.Takes .friends (s.fetch .friends) (.loopAnswered .friends (s.fetch .friends)) :=
    .loop rfl rfl
  obtain ⟨friendships, members, refresh⟩ := refreshed_from_rows hf hm
  have listed : s.listFriendships = .ok [⟨ann, bob, .confirmed⟩, ⟨ann, cy, .confirmed⟩] := by
    decide +kernel
  have sound : ¬ s.Faulty .friends := fun ⟨r, hr, err, h⟩ =>
    ((friendships.reads _).1 listed).1 r hr err h
  have friend {v : User} (h : s.Related .friends ann v) :
      v ∈ (e.step (.loopAnswered .friends (s.fetch .friends))).1.relations.friendsOf ann :=
    ((refresh ha).whole sound).mem.2 h
  have said {a b : String} {u v : User} (hu : u.text = normalize a) (hv : v.text = normalize b) :
      Sheet.friendships.Says ⟨.text a, .text b, .text "confirmed"⟩ u v .confirmed :=
    @Sheet.Says.spelled _ _ _ Sheet.friendships a b u v .confirmed hu hv
  refine ⟨s, e, ann, bob, cy, rfl, hf, hm, ha, ⟨_, listed, rfl⟩, friend ?_, friend ?_,
    (members.fails _).2 ?_⟩
  · exact ⟨⟨.text "Ann ", .text "BOB", .text "confirmed"⟩, by simp [s],
      .inl (said (by decide +kernel) (by decide +kernel))⟩
  · exact ⟨⟨.text "ann", .text "cy", .text "confirmed"⟩, by simp [s],
      .inl (said (by decide +kernel) (by decide +kernel))⟩
  · refine ⟨⟨.text "raid", .text "cy", .text "owner"⟩, by simp [s],
      .word (by decide +kernel) (by decide +kernel) fun w => by cases w <;> decide,
      fun q hq err h => .inl ?_⟩
    obtain rfl | rfl : q = ⟨.text "Raid", .text "ann", .text "active"⟩ ∨
        q = ⟨.text "raid", .text "cy", .text "owner"⟩ := by simpa [s] using hq
    · cases h with
      | word _ _ unknown => exact absurd rfl (unknown .active)
    · rfl

end

end Engine

end Presence
