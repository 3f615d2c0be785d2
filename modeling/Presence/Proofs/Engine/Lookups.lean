import Presence.Proofs.Engine.Admission
import Presence.Proofs.Engine.Cycles

/-!
Listing and lookup of memberships. The listing normalizes the names of all rows, whereas the lookup
compares the names of a party and a user with the rows as stored, so it finds only a row in normal
form.
-/

namespace Presence

/-- In an ascending table, rows with the same names are equal. -/
theorem Rows.Ascending.eq_of_sameKey {rows : Rows} {a b : Row} (h : rows.Ascending) (ha : a ∈ rows)
    (hb : b ∈ rows) (hk : a.sameKey b = true) : a = b := by
  induction rows with
  | nil => cases ha
  | cons r rows ih =>
    obtain ⟨first, rest⟩ := List.pairwise_cons.1 h
    have apart {c : Row} (hc : c ∈ rows) : ¬ r.sameKey c = true := by
      simp [Row.not_sameKey_of_before (first c hc)]
    rcases List.mem_cons.1 ha with rfl | later <;> rcases List.mem_cons.1 hb with rfl | later'
    · rfl
    · exact absurd hk (apart later')
    · obtain ⟨h1, h2⟩ := Row.sameKey_iff.1 hk
      exact absurd (Row.sameKey_iff.2 ⟨h1.symm, h2.symm⟩) (apart later)
    · exact ih rest later later'

theorem MembershipStatus.text_inj {a b : MembershipStatus} : a.text = b.text ↔ a = b := by
  cases a <;> cases b <;> simp [text]

namespace Store

section
variable {s : Store} {ms : List Membership} {p : Party} {u : User} {m : Membership}
  {status : MembershipStatus}

/-- A row in normal form says its own names and status. -/
theorem says_of (p : Party) (u : User) (status : MembershipStatus) :
    Sheet.members.Says (.of p u status.text) p u status :=
  .spelled (Name.normalize_text p).symm (Name.normalize_text u).symm

/-- In a table that can be listed, a row with names in normal form has a known status. -/
theorem exists_status (h : s.listMemberships = .ok ms) {r : Row} (hr : r ∈ s.members)
    (hf : r.isFor p.text u.text = true) : ∃ status : MembershipStatus, r = .of p u status.text := by
  obtain ⟨h1, h2⟩ : r.first = .text p.text ∧ r.second = .text u.text := by
    simpa [Row.isFor] using hf
  have named : r.isNamed = true := by
    simp [Row.isNamed, h1, h2, Name.normalize_text, p.nonempty, u.nonempty]
  obtain ⟨sound, -⟩ := (collect_eq_ok_iff reads_membershipOf.named).1 h
  rcases Sheet.read_cases Sheet.members r with ⟨err, fails⟩ | ⟨x, y, status, ha, hb⟩ | ⟨hn, -⟩
  · exact absurd (reads_membershipOf.fails.2 fails) (sound r hr err)
  · cases h1
    cases h2
    exact ⟨status, rfl⟩
  · cases named.symm.trans hn

/-- In a table that can be listed, the lookup succeeds and finds the row in normal form. -/
theorem membership?_of_list (hs : s.members.Ascending) (h : s.listMemberships = .ok ms)
    (p : Party) (u : User) : ∃ found, s.membership? p u = .ok found ∧
      ∀ m, found = some m ↔ m.party = p ∧ m.user = u ∧ .of p u m.status.text ∈ s.members := by
  unfold membership?
  cases hf : s.members.find? fun r => r.isFor p.text u.text with
  | none =>
    refine ⟨none, rfl, fun m => ⟨nofun, fun ⟨_, _, hm⟩ => ?_⟩⟩
    have missed := List.find?_eq_none.1 hf _ hm
    exact absurd (Row.isFor_of.2 ⟨rfl, rfl⟩) missed
  | some r =>
    have hr := List.mem_of_find?_eq_some hf
    have found := @List.find?_some Row (·.isFor p.text u.text) _ _ hf
    obtain ⟨status, rfl⟩ := exists_status h hr found
    refine ⟨some ⟨p, u, status⟩, ?_, fun m => ⟨?_, ?_⟩⟩
    · simp only [Row.of, cellText, bind, Except.bind, MembershipStatus.parse_text]
    · rintro ⟨⟩
      exact ⟨rfl, rfl, hr⟩
    · rintro ⟨rfl, rfl, hm⟩
      have same := hs.eq_of_sameKey hr hm (Row.sameKey_of.2 ⟨rfl, rfl⟩)
      obtain ⟨-, -, he⟩ := Row.of_inj.1 same
      rw [MembershipStatus.text_inj.1 he]

theorem fetchMembership_of_list (hs : s.members.Ascending) (h : s.listMemberships = .ok ms)
    (p : Party) (u : User) : ∃ found, s.fetchMembership p u = .ok found ∧
      ∀ m, found = some m ↔ m.party = p ∧ m.user = u ∧ .of p u m.status.text ∈ s.members := by
  obtain ⟨found, hf, spec⟩ := membership?_of_list hs h p u
  exact ⟨found, by rw [fetchMembership, hf]; rfl, spec⟩

/-- After a refresh the members of a party are those listed as active. -/
theorem mem_membersOf_absorb (h : s.listMemberships = .ok ms) (r : Relationships) :
    u ∈ (r.absorb .parties s.fetchActiveMembers).2.membersOf p ↔ ⟨p, u, .active⟩ ∈ ms := by
  have sound : ¬ s.Faulty .parties := fun hf => by
    obtain ⟨err, he⟩ := reads_membershipOf.faulty_iff.2 hf
    cases h.symm.trans he
  rw [mem_listMemberships h]
  exact ((Engine.refreshed_absorb s .parties r).whole sound).mem

end

end Store

namespace Engine

section
variable {s : Store} {ms : List Membership} {e : Engine} {t : Nat} {p : Party} {u : User}

/-- If the members can be listed, every lookup succeeds, finds exactly the row in normal form, and
its result is listed. It finds everything listed exactly if every listed membership has a row in
normal form. So, of the active members that a refresh absorbs, `authorize` grants those with a row
in normal form. -/
theorem lookup_finds_normal_form (hs : s.members.Ascending) (h : s.listMemberships = .ok ms) :
    (∀ p u, ∃ found, s.fetchMembership p u = .ok found ∧
      ∀ m, found = some m ↔ m.party = p ∧ m.user = u ∧ .of p u m.status.text ∈ s.members) ∧
    (∀ {p u m}, s.fetchMembership p u = .ok (some m) → m ∈ ms ∧ m.party = p ∧ m.user = u) ∧
    ((∀ p u m, s.fetchMembership p u = .ok (some m) ↔ m ∈ ms ∧ m.party = p ∧ m.user = u) ↔
      ∀ m ∈ ms, .of m.party m.user m.status.text ∈ s.members) ∧
    (∀ (r : Relationships) (p : Party) (u : User),
      u ∈ (r.absorb .parties s.fetchActiveMembers).2.membersOf p ↔ ⟨p, u, .active⟩ ∈ ms) ∧
    ∀ {e : Engine} {t p u}, e.calls.get? t = some (.lookup p u false) →
      (∀ m, (e.step (.lookupAnswered t (s.fetchMembership p u))).2 = [.answered t (.authorized m)] ↔
        m.party = p ∧ m.user = u ∧ .of p u m.status.text ∈ s.members) ∧
      ((∀ status : MembershipStatus, .of p u status.text ∉ s.members) →
        (e.step (.lookupAnswered t (s.fetchMembership p u))).2 =
          [.answered t (.failed (.notPartyMember p u))]) := by
  have looked := Store.fetchMembership_of_list hs h
  have listed {p : Party} {u : User} {m : Membership}
      (hm : s.fetchMembership p u = .ok (some m)) : m ∈ ms ∧ m.party = p ∧ m.user = u := by
    obtain ⟨found, hf, spec⟩ := looked p u
    cases hf.symm.trans hm
    obtain ⟨rfl, rfl, hr⟩ := (spec m).1 rfl
    exact ⟨(Store.mem_listMemberships h).2 ⟨_, hr, Store.says_of _ _ _⟩, rfl, rfl⟩
  refine ⟨looked, listed, ⟨fun agree m hm => ?written, fun written p u m => ⟨listed, ?_⟩⟩,
    fun r p u => Store.mem_membersOf_absorb h r, fun {e t p u} hc => ?authorized⟩
  case written =>
    obtain ⟨found, hf, spec⟩ := looked m.party m.user
    cases hf.symm.trans ((agree m.party m.user m).2 ⟨hm, rfl, rfl⟩)
    exact ((spec m).1 rfl).2.2
  · rintro ⟨hm, rfl, rfl⟩
    obtain ⟨found, hf, spec⟩ := looked m.party m.user
    rw [hf, (spec m).2 ⟨rfl, rfl, written m hm⟩]
  case authorized =>
    obtain ⟨found, hf, spec⟩ := looked p u
    rw [hf, step_lookupAnswered hc]
    refine ⟨fun m => ?_, fun unwritten => ?_⟩
    · rw [← spec]
      cases found <;> simp [answer, CallResult.ofLookup]
    · cases found with
      | none => rfl
      | some m => exact absurd ((spec m).1 rfl).2.2 (unwritten m.status)

/-- Of three members, the one with a row in normal form is authorized and the one without is not
found. -/
theorem lookup_finds_normal_form_of_three :
    ∃ (s : Store) (ms : List Membership) (e : Engine) (raid : Party) (ann cy : User),
      s.members = [⟨.text "Raid", .text "Cy", .text "active"⟩,
        ⟨.text "raid", .text "ann", .text "active"⟩, ⟨.text "raid", .text "bob", .text "invited"⟩] ∧
      s.members.Ascending ∧ s.listMemberships = .ok ms ∧ ms.length = 3 ∧
      e.calls.get? 0 = some (.lookup raid ann false) ∧
      e.calls.get? 1 = some (.lookup raid cy false) ∧
      (e.step (.lookupAnswered 0 (s.fetchMembership raid ann))).2 =
        [.answered 0 (.authorized ⟨raid, ann, .active⟩)] ∧
      cy ∈ (Relationships.empty.absorb .parties s.fetchActiveMembers).2.membersOf raid ∧
      (e.step (.lookupAnswered 1 (s.fetchMembership raid cy))).2 =
        [.answered 1 (.failed (.notPartyMember raid cy))] := by
  let raid : Party := ⟨"raid", by decide, "raid", rfl⟩
  let ann : User := ⟨"ann", by decide, "ann", rfl⟩
  let bob : User := ⟨"bob", by decide, "bob", rfl⟩
  let cy : User := ⟨"cy", by decide, "cy", rfl⟩
  let s : Store := ⟨[], [⟨.text "Raid", .text "Cy", .text "active"⟩,
    ⟨.text "raid", .text "ann", .text "active"⟩, ⟨.text "raid", .text "bob", .text "invited"⟩]⟩
  let e : Engine := ((fresh Config.standard ⟨0, .empty⟩).run
    [.authorize raid ann, .authorize raid cy]).1
  have hs : s.members.Ascending := by
    unfold Rows.Ascending
    decide +kernel
  have listed : s.listMemberships =
      .ok [⟨raid, cy, .active⟩, ⟨raid, ann, .active⟩, ⟨raid, bob, .invited⟩] := by
    decide +kernel
  obtain ⟨-, -, -, shown, authorized⟩ := lookup_finds_normal_form hs listed
  have first : e.calls.get? 0 = some (.lookup raid ann false) := by decide +kernel
  have second : e.calls.get? 1 = some (.lookup raid cy false) := by decide +kernel
  refine ⟨s, _, e, raid, ann, cy, rfl, hs, listed, rfl, first, second,
    ((authorized first).1 _).2 ⟨rfl, rfl, by decide +kernel⟩, (shown _ _ _).2 (by simp),
    (authorized second).2 fun status => ?_⟩
  cases status <;> decide +kernel

/-- An active member that a refresh absorbs and no lookup finds. -/
theorem lookup_misses_listed :
    ∃ (s : Store) (m : Membership) (e : Engine), s.members.Ascending ∧
      s.listMemberships = .ok [m] ∧ m.status = .active ∧
      m.user ∈ (Relationships.empty.absorb .parties s.fetchActiveMembers).2.membersOf m.party ∧
      s.fetchMembership m.party m.user = .ok none ∧
      e.calls.get? 0 = some (.lookup m.party m.user false) ∧
      (e.step (.lookupAnswered 0 (s.fetchMembership m.party m.user))).2 =
        [.answered 0 (.failed (.notPartyMember m.party m.user))] := by
  let m : Membership := ⟨⟨"raid", by decide, "raid", rfl⟩, ⟨"ann", by decide, "ann", rfl⟩, .active⟩
  let s : Store := ⟨[], [⟨.text "Raid", .text "Ann", .text "active"⟩]⟩
  refine ⟨s, m, ((fresh Config.standard ⟨0, .empty⟩).step (.authorize m.party m.user)).1, ?_⟩
  unfold Rows.Ascending
  decide +kernel

end

end Engine

end Presence
