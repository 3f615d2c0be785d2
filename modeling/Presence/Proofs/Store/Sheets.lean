import Mathlib.Data.List.Forall2
import Presence.Proofs.Store.Listing

/-!
Reading tables with arbitrary rows. Both tables are sheets of two names and a status, read row by
row: a row fails, says something, or is skipped for lack of a name. The reading of a table fails
with its first failing row, and otherwise has what its rows say, in order.
-/

namespace Presence

/-- How the rows of a table are read. -/
structure Sheet (k l : NameKind) (σ : Type) where
  /-- The context of its errors. -/
  context : String
  /-- The name of its first column. -/
  first : String
  /-- The name of its second column. -/
  second : String
  word : σ → String
  parse : String → Except StoreError σ
  parse_word : ∀ s, parse (word s) = .ok s
  parse_other : ∀ {w}, (∀ s, word s ≠ w) → parse w = .error (.unknownStatus w)

namespace Sheet

/-- The sheet of friendships. -/
def friendships : Sheet .user .user FriendshipStatus where
  context := "list friendships row"
  first := "user1"
  second := "user2"
  word := FriendshipStatus.text
  parse := FriendshipStatus.parse
  parse_word := FriendshipStatus.parse_text
  parse_other {w} h := by
    have sent : w ≠ "sent" := (h .sent).symm
    have confirmed : w ≠ "confirmed" := (h .confirmed).symm
    rw [FriendshipStatus.parse, if_neg sent, if_neg confirmed]

/-- The sheet of memberships. -/
def members : Sheet .party .user MembershipStatus where
  context := "list party members row"
  first := "party_name"
  second := "user_name"
  word := MembershipStatus.text
  parse := MembershipStatus.parse
  parse_word := MembershipStatus.parse_text
  parse_other {w} h := by
    have invited : w ≠ "invited" := (h .invited).symm
    have active : w ≠ "active" := (h .active).symm
    rw [MembershipStatus.parse, if_neg invited, if_neg active]

variable {k l : NameKind} {σ : Type}

/-- The error of a row: a blob in one of its cells, the lowest column first, or two names with an
unknown status. -/
inductive Fails (sh : Sheet k l σ) : Row → StoreError → Prop
  | first {bytes : List Nat} {b c : Cell} :
      Fails sh ⟨.blob bytes, b, c⟩ (.blobCell sh.context 0 sh.first)
  | second {a : String} {bytes : List Nat} {c : Cell} :
      Fails sh ⟨.text a, .blob bytes, c⟩ (.blobCell sh.context 1 sh.second)
  | status {a b : String} {bytes : List Nat} :
      Fails sh ⟨.text a, .text b, .blob bytes⟩ (.blobCell sh.context 2 "status")
  | word {a b w : String} (ha : normalize a ≠ "") (hb : normalize b ≠ "")
      (hw : ∀ s, sh.word s ≠ w) : Fails sh ⟨.text a, .text b, .text w⟩ (.unknownStatus w)

/-- What a row says of two names, in any spelling. -/
inductive Says (sh : Sheet k l σ) : Row → Name k → Name l → σ → Prop
  | spelled {a b : String} {x : Name k} {y : Name l} {s : σ} (ha : x.text = normalize a)
      (hb : y.text = normalize b) : Says sh ⟨.text a, .text b, .text (sh.word s)⟩ x y s

end Sheet

/-- Both names of a row are nonempty. -/
def Row.isNamed (r : Row) : Bool :=
  match r.first, r.second with
  | .text a, .text b => normalize a ≠ "" && normalize b ≠ ""
  | _, _ => false

namespace Sheet

section
variable {k l : NameKind} {σ : Type} {sh : Sheet k l σ} {r : Row} {err : StoreError} {x : Name k}
  {y : Name l} {s : σ}

def read (sh : Sheet k l σ) (r : Row) : Except StoreError (Option (Name k × Name l × σ)) := do
  let (a, b, w) ← Store.rowTexts sh.context sh.first sh.second r
  match (Name.parse? a : Option (Name k)), (Name.parse? b : Option (Name l)) with
  | some a, some b => do
    let s ← sh.parse w
    .ok (some (a, b, s))
  | _, _ => .ok none

theorem read_texts (sh : Sheet k l σ) (a b w : String) : sh.read ⟨.text a, .text b, .text w⟩ =
    match (Name.parse? a : Option (Name k)), (Name.parse? b : Option (Name l)) with
    | some a, some b => (sh.parse w).map fun s => some (a, b, s)
    | _, _ => .ok none := by
  unfold read Store.rowTexts Store.cellText
  simp only [bind, Except.bind]
  split
  · cases sh.parse w <;> rfl
  · rfl

theorem Fails.read (h : sh.Fails r err) : sh.read r = .error err := by
  cases h with
  | first => rfl
  | second => rfl
  | status => rfl
  | @word a b w ha hb hw =>
    obtain ⟨x, hx⟩ : ∃ x : Name k, _ := Name.exists_parse? ha
    obtain ⟨y, hy⟩ : ∃ y : Name l, _ := Name.exists_parse? hb
    rw [read_texts, hx, hy, sh.parse_other hw]
    rfl

theorem Says.read (h : sh.Says r x y s) : sh.read r = .ok (some (x, y, s)) := by
  obtain ⟨ha, hb⟩ := h
  rw [read_texts, Name.parse?_eq_some_iff.2 ha, Name.parse?_eq_some_iff.2 hb, sh.parse_word]
  rfl

/-- A row fails, says something or lacks a name. -/
theorem read_cases (sh : Sheet k l σ) (r : Row) :
    (∃ err, sh.Fails r err) ∨ (∃ x y s, sh.Says r x y s) ∨
      (r.isNamed = false ∧ sh.read r = .ok none) := by
  obtain ⟨first, second, status⟩ := r
  cases first with
  | blob => exact .inl ⟨_, .first⟩
  | text a =>
    cases second with
    | blob => exact .inl ⟨_, .second⟩
    | text b =>
      cases status with
      | blob => exact .inl ⟨_, .status⟩
      | text w =>
        by_cases ha : normalize a = ""
        · refine .inr (.inr ⟨by simp [Row.isNamed, ha], ?_⟩)
          rw [read_texts, Name.parse?_eq_none_iff.2 ha]
        · by_cases hb : normalize b = ""
          · refine .inr (.inr ⟨by simp [Row.isNamed, hb], ?_⟩)
            rw [read_texts, Name.parse?_eq_none_iff.2 hb]
            simp
          · by_cases known : ∃ s, sh.word s = w
            · obtain ⟨s, rfl⟩ := known
              exact .inr (.inl ⟨⟨_, ha, a, rfl⟩, ⟨_, hb, b, rfl⟩, s, .spelled rfl rfl⟩)
            · exact .inl ⟨_, .word ha hb (not_exists.1 known)⟩

theorem read_eq_error_iff : sh.read r = .error err ↔ sh.Fails r err := by
  refine ⟨fun h => ?_, Fails.read⟩
  rcases read_cases sh r with ⟨err', hf⟩ | ⟨x, y, s, hs⟩ | ⟨-, hn⟩
  · cases hf.read.symm.trans h
    exact hf
  · cases hs.read.symm.trans h
  · cases hn.symm.trans h

theorem read_eq_some_iff : sh.read r = .ok (some (x, y, s)) ↔ sh.Says r x y s := by
  refine ⟨fun h => ?_, Says.read⟩
  rcases read_cases sh r with ⟨err, hf⟩ | ⟨x', y', s', hs⟩ | ⟨-, hn⟩
  · cases hf.read.symm.trans h
  · cases hs.read.symm.trans h
    exact hs
  · cases hn.symm.trans h

theorem Says.isNamed (h : sh.Says r x y s) : r.isNamed = true := by
  obtain ⟨ha, hb⟩ := h
  simp [Row.isNamed, ← ha, ← hb, x.nonempty, y.nonempty]

/-- A row that can be read and has two names says something. -/
theorem isNamed_of_read {o : Option (Name k × Name l × σ)} (h : sh.read r = .ok o) :
    r.isNamed = o.isSome := by
  rcases read_cases sh r with ⟨err, hf⟩ | ⟨x, y, s, hs⟩ | ⟨hr, hn⟩
  · cases hf.read.symm.trans h
  · cases hs.read.symm.trans h
    exact hs.isNamed
  · cases hn.symm.trans h
    exact hr

end

end Sheet

/-! ### Whole tables -/

namespace Store

section
variable {ε : Type} {read : Row → Except StoreError (Option ε)} {rows : Rows}

theorem collect_cons_ok {r : Row} {o : Option ε} (h : read r = .ok o) :
    collect read (r :: rows) = (collect read rows).map (o.toList ++ ·) := by
  rw [collect, h]
  cases collect read rows <;> rfl

theorem collect_cons_error {r : Row} {err : StoreError} (h : read r = .error err) :
    collect read (r :: rows) = .error err := by
  rw [collect, h]
  rfl

/-- The reading fails with the first failing row. -/
theorem collect_eq_error_iff {err : StoreError} : collect read rows = .error err ↔
    ∃ before r after, rows = before ++ r :: after ∧ read r = .error err ∧
      ∀ q ∈ before, ∀ err', read q ≠ .error err' := by
  induction rows with
  | nil => simp [collect]
  | cons r rows ih =>
    cases hr : read r with
    | error err' =>
      rw [collect_cons_error hr]
      constructor
      · rintro ⟨⟩
        exact ⟨[], r, rows, rfl, hr, by simp⟩
      · rintro ⟨before, r', after, he, hr', hb⟩
        cases before with
        | nil =>
          cases he
          cases hr.symm.trans hr'
          rfl
        | cons q before =>
          cases he
          exact absurd hr (hb r List.mem_cons_self err')
    | ok o =>
      have later : collect read (r :: rows) = .error err ↔ collect read rows = .error err := by
        rw [collect_cons_ok hr]
        cases collect read rows <;> simp [Except.map]
      rw [later, ih]
      constructor
      · rintro ⟨before, r', after, rfl, hr', hb⟩
        refine ⟨r :: before, r', after, rfl, hr', List.forall_mem_cons.2 ⟨fun err' => ?_, hb⟩⟩
        simp [hr]
      · rintro ⟨before, r', after, he, hr', hb⟩
        cases before with
        | nil =>
          cases he
          cases hr.symm.trans hr'
        | cons q before =>
          cases he
          exact ⟨before, r', after, rfl, hr', (List.forall_mem_cons.1 hb).2⟩

/-- Without failing rows, the entries are those of the rows in order, rows without a name
skipped. -/
theorem collect_eq_ok_iff {keep : Row → Bool} (hk : ∀ {r o}, read r = .ok o → keep r = o.isSome)
    {es : List ε} : collect read rows = .ok es ↔ (∀ r ∈ rows, ∀ err, read r ≠ .error err) ∧
      List.Forall₂ (fun r e => read r = .ok (some e)) (rows.filter keep) es := by
  induction rows generalizing es with
  | nil => simp [collect, eq_comm]
  | cons r rows ih =>
    cases hr : read r with
    | error err =>
      rw [collect_cons_error hr]
      simp [hr]
    | ok o =>
      have readable : ∀ err, read r ≠ .error err := by simp [hr]
      rw [collect_cons_ok hr, List.filter_cons, hk hr, List.forall_mem_cons, and_iff_right readable]
      cases o with
      | none =>
        have same : (collect read rows).map ([] ++ ·) = collect read rows := by
          cases collect read rows <;> rfl
        exact (same ▸ ih :)
      | some e =>
        constructor
        · intro h
          cases hc : collect read rows with
          | error err => simp [hc, Except.map] at h
          | ok rest =>
            obtain rfl : e :: rest = es := by simpa [hc, Except.map] using h
            obtain ⟨all, entries⟩ := ih.1 hc
            exact ⟨all, .cons hr entries⟩
        · rintro ⟨all, entries⟩
          cases entries with
          | cons hr' rest =>
            cases hr.symm.trans hr'
            rw [ih.2 ⟨all, rest⟩]
            rfl

/-- The entries are those of the rows. -/
theorem mem_collect {es : List ε} (h : collect read rows = .ok es) {e : ε} :
    e ∈ es ↔ ∃ r ∈ rows, read r = .ok (some e) := by
  induction rows generalizing es with
  | nil =>
    cases h
    simp
  | cons r rows ih =>
    cases hr : read r with
    | error err =>
      rw [collect_cons_error hr] at h
      cases h
    | ok o =>
      rw [collect_cons_ok hr] at h
      cases hc : collect read rows with
      | error err => simp [hc, Except.map] at h
      | ok rest =>
        obtain rfl : o.toList ++ rest = es := by simpa [hc, Except.map] using h
        simp [ih hc, hr]

end

end Store

namespace Sheet

section
variable {k l : NameKind} {σ ε : Type} {sh : Sheet k l σ} {entry : ε → Name k × Name l × σ}
  {read : Row → Except StoreError (Option ε)} {rows : Rows}

/-- The reader of a table agrees with its sheet, with an entry for what a row says. -/
structure Reads (sh : Sheet k l σ) (entry : ε → Name k × Name l × σ)
    (read : Row → Except StoreError (Option ε)) : Prop where
  fails : ∀ {r err}, read r = .error err ↔ sh.Fails r err
  tells : ∀ {r e}, read r = .ok (some e) ↔ sh.Says r (entry e).1 (entry e).2.1 (entry e).2.2
  named : ∀ {r o}, read r = .ok o → r.isNamed = o.isSome

/-- Entries are made of what rows say. -/
theorem Reads.of_make (make : Name k × Name l × σ → ε) (hm : ∀ e, make (entry e) = e)
    (he : ∀ v, entry (make v) = v) (hr : ∀ r, read r = (sh.read r).map (Option.map make)) :
    Reads sh entry read := by
  refine ⟨fun {r err} => ?fails, fun {r e} => ?tells, fun {r o} h => ?named⟩
  case fails =>
    rw [← read_eq_error_iff, hr]
    cases sh.read r <;> simp [Except.map]
  case tells =>
    rw [← read_eq_some_iff, hr]
    cases sh.read r with
    | error err => simp [Except.map]
    | ok o =>
      cases o with
      | none => simp [Except.map]
      | some v =>
        have same : make v = e ↔ v = entry e := ⟨fun h => h ▸ (he v).symm, fun h => h ▸ hm e⟩
        simpa [Except.map] using same
  case named =>
    rw [hr] at h
    cases hs : sh.read r with
    | error err => simp [hs, Except.map] at h
    | ok v =>
      obtain rfl : v.map make = o := by simpa [hs, Except.map] using h
      rw [isNamed_of_read hs, Option.isSome_map]

/-- A table cannot be read if one of its rows cannot. -/
theorem Reads.faulty_iff (h : Reads sh entry read) :
    (∃ err, Store.collect read rows = .error err) ↔ ∃ r ∈ rows, ∃ err, sh.Fails r err := by
  constructor
  · rintro ⟨err, hc⟩
    obtain ⟨before, r, after, rfl, hr, -⟩ := Store.collect_eq_error_iff.1 hc
    exact ⟨r, by simp, err, h.fails.1 hr⟩
  · rintro ⟨r, hr, err, hf⟩
    cases hc : Store.collect read rows with
    | error err' => exact ⟨err', rfl⟩
    | ok es => exact absurd (h.fails.2 hf) (((Store.collect_eq_ok_iff h.named).1 hc).1 r hr err)

/-- Specification of the reading of a table: the error of its first failing row, or one entry for
each row with two names, in order. -/
structure Listing (sh : Sheet k l σ) (entry : ε → Name k × Name l × σ) (rows : Rows)
    (listing : Except StoreError (List ε)) : Prop where
  fails : ∀ err, listing = .error err ↔ ∃ r ∈ rows, sh.Fails r err ∧
    ∀ q ∈ rows, ∀ err', sh.Fails q err' → q = r ∨ r.before q = true
  reads : ∀ es, listing = .ok es ↔ (∀ r ∈ rows, ∀ err, ¬ sh.Fails r err) ∧
    List.Forall₂ (fun r e => sh.Says r (entry e).1 (entry e).2.1 (entry e).2.2)
      (rows.filter Row.isNamed) es

/-- In an ascending table the first failing row is the least. -/
theorem Reads.listing (h : Reads sh entry read) (hs : rows.Ascending) :
    Listing sh entry rows (Store.collect read rows) := by
  refine ⟨fun err => ?fails, fun es => ?reads⟩
  case fails =>
    rw [Store.collect_eq_error_iff]
    constructor
    · rintro ⟨before, r, after, rfl, hr, hb⟩
      obtain ⟨-, later, -⟩ := List.pairwise_append.1 hs
      refine ⟨r, by simp, h.fails.1 hr, fun q hq err' hf => ?_⟩
      rcases List.mem_append.1 hq with hq | hq
      · exact absurd (h.fails.2 hf) (hb q hq err')
      · rcases List.mem_cons.1 hq with rfl | hq
        · exact .inl rfl
        · exact .inr ((List.pairwise_cons.1 later).1 q hq)
    · rintro ⟨r, hr, hf, least⟩
      obtain ⟨before, after, rfl⟩ := List.append_of_mem hr
      obtain ⟨-, -, across⟩ := List.pairwise_append.1 hs
      refine ⟨before, r, after, rfl, h.fails.2 hf, fun q hq err' he => ?_⟩
      have earlier : q.before r = true := across q hq r List.mem_cons_self
      have twice (hrr : r.before r = true) : False := by
        simp [Row.before_of_sameKey (Row.sameKey_iff.2 ⟨rfl, rfl⟩)] at hrr
      rcases least q (by simp [hq]) err' (h.fails.1 he) with rfl | hlt
      · exact twice earlier
      · exact twice (Row.before_trans hlt earlier)
  case reads =>
    rw [Store.collect_eq_ok_iff h.named]
    simp only [h.tells, ← h.fails, ne_eq]

end

end Sheet

/-! ### The two tables -/

/-- The entry of a friendship. -/
def Friendship.entry (f : Friendship) : User × User × FriendshipStatus :=
  (f.user1, f.user2, f.status)

/-- The entry of a membership. -/
def Membership.entry (m : Membership) : Party × User × MembershipStatus :=
  (m.party, m.user, m.status)

namespace Store

theorem reads_friendshipOf : Sheet.friendships.Reads Friendship.entry friendshipOf := by
  refine .of_make (fun v => ⟨v.1, v.2.1, v.2.2⟩) (fun _ => rfl) (fun _ => rfl) fun r => ?_
  unfold friendshipOf Sheet.read Sheet.friendships
  dsimp only
  cases rowTexts "list friendships row" "user1" "user2" r with
  | error err => rfl
  | ok texts =>
    obtain ⟨a, b, w⟩ := texts
    simp only [bind, Except.bind]
    cases (Name.parse? a : Option User) with
    | none => rfl
    | some x =>
      cases (Name.parse? b : Option User) with
      | none => rfl
      | some y => cases FriendshipStatus.parse w <;> rfl

theorem reads_membershipOf : Sheet.members.Reads Membership.entry membershipOf := by
  refine .of_make (fun v => ⟨v.1, v.2.1, v.2.2⟩) (fun _ => rfl) (fun _ => rfl) fun r => ?_
  unfold membershipOf Sheet.read Sheet.members
  dsimp only
  cases rowTexts "list party members row" "party_name" "user_name" r with
  | error err => rfl
  | ok texts =>
    obtain ⟨a, b, w⟩ := texts
    simp only [bind, Except.bind]
    cases (Name.parse? a : Option Party) with
    | none => rfl
    | some x =>
      cases (Name.parse? b : Option User) with
      | none => rfl
      | some y => cases MembershipStatus.parse w <;> rfl

/-- The friendships of a listing are those of the rows. -/
theorem mem_listFriendships {s : Store} {fs : List Friendship} (h : s.listFriendships = .ok fs)
    {a b : User} {status : FriendshipStatus} :
    ⟨a, b, status⟩ ∈ fs ↔ ∃ r ∈ s.friendships, Sheet.friendships.Says r a b status := by
  rw [mem_collect h]
  simp only [reads_friendshipOf.tells, Friendship.entry]

theorem mem_listMemberships {s : Store} {ms : List Membership} (h : s.listMemberships = .ok ms)
    {p : Party} {u : User} {status : MembershipStatus} :
    ⟨p, u, status⟩ ∈ ms ↔ ∃ r ∈ s.members, Sheet.members.Says r p u status := by
  rw [mem_collect h]
  simp only [reads_membershipOf.tells, Membership.entry]

end Store

end Presence
