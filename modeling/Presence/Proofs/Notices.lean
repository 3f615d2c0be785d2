import Presence.Dispatcher

/-!
Lines after a fanout. A notice depends only on its friend's registration and line, so `notifyAll`
pushes one notice to the line of each friend who is reached, and changes no other line.
-/

namespace Presence

/-- The line with one more frame. -/
def Line.push (m : Message) (l : Line) : Line := { l with frames := l.frames.push m }

namespace Switchboard

/-- Different users are registered with different lines. -/
def Distinct (b : Switchboard) : Prop :=
  ∀ {u v h k}, b.lookup u = some h → b.lookup v = some k → h.line = k.line → u = v

/-- The user is registered with line `n`, which is open and has room. -/
def Reaches (b : Switchboard) (u : User) (n : Nat) : Prop :=
  ∃ h l, b.lookup u = some h ∧ h.line = n ∧ b.line? n = some l ∧ l.frames.isOpen = true ∧
    l.frames.hasRoom = true

section
variable {b : Switchboard} {notice : Message} {u v : User} {n : Nat}

/-- The effect of one notice: the registry loses at most the friend, and only a line by which the
friend is reached changes. -/
inductive Notified (b : Switchboard) (notice : Message) (v : User) : Switchboard → Prop
  | delivered {n : Nat} (h : b.Reaches v n) : Notified b notice v (b.updateLine n (Line.push notice))
  | missed (h : ∀ n, ¬ b.Reaches v n) : Notified b notice v b
  | removed (h : ∀ n, ¬ b.Reaches v n) (s : SessionId) :
      Notified b notice v (b.deregisterSession v s).2

theorem notify_notified (b : Switchboard) (notice : Message) (v : User) :
    Notified b notice v (b.notify notice v).2 := by
  unfold notify
  cases hv : b.lookup v with
  | none => exact .missed fun n ⟨h, _, hl, _⟩ => by simp [hv] at hl
  | some h =>
    dsimp only [sendNotice]
    cases hb : b.deliver h.line notice with
    | ok b' =>
      obtain ⟨l, hl, ho, hr, rfl⟩ := deliver_eq_ok hb
      exact .delivered ⟨h, l, hv, rfl, hl, ho, hr⟩
    | error d =>
      have unreached (n : Nat) : ¬ b.Reaches v n := by
        rintro ⟨k, l, hk, rfl, hl, ho, hr⟩
        obtain rfl : h = k := by simpa [hv] using hk
        have sent := (Channel.trySend_eq_ok_iff (a := notice)).2 ⟨ho, hr, rfl⟩
        simp [deliver, hl, sent] at hb
      cases d with
      | full => exact .missed unreached
      | closed => exact .removed unreached h.session

section
variable {b' : Switchboard}

theorem Notified.line?_of_reaches (h : Notified b notice v b') (hd : b.Reaches v n) :
    b'.line? n = (b.line? n).map (Line.push notice) := by
  cases h with
  | @delivered m hm =>
    obtain ⟨h, l, hl, rfl, -⟩ := hm
    obtain ⟨k, l', hk, rfl, -⟩ := hd
    obtain rfl : h = k := by simpa [hl] using hk
    simp
  | missed hm => exact absurd hd (hm n)
  | removed hm => exact absurd hd (hm n)

theorem Notified.line?_of_not_reaches (h : Notified b notice v b') (hd : ¬ b.Reaches v n) :
    b'.line? n = b.line? n := by
  cases h with
  | @delivered m hm =>
    have : n ≠ m := fun he => hd (he ▸ hm)
    simp [this]
  | missed => rfl
  | removed => simp [line?]

theorem Notified.lookup_of_ne (h : Notified b notice v b') (hu : u ≠ v) :
    b'.lookup u = b.lookup u := by
  cases h with
  | removed => rw [lookup_deregisterSession, if_neg fun h => hu h.1]
  | _ => rfl

theorem Notified.lookup_of_some {k : Handle} (h : Notified b notice v b')
    (hk : b'.lookup u = some k) : b.lookup u = some k := by
  cases h with
  | removed =>
    rw [lookup_deregisterSession] at hk
    split at hk
    · cases hk
    · exact hk
  | _ => exact hk

theorem Notified.distinct (h : Notified b notice v b') (hd : b.Distinct) : b'.Distinct :=
  fun hu hv hl => hd (h.lookup_of_some hu) (h.lookup_of_some hv) hl

/-- The line of another user is unchanged. -/
theorem Notified.line?_of_other {k : Handle} (h : Notified b notice v b') (hd : b.Distinct)
    (hu : u ≠ v) (hk : b.lookup u = some k) : b'.line? k.line = b.line? k.line :=
  h.line?_of_not_reaches fun ⟨_, _, hk', hl, _⟩ => hu (hd hk hk' hl.symm)

/-- Whether another user is reached is unchanged. -/
theorem Notified.reaches_iff (h : Notified b notice v b') (hd : b.Distinct) (hu : u ≠ v) :
    b'.Reaches u n ↔ b.Reaches u n := by
  have same {k : Handle} (hk : b.lookup u = some k) := h.line?_of_other hd hu hk
  constructor
  · rintro ⟨k, l, hk, rfl, hl, hr⟩
    have hk := h.lookup_of_some hk
    exact ⟨k, l, hk, rfl, same hk ▸ hl, hr⟩
  · rintro ⟨k, l, hk, rfl, hl, hr⟩
    exact ⟨k, l, (h.lookup_of_ne hu).trans hk, rfl, (same hk).trans hl, hr⟩

end

/-- After `notifyAll` exactly the lines by which a friend was reached have changed, each by one
notice. -/
theorem line?_notifyAll {friends : List User} (hd : b.Distinct) (hn : friends.Nodup)
    (r : FanoutReport) (n : Nat) :
    ((∃ v ∈ friends, b.Reaches v n) →
      (b.notifyAll notice r friends).2.line? n = (b.line? n).map (Line.push notice)) ∧
    ((∀ v ∈ friends, ¬ b.Reaches v n) →
      (b.notifyAll notice r friends).2.line? n = b.line? n) := by
  induction friends generalizing b r with
  | nil => exact ⟨fun ⟨_, hv, _⟩ => by simp at hv, fun _ => rfl⟩
  | cons v rest ih =>
    obtain ⟨hv, hrest⟩ := List.nodup_cons.1 hn
    have hnv := notify_notified b notice v
    obtain ⟨reached, unreached⟩ :=
      ih (hnv.distinct hd) hrest (r.add (b.notify notice v).1)
    have others {u : User} (hu : u ∈ rest) :
        (b.notify notice v).2.Reaches u n ↔ b.Reaches u n :=
      hnv.reaches_iff hd fun he => hv (he ▸ hu)
    constructor
    · rintro ⟨u, hu, hr⟩
      rcases List.mem_cons.1 hu with rfl | hu
      · -- nobody else has this line
        refine (unreached fun w hw hr' => ?_).trans (hnv.line?_of_reaches hr)
        obtain ⟨h, _, hl, rfl, -⟩ := hr
        obtain ⟨k, _, hk, hkl, -⟩ := (others hw).1 hr'
        exact hv (hd hk hl hkl ▸ hw)
      · refine (reached ⟨u, hu, (others hu).2 hr⟩).trans ?_
        rw [hnv.line?_of_not_reaches]
        rintro ⟨h, _, hl, rfl, -⟩
        obtain ⟨k, _, hk, hkl, -⟩ := hr
        exact hv (hd hk hl hkl ▸ hu)
    · intro hu
      have hv := hu v (by simp)
      exact (unreached fun w hw hr => hu w (by simp [hw]) ((others hw).1 hr)).trans
        (hnv.line?_of_not_reaches hv)

end

end Switchboard

end Presence
