import Presence.Proofs.Clock
import Presence.Script.Submissions

/-!
Waiting submissions at a full queue. Every submission has a number, and the record has when it was
made and how it returned; a waiting producer is a submission without a result. Invariant `Booked`
relates queue, waiting producers and record, and is preserved by each kind of change: a result, a
new submission, a change of the events, time. A settled state is `Orderly`. `giveUps` works in
rounds, dropping the first expired producer in each; `TurnedAway` specifies all rounds of a stretch
of time.
-/

namespace Presence.Script.Submissions

namespace State

/-- The submission was made and has not returned. -/
def Pending (s : State) (n : Nat) : Prop := ∃ t₀, s.submissions[n]? = some ⟨t₀, none⟩

/-- The submission has returned at a moment. -/
def Answered (s : State) (n : Nat) (accepted : Bool) (t : Instant) : Prop :=
  ∃ t₀, s.submissions[n]? = some ⟨t₀, some (accepted, t)⟩

end State

/-! ### The invariant -/

/-- Invariant of one submission: it returns within the limit, and an open queue drops it only at the
limit. -/
structure Submission.Sound (b : Submission) (limit : Nat) (isOpen : Bool) (now : Nat) : Prop where
  begun : b.started ≤ now
  answered : ∀ {ok t}, b.ended = some (ok, t) → b.started ≤ t ∧ t ≤ now ∧ t ≤ b.started + limit
  refused : isOpen = true → ∀ {t}, b.ended = some (false, t) → t = b.started + limit

/-- Invariant of queue, waiting producers and record. -/
structure Booked (slots limit : Nat) (s : State) : Prop where
  capacity : s.queue.events.capacity = slots
  overflow : s.queue.overflowWait = limit
  room : s.queue.events.items.length ≤ slots
  /-- No producer waits while a slot is free. -/
  full : s.queue.events.isOpen = true → s.queue.waiting ≠ [] → s.queue.events.items.length = slots
  /-- Producers wait in order of their submissions. -/
  line : (s.queue.waiting.map Waiter.producer).Pairwise (· < ·)
  waiters : ∀ w ∈ s.queue.waiting, ∃ t₀, s.submissions[w.producer]? = some ⟨t₀, none⟩ ∧
    w.deadline = t₀ + limit
  pending : ∀ {n}, s.Pending n → ∃ w ∈ s.queue.waiting, w.producer = n
  punctual : ∀ w ∈ s.queue.waiting, s.now ≤ w.deadline
  record : ∀ {n : Nat} {b : Submission}, s.submissions[n]? = some b →
    b.Sound limit s.queue.events.isOpen s.now

section
variable {slots limit : Nat} {s s' : State} {n m : Nat} {ok : Bool} {t : Nat}

theorem Submission.Sound.later {b : Submission} {isOpen : Bool} {now : Nat}
    (h : b.Sound limit isOpen now) (hn : now ≤ t) : b.Sound limit isOpen t where
  begun := Nat.le_trans h.begun hn
  answered he := by
    obtain ⟨first, second, third⟩ := h.answered he
    exact ⟨first, Nat.le_trans second hn, third⟩
  refused := h.refused

theorem getElem?_answer (s : State) (n m : Nat) (ok : Bool) :
    (s.answer n ok).submissions[m]? =
      if m = n then (s.submissions[m]?).map fun b => { b with ended := some (ok, s.now) }
      else s.submissions[m]? := by
  unfold State.answer
  dsimp only
  rw [List.getElem?_modify]
  by_cases h : m = n
  · simp [h]
  · simp [h, Ne.symm h]

theorem Booked.made (h : Booked slots limit s) {w : Waiter Nat} (hw : w ∈ s.queue.waiting) :
    s.Pending w.producer := by
  obtain ⟨t₀, ht, -⟩ := h.waiters w hw
  exact ⟨t₀, ht⟩

theorem Booked.producer_lt (h : Booked slots limit s) {w : Waiter Nat}
    (hw : w ∈ s.queue.waiting) : w.producer < s.submissions.length := by
  obtain ⟨t₀, ht, -⟩ := h.waiters w hw
  exact (List.getElem?_eq_some_iff.1 ht).1

theorem hasRoom_iff (h : Booked slots limit s) :
    s.queue.events.hasRoom = true ↔ s.queue.events.items.length < slots := by
  simp [Channel.hasRoom, h.capacity]

/-- With a free slot no producer waits. -/
theorem Booked.waiting_eq_nil (h : Booked slots limit s) (ho : s.queue.events.isOpen = true)
    (hr : s.queue.events.hasRoom = true) : s.queue.waiting = [] := by
  refine Decidable.byContradiction fun hw => ?_
  exact Nat.ne_of_lt ((hasRoom_iff h).1 hr) (h.full ho hw)

theorem Booked.not_pending (h : Booked slots limit s) (hw : s.queue.waiting = []) (n : Nat) :
    ¬ s.Pending n := by
  intro hn
  obtain ⟨w, hmem, -⟩ := h.pending hn
  simp [hw] at hmem

theorem lt_length_of_pending (h : s.Pending n) : n < s.submissions.length := by
  obtain ⟨t₀, ht⟩ := h
  exact (List.getElem?_eq_some_iff.1 ht).1

theorem lt_length_of_answered (h : s.Answered n ok t) : n < s.submissions.length := by
  obtain ⟨t₀, ht⟩ := h
  exact (List.getElem?_eq_some_iff.1 ht).1

theorem not_answered_of_pending (h : s.Pending n) : ¬ s.Answered n ok t := by
  obtain ⟨t₀, ht⟩ := h
  rintro ⟨t₁, ht'⟩
  simp [ht] at ht'

/-- Waiting producers have distinct numbers. -/
theorem Booked.apart (h : Booked slots limit s) {w : Waiter Nat} {before after : List (Waiter Nat)}
    (hw : s.queue.waiting = before ++ w :: after) :
    ∀ v ∈ before ++ after, v.producer ≠ w.producer := by
  have line := h.line
  rw [hw, List.map_append, List.map_cons, List.pairwise_append, List.pairwise_cons] at line
  obtain ⟨-, ⟨later, -⟩, earlier⟩ := line
  intro v hv he
  rcases List.mem_append.1 hv with hv | hv
  · exact Nat.lt_irrefl _ (he ▸ earlier _ (List.mem_map_of_mem hv) _ List.mem_cons_self)
  · exact Nat.lt_irrefl _ (he ▸ later _ (List.mem_map_of_mem hv))

theorem Booked.eq_of_producer (h : Booked slots limit s) {v w : Waiter Nat}
    (hv : v ∈ s.queue.waiting) (hw : w ∈ s.queue.waiting) (he : v.producer = w.producer) :
    v = w := by
  obtain ⟨before, after, cut⟩ := List.append_of_mem hw
  have apart := h.apart cut v
  rw [cut, List.mem_append, List.mem_cons] at hv
  rw [List.mem_append] at apart
  rcases hv with hv | hv | hv
  · exact absurd he (apart (.inl hv))
  · exact hv
  · exact absurd he (apart (.inr hv))

/-- A waiting producer returns, and the number of events is unchanged. -/
theorem Booked.answer (h : Booked slots limit s) {w : Waiter Nat}
    {before after : List (Waiter Nat)} (hw : s.queue.waiting = before ++ w :: after)
    {q : Queue Nat} (hq : q.waiting = before ++ after) (hc : q.events.capacity = slots)
    (hl : q.overflowWait = limit) (ho : q.events.isOpen = s.queue.events.isOpen)
    (hr : q.events.items.length = s.queue.events.items.length)
    (hn : ok = false → s.queue.events.isOpen = true → s.now = w.deadline) :
    Booked slots limit (State.answer { s with queue := q } w.producer ok) := by
  -- tickets are distinct, so the record changes at `w.producer` only
  have apart := h.apart hw
  have mem {v} (hv : v ∈ q.waiting) : v ∈ before ++ after ∧ v ∈ s.queue.waiting := by
    rw [hq] at hv
    refine ⟨hv, ?_⟩
    rw [hw, List.mem_append, List.mem_cons]
    exact (List.mem_append.1 hv).imp_right .inr
  have hmem : w ∈ s.queue.waiting := by simp [hw]
  obtain ⟨t₀, hw₀, hd⟩ := h.waiters w hmem
  constructor
  case capacity => exact hc
  case overflow => exact hl
  case room => exact hr ▸ h.room
  case full => exact fun isOpen _ => hr.trans (h.full (ho ▸ isOpen) (by simp [hw]))
  case line =>
    have line := h.line
    rw [hw] at line
    show (q.waiting.map Waiter.producer).Pairwise _
    rw [hq]
    exact line.sublist ((List.Sublist.append_left (List.sublist_cons_self w after) before).map _)
  case waiters =>
    intro v hv
    obtain ⟨t₁, ht, hdl⟩ := h.waiters v (mem hv).2
    refine ⟨t₁, ?_, hdl⟩
    rw [getElem?_answer, if_neg (apart v (mem hv).1)]
    exact ht
  case pending =>
    rintro n ⟨t₁, ht⟩
    rw [getElem?_answer] at ht
    split at ht
    · simp [Option.map_eq_some_iff] at ht
    · rename_i hne
      obtain ⟨v, hv, rfl⟩ := h.pending ⟨t₁, ht⟩
      refine ⟨v, ?_, rfl⟩
      show v ∈ q.waiting
      rw [hw, List.mem_append, List.mem_cons] at hv
      rw [hq, List.mem_append]
      exact hv.imp_right fun hv => hv.resolve_left fun he => hne (he ▸ rfl)
  case punctual => exact fun v hv => h.punctual v (mem hv).2
  case record =>
    intro n b hb
    rw [getElem?_answer] at hb
    show b.Sound limit q.events.isOpen s.now
    rw [ho]
    split at hb
    · rename_i hnw
      subst hnw
      have hb : some { started := t₀, ended := some (ok, s.now) } = some b := by
        rw [← hb]
        show _ = Option.map _ s.submissions[w.producer]?
        rw [hw₀]
        rfl
      cases hb
      have begun : t₀ ≤ s.now := (h.record hw₀).begun
      have intime : s.now ≤ t₀ + limit := hd ▸ h.punctual w hmem
      refine ⟨begun, fun he => ?_, fun isOpen t he => ?_⟩
      · cases he
        exact ⟨begun, Nat.le_refl _, intime⟩
      · cases he
        exact (hn rfl isOpen).trans hd
    · exact h.record hb

/-- A submission is appended to the record. -/
theorem getElem?_concat (bs : List Submission) (b : Submission) (m : Nat) :
    (bs ++ [b])[m]? = if m = bs.length then some b else bs[m]? := by
  rcases Nat.lt_trichotomy m bs.length with h | h | h
  · rw [List.getElem?_append_left h, if_neg (Nat.ne_of_lt h)]
  · simp [h]
  · rw [List.getElem?_eq_none (by rw [List.length_append]; exact h),
      List.getElem?_eq_none (Nat.le_of_lt h), if_neg (Nat.ne_of_gt h)]

/-- A new submission returns at once. -/
theorem Booked.enter (h : Booked slots limit s) {q : Queue Nat}
    (hq : q.waiting = s.queue.waiting) (hc : q.events.capacity = slots)
    (hl : q.overflowWait = limit) (ho : q.events.isOpen = s.queue.events.isOpen)
    (hr : q.events.items.length ≤ slots)
    (hf : s.queue.events.isOpen = true → s.queue.waiting = [])
    (hn : ok = false → s.queue.events.isOpen = false) :
    Booked slots limit { s with
      queue := q
      submissions := s.submissions ++ [⟨s.now, some (ok, s.now)⟩] } := by
  constructor
  case capacity => exact hc
  case overflow => exact hl
  case room => exact hr
  case full => exact fun isOpen waits => absurd (hq.trans (hf (ho ▸ isOpen))) waits
  case line => exact hq ▸ h.line
  case waiters =>
    intro v hv
    have hv : v ∈ s.queue.waiting := hq ▸ hv
    obtain ⟨t₀, ht, hd⟩ := h.waiters v hv
    refine ⟨t₀, ?_, hd⟩
    rw [getElem?_concat, if_neg (Nat.ne_of_lt (h.producer_lt hv))]
    exact ht
  case pending =>
    rintro n ⟨t₀, ht⟩
    rw [getElem?_concat] at ht
    split at ht
    · simp at ht
    · exact hq ▸ h.pending ⟨t₀, ht⟩
  case punctual => exact fun v hv => h.punctual v (hq ▸ hv)
  case record =>
    intro n b hb
    rw [getElem?_concat] at hb
    show b.Sound limit q.events.isOpen s.now
    rw [ho]
    split at hb
    · cases hb
      refine ⟨Nat.le_refl _, fun he => ?_, fun isOpen t he => ?_⟩
      · cases he
        exact ⟨Nat.le_refl _, Nat.le_refl _, Nat.le_add_right ..⟩
      · cases he
        simp [hn rfl] at isOpen
    · exact h.record hb

/-- A new submission finds the queue full and waits. -/
theorem Booked.lineUp (h : Booked slots limit s) (e : Event)
    (hf : s.queue.events.items.length = slots) :
    Booked slots limit { s with
      queue := s.queue.lineUp s.submissions.length e s.now
      submissions := s.submissions ++ [⟨s.now, none⟩] } := by
  have mem {v} (hv : v ∈ (s.queue.lineUp s.submissions.length e s.now).waiting) :
      v ∈ s.queue.waiting ∨ v = ⟨s.submissions.length, e, s.now + s.queue.overflowWait⟩ :=
    (List.mem_append.1 hv).imp_right List.mem_singleton.1
  constructor
  case capacity => exact h.capacity
  case overflow => exact h.overflow
  case room => exact h.room
  case full => exact fun _ _ => hf
  case line =>
    show ((s.queue.waiting ++ [_]).map Waiter.producer).Pairwise _
    rw [List.map_append, List.pairwise_append]
    refine ⟨h.line, List.pairwise_singleton .., fun n hn m hm => ?_⟩
    obtain ⟨v, hv, rfl⟩ := List.mem_map.1 hn
    obtain rfl : m = s.submissions.length := by simpa using hm
    exact h.producer_lt hv
  case waiters =>
    intro v hv
    rcases mem hv with hv | rfl
    · obtain ⟨t₀, ht, hd⟩ := h.waiters v hv
      refine ⟨t₀, ?_, hd⟩
      rw [getElem?_concat, if_neg (Nat.ne_of_lt (h.producer_lt hv))]
      exact ht
    · refine ⟨s.now, ?_, congrArg (s.now + ·) h.overflow⟩
      rw [getElem?_concat, if_pos rfl]
  case pending =>
    rintro n ⟨t₀, ht⟩
    rw [getElem?_concat] at ht
    split at ht
    · rename_i hn
      exact ⟨_, List.mem_append_right _ List.mem_cons_self, hn.symm⟩
    · obtain ⟨v, hv, rfl⟩ := h.pending ⟨t₀, ht⟩
      exact ⟨v, List.mem_append_left _ hv, rfl⟩
  case punctual =>
    intro v hv
    rcases mem hv with hv | rfl
    · exact h.punctual v hv
    · exact Nat.le_add_right ..
  case record =>
    intro n b hb
    rw [getElem?_concat] at hb
    split at hb
    · cases hb
      refine ⟨Nat.le_refl _, fun he => ?_, fun _ _ he => ?_⟩
      · cases he
      · cases he
    · exact h.record hb

/-- Only the events have changed. -/
theorem Booked.events (h : Booked slots limit s) {q : Queue Nat}
    (hq : q.waiting = s.queue.waiting) (hc : q.events.capacity = slots)
    (hl : q.overflowWait = limit)
    (ho : q.events.isOpen = true → s.queue.events.isOpen = true)
    (hr : q.events.items.length ≤ slots)
    (hf : q.events.isOpen = true → s.queue.waiting = []) :
    Booked slots limit { s with queue := q } where
  capacity := hc
  overflow := hl
  room := hr
  full isOpen waits := absurd (hq.trans (hf isOpen)) waits
  line := hq ▸ h.line
  waiters v hv := h.waiters v (hq ▸ hv)
  pending hn := hq ▸ h.pending hn
  punctual v hv := h.punctual v (hq ▸ hv)
  record hb :=
    have sound := h.record hb
    ⟨sound.begun, sound.answered, fun isOpen => sound.refused (ho isOpen)⟩

theorem Booked.later (h : Booked slots limit s) (hn : s.now ≤ t)
    (hd : ∀ w ∈ s.queue.waiting, t ≤ w.deadline) : Booked slots limit { s with now := t } :=
  ⟨h.capacity, h.overflow, h.room, h.full, h.line, h.waiters, h.pending, hd,
    fun hb => (h.record hb).later hn⟩

/-! ### Dropped submissions -/

/-- Some waiting producers were dropped, each at its own moment; the queue, the other producers and
all other submissions are unchanged. -/
structure TurnedAway (gone : Waiter Nat → Bool) (moment : Waiter Nat → Nat) (s s' : State) :
    Prop where
  events : s'.queue.events = s.queue.events
  waiting : s'.queue.waiting = s.queue.waiting.filter fun w => !gone w
  size : s'.submissions.length = s.submissions.length
  answered : ∀ w ∈ s.queue.waiting, gone w = true →
    ∀ {t₀}, s.submissions[w.producer]? = some ⟨t₀, none⟩ →
      s'.submissions[w.producer]? = some ⟨t₀, some (false, moment w)⟩
  others : ∀ {n}, (∀ w ∈ s.queue.waiting, gone w = true → w.producer ≠ n) →
    s'.submissions[n]? = s.submissions[n]?

/-- No step is enabled without time passing. -/
structure Orderly (slots limit : Nat) (s : State) : Prop extends Booked slots limit s where
  settled : ∀ w ∈ s.queue.waiting, s.queue.events.isOpen = true ∧ s.now < w.deadline

/-- No producer waits at a closed queue. -/
theorem Orderly.waiting_eq_nil (h : Orderly slots limit s) (ho : s.queue.events.isOpen = false) :
    s.queue.waiting = [] := by
  refine List.eq_nil_iff_forall_not_mem.2 fun w hw => ?_
  simp [(h.settled w hw).1] at ho

/-- One waiting producer is dropped, and then others are. -/
theorem TurnedAway.cons {gone : Waiter Nat → Bool} {s₁ : State} {w : Waiter Nat}
    {before after : List (Waiter Nat)} {q : Queue Nat} (h : Booked slots limit s)
    (hw : s.queue.waiting = before ++ w :: after) (hg : gone w = true)
    (hs : s₁ = State.answer { s with queue := q } w.producer false)
    (he : q.events = s.queue.events) (hq : q.waiting = before ++ after)
    (away : TurnedAway gone (fun _ => s.now) s₁ s') :
    TurnedAway gone (fun _ => s.now) s s' := by
  have apart := h.apart hw
  have hmem : w ∈ s.queue.waiting := by simp [hw]
  have waiting : s₁.queue.waiting = before ++ after := by rw [hs]; exact hq
  have record (n : Nat) : s₁.submissions[n]? = if n = w.producer
      then (s.submissions[n]?).map fun b => { b with ended := some (false, s.now) }
      else s.submissions[n]? := by rw [hs]; exact getElem?_answer ..
  constructor
  case events => rw [away.events, hs]; exact he
  case waiting => rw [away.waiting, waiting, hw]; simp [hg]
  case size => rw [away.size, hs]; simp [State.answer]
  case answered =>
    intro v hv hgone t₀ ht
    rw [hw, List.mem_append, List.mem_cons] at hv
    -- `w` is answered at this moment, the others of the line in the steps to `s'`
    by_cases hvw : v ∈ before ++ after
    · refine away.answered v (waiting ▸ hvw) hgone ?_
      rw [record, if_neg (apart v hvw)]
      exact ht
    · obtain rfl : v = w := by
        rw [List.mem_append] at hvw
        grind
      rw [away.others, record, if_pos rfl, ht]
      · rfl
      · exact fun u hu _ => apart u (waiting ▸ hu)
  case others =>
    intro n hn
    rw [away.others, record, if_neg (Ne.symm (hn w hmem hg))]
    intro u hu hgone
    refine hn u ?_ hgone
    rw [hw, List.mem_append, List.mem_cons]
    exact (List.mem_append.1 (waiting ▸ hu)).imp_right .inr

/-- All producers that must drop their events do so at this moment. -/
theorem Booked.giveUps (h : Booked slots limit s) {fuel : Nat}
    (hf : s.queue.waiting.length < fuel) :
    Booked slots limit (s.giveUps fuel) ∧ (s.giveUps fuel).now = s.now ∧
      TurnedAway (s.queue.mustGiveUp s.now) (fun _ => s.now) s (s.giveUps fuel) := by
  -- each round drops a producer, so the line is shorter than the fuel throughout
  induction fuel generalizing s with
  | zero => cases hf
  | succ fuel ih =>
    unfold State.giveUps
    cases hg : s.queue.giveUp? s.now with
    | none =>
      have stays : ∀ w ∈ s.queue.waiting, s.queue.mustGiveUp s.now w = false := by
        simpa [Queue.giveUp?] using hg
      refine ⟨h, rfl, rfl, ?_, rfl, fun w hw hgone => ?_, fun _ => rfl⟩
      · exact (List.filter_eq_self.2 fun w hw => by simp [stays w hw]).symm
      · simp [stays w hw] at hgone
    | some found =>
      obtain ⟨w, q⟩ := found
      obtain ⟨before, after, hw, erased, must⟩ := Queue.giveUp?_cut hg
      obtain ⟨-, rfl⟩ := Queue.giveUp?_eq_some hg
      have intime : s.queue.events.isOpen = true → s.now = w.deadline := by
        intro isOpen
        have late : w.deadline ≤ s.now := by simpa [Queue.mustGiveUp, isOpen] using must
        exact Nat.le_antisymm (h.punctual w (by simp [hw])) late
      dsimp only
      generalize hs₁ : State.answer { s with queue := Queue.drop { s.queue with
        waiting := s.queue.waiting.eraseP (s.queue.mustGiveUp s.now) } } w.producer false = s₁
      have booked : Booked slots limit s₁ := hs₁ ▸ h.answer hw erased h.capacity h.overflow rfl rfl
        fun _ => intime
      have fewer : s₁.queue.waiting.length < fuel := by
        rw [hw] at hf
        rw [show s₁.queue.waiting = before ++ after from hs₁ ▸ erased]
        simp only [List.length_append, List.length_cons] at hf ⊢
        omega
      obtain ⟨booked', now', away⟩ := ih booked fewer
      rw [show s₁.now = s.now from hs₁ ▸ rfl,
        show s₁.queue.mustGiveUp s.now = s.queue.mustGiveUp s.now from hs₁ ▸ rfl] at away
      exact ⟨booked', now'.trans (hs₁ ▸ rfl), .cons h hw must hs₁.symm rfl erased away⟩

/-- After settling, the waiting producers are at an open, full queue and have time left. -/
theorem Booked.settle (h : Booked slots limit s) :
    Orderly slots limit s.settle ∧ s.settle.now = s.now ∧
      TurnedAway (s.queue.mustGiveUp s.now) (fun _ => s.now) s s.settle := by
  obtain ⟨booked, now, away⟩ := h.giveUps (Nat.lt_succ_self _)
  refine ⟨⟨booked, fun w hw => ?_⟩, now, away⟩
  show (State.giveUps _ s).queue.events.isOpen = true ∧ (State.giveUps _ s).now < w.deadline
  have hw : w ∈ (State.giveUps _ s).queue.waiting := hw
  rw [away.waiting, List.mem_filter] at hw
  rw [away.events, now]
  simpa [Queue.mustGiveUp] using hw.2

/-- The result of a waiting producer that has returned. -/
theorem TurnedAway.of_answered {gone : Waiter Nat → Bool} {moment : Waiter Nat → Nat}
    (away : TurnedAway gone moment s s') (hs : Booked slots limit s) {t₀ : Nat}
    (hn : s.submissions[n]? = some ⟨t₀, none⟩) (ha : s'.Answered n ok t) :
    ok = false ∧ ∃ w ∈ s.queue.waiting, w.producer = n ∧ gone w = true ∧ t = moment w := by
  obtain ⟨w, hw, rfl⟩ := hs.pending ⟨t₀, hn⟩
  obtain ⟨t₁, ht⟩ := ha
  by_cases hg : gone w = true
  · rw [away.answered w hw hg hn] at ht
    cases ht
    exact ⟨rfl, w, hw, rfl, hg, rfl⟩
  · have stays : ∀ v ∈ s.queue.waiting, gone v = true → v.producer ≠ w.producer :=
      fun v hv hgv he => hg (hs.eq_of_producer hv hw he ▸ hgv)
    rw [away.others stays, hn] at ht
    cases ht

/-- Results are final. -/
theorem TurnedAway.final {gone : Waiter Nat → Bool} {moment : Waiter Nat → Nat}
    (away : TurnedAway gone moment s s') (hs : Booked slots limit s) (ha : s.Answered n ok t) :
    s'.Answered n ok t := by
  have apart : ∀ w ∈ s.queue.waiting, gone w = true → w.producer ≠ n := fun w hw _ he =>
    not_answered_of_pending (hs.made hw) (he ▸ ha)
  obtain ⟨t₀, ht⟩ := ha
  exact ⟨t₀, (away.others apart).trans ht⟩

/-! ### Time -/

/-- Composition of two stretches of time. -/
theorem TurnedAway.trans {s'' : State} {t t' : Nat}
    (h : TurnedAway (fun w => w.deadline ≤ t) Waiter.deadline s s')
    (h' : TurnedAway (fun w => w.deadline ≤ t') Waiter.deadline s' s'') (ht : t ≤ t')
    (hs : Booked slots limit s) :
    TurnedAway (fun w => w.deadline ≤ t') Waiter.deadline s s'' := by
  have mem {w : Waiter Nat} : w ∈ s'.queue.waiting ↔ w ∈ s.queue.waiting ∧ t < w.deadline := by
    rw [h.waiting, List.mem_filter]
    simp
  constructor
  case events => exact h'.events.trans h.events
  case waiting =>
    rw [h'.waiting, h.waiting, List.filter_filter]
    refine List.filter_congr fun w _ => ?_
    have both : t' < w.deadline → t < w.deadline := Nat.lt_of_le_of_lt ht
    simpa using both
  case size => exact h'.size.trans h.size
  case answered =>
    intro w hw hgone t₀ ht₀
    -- a producer is answered in the stretch that contains its deadline
    by_cases gone : w.deadline ≤ t
    · rw [h'.others]
      · exact h.answered w hw (by simpa using gone) ht₀
      · intro v hv _ he
        obtain ⟨hv, late⟩ := mem.1 hv
        exact Nat.not_lt_of_le gone (hs.eq_of_producer hv hw he ▸ late)
    · have waits : w ∈ s'.queue.waiting := mem.2 ⟨hw, Nat.lt_of_not_le gone⟩
      refine h'.answered w waits hgone ?_
      rw [h.others]
      · exact ht₀
      · intro v hv early he
        exact gone (hs.eq_of_producer hv hw he ▸ of_decide_eq_true early)
  case others =>
    intro n hn
    rw [h'.others, h.others]
    · intro w hw early
      exact hn w hw (decide_eq_true (Nat.le_trans (of_decide_eq_true early) ht))
    · exact fun w hw gone => hn w (mem.1 hw).1 gone

/-- At a moment that is no later than any deadline, an open queue drops exactly the producers with
this deadline. -/
theorem Booked.arrive (h : Booked slots limit s)
    (ho : ∀ w ∈ s.queue.waiting, s.queue.events.isOpen = true) (hn : s.now ≤ t)
    (hd : ∀ w ∈ s.queue.waiting, t ≤ w.deadline) :
    Orderly slots limit (State.settle { s with now := t }) ∧
      (State.settle { s with now := t }).now = t ∧
      TurnedAway (fun w => w.deadline ≤ t) Waiter.deadline s (State.settle { s with now := t }) := by
  obtain ⟨orderly, now, away⟩ := (h.later hn hd).settle
  refine ⟨orderly, now, ?_⟩
  have gone : ∀ w ∈ s.queue.waiting, s.queue.mustGiveUp t w = decide (w.deadline ≤ t) := by
    intro w hw
    simp [Queue.mustGiveUp, ho w hw]
  constructor
  case events => exact away.events
  case waiting =>
    refine away.waiting.trans (List.filter_congr fun w hw => ?_)
    exact congrArg _ (gone w hw)
  case size => exact away.size
  case answered =>
    intro w hw late t₀ ht₀
    rw [away.answered w hw ((gone w hw).trans late) ht₀]
    have now : t = w.deadline := Nat.le_antisymm (hd w hw) (of_decide_eq_true late)
    rw [← now]
  case others => exact fun hn => away.others fun w hw late => hn w hw ((gone w hw).symm.trans late)

/-- No waiting producer is at its deadline yet. -/
theorem Orderly.turnedAway_now (h : Orderly slots limit s) :
    TurnedAway (fun w => w.deadline ≤ s.now) Waiter.deadline s s := by
  have early : ∀ w ∈ s.queue.waiting, ¬ w.deadline ≤ s.now := fun w hw =>
    Nat.not_le_of_lt (h.settled w hw).2
  refine ⟨rfl, ?_, rfl, fun w hw gone => absurd (of_decide_eq_true gone) (early w hw),
    fun _ => rfl⟩
  exact (List.filter_eq_self.2 fun w hw => by simpa using early w hw).symm

/-- Every waiting producer is dropped at its own deadline. -/
theorem Orderly.advanceTo (h : Orderly slots limit s) (hn : s.now ≤ t) :
    Orderly slots limit (s.advanceTo t) ∧ (s.advanceTo t).now = t ∧
      TurnedAway (fun w => w.deadline ≤ t) Waiter.deadline s (s.advanceTo t) := by
  unfold State.advanceTo
  -- invariant of the rounds: the deadlines up to the moment of the state are dealt with
  refine Clock.runUntil_of_arrivals
    (P := fun x => Orderly slots limit x ∧ x.now ≤ t ∧
      TurnedAway (fun w => w.deadline ≤ x.now) Waiter.deadline s x)
    (Q := fun x => Orderly slots limit x ∧ x.now = t ∧
      TurnedAway (fun w => w.deadline ≤ t) Waiter.deadline s x)
    (m := fun x => x.queue.waiting.length) ?_ ?_ ⟨h, hn, ?_⟩ (Nat.lt_succ_self _)
  · rintro x t' ⟨orderly, before, away⟩ due hle
    obtain ⟨hmem, first⟩ := List.min?_eq_some_iff.1 due
    obtain ⟨w, hw, rfl⟩ := List.mem_map.1 hmem
    have first : ∀ v ∈ x.queue.waiting, w.deadline ≤ v.deadline :=
      fun v hv => first _ (List.mem_map_of_mem hv)
    have later : x.now ≤ w.deadline := orderly.punctual w hw
    obtain ⟨orderly', now', away'⟩ := orderly.arrive (fun v hv => (orderly.settled v hv).1) later first
    refine ⟨⟨orderly', Nat.le_trans (Nat.le_of_eq now') hle, ?_⟩, ?_⟩
    · rw [now']
      exact away.trans away' later h.toBooked
    · rw [away'.waiting, List.length_filter_lt_length_iff_exists]
      exact ⟨w, hw, by simp⟩
  · rintro x ⟨orderly, before, away⟩ past
    have first : ∀ v ∈ x.queue.waiting, t ≤ v.deadline := by
      intro v hv
      have hd := List.mem_map_of_mem (f := Waiter.deadline) hv
      cases hmin : (x.queue.waiting.map Waiter.deadline).min? with
      | none => simp [List.min?_eq_none_iff.1 hmin] at hd
      | some d =>
        exact Nat.le_trans (Nat.le_of_lt (past d hmin)) ((List.min?_eq_some_iff.1 hmin).2 _ hd)
    obtain ⟨orderly', now', away'⟩ := orderly.arrive (fun v hv => (orderly.settled v hv).1) before first
    exact ⟨orderly', now', away.trans away' before h.toBooked⟩
  · exact h.turnedAway_now

end

end Presence.Script.Submissions
