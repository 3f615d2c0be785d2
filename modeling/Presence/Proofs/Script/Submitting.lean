import Presence.Proofs.Script.WaitingLine

/-!
Submissions over a script. One step is specified twice: `Attended` for the submissions made before
it, `Received` for the one that it makes. Every step preserves `Orderly` and satisfies both, and so
does every step of a run from an empty queue.
-/

namespace Presence.Script.Submissions

/-- The state after a list of steps. -/
def State.after (s : State) (as : List Step) : State := as.foldl (fun s a => (step s a).2) s

section
variable {slots limit : Nat} {s s' : State} {n m : Nat} {ok : Bool} {t : Nat}

/-! ### Steps -/

/-- The event that a step submits for a producer that can wait. -/
def Step.submits? : Step → Option Event
  | .submit e => some e
  | .submitInBackground _ e => some e
  | _ => none

/-- Steps that close the receiving side. -/
def Step.shuts (receiving : Bool) : Step → Bool
  | .closeReceiver => receiving
  | .dropReceiver => true
  | _ => false

theorem Step.shuts_of_submits {a : Step} {e : Event} (h : a.submits? = some e) (r : Bool) :
    a.shuts r = false := by
  cases a with
  | closeReceiver => cases h
  | dropReceiver => cases h
  | _ => rfl

/-- The effect of a step on the submissions made before it. -/
structure Attended (limit : Nat) (s : State) (a : Step) (s' : State) : Prop where
  /-- The queue is open until the receiving side is closed. -/
  isOpen : s'.queue.events.isOpen = (s.queue.events.isOpen && !a.shuts s.receiving)
  /-- An answer is final. -/
  final : ∀ {n ok t}, s.Answered n ok t → s'.Answered n ok t
  /-- Closing the receiving side drops all waiting submissions at that moment. -/
  closed : s'.queue.events.isOpen = false → ∀ {n}, s.Pending n → s'.Answered n false s.now
  /-- A promoted submission was the first waiting one, and the step received an event. -/
  admitted : ∀ {n t}, s.Pending n → s'.Answered n true t →
    a = .receive ∧ t = s.now ∧ (∀ m, s.Pending m → n ≤ m) ∧
      ∃ e rest w, w.producer = n ∧ s.queue.waiting = w :: s'.queue.waiting ∧
        s.queue.events.items = e :: rest ∧ s'.queue.events.items = rest ++ [w.event]
  /-- A submission dropped by an open queue has waited for the whole limit; the events are kept. -/
  expired : s'.queue.events.isOpen = true → ∀ {n t₀ t}, s.submissions[n]? = some ⟨t₀, none⟩ →
    s'.Answered n false t →
      t = t₀ + limit ∧ s.now < t ∧ t ≤ s'.now ∧ s'.queue.events = s.queue.events
  /-- Submissions that keep waiting keep their order. -/
  undisturbed : (s'.queue.waiting.filter fun w => w.producer < s.submissions.length).Sublist
    s.queue.waiting

/-- The effect of a step on the submission that it makes. -/
structure Received (limit : Nat) (s : State) (a : Step) (r : Reply) (s' : State) : Prop where
  refused : s.sending = true → s.queue.events.isOpen = false → ∀ {e}, a.submits? = some e →
    s'.Answered s.submissions.length false s.now ∧ s'.queue.events = s.queue.events
  /-- With a free slot the submission is accepted at once. -/
  entered : s.sending = true → s.queue.events.isOpen = true → s.queue.events.hasRoom = true →
    ∀ {e}, a.submits? = some e → s'.Answered s.submissions.length true s.now ∧
      s'.queue.events = s.queue.events.push e ∧ ∀ n, ¬ s.Pending n
  /-- With a full queue the submission is the last to wait, or has waited for the limit. -/
  waits : s.sending = true → s.queue.events.isOpen = true → s.queue.events.hasRoom = false →
    ∀ {e}, a.submits? = some e → s'.queue.events = s.queue.events ∧
      (s'.now = s.now ∧ s'.queue.waiting =
          s.queue.waiting ++ [⟨s.submissions.length, e, s.now + limit⟩] ∨
        s'.Answered s.submissions.length false (s.now + limit))
  /-- A submission that cannot wait is accepted only with a free slot and no waiting producer. -/
  tried : s.sending = true → ∀ {e}, a = .trySubmit e →
    s'.submissions = s.submissions ∧ s'.queue.waiting = s.queue.waiting ∧
      (r = .flag true ∧ s.queue.events.isOpen = true ∧ s.queue.events.hasRoom = true ∧
          s'.queue.events = s.queue.events.push e ∧ (∀ n, ¬ s.Pending n) ∨
        r = .flag false ∧ (s.queue.events.isOpen = false ∨ s.queue.events.hasRoom = false) ∧
          s'.queue.events = s.queue.events)

/-- No earlier submission is answered. -/
theorem Attended.still {a : Step} (hs' : Orderly slots limit s')
    (opens : a.shuts s.receiving = false) (ho : s'.queue.events.isOpen = s.queue.events.isOpen)
    (same : ∀ {n}, n < s.submissions.length → s'.submissions[n]? = s.submissions[n]?)
    (line : (s'.queue.waiting.filter fun w => w.producer < s.submissions.length).Sublist
      s.queue.waiting) : Attended limit s a s' := by
  have waits {n : Nat} (hn : s.Pending n) : s'.Pending n := by
    obtain ⟨t₀, ht⟩ := hn
    exact ⟨t₀, (same (lt_length_of_pending ⟨t₀, ht⟩)).trans ht⟩
  constructor
  case isOpen => rw [ho, opens, Bool.not_false, Bool.and_true]
  case final =>
    rintro n ok t ⟨t₀, ht⟩
    exact ⟨t₀, (same (lt_length_of_answered ⟨t₀, ht⟩)).trans ht⟩
  case closed =>
    exact fun shut n hn => absurd (waits hn) (hs'.not_pending (hs'.waiting_eq_nil shut) n)
  case admitted => exact fun hn hn' => absurd hn' (not_answered_of_pending (waits hn))
  case expired => exact fun _ n t₀ t hn hn' => absurd hn' (not_answered_of_pending (waits ⟨t₀, hn⟩))
  case undisturbed => exact line

/-- The first waiting submission is promoted. -/
theorem Attended.promoted {e : Event} {w : Waiter Nat} {rest : List (Waiter Nat)}
    {q : Queue Nat} {c : Channel Event} (h : Orderly slots limit s)
    (hw : s.queue.waiting = w :: rest) (hc : s.queue.events.take? = some (e, c))
    (hq : q = Queue.accept { s.queue with events := c, waiting := rest } w.event) :
    Attended limit s .receive (State.answer { s with queue := q } w.producer true) := by
  subst hq
  obtain ⟨hi, -, ho⟩ := Channel.take?_eq_some_iff.1 hc
  have first : w ∈ s.queue.waiting := by simp [hw]
  have isOpen := (h.settled w first).1
  constructor
  case isOpen => exact ho.trans (Bool.and_true _).symm
  case final =>
    rintro n ok t ha
    have other : n ≠ w.producer := fun he => not_answered_of_pending (h.made first) (he ▸ ha)
    obtain ⟨t₀, ht⟩ := ha
    refine ⟨t₀, ?_⟩
    rw [getElem?_answer, if_neg other]
    exact ht
  case closed =>
    intro shut
    have shut : c.isOpen = false := shut
    simp [ho, isOpen] at shut
  case admitted =>
    rintro n t ⟨t₀, ht₀⟩ ⟨t₁, ht₁⟩
    rw [getElem?_answer] at ht₁
    split at ht₁
    · rename_i hn
      subst hn
      obtain ⟨b, -, hb⟩ := Option.map_eq_some_iff.1 ht₁
      cases hb
      refine ⟨rfl, rfl, fun m hm => ?_, e, c.items, w, rfl, hw, hi, rfl⟩
      obtain ⟨v, hv, rfl⟩ := h.pending hm
      have line := h.line
      rw [hw, List.map_cons, List.pairwise_cons] at line
      rw [hw, List.mem_cons] at hv
      rcases hv with rfl | hv
      · exact Nat.le_refl _
      · exact Nat.le_of_lt (line.1 _ (List.mem_map_of_mem hv))
    · cases ht₀.symm.trans ht₁
  case expired =>
    rintro - n t₀ t ht₀ ⟨t₁, ht₁⟩
    rw [getElem?_answer] at ht₁
    split at ht₁
    · obtain ⟨b, -, hb⟩ := Option.map_eq_some_iff.1 ht₁
      cases hb
    · cases ht₀.symm.trans ht₁
  case undisturbed =>
    refine List.filter_sublist.trans ?_
    rw [hw]
    exact List.sublist_cons_self w rest

/-- Time advances, possibly after a new submission was appended. -/
theorem Attended.later {a : Step} {s₁ : State} (h : Orderly slots limit s)
    (h₁ : Booked slots limit s₁)
    (same : ∀ {n}, n < s.submissions.length → s₁.submissions[n]? = s.submissions[n]?)
    (events : s₁.queue.events = s.queue.events)
    (line : (s₁.queue.waiting.filter fun w => w.producer < s.submissions.length) = s.queue.waiting)
    (now : s'.now = t) (opens : a.shuts s.receiving = false)
    (away : TurnedAway (fun w => w.deadline ≤ t) Waiter.deadline s₁ s') :
    Attended limit s a s' := by
  have old {n : Nat} {b : Submission} (hb : s.submissions[n]? = some b) :
      s₁.submissions[n]? = some b := (same (List.getElem?_eq_some_iff.1 hb).1).trans hb
  constructor
  case isOpen => rw [away.events, events, opens, Bool.not_false, Bool.and_true]
  case final =>
    rintro n ok t ⟨t₀, ht⟩
    exact away.final h₁ ⟨t₀, old ht⟩
  case closed =>
    rintro shut n hn
    rw [away.events, events] at shut
    exact absurd hn (h.not_pending (h.waiting_eq_nil shut) n)
  case admitted =>
    rintro n t ⟨t₀, ht⟩ ha
    exact absurd (away.of_answered h₁ (old ht) ha).1 (by simp)
  case expired =>
    rintro - n t₀ t' ht ha
    obtain ⟨-, w, hw, hwn, gone, rfl⟩ := away.of_answered h₁ (old ht) ha
    obtain ⟨v, hv, hvn⟩ := h.pending ⟨t₀, ht⟩
    have hv₁ : v ∈ s₁.queue.waiting := by
      rw [← line] at hv
      exact (List.mem_filter.1 hv).1
    obtain rfl : v = w := h₁.eq_of_producer hv₁ hw (hvn.trans hwn.symm)
    obtain ⟨t₁, ht₁, deadline⟩ := h.waiters v hv
    rw [hvn, ht] at ht₁
    cases ht₁
    exact ⟨deadline, (h.settled v hv).2, Nat.le_trans (of_decide_eq_true gone) (Nat.le_of_eq now.symm),
      away.events.trans events⟩
  case undisturbed =>
    rw [away.waiting, ← line]
    exact List.Sublist.filter _ List.filter_sublist

/-- The receiving side is closed and all waiting submissions are dropped. -/
theorem Orderly.shut (h : Orderly slots limit s) {a : Step} (ha : a.shuts s.receiving = true)
    {q : Queue Nat} (r : Bool) (hq : q.waiting = s.queue.waiting)
    (hc : q.events.capacity = slots) (hl : q.overflowWait = limit)
    (ho : q.events.isOpen = false) (hr : q.events.items.length ≤ slots) :
    Orderly slots limit (State.settle { s with queue := q, receiving := r }) ∧
      Attended limit s a (State.settle { s with queue := q, receiving := r }) := by
  have booked : Booked slots limit { s with queue := q, receiving := r } := by
    have booked := h.toBooked.events hq hc hl (by simp [ho]) hr (by simp [ho])
    exact { booked with }
  obtain ⟨orderly, now, away⟩ := booked.settle
  refine ⟨orderly, ?_⟩
  have all (w : Waiter Nat) : q.mustGiveUp s.now w = true := by simp [Queue.mustGiveUp, ho]
  have gone {n : Nat} (hn : s.Pending n) :
      (State.settle { s with queue := q, receiving := r }).Answered n false s.now := by
    obtain ⟨w, hw, rfl⟩ := h.pending hn
    obtain ⟨t₀, ht⟩ := hn
    exact ⟨t₀, away.answered w (hq ▸ hw) (all w) ht⟩
  constructor
  case isOpen => rw [away.events, ha, Bool.not_true, Bool.and_false]; exact ho
  case final => exact fun ha => away.final booked ha
  case closed => exact fun _ n hn => gone hn
  case admitted =>
    rintro n t ⟨t₀, ht⟩ ha
    exact absurd (away.of_answered booked ht ha).1 (by simp)
  case expired =>
    intro isOpen
    rw [away.events] at isOpen
    exact absurd isOpen (by simp [ho])
  case undisturbed =>
    rw [away.waiting]
    exact List.filter_sublist.trans (hq ▸ List.filter_sublist)

/-! ### New submissions -/

theorem answer_concat (s : State) (bs : List Submission) (hs : s.submissions = bs ++ [⟨t, none⟩])
    (ok : Bool) : s.answer bs.length ok =
      { s with submissions := bs ++ [⟨t, some (ok, s.now)⟩] } := by
  have same : (s.answer bs.length ok).submissions = bs ++ [⟨t, some (ok, s.now)⟩] := by
    refine List.ext_getElem? fun m => ?_
    rw [getElem?_answer, hs, getElem?_concat, getElem?_concat]
    split <;> rfl
  rw [← same]
  rfl

theorem submit_of_closed (s : State) (e : Event) (ho : s.queue.events.isOpen = false) :
    s.submit e = (s.submissions.length, { s with
      queue := s.queue.drop
      submissions := s.submissions ++ [⟨s.now, some (false, s.now)⟩] }) := by
  unfold State.submit Queue.submit
  rw [Channel.trySend_eq_closed_iff.2 ho]
  exact congrArg _ (answer_concat _ s.submissions rfl false)

theorem submit_of_room (s : State) (e : Event) (ho : s.queue.events.isOpen = true)
    (hr : s.queue.events.hasRoom = true) :
    s.submit e = (s.submissions.length, { s with
      queue := s.queue.accept e
      submissions := s.submissions ++ [⟨s.now, some (true, s.now)⟩] }) := by
  unfold State.submit Queue.submit
  rw [Channel.trySend_eq_ok_iff.2 ⟨ho, hr, rfl⟩]
  exact congrArg _ (answer_concat _ s.submissions rfl true)

theorem submit_of_full (s : State) (e : Event) (ho : s.queue.events.isOpen = true)
    (hr : s.queue.events.hasRoom = false) :
    s.submit e = (s.submissions.length, State.settle { s with
      queue := s.queue.lineUp s.submissions.length e s.now
      submissions := s.submissions ++ [⟨s.now, none⟩] }) := by
  unfold State.submit Queue.submit
  rw [Channel.trySend_eq_full_iff.2 ⟨ho, hr⟩]

/-- Removing a submission appended last restores the waiting ones. -/
theorem filter_line (h : Booked slots limit s) {w : Waiter Nat}
    (hw : w.producer = s.submissions.length) :
    (s.queue.waiting ++ [w]).filter (fun w => w.producer < s.submissions.length) =
      s.queue.waiting := by
  rw [List.filter_append, List.filter_cons_of_neg (by simp [hw]), List.filter_nil, List.append_nil]
  exact List.filter_eq_self.2 fun v hv => decide_eq_true (h.producer_lt hv)

/-- With a full queue a submission is appended to the waiting ones, unless the limit is zero. -/
theorem Orderly.submit_full (h : Orderly slots limit s) (e : Event)
    (ho : s.queue.events.isOpen = true) (hr : s.queue.events.hasRoom = false)
    (hs' : s' = (s.submit e).2) :
    Orderly slots limit s' ∧ s'.now = s.now ∧ s'.queue.events = s.queue.events ∧
      (∀ {n}, n < s.submissions.length → s'.submissions[n]? = s.submissions[n]?) ∧
      (0 < limit ∧ s'.queue.waiting =
          s.queue.waiting ++ [⟨s.submissions.length, e, s.now + limit⟩] ∨
        limit = 0 ∧ s'.queue.waiting = s.queue.waiting ∧
          s'.Answered s.submissions.length false (s.now + limit)) := by
  have crowded : s.queue.events.items.length = slots := by
    refine Nat.le_antisymm h.room (Nat.le_of_not_lt fun hlt => ?_)
    simp [(hasRoom_iff h.toBooked).2 hlt] at hr
  have lined := h.toBooked.lineUp e crowded
  obtain ⟨orderly, now, away⟩ := lined.arrive (fun _ _ => ho) (Nat.le_refl s.now) lined.punctual
  rw [submit_of_full s e ho hr] at hs'
  rw [show State.settle _ = s' from hs'.symm] at orderly now away
  obtain ⟨events, waiting, -, answered, others⟩ := away
  -- those who waited before have time left
  have early : ∀ w ∈ s.queue.waiting, ¬ w.deadline ≤ s.now := fun w hw =>
    Nat.not_le_of_lt (h.settled w hw).2
  have old : s.queue.waiting.filter (fun w => !decide (w.deadline ≤ s.now)) = s.queue.waiting :=
    List.filter_eq_self.2 fun w hw => by simpa using early w hw
  have waiting : s'.queue.waiting = s.queue.waiting ++
      [(⟨s.submissions.length, e, s.now + limit⟩ : Waiter Nat)].filter
        fun w => !decide (w.deadline ≤ s.now) := by
    rw [waiting, ← h.overflow]
    show List.filter _ (s.queue.waiting ++ [_]) = _
    rw [List.filter_append, old]
  refine ⟨orderly, now, events, fun {n} hn => ?_, ?_⟩
  · have apart := others (n := n) ?_
    · exact apart.trans ((getElem?_concat ..).trans (if_neg (Nat.ne_of_lt hn)))
    · intro w hw gone
      rcases List.mem_append.1 hw with hw | hw
      · exact absurd (of_decide_eq_true gone) (early w hw)
      · rw [List.mem_singleton.1 hw]
        exact Nat.ne_of_gt hn
  · rcases Nat.eq_zero_or_pos limit with hl | hl
    · refine .inr ⟨hl, ?_, s.now, ?_⟩
      · rw [waiting, hl]
        simp
      · have made : (s.submissions ++ [⟨s.now, none⟩])[s.submissions.length]? =
            some ⟨s.now, none⟩ := (getElem?_concat ..).trans (if_pos rfl)
        have last := answered ⟨s.submissions.length, e, s.now + s.queue.overflowWait⟩
          (List.mem_append_right _ List.mem_cons_self) (by simp [h.overflow, hl]) made
        rw [h.overflow] at last
        exact last
    · refine .inl ⟨hl, ?_⟩
      have ahead : ¬ s.now + limit ≤ s.now := Nat.not_le_of_lt (Nat.lt_add_of_pos_right hl)
      have early : (!decide (s.now + limit ≤ s.now)) = true := by rw [decide_eq_false ahead]; rfl
      rw [waiting, List.filter_cons_of_pos (by exact early), List.filter_nil]

/-- A submission answered at once affects no waiting one. -/
theorem Orderly.entered (h : Orderly slots limit s) {a : Step}
    (opens : a.shuts s.receiving = false) {q : Queue Nat} (hq : q.waiting = s.queue.waiting)
    (hc : q.events.capacity = slots) (hl : q.overflowWait = limit)
    (ho : q.events.isOpen = s.queue.events.isOpen) (hr : q.events.items.length ≤ slots)
    (nobody : s.queue.waiting = []) (hn : ok = false → s.queue.events.isOpen = false)
    (hs' : s' = { s with
      queue := q
      submissions := s.submissions ++ [⟨s.now, some (ok, s.now)⟩] }) :
    Orderly slots limit s' ∧ Attended limit s a s' ∧ s'.queue.events = q.events ∧
      s'.Answered s.submissions.length ok s.now := by
  subst hs'
  have booked := h.toBooked.enter hq hc hl ho hr (fun _ => nobody) hn
  have orderly : Orderly slots limit { s with
      queue := q
      submissions := s.submissions ++ [⟨s.now, some (ok, s.now)⟩] } :=
    ⟨booked, fun w hw => by simp [hq, nobody] at hw⟩
  refine ⟨orderly, .still orderly opens ho (fun hn => ?_) ?_, rfl, s.now, ?_⟩
  · exact (getElem?_concat ..).trans (if_neg (Nat.ne_of_lt hn))
  · exact hq ▸ List.filter_sublist
  · exact (getElem?_concat ..).trans (if_pos rfl)

/-- Step that submits an event and settles. -/
theorem Orderly.submit (h : Orderly slots limit s) {a : Step} {e : Event}
    (ha : a.submits? = some e) (r : Reply) :
    Orderly slots limit (s.submit e).2 ∧ Attended limit s a (s.submit e).2 ∧
      Received limit s a r (s.submit e).2 := by
  have tried {P : Prop} {e' : Event} (he : a = .trySubmit e') : P := by simp [he, Step.submits?] at ha
  have only {e' : Event} (he : a.submits? = some e') : e' = e := Option.some.inj (he.symm.trans ha)
  have opens := Step.shuts_of_submits ha s.receiving
  cases ho : s.queue.events.isOpen with
  | false =>
    obtain ⟨orderly, attended, events, answered⟩ := h.entered (q := s.queue.drop) opens rfl
      h.capacity h.overflow rfl h.room (h.waiting_eq_nil ho) (fun _ => ho)
      (congrArg Prod.snd (submit_of_closed s e ho))
    refine ⟨orderly, attended, fun _ _ _ _ => ⟨answered, events⟩, fun _ ho' => ?_, fun _ ho' => ?_,
      fun _ e' he => tried he⟩
    · cases ho.symm.trans ho'
    · cases ho.symm.trans ho'
  | true =>
    cases hr : s.queue.events.hasRoom with
    | true =>
      have nobody := h.toBooked.waiting_eq_nil ho hr
      have room : (s.queue.accept e).events.items.length ≤ slots := by
        rw [Queue.accept, Channel.items_push, List.length_append]
        exact (hasRoom_iff h.toBooked).1 hr
      obtain ⟨orderly, attended, events, answered⟩ := h.entered (q := s.queue.accept e) opens rfl
        h.capacity h.overflow rfl room nobody (by simp)
        (congrArg Prod.snd (submit_of_room s e ho hr))
      refine ⟨orderly, attended, fun _ ho' => ?_, fun _ _ _ e' he => ?_, fun _ _ hr' => ?_,
        fun _ e' he => tried he⟩
      · cases ho.symm.trans ho'
      · rw [only he]
        exact ⟨answered, events, h.not_pending nobody⟩
      · cases hr.symm.trans hr'
    | false =>
      obtain ⟨orderly, now, events, same, place⟩ := h.submit_full e ho hr rfl
      refine ⟨orderly, .still orderly opens (congrArg _ events) same ?_, ?_⟩
      · rcases place with ⟨-, line⟩ | ⟨-, line, -⟩
        · have kept := filter_line h.toBooked (w := ⟨s.submissions.length, e, s.now + limit⟩) rfl
          simp only [line, kept, List.Sublist.refl]
        · rw [line]
          exact List.filter_sublist
      · refine ⟨fun _ ho' => ?_, fun _ _ hr' => ?_, fun _ _ _ e' he => ?_, fun _ e' he => tried he⟩
        · cases ho.symm.trans ho'
        · cases hr.symm.trans hr'
        · rw [only he]
          refine ⟨events, ?_⟩
          rcases place with ⟨-, line⟩ | ⟨-, -, refused⟩
          · exact .inl ⟨now, line⟩
          · exact .inr refused

/-- A submission that the step waits for has its answer afterwards. -/
theorem Orderly.submit_awaited (h : Orderly slots limit s) (hs : s.sending = true) (e : Event) :
    Orderly slots limit (step s (.submit e)).2 ∧
      Attended limit s (.submit e) (step s (.submit e)).2 ∧
      Received limit s (.submit e) (step s (.submit e)).1 (step s (.submit e)).2 := by
  have made := h.submit (a := .submit e) rfl (step s (.submit e)).1
  cases hf : (s.submit e).2.queue.waiting.find? (·.producer = (s.submit e).1) with
  | none =>
    have stepped : (step s (.submit e)).2 = (s.submit e).2 := by
      simp only [step, hs, if_true, hf]
    rw [stepped]
    exact made
  | some w =>
    have stepped : (step s (.submit e)).2 = (s.submit e).2.advanceTo w.deadline := by
      simp only [step, hs, if_true, hf]
    rw [stepped]
    obtain ⟨orderly, attended, received⟩ := made
    have hw := List.mem_of_find?_eq_some hf
    have last : w.producer = (s.submit e).1 := by simpa using List.find?_some hf
    rw [show (s.submit e).1 = s.submissions.length from rfl] at last
    have unanswered {ok : Bool} {t : Nat} : ¬ (s.submit e).2.Answered s.submissions.length ok t :=
      last ▸ not_answered_of_pending (orderly.made hw)
    -- it was not answered at once, so it waits
    have ho : s.queue.events.isOpen = true := by
      cases ho : s.queue.events.isOpen with
      | true => rfl
      | false => exact absurd (received.refused hs ho rfl).1 unanswered
    have hr : s.queue.events.hasRoom = false := by
      cases hr : s.queue.events.hasRoom with
      | false => rfl
      | true => exact absurd (received.entered hs ho hr rfl).1 unanswered
    obtain ⟨-, now, events, same, ⟨-, line⟩ | ⟨-, -, refused⟩⟩ := h.submit_full e ho hr rfl
    · have hd : w.deadline = s.now + limit := by
        rw [line, List.mem_append, List.mem_singleton] at hw
        rcases hw with hw | rfl
        · exact absurd (h.producer_lt hw) (by simp [last])
        · rfl
      have later : (s.submit e).2.now ≤ w.deadline := orderly.punctual w hw
      obtain ⟨orderly', now', away⟩ := orderly.advanceTo later
      obtain ⟨t₀, ht₀, -⟩ := orderly.waiters w hw
      refine ⟨orderly', .later h orderly.toBooked same events ?_ now' rfl away, ?_⟩
      · rw [line]
        exact filter_line h.toBooked rfl
      · refine ⟨fun _ ho' => ?_, fun _ _ hr' => ?_, fun _ _ _ e' he => ?_, fun _ _ he => by cases he⟩
        · cases ho.symm.trans ho'
        · cases hr.symm.trans hr'
        · refine ⟨away.events.trans events, .inr ⟨t₀, ?_⟩⟩
          rw [← hd, ← last]
          exact away.answered w hw (by simp) ht₀
    · exact absurd refused unanswered

/-- A step without a submission satisfies `Received` vacuously. -/
theorem Received.none {a : Step} (ha : a.submits? = none) (ht : ∀ e, a ≠ .trySubmit e) (r : Reply) :
    Received limit s a r s' := by
  have nothing {P : Prop} {e : Event} (he : a.submits? = some e) : P := by simp [ha] at he
  exact ⟨fun _ _ _ he => nothing he, fun _ _ _ _ he => nothing he, fun _ _ _ _ he => nothing he,
    fun _ e he => absurd he (ht e)⟩

/-- A step that changes neither queue nor record. -/
theorem Orderly.idle (h : Orderly slots limit s) (a : Step) (opens : a.shuts s.receiving = false)
    (hq : s'.queue = s.queue) (hb : s'.submissions = s.submissions) (hn : s'.now = s.now) :
    Orderly slots limit s' ∧ Attended limit s a s' := by
  obtain ⟨queue, now, submissions, labels, receiving, sending⟩ := s'
  obtain ⟨rfl, rfl, rfl⟩ : queue = s.queue ∧ submissions = s.submissions ∧ now = s.now := ⟨hq, hb, hn⟩
  have orderly : Orderly slots limit ⟨s.queue, s.now, s.submissions, labels, receiving, sending⟩ :=
    { h with }
  exact ⟨orderly, .still orderly opens rfl (fun _ => rfl) List.filter_sublist⟩

/-- Without a sender nothing is submitted. -/
theorem Orderly.unsent (h : Orderly slots limit s) {a : Step} (hs : s.sending = false)
    (opens : a.shuts s.receiving = false) (stepped : Submissions.step s a = (.trouble .noSender, s)) :
    Orderly slots limit (Submissions.step s a).2 ∧ Attended limit s a (Submissions.step s a).2 ∧
      Received limit s a (Submissions.step s a).1 (Submissions.step s a).2 := by
  rw [stepped]
  obtain ⟨orderly, attended⟩ := h.idle a opens rfl rfl rfl
  exact ⟨orderly, attended, by constructor <;> simp [hs]⟩

/-- Step that submits without waiting. -/
theorem Orderly.trySubmit (h : Orderly slots limit s) (hs : s.sending = true) (e : Event) :
    Orderly slots limit (step s (.trySubmit e)).2 ∧
      Attended limit s (.trySubmit e) (step s (.trySubmit e)).2 ∧
      Received limit s (.trySubmit e) (step s (.trySubmit e)).1 (step s (.trySubmit e)).2 := by
  have stepped : step s (.trySubmit e) =
      (.flag (s.queue.trySubmit e).1, { s with queue := (s.queue.trySubmit e).2 }) := by
    simp only [step, hs, if_true]
  have silent {P : Prop} {e' : Event} (he : Step.submits? (.trySubmit e) = some e') : P := by
    cases he
  rw [stepped]
  unfold Queue.trySubmit
  cases hsend : s.queue.events.trySend e with
  | ok c =>
    obtain ⟨ho, hr, -⟩ := Channel.trySend_eq_ok_iff.1 hsend
    have nobody := h.toBooked.waiting_eq_nil ho hr
    have room : (s.queue.accept e).events.items.length ≤ slots := by
      rw [Queue.accept, Channel.items_push, List.length_append]
      exact (hasRoom_iff h.toBooked).1 hr
    have orderly : Orderly slots limit { s with queue := s.queue.accept e } :=
      ⟨h.toBooked.events rfl h.capacity h.overflow id room fun _ => nobody, h.settled⟩
    refine ⟨orderly, .still orderly rfl rfl (fun _ => rfl) List.filter_sublist, ?_⟩
    refine ⟨fun _ _ _ => silent, fun _ _ _ _ => silent, fun _ _ _ _ => silent, fun _ e' he => ?_⟩
    cases he
    exact ⟨rfl, rfl, .inl ⟨rfl, ho, hr, rfl, h.not_pending nobody⟩⟩
  | error d =>
    have orderly : Orderly slots limit { s with queue := s.queue.drop } := { h with }
    refine ⟨orderly, .still orderly rfl rfl (fun _ => rfl) List.filter_sublist, ?_⟩
    refine ⟨fun _ _ _ => silent, fun _ _ _ _ => silent, fun _ _ _ _ => silent, fun _ e' he => ?_⟩
    have why : s.queue.events.isOpen = false ∨ s.queue.events.hasRoom = false := by
      cases d with
      | full => exact .inr (Channel.trySend_eq_full_iff.1 hsend).2
      | closed => exact .inl (Channel.trySend_eq_closed_iff.1 hsend)
    exact ⟨rfl, rfl, .inr ⟨rfl, why, rfl⟩⟩

/-- Step that receives the oldest event; the slot goes to the first waiting submission. -/
theorem Orderly.receive (h : Orderly slots limit s) :
    Orderly slots limit (step s .receive).2 ∧ Attended limit s .receive (step s .receive).2 := by
  cases hs : s.receiving with
  | false =>
    have stepped : (step s .receive).2 = s := by simp [step, hs]
    rw [stepped]
    exact h.idle _ rfl rfl rfl rfl
  | true =>
    cases ht : s.queue.take? with
    | none =>
      have stepped : (step s .receive).2 = s := by simp only [step, hs, if_true, ht]
      rw [stepped]
      exact h.idle _ rfl rfl rfl rfl
    | some taken =>
      obtain ⟨e, promoted, q⟩ := taken
      cases promoted with
      | none =>
        have stepped : (step s .receive).2 = { s with queue := q } := by
          simp only [step, hs, if_true, ht]
        obtain ⟨c, hc, rfl⟩ := Queue.take?_eq_some ht
        obtain ⟨hi, hcap, ho⟩ := Channel.take?_eq_some_iff.1 hc
        have room : c.items.length ≤ slots := by
          have room := h.room
          rw [hi, List.length_cons] at room
          exact Nat.le_of_succ_le room
        have nobody : s.queue.waiting = [] := by
          refine List.eq_nil_iff_forall_not_mem.2 fun w hw => ?_
          obtain ⟨before, after, cut⟩ := List.append_of_mem hw
          have isOpen : c.isOpen = true := ho.trans (h.settled w hw).1
          cases before <;> simp [Queue.take?, hc, cut, isOpen] at ht
        rw [stepped]
        have orderly : Orderly slots limit { s with queue := { s.queue with events := c } } :=
          ⟨h.toBooked.events rfl (hcap.trans h.capacity) h.overflow (fun isOpen => ho ▸ isOpen) room
            fun _ => nobody, fun w hw => by simp [show s.queue.waiting = [] from nobody] at hw⟩
        exact ⟨orderly, .still orderly rfl ho (fun _ => rfl) List.filter_sublist⟩
      | some w =>
        have stepped : (step s .receive).2 = State.answer { s with queue := q } w.producer true := by
          simp only [step, hs, if_true, ht]
        obtain ⟨c, rest, hc, hw, ho, hq⟩ := Queue.take?_eq_some_waiter ht
        obtain ⟨hi, hcap, hopen⟩ := Channel.take?_eq_some_iff.1 hc
        have waiting : q.waiting = rest := hq ▸ rfl
        have events : q.events = c.push w.event := hq ▸ rfl
        have first : s.queue.waiting = [] ++ w :: rest := hw
        rw [stepped]
        refine ⟨⟨h.toBooked.answer first waiting ?_ (hq ▸ h.overflow) ?_ ?_ (by simp), ?_⟩,
          .promoted h hw hc hq⟩
        · rw [events]
          exact hcap.trans h.capacity
        · rw [events]
          exact hopen
        · rw [events, hi]
          simp
        · intro v hv
          have hv : v ∈ q.waiting := hv
          refine ⟨?_, (h.settled v ?_).2⟩
          · show q.events.isOpen = true
            rw [events]
            exact ho
          · rw [hw]
            exact List.mem_cons_of_mem _ (waiting ▸ hv)

/-- Step lemma: `Orderly` is preserved, with `Attended` and `Received`. -/
theorem Orderly.step (h : Orderly slots limit s) (a : Step) :
    Orderly slots limit (step s a).2 ∧ Attended limit s a (step s a).2 ∧
      Received limit s a (step s a).1 (step s a).2 := by
  cases a with
  | trySubmit e =>
    cases hs : s.sending with
    | true => exact h.trySubmit hs e
    | false =>
      exact h.unsent hs rfl (by simp [Submissions.step, hs])
  | submit e =>
    cases hs : s.sending with
    | true => exact h.submit_awaited hs e
    | false =>
      exact h.unsent hs rfl (by simp [Submissions.step, hs])
  | submitInBackground label e =>
    cases hs : s.sending with
    | true =>
      have stepped : (Submissions.step s (.submitInBackground label e)).2 =
          { (s.submit e).2 with labels := (s.submit e).2.labels.insert label (s.submit e).1 } := by
        simp only [Submissions.step, hs, if_true]
      obtain ⟨orderly, attended, received⟩ := h.submit (a := .submitInBackground label e) rfl
        (Submissions.step s (.submitInBackground label e)).1
      rw [stepped]
      exact ⟨{ orderly with }, { attended with }, { received with }⟩
    | false =>
      exact h.unsent hs rfl (by simp [Submissions.step, hs])
  | receive =>
    exact ⟨h.receive.1, h.receive.2, .none rfl (by simp) _⟩
  | closeReceiver =>
    cases hr : s.receiving with
    | true =>
      have stepped : (Submissions.step s .closeReceiver).2 =
          State.settle { s with queue := s.queue.close, receiving := s.receiving } := by
        simp only [Submissions.step, hr, if_true]
      obtain ⟨orderly, attended⟩ := h.shut (a := .closeReceiver) hr (q := s.queue.close)
        s.receiving rfl h.capacity h.overflow rfl h.room
      rw [stepped]
      exact ⟨orderly, attended, .none rfl (by simp) _⟩
    | false =>
      have stepped : (Submissions.step s .closeReceiver).2 = s := by
        simp [Submissions.step, hr]
      rw [stepped]
      obtain ⟨orderly, attended⟩ := h.idle .closeReceiver hr rfl rfl rfl
      exact ⟨orderly, attended, .none rfl (by simp) _⟩
  | dropReceiver =>
    obtain ⟨orderly, attended⟩ := h.shut (a := .dropReceiver) rfl (q := s.queue.hangUp) false rfl
      h.capacity h.overflow rfl (Nat.zero_le _)
    exact ⟨orderly, attended, .none rfl (by simp) _⟩
  | advance d =>
    obtain ⟨orderly, now, away⟩ := h.advanceTo (t := s.now + d.nanos) (Nat.le_add_right ..)
    refine ⟨orderly, .later h h.toBooked (fun _ => rfl) rfl ?_ now rfl away, .none rfl (by simp) _⟩
    exact List.filter_eq_self.2 fun w hw => by simpa using h.producer_lt hw
  | result label =>
    have stepped : (Submissions.step s (.result label)).2 = s := by
      unfold Submissions.step
      dsimp only
      split <;> rfl
    rw [stepped]
    obtain ⟨orderly, attended⟩ := h.idle (.result label) rfl rfl rfl rfl
    exact ⟨orderly, attended, .none rfl (by simp) _⟩
  | dropSender =>
    have idle : Orderly slots limit { s with sending := false } ∧
        Attended limit s .dropSender { s with sending := false } := h.idle _ rfl rfl rfl rfl
    exact ⟨idle.1, idle.2, .none rfl (by simp) _⟩
  | counts =>
    obtain ⟨orderly, attended⟩ := h.idle .counts rfl rfl rfl rfl
    exact ⟨orderly, attended, .none rfl (by simp) _⟩

/-- Run lemma for `Orderly`. -/
theorem Orderly.after (h : Orderly slots limit s) (as : List Step) :
    Orderly slots limit (s.after as) := by
  induction as generalizing s with
  | nil => exact h
  | cons a as ih => exact ih (h.step a).1

end

end Presence.Script.Submissions
