import Presence.Proofs.Script.Tracing

/-!
Tick times of a poller. The first tick is taken at the start; every other when it is due or, if
later, when the channel has taken the snapshot before it. It is due one interval after the due time
of the tick before, or after that tick was taken if it was more than `tolerance` late. A frame is
the snapshot of its tick, whenever the channel takes it. `Paced` is this property of a record,
`Going` the invariant that relates the record to the poller.
-/

namespace Presence.Script.Polling

namespace Tick

/-- The online members at a tick. -/
def snapshot (t : Tick) (party : Party) : Snapshot :=
  partySnapshot t.status t.relations party t.moment

/-- The due time of the tick after a tick. -/
def next (t : Tick) (interval : Nat) : Nat :=
  if t.moment ≤ t.due + 5000000 then t.due + interval else t.moment + interval

end Tick

namespace Record

variable {r : Record}

/-- The due time of the next tick. -/
def nextDue (r : Record) (start interval : Nat) : Nat :=
  (r.ticks.getLast?.map fun t => t.next interval).getD start

/-- The moment at which the channel took the last frame. -/
def lastTaken (r : Record) (start : Nat) : Nat := (r.frames.getLast?.map Prod.fst).getD start

end Record

/-- The recurrence of ticks and frames on a record. -/
structure Paced (party : Party) (start interval : Nat) (r : Record) : Prop where
  /-- At most one snapshot is not delivered. -/
  held : r.frames.length ≤ r.ticks.length ∧ r.ticks.length ≤ r.frames.length + 1
  /-- A frame is the snapshot of its tick. -/
  frame : ∀ {k : Nat} {a : Nat} {m : Message}, r.frames[k]? = some (a, m) →
    ∃ t : Tick, r.ticks[k]? = some t ∧ t.moment ≤ a ∧ m = .snapshot (t.snapshot party)
  first : ∀ {t : Tick}, r.ticks[0]? = some t → t.due = start ∧ t.moment = start
  next : ∀ {k : Nat} {t : Tick}, r.ticks[k + 1]? = some t →
    ∃ (u : Tick) (a : Nat) (m : Message), r.ticks[k]? = some u ∧ r.frames[k]? = some (a, m) ∧
      t.due = u.next interval ∧ t.moment = Nat.max t.due a

/-- The state of a poller by its record. -/
def Stands (s₀ s : State) (r : Record) : PollerPhase → Prop
  | .waiting due =>
    r.ticks.length = r.frames.length ∧ due = r.nextDue s₀.now s₀.interval.nanos ∧
      r.lastTaken s₀.now ≤ s.now ∧ (s.now ≤ due ∨ s.now = r.lastTaken s₀.now)
  | .sending held next =>
    ∃ t : Tick, r.ticks[r.frames.length]? = some t ∧ r.ticks.length = r.frames.length + 1 ∧
      held = t.snapshot s₀.party ∧ next = t.next s₀.interval.nanos ∧ t.moment ≤ s.now
  | .finished => s.cancelled = true ∨ s.channel.isOpen = false

/-- Invariant of a poller started in `s₀` and its record. -/
structure Going (s₀ s : State) (r : Record) : Prop where
  paced : Paced s₀.party s₀.now s₀.interval.nanos r
  sent : s.sent = s₀.sent + r.frames.length
  order : s.channel.items <:+ s₀.channel.items ++ r.frames.map Prod.snd
  poller : ∃ phase, s.poller = some ⟨s₀.party, s₀.interval.nanos, phase⟩ ∧ Stands s₀ s r phase

section
variable {s₀ s s' : State} {r r' : Record}

theorem getElem?_concat_cases {α : Type} {l : List α} {a b : α} {k : Nat}
    (h : (l ++ [a])[k]? = some b) : l[k]? = some b ∨ k = l.length ∧ b = a := by
  rw [List.getElem?_append] at h
  split at h
  · exact .inl h
  · rename_i hk
    have hk : k = l.length := by
      have := (List.getElem?_eq_some_iff.1 h).1
      simp only [List.length_singleton] at this
      omega
    subst hk
    simp at h
    exact .inr ⟨rfl, h.symm⟩

theorem getElem?_append_of_some {α : Type} {l : List α} {b : α} {k : Nat} (h : l[k]? = some b)
    (l' : List α) : (l ++ l')[k]? = some b := by
  rw [List.getElem?_append_left (List.getElem?_eq_some_iff.1 h).1, h]

/-- Step that takes the tick that is due. -/
theorem Paced.ticks {party : Party} {start interval : Nat} {t : Tick}
    (h : Paced party start interval r) (none : r.ticks.length = r.frames.length)
    (due : t.due = r.nextDue start interval)
    (moment : t.moment = Nat.max t.due (r.lastTaken start)) :
    Paced party start interval ⟨r.ticks ++ [t], r.frames⟩ := by
  constructor
  case held =>
    simp only [List.length_append, List.length_singleton]
    omega
  case frame =>
    intro k a m hk
    obtain ⟨u, hu, hle, hm⟩ := h.frame hk
    exact ⟨u, getElem?_append_of_some hu _, hle, hm⟩
  case first =>
    intro u hu
    rcases getElem?_concat_cases hu with hu | ⟨hn, rfl⟩
    · exact h.first hu
    · have noTicks : r.ticks = [] := List.length_eq_zero_iff.1 hn.symm
      have noFrames : r.frames = [] := List.length_eq_zero_iff.1 (none ▸ hn.symm)
      have due : u.due = start := by simpa [Record.nextDue, noTicks] using due
      have moment : u.moment = Nat.max u.due start := by
        simpa [Record.lastTaken, noFrames] using moment
      refine ⟨due, ?_⟩
      rw [moment, due]
      exact Nat.max_self start
  case next =>
    intro k u hu
    rcases getElem?_concat_cases hu with hu | ⟨hn, rfl⟩
    · obtain ⟨v, a, m, hv, ha, hd, hm⟩ := h.next hu
      exact ⟨v, a, m, getElem?_append_of_some hv _, ha, hd, hm⟩
    · have last : r.ticks.getLast? = r.ticks[k]? := by rw [List.getLast?_eq_getElem?, ← hn]; rfl
      -- as many frames as ticks: the frame of tick `k` has been sent
      have lastFrame : r.frames.getLast? = r.frames[k]? := by
        rw [List.getLast?_eq_getElem?, ← none, ← hn]; rfl
      have hk : k < r.ticks.length := by omega
      have hk' : k < r.frames.length := none ▸ hk
      rw [Record.nextDue, last, List.getElem?_eq_getElem hk] at due
      rw [Record.lastTaken, lastFrame, List.getElem?_eq_getElem hk'] at moment
      exact ⟨_, _, _, getElem?_append_of_some (List.getElem?_eq_getElem hk) _,
        List.getElem?_eq_getElem hk', due, moment⟩

/-- Step that delivers a frame. -/
theorem Paced.sends {party : Party} {start interval : Nat} {t : Tick} {a : Nat}
    (h : Paced party start interval r) (one : r.ticks.length = r.frames.length + 1)
    (tick : r.ticks[r.frames.length]? = some t) (later : t.moment ≤ a) :
    Paced party start interval ⟨r.ticks, r.frames ++ [(a, .snapshot (t.snapshot party))]⟩ := by
  constructor
  case held =>
    simp only [List.length_append, List.length_singleton]
    omega
  case frame =>
    intro k b m hk
    rcases getElem?_concat_cases hk with hk | ⟨rfl, he⟩
    · exact h.frame hk
    · cases he
      exact ⟨t, tick, later, rfl⟩
  case first => exact h.first
  case next =>
    intro k u hu
    obtain ⟨v, b, m, hv, hb, hd, hm⟩ := h.next hu
    exact ⟨v, b, m, hv, getElem?_append_of_some hb _, hd, hm⟩

/-! ### The invariant -/

theorem Going.move (hi : 0 < s₀.interval.nanos) (h : Going s₀ s r) (hm : Moves s r s' r') :
    Going s₀ s' r' := by
  obtain ⟨phase, hp, stands⟩ := h.poller
  cases hm with
  | finishes p hq hf hc =>
    cases hp.symm.trans hq
    exact ⟨h.paced, h.sent, h.order, _, rfl, .inl (hc.resolve_right (Nat.ne_of_gt hi))⟩
  | deserted p held next hq hd hc hi ho =>
    cases hp.symm.trans hq
    exact ⟨h.paced, h.sent, h.order, _, rfl, .inr ho⟩
  | ticks p due hq hd hc hi hle =>
    cases hp.symm.trans hq
    cases hd
    obtain ⟨none, rfl, taken, ontime⟩ := stands
    have moment : s.now = Nat.max (r.nextDue s₀.now s₀.interval.nanos) (r.lastTaken s₀.now) := by
      rcases ontime with early | blocked
      · have now := Nat.le_antisymm early hle
        rw [← now]
        exact (Nat.max_eq_left taken).symm
      · rw [← blocked]
        exact (Nat.max_eq_right hle).symm
    refine ⟨h.paced.ticks none rfl moment, h.sent, h.order, _, rfl, ?_⟩
    refine ⟨⟨_, s.now, s.status, s.relations⟩, ?_, ?_, rfl, rfl, Nat.le_refl _⟩
    · rw [← none]
      exact List.getElem?_concat_length
    · rw [← none]
      exact List.length_append
  | sends p held next hq hd hc hi ho hr =>
    cases hp.symm.trans hq
    cases hd
    obtain ⟨t, tick, one, rfl, rfl, later⟩ := stands
    have last : r.ticks.getLast? = some t := by
      rw [List.getLast?_eq_getElem?, one]
      exact tick
    refine ⟨h.paced.sends one tick later, ?_, ?_, _, rfl, ?_⟩
    · rw [List.length_append, ← Nat.add_assoc, ← h.sent]
      rfl
    · obtain ⟨older, cut⟩ := h.order
      refine ⟨older, ?_⟩
      rw [Channel.items_push, ← List.append_assoc, cut, List.map_append, List.append_assoc]
      rfl
    · refine ⟨?_, ?_, ?_, ?_⟩
      · rw [List.length_append]
        exact one
      · rw [Record.nextDue, last]
        rfl
      · simp [Record.lastTaken]
      · simp [Record.lastTaken]

theorem Going.time {t : Nat} (h : Going s₀ s r) (hn : s.now ≤ t)
    (hd : ∀ due, s.poller.bind Poller.due? = some due → t ≤ due) :
    Going s₀ { s with now := t } r := by
  obtain ⟨phase, hp, stands⟩ := h.poller
  refine ⟨h.paced, h.sent, h.order, phase, hp, ?_⟩
  cases phase with
  | waiting due =>
    obtain ⟨none, next, taken, -⟩ := stands
    refine ⟨none, next, Nat.le_trans taken hn, .inl (hd due ?_)⟩
    rw [hp]
    rfl
  | sending held next =>
    obtain ⟨u, tick, one, what, due, later⟩ := stands
    exact ⟨u, tick, one, what, due, Nat.le_trans later hn⟩
  | finished => exact stands

theorem Going.around (h : Going s₀ s r) (ha : Around s s') : Going s₀ s' r := by
  obtain ⟨phase, poller, stands⟩ := h.poller
  have same : s'.poller = s.poller := ha.poller (poller ▸ rfl)
  refine ⟨h.paced, ha.sent.trans h.sent, ha.items.trans h.order, phase, same.trans poller, ?_⟩
  unfold Stands at stands ⊢
  rw [ha.now]
  cases phase with
  | finished => exact stands.imp ha.cancelled ha.shut
  | _ => exact stands

/-- Every kind of step preserves `Going`. -/
theorem kept_going (hi : 0 < s₀.interval.nanos) : Kept (Going s₀) where
  move h hm := h.move hi hm
  time h _ hn hd := h.time hn hd
  around h ha := h.around ha

/-! ### Finished pollers -/

/-- The poller has finished or was cancelled. -/
def Over (s : State) : Prop :=
  s.cancelled = true ∨ ∃ p, s.poller = some p ∧ p.isFinished = true

theorem Over.move (h : Over s) (hm : Moves s r s' r') : Over s' ∧ r' = r := by
  have going {p : Poller} (hq : s.poller = some p) (hc : s.cancelled = false)
      (hf : p.isFinished = false) : False := by
    rcases h with cancelled | ⟨q, hp, finished⟩
    · simp [hc] at cancelled
    · cases hp.symm.trans hq
      simp [hf] at finished
  cases hm with
  | finishes p hq => exact ⟨.inr ⟨p.finish, rfl, rfl⟩, rfl⟩
  | ticks p due hq hd hc => exact (going hq hc (by simp [Poller.isFinished, hd])).elim
  | sends p held next hq hd hc => exact (going hq hc (by simp [Poller.isFinished, hd])).elim
  | deserted p held next hq => exact ⟨.inr ⟨p.finish, rfl, rfl⟩, rfl⟩

theorem Over.around (h : Over s) (ha : Around s s') : Over s' := by
  rcases h with cancelled | ⟨p, hp, finished⟩
  · exact .inl (ha.cancelled cancelled)
  · exact .inr ⟨p, (ha.poller (hp ▸ rfl)).trans hp, finished⟩

/-- After `Over` nothing is added to the record. -/
theorem kept_over (r₀ : Record) : Kept fun s r => Over s ∧ r = r₀ where
  move h hm := ⟨(h.1.move hm).1, (h.1.move hm).2.trans h.2⟩
  time h _ _ _ := h
  around h ha := ⟨h.1.around ha, h.2⟩

/-- The observable state of a settled poller started in `s₀`. -/
structure Seen (s₀ s : State) (r : Record) (phase : PollerPhase) : Prop where
  poller : s.poller = some ⟨s₀.party, s₀.interval.nanos, phase⟩
  paced : Paced s₀.party s₀.now s₀.interval.nanos r
  sent : s.sent = s₀.sent + r.frames.length
  /-- The items of the channel are the frames taken last. -/
  order : s.channel.items <:+ s₀.channel.items ++ r.frames.map Prod.snd
  finished : phase = .finished → s.cancelled = true ∨ s.channel.isOpen = false
  /-- A poller that is not over waits for its next tick, or for room in the channel. -/
  running : phase ≠ .finished → s.cancelled = false ∧ ∃ t : Tick, r.ticks.getLast? = some t ∧
    (r.ticks.length = r.frames.length ∧ s.now < t.next s₀.interval.nanos ∨
      r.ticks.length = r.frames.length + 1 ∧ s.channel.isOpen = true ∧ s.channel.hasRoom = false)

theorem Going.seen (hi : 0 < s₀.interval.nanos) (h : Going s₀ s r) (rests : s.move? = none) :
    ∃ phase, Seen s₀ s r phase := by
  obtain ⟨phase, poller, stands⟩ := h.poller
  refine ⟨phase, poller, h.paced, h.sent, h.order, fun finished => ?_, fun running => ?_⟩
  · subst finished
    exact stands
  · have unfinished : Poller.isFinished ⟨s₀.party, s₀.interval.nanos, phase⟩ = false := by
      cases phase with
      | finished => exact absurd rfl running
      | _ => rfl
    have going : s.cancelled = false := by
      cases hc : s.cancelled with
      | false => rfl
      | true => simp [State.move?, poller, unfinished, hc] at rests
    refine ⟨going, ?_⟩
    cases phase with
    | finished => exact absurd rfl running
    | waiting due =>
      obtain ⟨none, next, taken, -⟩ := stands
      have early : s.now < due := lt_due_of_move? rests (poller ▸ rfl)
      rw [next] at early
      cases last : r.ticks.getLast? with
      | none =>
        -- the first tick would have been due at the start
        have noTicks : r.ticks = [] := List.getLast?_eq_none_iff.1 last
        have noFrames : r.frames = [] :=
          List.length_eq_zero_iff.1 (none ▸ List.length_eq_zero_iff.2 noTicks)
        rw [Record.lastTaken, noFrames] at taken
        rw [Record.nextDue, noTicks] at early
        exact absurd early (Nat.not_lt_of_le taken)
      | some t =>
        rw [Record.nextDue, last] at early
        exact ⟨t, rfl, .inl ⟨none, early⟩⟩
    | sending held next =>
      obtain ⟨t, tick, one, -⟩ := stands
      refine ⟨t, ?_, .inr ⟨one, ?_⟩⟩
      · rw [List.getLast?_eq_getElem?, one]
        exact tick
      · have blocked : s.channel.trySend (.snapshot held) = .error .full := by
          cases hs : s.channel.trySend (.snapshot held) with
          | ok c => simp [State.move?, poller, unfinished, going, Nat.ne_of_gt hi, Poller.tick?,
              Poller.emit, hs] at rests
          | error why =>
            cases why with
            | full => rfl
            | closed => simp [State.move?, poller, unfinished, going, Nat.ne_of_gt hi, Poller.tick?,
                Poller.emit, hs] at rests
        exact Channel.trySend_eq_full_iff.1 blocked

/-- A settled poller that is over has finished. -/
theorem Over.finished (h : Over s) {p : Poller} (hp : s.poller = some p)
    (rests : s.move? = none) : p.isFinished = true := by
  cases hf : p.isFinished with
  | true => rfl
  | false =>
    rcases h with cancelled | ⟨q, hq, finished⟩
    · simp [State.move?, hp, hf, cancelled] at rests
    · cases hp.symm.trans hq
      exact hf.symm.trans finished

/-- A poller that is over finishes in any further run and adds nothing to the record. -/
theorem Over.ends (hi : 0 < s₀.interval.nanos) (h : Over s) (going : Going s₀ s r)
    (rests : s.move? = none) (bs : List Step) :
    ∃ s', bs.foldl following (s, r) = (s', r) ∧ Seen s₀ s' r .finished := by
  obtain ⟨⟨ended, same⟩, rests'⟩ := (kept_over r).run (x := (s, r)) ⟨h, rfl⟩ rests bs
  obtain ⟨going', -⟩ := (kept_going hi).run (x := (s, r)) going rests bs
  generalize bs.foldl following (s, r) = x at ended same rests' going'
  obtain ⟨s', r'⟩ := x
  cases same
  obtain ⟨phase, seen⟩ := going'.seen hi rests'
  have finished := ended.finished seen.poller rests'
  cases phase with
  | finished => exact ⟨s', rfl, seen⟩
  | _ => cases finished

end

end Presence.Script.Polling
