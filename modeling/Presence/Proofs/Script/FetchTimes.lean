import Presence.Proofs.Clock
import Presence.Proofs.Relationships
import Presence.Config
import Presence.Script.Refreshing

/-!
Fetch times of a refresh loop without interference. The answers of the source are fixed in advance,
so they determine the sleep after each fetch and thereby the moments of all fetches (`fetchTime`).
Invariant `Kept`: the state of the loop after a number of fetches; `OnTime`: exactly the fetches
whose moments have come were made. If the retry delay is at most the interval, fetches are at most
one interval apart, which bounds the age of the lists while the source answers.
-/

namespace Presence.Script.Refreshing

variable {kind : RefreshKind}

/-- Steps that do not interfere with the loop. -/
def Step.isPassive : Step → Bool
  | .once => false
  | .cancel => false
  | _ => true

/-- The time that a step lets pass. -/
def Step.duration : Step → Nat
  | .advance d => d.nanos
  | _ => 0

/-- The time that a list of steps lets pass. -/
def elapsed : List Step → Nat
  | [] => 0
  | a :: as => a.duration + elapsed as

namespace State

/-- The state after a list of steps. -/
def after (s : State kind) (as : List Step) : State kind := as.foldl (fun s a => (step s a).2) s

/-- The answers of the source to the coming fetches, numbered from zero. -/
def answerTo (s : State kind) (n : Nat) : Answer (Graph kind) :=
  { s with fetches := s.fetches + n }.nextAnswer

/-- The sleep of the loop after a fetch. -/
def pauseAfter (s : State kind) (n : Nat) : Nat :=
  if (s.answerTo n).isOk then s.interval.nanos else s.retryDelay.nanos

/-- The moments of the coming fetches of a loop that starts now. -/
def fetchTime (s : State kind) : Nat → Nat
  | 0 => s.now
  | n + 1 => s.fetchTime n + s.pauseAfter n

/-- The number of successes among the first fetches. -/
def successes (s : State kind) (n : Nat) : Nat :=
  (List.range n).countP fun k => (s.answerTo k).isOk

/-- The answer of the last success among the first fetches. -/
def lastGraph? (s : State kind) : Nat → Option (Graph kind)
  | 0 => none
  | n + 1 =>
    match s.answerTo n with
    | .ok g => some g
    | .error _ => s.lastGraph? n

end State

section
variable {s₀ s : State kind} {n m t : Nat}

theorem successes_le (s : State kind) (n : Nat) : s.successes n ≤ n :=
  Nat.le_trans List.countP_le_length (Nat.le_of_eq List.length_range)

theorem successes_succ (s : State kind) (n : Nat) :
    s.successes (n + 1) = s.successes n + if (s.answerTo n).isOk then 1 else 0 := by
  unfold State.successes
  rw [List.range_succ, List.countP_append, List.countP_singleton]

/-- Fetch times are strictly increasing. -/
theorem fetchTime_lt_succ (hi : 0 < s.interval.nanos) (hr : 0 < s.retryDelay.nanos) (n : Nat) :
    s.fetchTime n < s.fetchTime (n + 1) := by
  refine Nat.lt_add_of_pos_right ?_
  unfold State.pauseAfter
  split
  · exact hi
  · exact hr

theorem fetchTime_le (hi : 0 < s.interval.nanos) (hr : 0 < s.retryDelay.nanos) (h : n ≤ m) :
    s.fetchTime n ≤ s.fetchTime m := by
  induction h with
  | refl => exact Nat.le_refl _
  | step _ ih => exact Nat.le_trans ih (Nat.le_of_lt (fetchTime_lt_succ hi hr _))

/-! ### The state of the loop -/

/-- The loop started in `s₀` has made `n` fetches and sleeps until the next. -/
structure Kept (s₀ s : State kind) (n : Nat) : Prop where
  answers : s.answers = s₀.answers
  cancelled : s.cancelled = false
  fetches : s.fetches = s₀.fetches + n
  loop : s.loop = some ⟨s₀.interval.nanos, s₀.retryDelay.nanos, .sleeping (s₀.fetchTime n),
    s₀.successes n, n - s₀.successes n⟩
  own : s.relations.lists kind =
    (s₀.lastGraph? n).elim (s₀.relations.lists kind) (·.mapValues Name.sortedSet)
  other : ∀ {k}, k ≠ kind → s.relations.lists k = s₀.relations.lists k

theorem Kept.nextAnswer (h : Kept s₀ s n) : s.nextAnswer = s₀.answerTo n := by
  unfold State.answerTo State.nextAnswer
  rw [h.answers, h.fetches]

/-- Time advances up to the next fetch. -/
theorem Kept.later (h : Kept s₀ s n) (t : Nat) : Kept s₀ { s with now := t } n :=
  ⟨h.answers, h.cancelled, h.fetches, h.loop, h.own, h.other⟩

/-- Before the next fetch no step is enabled. -/
theorem Kept.move?_eq_none (h : Kept s₀ s n) (early : s.now < s₀.fetchTime n) :
    s.move? = none := by
  unfold State.move?
  rw [h.loop]
  simp [RefreshLoop.isStopped, h.cancelled, RefreshLoop.wake?, Nat.not_le_of_lt early,
    RefreshLoop.answer?]

theorem isOk_absorb (r : Relationships) (a : Answer (Graph kind)) :
    (r.absorb kind a).1.isOk = a.isOk := by
  cases a <;> rfl

theorem settle_of_moves {s₁ s₂ : State kind} (h : s.move? = some s₁) (h₁ : s₁.move? = some s₂)
    (fuel : Nat) : s.settle (fuel + 2) = s₂.settle fuel := by
  simp only [State.settle, h, h₁]

theorem settle_eq_self (h : s.move? = none) (fuel : Nat) : s.settle fuel = s := by
  cases fuel with
  | zero => rfl
  | succ fuel => simp only [State.settle, h]

/-- Step that makes the fetch that is due, counts it and absorbs its answer. -/
theorem Kept.fetch (h : Kept s₀ s n) (due : s₀.fetchTime n = s.now) (fuel : Nat) :
    ∃ s', s.settle (fuel + 2) = s'.settle fuel ∧ s'.now = s.now ∧ Kept s₀ s' (n + 1) := by
  let l : RefreshLoop := ⟨s₀.interval.nanos, s₀.retryDelay.nanos, .fetching, s₀.successes n,
    n - s₀.successes n⟩
  have woken : s.move? = some { s with loop := some l } := by
    unfold State.move?
    rw [h.loop]
    simp [RefreshLoop.isStopped, h.cancelled, RefreshLoop.wake?, due, l]
  have answered : { s with loop := some l }.move? = some { s with
      loop := some (l.settle (s₀.answerTo n).isOk s.now)
      relations := (s.relations.absorb kind (s₀.answerTo n)).2
      fetches := s.fetches + 1 } := by
    unfold State.move?
    rw [show State.nextAnswer { s with loop := some l } = _ from h.nextAnswer]
    simp [RefreshLoop.isStopped, h.cancelled, RefreshLoop.wake?, RefreshLoop.answer?, isOk_absorb, l]
  refine ⟨_, settle_of_moves woken answered fuel, rfl, ?_⟩
  constructor
  case answers => exact h.answers
  case cancelled => exact h.cancelled
  case fetches => exact congrArg (· + 1) h.fetches
  case loop =>
    have few := successes_le s₀ n
    rw [successes_succ, State.fetchTime, State.pauseAfter, due]
    cases (s₀.answerTo n).isOk with
    | true => simp [RefreshLoop.settle, l]
    | false => simp [RefreshLoop.settle, l, Nat.succ_sub few]
  case own =>
    unfold State.lastGraph?
    cases s₀.answerTo n with
    | ok g => exact Relationships.lists_refresh
    | error f => exact h.own
  case other =>
    intro k hk
    refine Eq.trans ?_ (h.other hk)
    cases s₀.answerTo n with
    | ok g => exact Relationships.lists_refresh_other hk
    | error f => rfl

/-! ### Time -/

/-- The loop has made exactly the fetches whose moments have come. -/
structure OnTime (s₀ s : State kind) (n : Nat) : Prop extends Kept s₀ s n where
  made : ∀ {k}, k < n → s₀.fetchTime k ≤ s.now
  early : s.now < s₀.fetchTime n

section
variable (hi : 0 < s₀.interval.nanos) (hr : 0 < s₀.retryDelay.nanos)
include hi hr

/-- At the moment of a fetch, settling makes it. -/
theorem Kept.settle (h : Kept s₀ s n) (due : s₀.fetchTime n = s.now) :
    OnTime s₀ (s.settle s.bound) (n + 1) ∧ (s.settle s.bound).now = s.now := by
  obtain ⟨s', settled, now, kept⟩ := h.fetch due (2 * s.answers.length + 2)
  have early : s'.now < s₀.fetchTime (n + 1) := by
    rw [now, ← due]
    exact fetchTime_lt_succ hi hr n
  rw [settle_eq_self (kept.move?_eq_none early)] at settled
  rw [show s.settle s.bound = s' from settled]
  refine ⟨⟨kept, fun {k} hk => ?_, early⟩, now⟩
  rw [now, ← due]
  exact fetchTime_le hi hr (Nat.le_of_lt_succ hk)

/-- Time advances at most to the next fetch. -/
theorem OnTime.arrive (h : OnTime s₀ s n) (hn : s.now ≤ t) (ht : t ≤ s₀.fetchTime n) :
    ∃ s', State.settle s.bound { s with now := max t s.now } = s' ∧ s'.now = t ∧
      OnTime s₀ s' (if t = s₀.fetchTime n then n + 1 else n) := by
  rw [Nat.max_eq_left hn]
  by_cases due : t = s₀.fetchTime n
  · obtain ⟨onTime, now⟩ := (h.later t).settle hi hr due.symm
    exact ⟨_, rfl, now, (if_pos due).symm ▸ onTime⟩
  · have early : t < s₀.fetchTime n := Nat.lt_of_le_of_ne ht due
    have kept := h.later t
    rw [settle_eq_self (kept.move?_eq_none early), if_neg due]
    exact ⟨_, rfl, rfl, kept, fun hk => Nat.le_trans (h.made hk) hn, early⟩

/-- As time advances every fetch is made at its moment. -/
theorem OnTime.advanceTo (h : OnTime s₀ s n) (hn : s.now ≤ t) :
    (s.advanceTo t).now = t ∧ ∃ n', OnTime s₀ (s.advanceTo t) n' := by
  have due {x : State kind} {k : Nat} (hx : OnTime s₀ x k) :
      x.loop.bind RefreshLoop.due? = some (s₀.fetchTime k) := by
    rw [hx.loop]
    rfl
  unfold State.advanceTo
  refine Clock.runUntil_of_arrivals
    (P := fun x => x.now ≤ t ∧ ∃ k, OnTime s₀ x k)
    (Q := fun x => x.now = t ∧ ∃ k, OnTime s₀ x k)
    (m := fun x => t - x.now) ?_ ?_ ⟨hn, n, h⟩ (Nat.lt_succ_self _)
  · rintro x u ⟨hx, k, onTime⟩ hu hle
    cases (due onTime).symm.trans hu
    obtain ⟨x', settled, now, onTime'⟩ :=
      onTime.arrive hi hr (Nat.le_of_lt onTime.early) (Nat.le_refl _)
    rw [settled]
    refine ⟨⟨now ▸ hle, _, onTime'⟩, ?_⟩
    rw [now]
    exact Nat.sub_lt_sub_left (Nat.lt_of_lt_of_le onTime.early hle) onTime.early
  · rintro x ⟨hx, k, onTime⟩ past
    have first : t ≤ s₀.fetchTime k := Nat.le_of_lt (past _ (due onTime))
    obtain ⟨x', settled, now, onTime'⟩ := onTime.arrive hi hr hx first
    rw [settled]
    exact ⟨now, _, onTime'⟩

/-- A loop that starts makes its first fetch at once. -/
theorem onTime_of_start (idle : s₀.loop = none) (going : s₀.cancelled = false) :
    OnTime s₀ (step s₀ .start).2 1 ∧ (step s₀ .start).2.now = s₀.now := by
  have begun : Kept s₀ { s₀ with loop := some (.start s₀.interval s₀.retryDelay s₀.now) } 0 :=
    ⟨rfl, going, rfl, rfl, rfl, fun _ => rfl⟩
  have started : (step s₀ .start).2 = State.settle (State.bound s₀)
      { s₀ with loop := some (.start s₀.interval s₀.retryDelay s₀.now) } := by
    unfold step act
    rw [idle]
    rfl
  rw [started]
  exact begun.settle hi hr rfl

/-- A step that does not interfere preserves `OnTime`. -/
theorem OnTime.step (h : OnTime s₀ s n) {a : Step} (ha : a.isPassive = true) :
    (step s a).2.now = s.now + a.duration ∧ ∃ n', OnTime s₀ (step s a).2 n' := by
  have rests {x : State kind} {k : Nat} (hx : OnTime s₀ x k) : x.settle x.bound = x :=
    settle_eq_self (hx.move?_eq_none hx.early) _
  have same (reply : Reply) (hact : act s a = (reply, s)) (hd : a.duration = 0) :
      (Refreshing.step s a).2.now = s.now + a.duration ∧
        ∃ n', OnTime s₀ (Refreshing.step s a).2 n' := by
    have stepped : (Refreshing.step s a).2 = s := by
      unfold Refreshing.step
      rw [hact]
      exact rests h
    rw [stepped, hd]
    exact ⟨rfl, n, h⟩
  cases a with
  | advance d =>
    obtain ⟨now, n', onTime⟩ := h.advanceTo hi hr (Nat.le_add_right s.now d.nanos)
    have stepped : (Refreshing.step s (.advance d)).2 = s.advanceTo (s.now + d.nanos) := rests onTime
    rw [stepped]
    exact ⟨now, n', onTime⟩
  | start =>
    refine same (.trouble .alreadyStarted) ?_ rfl
    unfold act
    rw [h.loop]
    rfl
  | once => cases ha
  | cancel => cases ha
  | _ => exact same _ rfl rfl

/-- A list of such steps preserves `OnTime`. -/
theorem OnTime.after (h : OnTime s₀ s n) {as : List Step} (ha : ∀ a ∈ as, a.isPassive = true) :
    (s.after as).now = s.now + elapsed as ∧ ∃ n', OnTime s₀ (s.after as) n' := by
  induction as generalizing s n with
  | nil => exact ⟨rfl, n, h⟩
  | cons a as ih =>
    obtain ⟨now, n', onTime⟩ := h.step hi hr (ha a List.mem_cons_self)
    obtain ⟨now', onTime'⟩ := ih onTime fun b hb => ha b (List.mem_cons_of_mem _ hb)
    refine ⟨?_, onTime'⟩
    show ((Refreshing.step s a).2.after as).now = _
    rw [now', now, elapsed, Nat.add_assoc]

end

/-! ### Observations -/

theorem lastGraph?_eq_some {g : Graph kind} (hn : n < m) (hg : s.answerTo n = .ok g)
    (failed : ∀ k, n < k → k < m → (s.answerTo k).isOk = false) : s.lastGraph? m = some g := by
  induction m with
  | zero => cases hn
  | succ m ih =>
    unfold State.lastGraph?
    rcases Nat.lt_or_eq_of_le (Nat.le_of_lt_succ hn) with hlt | rfl
    · have lost := failed m hlt (Nat.lt_succ_self m)
      cases ha : s.answerTo m with
      | ok g' => simp [ha, Except.isOk, Except.toBool] at lost
      | error f => exact ih hlt fun k hk hkm => failed k hk (Nat.lt_succ_of_lt hkm)
    · rw [hg]

theorem lastGraph?_eq_none (failed : ∀ n, n < m → (s.answerTo n).isOk = false) :
    s.lastGraph? m = none := by
  induction m with
  | zero => rfl
  | succ m ih =>
    unfold State.lastGraph?
    have lost := failed m (Nat.lt_succ_self m)
    cases ha : s.answerTo m with
    | ok g => simp [ha, Except.isOk, Except.toBool] at lost
    | error f => exact ih fun n hn => failed n (Nat.lt_succ_of_lt hn)

/-- The observable state of a loop started in `s₀`. -/
structure Seen (s₀ s : State kind) (made : Nat) : Prop where
  fetches : s.fetches = s₀.fetches + made
  /-- The fetches whose moments have come were made. -/
  times : ∀ n, n < made ↔ s₀.fetchTime n ≤ s.now
  successes : (s.tally kind).1 = s₀.successes made
  total : (s.tally kind).1 + (s.tally kind).2 = made
  /-- The lists are those of the last successful fetch. -/
  current : ∀ {n g}, n < made → s₀.answerTo n = .ok g →
    (∀ k, n < k → k < made → (s₀.answerTo k).isOk = false) →
      Relationships.Shows (s.relations.lists kind) g
  initial : (∀ n, n < made → (s₀.answerTo n).isOk = false) →
    s.relations.lists kind = s₀.relations.lists kind
  other : ∀ {k}, k ≠ kind → s.relations.lists k = s₀.relations.lists k ∧ s.tally k = (0, 0)

theorem OnTime.seen (hi : 0 < s₀.interval.nanos) (hr : 0 < s₀.retryDelay.nanos)
    (h : OnTime s₀ s n) : Seen s₀ s n := by
  have tally : s.tally kind = (s₀.successes n, n - s₀.successes n) := by
    unfold State.tally
    rw [if_pos rfl, h.loop]
    rfl
  constructor
  case fetches => exact h.fetches
  case times =>
    refine fun k => ⟨h.made, fun come => Nat.lt_of_not_le fun later => ?_⟩
    exact Nat.not_lt_of_le (Nat.le_trans (fetchTime_le hi hr later) come) h.early
  case successes => rw [tally]
  case total =>
    rw [tally]
    exact Nat.add_sub_cancel' (successes_le s₀ n)
  case current =>
    intro k g hk hg failed
    rw [h.own, lastGraph?_eq_some hk hg failed]
    have brought := Relationships.shows_refresh (r := s₀.relations) (g := g)
    rw [Relationships.lists_refresh] at brought
    exact brought
  case initial =>
    intro failed
    rw [h.own, lastGraph?_eq_none failed]
    rfl
  case other => exact fun hk => ⟨h.other hk, if_neg hk⟩

/-- With a retry delay of at most the interval, fetch times differ by at most the interval. -/
theorem fetchTime_succ_le {c : Config} (clamped : s.retryDelay = c.retryDelayFor s.interval)
    (n : Nat) : s.fetchTime (n + 1) ≤ s.fetchTime n + s.interval.nanos := by
  refine Nat.add_le_add_left ?_ _
  unfold State.pauseAfter
  split
  · exact Nat.le_refl _
  · rw [clamped]
    exact Nat.min_le_right ..

end

/-- A loop without interference fetches at the moments `fetchTime`, counts each fetch once, and
holds the lists of the last success. With a retry delay of at most the interval, consecutive fetches
are at most the interval apart; so when the source has succeeded throughout one interval, the lists
are less than one interval old. -/
theorem fetches_on_schedule {s₀ : State kind} (idle : s₀.loop = none)
    (going : s₀.cancelled = false) (hi : 0 < s₀.interval.nanos) (hr : 0 < s₀.retryDelay.nanos)
    (as : List Step) (ha : ∀ a ∈ as, a.isPassive = true) :
    ∃ s made, (step s₀ .start).2.after as = s ∧ s.now = s₀.now + elapsed as ∧ Seen s₀ s made ∧
      ∀ c : Config, s₀.retryDelay = c.retryDelayFor s₀.interval →
        (∀ n, s₀.fetchTime (n + 1) ≤ s₀.fetchTime n + s₀.interval.nanos) ∧
        ∀ r, (∀ n, r ≤ s₀.fetchTime n → (s₀.answerTo n).isOk = true) →
          r + s₀.interval.nanos ≤ s.now →
            ∃ n g, s₀.answerTo n = .ok g ∧ s₀.fetchTime n ≤ s.now ∧
              s.now < s₀.fetchTime n + s₀.interval.nanos ∧
              Relationships.Shows (s.relations.lists kind) g := by
  obtain ⟨begun, started⟩ := onTime_of_start hi hr idle going
  obtain ⟨now, made, onTime⟩ := begun.after hi hr ha
  have seen := onTime.seen hi hr
  have now : ((step s₀ .start).2.after as).now = s₀.now + elapsed as := started ▸ now
  refine ⟨_, made, rfl, now, seen, fun c clamped => ⟨fetchTime_succ_le clamped, ?_⟩⟩
  intro r answers settled
  -- the fetch made last
  obtain ⟨n, rfl⟩ : ∃ n, made = n + 1 := by
    refine Nat.exists_eq_add_one.2 ((seen.times 0).2 ?_)
    rw [now]
    exact Nat.le_add_right ..
  have come := onTime.made (Nat.lt_succ_self n)
  have young : ((step s₀ .start).2.after as).now < s₀.fetchTime n + s₀.interval.nanos :=
    Nat.lt_of_lt_of_le onTime.early (fetchTime_succ_le clamped n)
  have lately : r ≤ s₀.fetchTime n := by
    refine Nat.le_of_lt (Nat.lt_of_add_lt_add_right (n := s₀.interval.nanos) ?_)
    exact Nat.lt_of_le_of_lt settled young
  have answered := answers n lately
  cases hg : s₀.answerTo n with
  | error f => simp [hg, Except.isOk, Except.toBool] at answered
  | ok g =>
    refine ⟨n, g, hg, come, young, seen.current (Nat.lt_succ_self n) hg fun k hk hkn => ?_⟩
    exact absurd hk (Nat.not_lt_of_le (Nat.le_of_lt_succ hkn))

/-- The source panics first and answers the retry after 5 s. After 70 s there were two more fetches,
and the lists are less than 60 s old. -/
theorem fetches_on_schedule_standard :
    let c := Config.standard
    let u : User := ⟨"ann", by decide, "ann", rfl⟩
    let g : Graph .friends := Table.empty.insert u [u, u]
    let s₀ : State .friends := start c.friendsRefreshInterval
      (c.retryDelayFor c.friendsRefreshInterval) [.error .crashed, .ok g]
    let as : List Step := [.advance (.ofSeconds 4), .state, .advance (.ofSeconds 66)]
    ∃ s made, (step s₀ .start).2.after as = s ∧ s.now = 70000000000 ∧ s.fetches = 3 ∧
      s.tally .friends = (2, 1) ∧ Seen s₀ s made ∧
      ∃ n g, s₀.answerTo n = .ok g ∧ s₀.fetchTime n ≤ s.now ∧
        s.now < s₀.fetchTime n + 60000000000 ∧
        Relationships.Shows (s.relations.lists .friends) g := by
  intro c u g s₀ as
  obtain ⟨s, made, hs, now, seen, fresh⟩ := fetches_on_schedule (show s₀.loop = none from rfl) rfl
    (by decide) (by decide) as (by decide)
  have answers : ∀ n, 5000000000 ≤ s₀.fetchTime n → (s₀.answerTo n).isOk = true := by
    intro n hn
    cases n with
    | zero => exact absurd hn (by decide)
    | succ n =>
      cases n with
      | zero => rfl
      | succ n => simp [State.answerTo, State.nextAnswer, s₀, start, Except.isOk, Except.toBool]
  have now : s.now = 70000000000 := now.trans (by decide +kernel)
  have counted : ((step s₀ .start).2.after as).fetches = 3 ∧
      ((step s₀ .start).2.after as).tally .friends = (2, 1) := by decide +kernel
  rw [hs] at counted
  refine ⟨s, made, hs, now, counted.1, counted.2, seen, ?_⟩
  refine (fresh c rfl).2 5000000000 answers ?_
  rw [now]
  decide

end Presence.Script.Refreshing
