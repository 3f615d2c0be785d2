import Presence.Proofs.Engine.Conservation
import Presence.Proofs.Engine.Moments

/-!
The engine after its shutdown. The background tasks observe the shutdown signal at different points,
while calls may be pending. Once the first `shutdown` call has been answered, the dispatcher has
stopped and the queue is closed (`Halted`), and no action leaves that state.
-/

namespace Presence

/-- Notes of work: an event accepted or processed, a fetch, a registration, or a notice or snapshot
that entered a line. -/
def Note.isWork : Note → Bool
  | .registered .. => true
  | .accepted _ => true
  | .returned _ b => b
  | .processed .. => true
  | .fetching .. => true
  | .sent _ (.friendOnline _) => true
  | .sent _ (.snapshot _) => true
  | _ => false

namespace Engine

/-- Calls for a session or for permission to open one. -/
def Action.isOpening : Action → Bool
  | .openStatus _ => true
  | .authorize .. => true
  | .openParty .. => true
  | .startParty _ => true
  | _ => false

/-- Actions that set the shutdown signal. -/
def Action.Stops (a : Action) : Prop := a = .shutdown ∨ a = .signalShutdown

section
variable {a : Action} {e e' : Engine} {out ns : List Note} {config : Config} {as : List Action}

/-- A continuation does no work and answers no `shutdown` call. -/
theorem Resumed.apart {p : Producer} {b : Bool} (h : Resumed e p b out e') :
    e'.tickets = e.tickets ∧ e'.awaited = e.awaited ∧ e'.shutdown = e.shutdown ∧
      (∀ n ∈ out, n.isWork = false) ∧ ∀ t, .answered t .stopped ∉ out := by
  cases h <;> exact ⟨rfl, rfl, rfl, by simp [Note.isWork], by simp⟩

/-! ### The answer to `shutdown` -/

/-- A `shutdown` call is answered by its own action or once the workers have stopped. -/
theorem Move.answered_stopped {t : Nat} (hm : Move a e out e') (h : .answered t .stopped ∈ out) :
    a = .shutdown ∨ a = .stopped t := by
  cases hm with
  | answered u hr =>
    simp at h
    obtain ⟨rfl, rfl⟩ := h
    exact hr
  | entered _ _ hr => simp [hr.apart] at h
  | refused _ hr => simp [hr.apart] at h
  | timedOut _ hr => simp [hr.apart] at h
  | promoted _ _ _ _ hr => simp [hr.apart] at h
  | _ => simp at h

theorem step_answered_stopped {t : Nat} (h : .answered t .stopped ∈ (e.step a).2) :
    (a = .shutdown ∧ t = e.tickets ∧ e.awaited = true) ∨
      (a = .stopped t ∧ e.workersStopped = true) := by
  have moved : .answered t .stopped ∈ (e.step a).2 → a = .shutdown ∨ a = .stopped t :=
    step_makes (P := fun _ ns => .answered t .stopped ∈ ns → a = .shutdown ∨ a = .stopped t)
      (fun hm ih hn => (List.mem_append.1 hn).elim ih hm.answered_stopped) (by simp)
  rcases moved h with rfl | rfl
  · have hw : e.awaited = true := by
      cases hw : e.awaited with
      | true => rfl
      | false => simp [step, withTicket, stop, hw] at h
    simp [step, withTicket, stop, answer, hw] at h
    exact .inl ⟨rfl, h, hw⟩
  · simp only [step, stopped] at h
    split at h
    · split at h
      · exact .inr ⟨rfl, ‹_›⟩
      · cases h
    · cases h

/-- A note of a run is one of its actions'. -/
theorem mem_run {n : Note} (h : n ∈ (e.run as).2) :
    ∃ pre a post, as = pre ++ a :: post ∧ n ∈ ((e.run pre).1.step a).2 := by
  induction as generalizing e with
  | nil => cases h
  | cons a as ih =>
    rcases List.mem_append.1 h with h | h
    · exact ⟨[], a, as, rfl, h⟩
    · obtain ⟨pre, b, post, rfl, hn⟩ := ih h
      exact ⟨a :: pre, b, post, rfl, hn⟩

/-- The ticket counter does not decrease. -/
theorem Move.tickets_le (hm : Move a e out e') : e.tickets ≤ e'.tickets := by
  cases hm with
  | ticket => exact Nat.le_succ _
  | entered _ _ hr => exact Nat.le_of_eq hr.apart.1.symm
  | refused _ hr => exact Nat.le_of_eq hr.apart.1.symm
  | timedOut _ hr => exact Nat.le_of_eq hr.apart.1.symm
  | promoted _ _ _ _ hr => exact Nat.le_of_eq hr.apart.1.symm
  | _ => exact Nat.le_refl _

theorem run_tickets_le (e : Engine) (as : List Action) : e.tickets ≤ (e.run as).1.tickets :=
  run_makes (P := fun e' _ => e.tickets ≤ e'.tickets)
    (fun _ _ _ _ _ _ hm h => Nat.le_trans h hm.tickets_le) (Nat.le_refl _)

/-- Before the first `shutdown` call the workers' handles have not been taken. -/
theorem Reaches.not_awaited (h : Reaches config as e ns) (ha : .shutdown ∉ as) :
    e.awaited = false := by
  refine h.keeps (P := fun e _ => e.awaited = false) (fun _ _ => rfl)
    fun a hin _ _ _ _ hm hw => ?_
  cases hm with
  | awaited hs => exact absurd (hs ▸ hin) ha
  | entered _ _ hr => exact hr.apart.2.1.trans hw
  | refused _ hr => exact hr.apart.2.1.trans hw
  | timedOut _ hr => exact hr.apart.2.1.trans hw
  | promoted _ _ _ _ hr => exact hr.apart.2.1.trans hw
  | _ => exact hw

/-! ### From the call to its answer -/

/-- Only `shutdown` and `signalShutdown` change the shutdown signal, to set it. -/
theorem Move.shutdown_eq (hm : Move a e out e') : e'.shutdown = e.shutdown ∨ a.Stops := by
  cases hm with
  | told ha => exact .inr ha
  | entered _ _ hr => exact .inl hr.apart.2.2.1
  | refused _ hr => exact .inl hr.apart.2.2.1
  | timedOut _ hr => exact .inl hr.apart.2.2.1
  | promoted _ _ _ _ hr => exact .inl hr.apart.2.2.1
  | _ => exact .inl rfl

/-- The shutdown signal stays set, and no poller delivers a snapshot after it. -/
theorem Move.muted (hm : Move a e out e') (h : e.shutdown = true) :
    e'.shutdown = true ∧ ∀ s sn, .sent s (.snapshot sn) ∉ out := by
  have unlike {P : Prop} (hs : e.shutdown = false) : P := by simp [h] at hs
  have resumed {e₁ p b out} (hr : Resumed e₁ p b out e') (h : e₁.shutdown = true) :
      e'.shutdown = true ∧ ∀ s sn, .sent s (.snapshot sn) ∉ out := by
    obtain ⟨-, -, hs, hn, -⟩ := hr.apart
    exact ⟨hs.trans h, fun s sn hin => by simpa [Note.isWork] using hn _ hin⟩
  cases hm with
  | told => exact ⟨rfl, by simp⟩
  | entered _ _ hr => simpa using resumed hr h
  | refused _ hr => simpa using resumed hr h
  | timedOut _ hr => simpa using resumed hr h
  | promoted _ _ hs => exact unlike hs
  | emitted _ _ hs => exact unlike hs
  | _ => exact ⟨h, by simp⟩

theorem run_muted (h : e.shutdown = true) (as : List Action) :
    (e.run as).1.shutdown = true ∧ ∀ s sn, .sent s (.snapshot sn) ∉ (e.run as).2 := by
  refine run_makes (P := fun e ns => e.shutdown = true ∧ ∀ s sn, .sent s (.snapshot sn) ∉ ns)
    (fun _ _ _ _ _ _ hm ⟨hs, hn⟩ => ?_) ⟨h, by simp⟩
  obtain ⟨hs', hn'⟩ := hm.muted hs
  exact ⟨hs', fun s sn hin => (List.mem_append.1 hin).elim (hn s sn) (hn' s sn)⟩

/-- A session returned by a call exists. -/
theorem Reaches.opened (h : Reaches config as e ns) {t : Nat} {s : SessionId}
    (hn : .answered t (.opened s) ∈ ns) : ∃ x, e.session? s = some x := by
  have resumed {e p b out e' t s} (hr : Resumed e p b out e') (hs : InStage e)
      (hn : .answered t (.opened s) ∈ out) : ∃ x, e'.session? s = some x := by
    cases hr with
    | @status u _ r hc =>
      obtain ⟨x, hx, -⟩ := hs.opening hc
      simp at hn
      obtain ⟨-, rfl⟩ := hn
      exact ⟨_, by simp [setStage, updateSession, session?, hx]; rfl⟩
    | party =>
      simp at hn
      obtain ⟨-, rfl⟩ := hn
      exact ⟨_, by simp [session?, nextSession]; rfl⟩
    | _ => simp at hn
  refine (h.keeps_sound (P := fun e ns => ∀ t s, .answered t (.opened s) ∈ ns →
    ∃ x, e.session? s = some x) (fun _ _ => by simp) fun a _ e out e' ns hw hs hm hP t s hn => ?_).2
      t s hn
  rcases List.mem_append.1 hn with hn | hn
  · obtain ⟨x, hx⟩ := hP t s hn
    obtain ⟨y, hy, -⟩ := hm.onward.same hx
    exact ⟨y, hy⟩
  · cases hm with
    | answered u hr =>
      simp at hn
      obtain ⟨-, rfl⟩ := hn
      exact hr.elim
    | entered _ _ hr => exact resumed hr hs (by simpa using hn)
    | refused _ hr => exact resumed hr hs (by simpa using hn)
    | timedOut _ hr => exact resumed hr hs (by simpa using hn)
    | promoted _ _ _ _ hr => exact resumed hr hs (by simpa using hn)
    | _ => simp at hn

/-! ### The halted state -/

/-- The shutdown signal is set, the dispatcher has stopped and the queue is closed. -/
structure Halted (e : Engine) : Prop where
  told : e.shutdown = true
  dispatcher : e.dispatcher = .stopped
  queue : e.queue.events.isOpen = false

/-- The effect of an action on a halted engine: flags are kept, and lists are unless a refresh on
demand is answered. -/
structure Still (a : Action) (e : Engine) (out : List Note) (e' : Engine) : Prop where
  halted : Halted e'
  idle : ∀ n ∈ out, n.isWork = false
  status : e'.status = e.status
  relations : a.answersRefresh = false → e'.relations = e.relations

theorem Resumed.still {p : Producer} {b : Bool} (h : Resumed e p b out e') (hh : Halted e) :
    Still a e out e' := by
  obtain ⟨ht, hd, hq⟩ := hh
  cases h <;> exact ⟨⟨ht, hd, hq⟩, by simp [Note.isWork], rfl, fun _ => rfl⟩

theorem Move.still (hm : Move a e out e') (hh : Halted e) : Still a e out e' := by
  have ⟨ht, hd, hq⟩ := hh
  have told {P : Prop} (hs : e.shutdown = false) : P := by simp [ht] at hs
  have isOpen {P : Prop} (ho : e.queue.events.isOpen = true) : P := by simp [hq] at ho
  have idle {P : Prop} (hi : e.dispatcher = .idle) : P := by simp [hd] at hi
  have notifying {P : Prop} {f : Fanout} (hf : e.dispatcher = .notifying f) : P := by
    simp [hd] at hf
  cases hm with
  | told => exact ⟨⟨rfl, hd, hq⟩, by simp, rfl, fun _ => rfl⟩
  | refreshed _ _ ha => exact ⟨⟨ht, hd, hq⟩, by simp, rfl, fun hn => by simp [ha] at hn⟩
  | woke hs => exact told hs
  | loopAnswered hs => exact told hs
  | entered ho => exact isOpen ho
  | offered ho => exact isOpen ho
  | refused _ hr =>
    have still := hr.still (a := a) ⟨ht, hd, hq⟩
    exact ⟨still.halted, by simpa [Note.isWork] using still.idle, still.status, still.relations⟩
  | @timedOut w q _ _ hg hr =>
    obtain ⟨-, rfl⟩ := Queue.giveUp?_eq_some hg
    have still := hr.still (a := a) ⟨ht, hd, hq⟩
    exact ⟨still.halted, by simpa [Note.isWork] using still.idle, still.status, still.relations⟩
  | began _ hi => exact idle hi
  | promoted _ hi => exact idle hi
  | retired _ hi => exact idle hi
  | finished _ hf => exact notifying hf
  | missed _ hf => exact notifying hf
  | found _ hf => exact notifying hf
  | notified _ hf => exact notifying hf
  | crowded _ hf => exact notifying hf
  | vanished _ hf => exact notifying hf
  | removed _ hf => exact notifying hf
  | opened _ hs => exact told hs
  | ticked _ _ _ hs => exact told hs
  | emitted _ _ hs => exact told hs
  | _ => exact ⟨⟨ht, hd, hq⟩, by simp [Note.isWork], rfl, fun _ => rfl⟩

theorem run_still (hh : Halted e) (as : List Action) :
    Halted (e.run as).1 ∧ (∀ n ∈ (e.run as).2, n.isWork = false) ∧
      (e.run as).1.status = e.status ∧
      ((∀ a ∈ as, a.answersRefresh = false) → (e.run as).1.relations = e.relations) := by
  refine run_makes (P := fun e' ns => Halted e' ∧ (∀ n ∈ ns, n.isWork = false) ∧
    e'.status = e.status ∧ ((∀ a ∈ as, a.answersRefresh = false) → e'.relations = e.relations))
    (fun a ha _ _ _ _ hm ⟨hh, hn, hs, hr⟩ => ?_) ⟨hh, by simp, rfl, fun _ => rfl⟩
  have still := hm.still hh
  refine ⟨still.halted, fun n hin => ?_, still.status.trans hs, fun hall => ?_⟩
  · exact (List.mem_append.1 hin).elim (hn n) (still.idle n)
  · exact (still.relations (hall a ha)).trans (hr hall)

/-- The engine is halted when the first `shutdown` call is answered. -/
theorem Reaches.halted (h : Reaches config as e ns) (hf : .shutdown ∉ as) (mid : List Action)
    (hr : .answered e.tickets .stopped ∈ (e.run (.shutdown :: mid)).2) :
    Halted (e.run (.shutdown :: mid)).1 := by
  have first : (e.step .shutdown).1.tickets = e.tickets + 1 ∧
      (e.step .shutdown).1.shutdown = true := by
    simp [Engine.step, withTicket, stop, h.not_awaited hf, await]
  obtain ⟨pre, a, post, hsplit, hn⟩ := mem_run hr
  rw [hsplit, run_append]
  cases pre with
  | nil =>
    -- the call itself has to wait
    cases hsplit
    simp [run, Engine.step, withTicket, stop, h.not_awaited hf] at hn
  | cons b pre =>
    cases hsplit
    have told : (e.run (.shutdown :: pre)).1.shutdown = true := (run_muted first.2 pre).1
    rcases step_answered_stopped hn with ⟨-, ht, -⟩ | ⟨-, hw⟩
    · -- another such call has another ticket
      have later : e.tickets + 1 ≤ (e.run (.shutdown :: pre)).1.tickets :=
        first.1 ▸ run_tickets_le _ pre
      exact absurd later (by rw [← ht]; exact Nat.not_succ_le_self _)
    · have hd : (e.run (.shutdown :: pre)).1.dispatcher = .stopped := by
        simp only [workersStopped, Bool.and_eq_true, decide_eq_true_eq] at hw
        exact hw.1.1
      have hq := ((h.append (.shutdown :: pre)).inOrder.stopped hd).2
      exact (run_still ⟨told, hd, hq⟩ (a :: post)).1

/-! ### Actions in the halted state -/

/-- Calls for sessions are refused, heartbeats dropped, fetches neither started nor absorbed, and
all sessions cancelled. -/
structure Refusing (e : Engine) : Prop where
  opening : ∀ a, a.isOpening = true →
    e.step a = ({ e with tickets := e.tickets + 1, calls := e.calls.erase e.tickets },
      [.answered e.tickets (.failed .shutDown)])
  heartbeat : ∀ u,
    (e.step (.heartbeat u)).2 = [.gaveUp ⟨u, .heartbeat⟩, .returned (some (.call e.tickets)) false,
      .answered e.tickets (.submitted false)] ∧
    (e.step (.heartbeat u)).1.metrics =
      { e.metrics with heartbeatsDropped := e.metrics.heartbeatsDropped + 1 }
  loop : ∀ kind, e.step (.wakeLoop kind) = (e, []) ∧ ∀ g, e.step (.loopAnswered kind g) = (e, [])
  session : ∀ s x, e.session? s = some x → e.isCancelled s x = true
  poller : ∀ stopped, e.pollerRuns stopped = false

theorem Halted.refusing (h : Halted e) : Refusing e where
  opening a ha := by
    cases a with
    | openStatus u => simp [step, withTicket, openStatus, answer, h.told]
    | authorize p u => simp [step, withTicket, authorize, answer, h.told]
    | openParty p u => simp [step, withTicket, authorize, answer, h.told]
    | startParty m => simp [step, withTicket, startParty, answer, h.told]
    | _ => cases ha
  heartbeat u := by
    have closed : e.queue.events.trySend ⟨u, .heartbeat⟩ = .error .closed :=
      Channel.trySend_eq_closed_iff.2 h.queue
    simp [step, withTicket, Engine.heartbeat, await, submit, Queue.submit, closed, andThen,
      submitted, resume, answer, Table.get?_insert, Queue.drop, metrics]
  loop kind := by simp [step, wakeLoop, loopAnswered, h.told]
  session s x _ := by simp [isCancelled, h.told]
  poller stopped := by simp [pollerRuns, h.told]

end

/-! ### The main statement -/

section
variable {config : Config} {before mid later : List Action} {e₀ e₁ e : Engine}
  {ns₀ ns₁ ns : List Note}

/-- In every run after the first `shutdown` call, a session returned by a call is cancelled with a
poller that may not continue, and no snapshot is delivered. In every run after its answer, no note
is work, flags are unchanged, lists are unless a refresh on demand is answered, and the engine is
`Refusing`. -/
theorem frozen_after_shutdown (h : Reaches config before e₀ ns₀) (hf : .shutdown ∉ before)
    (hs : e₀.run (.shutdown :: mid) = (e₁, ns₁)) (hr : .answered e₀.tickets .stopped ∈ ns₁)
    (hl : e₁.run later = (e, ns)) :
    (∀ n ∈ ns, n.isWork = false) ∧ e.status = e₁.status ∧
    ((∀ a ∈ later, a.answersRefresh = false) → e.relations = e₁.relations) ∧ Refusing e ∧
    ∀ more e' ns', e₀.run (.shutdown :: more) = (e', ns') →
      (∀ t s, .answered t (.opened s) ∈ ns' →
        ∃ x, e'.session? s = some x ∧ e'.isCancelled s x = true ∧
          ∀ stopped, e'.pollerRuns stopped = false) ∧
      ∀ s sn, .sent s (.snapshot sn) ∉ ns' := by
  have halted := h.halted hf mid
  rw [hs] at halted
  have frozen := run_still (halted hr) later
  rw [hl] at frozen
  obtain ⟨stays, idle, flags, lists⟩ := frozen
  refine ⟨idle, flags, lists, stays.refusing, fun more e' ns' hm => ?_⟩
  have told : (e₀.step .shutdown).1.shutdown = true ∧
      ∀ s sn, .sent s (.snapshot sn) ∉ (e₀.step .shutdown).2 := by
    cases hw : e₀.awaited <;> simp [step, withTicket, stop, hw, await, answer]
  have muted := run_muted told.1 more
  have now := h.append (.shutdown :: more)
  obtain ⟨rfl, rfl⟩ : (e₀.run (.shutdown :: more)).1 = e' ∧
      (e₀.run (.shutdown :: more)).2 = ns' := by simp [hm]
  refine ⟨fun t s ho => ?_, fun s sn hin => ?_⟩
  · obtain ⟨x, hx⟩ := now.opened (List.mem_append_right _ ho)
    have shut : (e₀.run (.shutdown :: more)).1.shutdown = true := muted.1
    exact ⟨x, hx, by simp [isCancelled, shut], fun stopped => by simp [pollerRuns, shut]⟩
  · exact (List.mem_append.1 hin).elim (told.2 s sn) (muted.2 s sn)

/-- A party session that waits for the only slot of the queue is returned after the shutdown,
cancelled, and its poller delivers nothing. -/
theorem frozen_after_shutdown_waiting_open :
    ∃ u p e₀ ns₀ e₁ ns₁ e ns,
      Reaches { Config.standard with queueCapacity := 1 }
        [.offer ⟨u, .heartbeat⟩, .startParty ⟨p, u, .active⟩] e₀ ns₀ ∧
      e₀.run [.shutdown, .dispatch, .stopLoop .friends, .stopLoop .parties, .stopped 1] =
        (e₁, ns₁) ∧
      .answered 1 .stopped ∈ ns₁ ∧ e₁.run [.giveUp, .tick 1, .emit 1] = (e, ns) ∧
      ns = [.gaveUp ⟨u, .connected⟩, .returned (some (.call 0)) false, .answered 0 (.opened 1)] ∧
      (∀ n ∈ ns, n.isWork = false) ∧ e.status = e₁.status ∧ e.relations = e₁.relations ∧
      Refusing e ∧ ∃ x, e.session? 1 = some x ∧ e.isCancelled 1 x = true := by
  have reached (u : User) (p : Party) : Reaches { Config.standard with queueCapacity := 1 }
      [.offer ⟨u, .heartbeat⟩, .startParty ⟨p, u, .active⟩] _ _ := .of_start rfl _
  have hr := reached ⟨"ann", by decide, "ann", rfl⟩ ⟨"duo", by decide, "duo", rfl⟩
  obtain ⟨idle, flags, lists, refusing, told⟩ := frozen_after_shutdown hr (by simp)
    (show Engine.run _ [.shutdown, .dispatch, .stopLoop .friends, .stopLoop .parties, .stopped 1] =
      (_, _) from rfl) (by decide +kernel)
    (show Engine.run _ [.giveUp, .tick 1, .emit 1] = (_, _) from rfl)
  obtain ⟨handed, -⟩ := told [.dispatch, .stopLoop .friends, .stopLoop .parties, .stopped 1,
    .giveUp, .tick 1, .emit 1] _ _ rfl
  obtain ⟨x, hx, hc, -⟩ := handed 0 1 (by decide +kernel)
  refine ⟨_, _, _, _, _, _, _, _, hr, rfl, ?_, rfl, ?_, idle, flags, lists ?_, refusing, x, hx, hc⟩
  · decide +kernel
  · decide +kernel
  · simp [Action.answersRefresh]

end

end Engine

end Presence
