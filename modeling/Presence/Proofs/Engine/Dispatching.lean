import Presence.Proofs.Engine.Moves
import Presence.Proofs.Notices

/-!
The dispatcher's steps against `Dispatch.process`. The step that takes an event starts a `Fanout` and
extends the board by one line at most (`Taken`); the steps after it send the notices of the fanout one
by one. `run_dispatch_eq_process`: run without interruption, they reach the state that `process`
computes at once.
-/

namespace Presence.Engine

section
variable {e e' e₁ e₂ : Engine} {ev : Event} {v : User} {rest : List User} {r : FanoutReport}
  {q : Queue Producer} {w : Option (Waiter Producer)} {out : List Note} {n k : Nat}

theorem step_dispatch {f : Fanout} (hd : e.dispatcher = .notifying f) :
    (e.step .dispatch).1 = (e.notifyStep f).1 := by
  simp [step, dispatchStep, hd]

theorem run_dispatch (h : (e.step .dispatch).1 = e') :
    (e.run (List.replicate (k + 1) .dispatch)).1 = (e'.run (List.replicate k .dispatch)).1 :=
  h ▸ rfl

/-! ### Notices -/

/-- The engine after the notice to `v`, with `rest` still pending. -/
def notified (e : Engine) (ev : Event) (v : User) (rest : List User) (r : FanoutReport) : Engine :=
  { e.withBoard (e.board.notify (.friendOnline ev.user) v).2 with
    dispatcher := .notifying
      ⟨ev, rest, .next, r.add (e.board.notify (.friendOnline ev.user) v).1⟩ }

theorem run_sending {h : Handle} (hd : e.dispatcher = .notifying ⟨ev, rest, .sending v h, r⟩)
    (hv : e.board.lookup v = some h) :
    ∃ k, (e.run (List.replicate k .dispatch)).1 = e.notified ev v rest r := by
  have first := step_dispatch hd
  unfold notified Switchboard.notify
  rw [hv]
  cases hb : e.board.deliver h.line (.friendOnline ev.user) with
  | ok b =>
    simp only [notifyStep, Switchboard.sendNotice, hb] at first
    refine ⟨1, (run_dispatch first).trans ?_⟩
    simp only [Switchboard.sendNotice, hb]
    rfl
  | error d =>
    cases d with
    | full =>
      simp only [notifyStep, Switchboard.sendNotice, hb] at first
      refine ⟨1, (run_dispatch first).trans ?_⟩
      simp only [Switchboard.sendNotice, hb]
      rfl
    | closed =>
      -- a second step takes the closed session out of the registry
      simp only [notifyStep, Switchboard.sendNotice, hb] at first
      refine ⟨2, (run_dispatch first).trans ?_⟩
      simp only [Switchboard.sendNotice, hb]
      rfl

theorem run_notice (hd : e.dispatcher = .notifying ⟨ev, v :: rest, .next, r⟩) :
    ∃ k, (e.run (List.replicate k .dispatch)).1 = e.notified ev v rest r := by
  have first := step_dispatch hd
  cases hv : e.board.lookup v with
  | none =>
    simp only [notifyStep, hv] at first
    refine ⟨1, (run_dispatch first).trans ?_⟩
    simp only [notified, Switchboard.notify, hv]
    rfl
  | some h =>
    simp only [notifyStep, hv] at first
    obtain ⟨k, hk⟩ := run_sending (e := { e with dispatcher := _ }) rfl hv
    exact ⟨k + 1, (run_dispatch first).trans hk⟩

/-- A fanout run to its end sends the notices of `notifyAll`. -/
theorem run_notifying {friends : List User} (hd : e.dispatcher = .notifying ⟨ev, friends, .next, r⟩) :
    ∃ k, (e.run (List.replicate k .dispatch)).1 =
      { e with
        dispatcher := .idle
        dispatch := { e.dispatch with
          board := (e.board.notifyAll (.friendOnline ev.user) r friends).2 }.finish
            (e.board.notifyAll (.friendOnline ev.user) r friends).1 } := by
  induction friends generalizing e r with
  | nil =>
    refine ⟨1, ?_⟩
    have last := step_dispatch hd
    simp only [notifyStep] at last
    exact last
  | cons v rest ih =>
    obtain ⟨j, hj⟩ := run_notice hd
    obtain ⟨k, hk⟩ := ih (e := e.notified ev v rest r) rfl
    refine ⟨j + k, ?_⟩
    rw [← List.replicate_append_replicate, run_append, hj, hk]
    rfl

/-! ### The step that takes an event -/

/-- The state `e'` after the step that takes the event `ev` in the state `e`. The producer whose
event moves up into the queue resumes in the same step, which can open a line. -/
structure Taken (e : Engine) (ev : Event) (e' : Engine) : Prop where
  dispatcher : e'.dispatcher = .notifying ⟨ev, e.relations.friendsOf ev.user, .next,
    ⟨(e.relations.friendsOf ev.user).length, 0, 0, 0⟩⟩
  dispatch : e'.dispatch = { (e.dispatch.begin ev e.now).2 with board := e'.board }
  lookup : ∀ u, e'.board.lookup u = e.board.lookup u
  line? : ∀ n < e.board.lines.length, e'.board.line? n = e.board.line? n

theorem taken_begin (e : Engine) (ev : Event) (q : Queue Producer) : Taken e ev (e.begin ev q) where
  dispatcher := rfl
  dispatch := rfl
  lookup _ := rfl
  line? _ _ := rfl

theorem Taken.resumed {p : Producer} {b : Bool} (h : Taken e ev e₁) (hr : Resumed e₁ p b out e₂) :
    Taken e ev e₂ := by
  cases hr with
  | @party t b p u board hc hb =>
    obtain rfl := Switchboard.addLine?_eq_some hb
    exact {
      dispatcher := h.dispatcher
      dispatch := by
        rw [withBoard, h.dispatch]
        rfl
      lookup := h.lookup
      line? := fun n hn => by
        rw [← h.line? n hn]
        refine List.getElem?_append_left ?_
        -- the lines of `e` are all there
        refine Nat.lt_of_not_le fun hl => ?_
        have gone := (h.line? n hn).symm.trans (List.getElem?_eq_none hl)
        rw [Switchboard.line?, List.getElem?_eq_getElem hn] at gone
        cases gone }
  | _ => exact ⟨h.dispatcher, h.dispatch, h.lookup, h.line?⟩

theorem step_taken (hd : e.dispatcher = .idle) (hs : e.shutdown = false)
    (hq : e.queue.take? = some (ev, w, q)) : Taken e ev (e.step .dispatch).1 := by
  have begun := taken_begin e ev q
  simp only [step, dispatchStep, hd, takeEvent, hs, Bool.false_eq_true, if_false, hq]
  cases w with
  | none => exact begun
  | some w => exact begun.resumed (resume_resumed _ w.producer true)

theorem Taken.reaches_iff (h : Taken e ev e') (hn : n < e.board.lines.length) :
    e'.board.Reaches v n ↔ e.board.Reaches v n := by
  unfold Switchboard.Reaches
  rw [h.lookup, h.line? n hn]

theorem Taken.distinct (h : Taken e ev e') (hb : e.board.Distinct) : e'.board.Distinct :=
  fun hu hv hl => hb (h.lookup _ ▸ hu) (h.lookup _ ▸ hv) hl

/-! ### The whole fanout -/

/-- From an idle dispatcher with an event in the queue, dispatcher steps alone lead to the state that
`process` computes on the board after the first of them. -/
theorem run_dispatch_eq_process (hd : e.dispatcher = .idle) (hs : e.shutdown = false)
    (hq : e.queue.take? = some (ev, w, q)) :
    ∃ k, (e.run (List.replicate k .dispatch)).1 =
      { (e.step .dispatch).1 with
        dispatcher := .idle
        dispatch := ({ e.dispatch with board := (e.step .dispatch).1.board }.process ev e.now).2 } := by
  have taken := step_taken hd hs hq
  obtain ⟨k, hk⟩ := run_notifying taken.dispatcher
  refine ⟨k + 1, (run_dispatch rfl).trans (hk.trans ?_)⟩
  rw [taken.dispatch]
  rfl

end

end Presence.Engine
