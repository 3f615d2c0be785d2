import Presence.Proofs.Engine.Calls

/-!
Removal of pending calls. A call that waits for no submission is read only by actions about it, so
removing it commutes with every other action (`step_without`). A call for a session that fails waits
for no submission before it fails.
-/

namespace Presence.Engine

/-- The engine without call `t`. -/
def without (e : Engine) (t : Nat) : Engine := { e with calls := e.calls.erase t }

/-- Removes call `t` from an effect. -/
def Effect.without (x : Effect) (t : Nat) : Effect := (x.1.without t, x.2)

/-! ### Functions that do not read calls -/

section
variable (e : Engine) (t : Nat)

theorem config_without : (e.without t).config = e.config := rfl

theorem board_without : (e.without t).board = e.board := rfl

theorem dispatcher_without : (e.without t).dispatcher = e.dispatcher := rfl

theorem session?_without (s : SessionId) : (e.without t).session? s = e.session? s := rfl

theorem status_without : (e.without t).status = e.status := rfl

theorem relations_without : (e.without t).relations = e.relations := rfl

theorem queue_without : (e.without t).queue = e.queue := rfl

theorem now_without : (e.without t).now = e.now := rfl

theorem shutdown_without : (e.without t).shutdown = e.shutdown := rfl

theorem loop_without (kind : RefreshKind) : (e.without t).loop kind = e.loop kind := rfl

theorem pollerRuns_without (stopped : Bool) :
    (e.without t).pollerRuns stopped = e.pollerRuns stopped := rfl

theorem isCancelled_without (s : SessionId) (x : Session) :
    (e.without t).isCancelled s x = e.isCancelled s x := rfl

theorem workersStopped_without : (e.without t).workersStopped = e.workersStopped := rfl

theorem awaited_without : (e.without t).awaited = e.awaited := rfl

theorem hasSender_without (s : SessionId) (x : Session) :
    (e.without t).hasSender s x = e.hasSender s x := rfl

theorem offer_without (ev : Event) : (e.without t).offer ev = (e.offer ev).without t := by
  unfold offer
  rw [queue_without]
  split <;> rfl

theorem closeSession_without (u : User) :
    ((e.without t).closeSession u).2 = (e.closeSession u).2.without t := by
  unfold closeSession
  rw [board_without]
  split <;> rfl

theorem post_without (h : Handle) (text : String) :
    (e.without t).post h text = (e.post h text).without t := by
  unfold post
  rw [board_without]
  split <;> rfl

theorem notifyStep_without (f : Fanout) :
    (e.without t).notifyStep f = (e.notifyStep f).without t := by
  unfold notifyStep
  rw [board_without]
  split
  · split
    · rfl
    · split <;> rfl
  · dsimp only
    split <;> rfl
  · rfl

theorem wakeLoop_without (k : RefreshKind) :
    (e.without t).wakeLoop k = (e.wakeLoop k).without t := by
  unfold wakeLoop
  rw [shutdown_without, loop_without, now_without]
  split
  · rfl
  · split <;> rfl

theorem loopAnswered_without (k : RefreshKind) (g : Answer (Graph k)) :
    (e.without t).loopAnswered k g = (e.loopAnswered k g).without t := by
  unfold loopAnswered
  rw [shutdown_without, loop_without, relations_without, now_without]
  split
  · rfl
  · split <;> rfl

theorem stopLoop_without (k : RefreshKind) :
    (e.without t).stopLoop k = (e.stopLoop k).without t := by
  unfold stopLoop
  rw [shutdown_without]
  split <;> rfl

theorem tick_without (s : SessionId) : (e.without t).tick s = (e.tick s).without t := by
  unfold tick
  rw [session?_without]
  split
  · rw [pollerRuns_without]
    split
    · rw [status_without, relations_without, now_without]
      split <;> rfl
    · rfl
  · rfl

theorem emit_without (s : SessionId) : (e.without t).emit s = (e.emit s).without t := by
  unfold emit
  rw [session?_without, board_without]
  split
  · rw [pollerRuns_without]
    split
    · split <;> rfl
    · rfl
  · rfl

theorem finishPoller_without (s : SessionId) :
    (e.without t).finishPoller s = (e.finishPoller s).without t := by
  unfold finishPoller
  rw [session?_without]
  split
  · rw [pollerRuns_without]
    split <;> rfl
  · rfl

theorem drive_without (s : SessionId) : (e.without t).drive s = (e.drive s).without t := by
  unfold drive
  rw [session?_without]
  split <;> rfl

theorem dropSession_without (s : SessionId) :
    (e.without t).dropSession s = (e.dropSession s).without t := by
  unfold dropSession
  rw [session?_without]
  split <;> rfl

theorem takeFrame_without (s : SessionId) :
    (e.without t).takeFrame s = (e.takeFrame s).without t := by
  unfold takeFrame
  rw [session?_without, board_without]
  split
  · rename_i r line _ _
    split
    · rename_i m frames _
      exact emit_without ((e.withBoard (e.board.updateFrames (lineOf s) fun _ => frames)).setStage s
        (.driven r (.holding m))) t s
    · rfl
  · rfl

theorem frameWritten_without (s : SessionId) :
    (e.without t).frameWritten s = (e.frameWritten s).without t := by
  unfold frameWritten
  rw [session?_without]
  split <;> rfl

theorem writeFailed_without (s : SessionId) :
    (e.without t).writeFailed s = (e.writeFailed s).without t := by
  unfold writeFailed
  rw [session?_without]
  split <;> rfl

theorem starve_without (s : SessionId) : (e.without t).starve s = (e.starve s).without t := by
  unfold starve
  rw [session?_without, board_without]
  split
  · split
    · rw [hasSender_without]
      split <;> rfl
    · rfl
  · rfl

theorem cancel_without (s : SessionId) : (e.without t).cancel s = (e.cancel s).without t := by
  unfold cancel
  rw [session?_without]
  split
  · rw [isCancelled_without]
    split <;> rfl
  · rfl

theorem finishDriver_without (s : SessionId) :
    (e.without t).finishDriver s = (e.finishDriver s).without t := by
  unfold finishDriver
  rw [session?_without]
  split
  · split
    · split
      · dsimp only
        split <;> rfl
      · rfl
    · rfl
  · rfl

end

/-! ### Functions that read calls -/

/-- If call `t` is pending, it waits for no submission. -/
def NotSubmitting (e : Engine) (t : Nat) : Prop := ∀ c, e.calls.get? t = some c → submits c = false

section
variable {e : Engine} {t u : Nat}

theorem NotSubmitting.insert (h : NotSubmitting e t) (hu : u ≠ t) (c : Call) :
    NotSubmitting (e.await u c) t := by
  intro c' hc
  rw [await, Table.get?_insert, if_neg hu.symm] at hc
  exact h c' hc

theorem andThen_without {x : Effect} {f : Engine → Effect}
    (h : f (x.1.without t) = (f x.1).without t) :
    andThen (x.without t) f = (andThen x f).without t := by
  simp only [andThen, Effect.without, h]

theorem get?_without (hu : u ≠ t) : (e.without t).calls.get? u = e.calls.get? u := by
  rw [without, Table.get?_erase, if_neg hu]

theorem answer_without (r : CallResult) :
    (e.without t).answer u r = (e.answer u r).without t := by
  simp only [answer, without, Effect.without, Table.erase_comm e.calls t u]

theorem await_without (hu : u ≠ t) (c : Call) :
    (e.without t).await u c = (e.await u c).without t := by
  simp only [await, without, Table.erase_insert_of_ne e.calls hu]

theorem addPartySession_without (p : Party) (v : User) :
    (e.without t).addPartySession u p v = (e.addPartySession u p v).without t := by
  unfold addPartySession
  rw [board_without, config_without]
  cases e.board.addLine? e.config.sessionOutboundCapacity with
  | none => exact answer_without .panicked
  | some board => exact answer_without (e := { e.withBoard board with
      sessions := e.sessions.add
        ⟨v, .party (Poller.start p e.config.partyPollInterval e.now) false, .ready⟩
      opened := e.opened + 1 }) (.opened e.nextSession)

/-- A call that waits for no submission has no continuation. -/
theorem resume_without (h : NotSubmitting e t) (p : Producer) (b : Bool) :
    (e.without t).resume p b = (e.resume p b).without t := by
  cases p with
  | reader s => rfl
  | call u =>
    by_cases hu : u = t
    · subst hu
      have gone : (e.without u).calls.get? u = none := by simp [without, Table.get?_erase]
      unfold resume
      simp only [gone]
      cases hc : e.calls.get? u with
      | none => rfl
      | some c =>
        have idle := h c hc
        cases c with
        | heartbeat => cases idle
        | inbound => cases idle
        | openStatus => cases idle
        | openParty => cases idle
        | _ => rfl
    · unfold resume
      simp only [get?_without hu]
      cases hc : e.calls.get? u with
      | none => rfl
      | some c =>
        cases c with
        | heartbeat => exact answer_without _
        | inbound => exact answer_without _
        | openStatus s => exact answer_without (e := e.setStage s .ready) _
        | openParty p v => exact addPartySession_without p v
        | _ => rfl

theorem submitted_without (h : NotSubmitting e t) (p : Producer) (b : Bool) :
    (e.without t).submitted p b = (e.submitted p b).without t :=
  andThen_without (x := (e, [.returned (some p) b])) (resume_without h p b)

theorem submit_without (h : NotSubmitting e t) (p : Producer) (ev : Event) :
    (e.without t).submit p ev = (e.submit p ev).without t := by
  unfold submit
  rw [queue_without, now_without]
  obtain ⟨outcome, queue⟩ := e.queue.submit p ev e.now
  have later (b : Bool) : ({ e.without t with queue } : Engine).submitted p b =
      (({ e with queue } : Engine).submitted p b).without t :=
    submitted_without (e := { e with queue }) h p b
  cases outcome with
  | accepted => exact andThen_without (x := ({ e with queue }, [.accepted ev])) (later true)
  | dropped => exact andThen_without (x := ({ e with queue }, [.gaveUp ev])) (later false)
  | waiting => rfl

theorem giveUp_without (h : NotSubmitting e t) : (e.without t).giveUp = e.giveUp.without t := by
  unfold giveUp
  rw [queue_without, now_without]
  cases e.queue.giveUp? e.now with
  | none => rfl
  | some wq =>
    obtain ⟨w, queue⟩ := wq
    exact andThen_without (x := ({ e with queue }, [.gaveUp w.event]))
      (submitted_without (e := { e with queue }) h w.producer false)

theorem takeEvent_without (h : NotSubmitting e t) :
    (e.without t).takeEvent = e.takeEvent.without t := by
  unfold takeEvent
  rw [shutdown_without, queue_without, now_without]
  split
  · rfl
  · cases e.queue.take? with
    | none => rfl
    | some taken =>
      obtain ⟨ev, promoted, queue⟩ := taken
      cases promoted with
      | none => rfl
      | some w =>
        exact andThen_without
          (x := (e.begin ev queue, [.processed ev e.now, .accepted w.event]))
          (submitted_without (e := e.begin ev queue) h w.producer true)

theorem dispatchStep_without (h : NotSubmitting e t) :
    (e.without t).dispatchStep = e.dispatchStep.without t := by
  unfold dispatchStep
  rw [dispatcher_without]
  cases e.dispatcher with
  | idle => exact takeEvent_without h
  | notifying f => exact notifyStep_without e t f
  | stopped => rfl

theorem hear_without (h : NotSubmitting e t) (s : SessionId) (v : User) (w : Writer)
    (frame : Inflow) :
    (e.without t).hear s v w frame = (e.hear s v w frame).without t := by
  cases frame with
  | text text =>
    unfold hear
    dsimp only
    cases Inbound.parse text with
    | error _ => rfl
    | ok msg =>
      rw [board_without]
      cases e.board.deliver (lineOf s) .pong with
      | ok board =>
        exact andThen_without (x := (e.withBoard board, [.sent s .pong]))
          (submit_without (e := (e.withBoard board).setStage s (.driven .submitting w)) h _ _)
      | error _ =>
        exact andThen_without (x := (e, []))
          (submit_without (e := e.setStage s (.driven .submitting w)) h _ _)
  | _ => rfl

theorem read_without (h : NotSubmitting e t) (s : SessionId) (frame : Inflow) :
    (e.without t).read s frame = (e.read s frame).without t := by
  unfold read
  rw [session?_without]
  split
  · exact andThen_without (x := (e, [.heard s frame])) (hear_without h s _ _ frame)
  · rfl

theorem await_submit_without (h : NotSubmitting e t) (hu : u ≠ t) (c : Call) (p : Producer)
    (ev : Event) :
    ((e.without t).await u c).submit p ev = ((e.await u c).submit p ev).without t := by
  rw [await_without hu]
  exact submit_without (h.insert hu c) p ev

theorem startParty_without (h : NotSubmitting e t) (hu : u ≠ t) (m : Membership) :
    (e.without t).startParty u m = (e.startParty u m).without t := by
  unfold startParty
  rw [shutdown_without]
  split
  · exact answer_without _
  · exact await_submit_without h hu _ _ _

theorem authorize_without (hu : u ≠ t) (p : Party) (v : User) (opens : Bool) :
    (e.without t).authorize u p v opens = (e.authorize u p v opens).without t := by
  unfold authorize
  rw [shutdown_without]
  split
  · exact answer_without _
  · exact congrArg (·, []) (await_without hu _)

theorem openStatus_without (h : NotSubmitting e t) (hu : u ≠ t) (v : User) :
    (e.without t).openStatus u v = (e.openStatus u v).without t := by
  unfold openStatus
  rw [shutdown_without, board_without, config_without]
  split
  · exact answer_without _
  · cases hb : e.board.addLine? e.config.sessionOutboundCapacity with
    | none => exact answer_without _
    | some board =>
      have opened (e₁ : Engine) (h₁ : NotSubmitting e₁ t) (s : SessionId) :
          andThen ((e₁.without t).await u (.openStatus s), [.registered v s])
              (·.submit (.call u) (Event.mk v .connected)) =
            (andThen (e₁.await u (.openStatus s), [.registered v s])
              (·.submit (.call u) (Event.mk v .connected))).without t := by
        rw [await_without hu]
        exact andThen_without (x := (e₁.await u (.openStatus s), [.registered v s]))
          (submit_without (h₁.insert hu _) _ _)
      exact opened { e.withBoard (board.register v ⟨e.nextSession, lineOf e.nextSession⟩) with
        sessions := e.sessions.add ⟨v, .status, .opening⟩
        opened := e.opened + 1 } h e.nextSession

theorem inbound_without (h : NotSubmitting e t) (hu : u ≠ t) (v : User) (link : Handle)
    (text : String) :
    (e.without t).inbound u v link text = (e.inbound u v link text).without t := by
  unfold inbound
  cases Inbound.parse text with
  | error _ => exact answer_without _
  | ok msg =>
    dsimp only
    rw [board_without]
    cases e.board.deliver link.line .pong with
    | ok board =>
      exact andThen_without (x := (e.withBoard board, [.sent (link.line + 1) .pong]))
        (await_submit_without (e := e.withBoard board) h hu _ _ _)
    | error _ => exact andThen_without (x := (e, [])) (await_submit_without h hu _ _ _)

theorem lookupAnswered_without (h : NotSubmitting e t) (hu : u ≠ t)
    (g : Answer (Option Membership)) :
    (e.without t).lookupAnswered u g = (e.lookupAnswered u g).without t := by
  unfold lookupAnswered
  rw [get?_without hu]
  split
  · split
    · exact answer_without _
    · exact answer_without _
    · split
      · exact startParty_without h hu _
      · exact answer_without _
  · rfl

theorem friendsAnswered_without (hu : u ≠ t) (g : Answer (Graph .friends)) :
    (e.without t).friendsAnswered u g = (e.friendsAnswered u g).without t := by
  unfold friendsAnswered
  rw [get?_without hu, relations_without]
  split
  · split
    · exact answer_without _
    · rename_i n r _
      exact congrArg (·, []) (await_without (e := e.withRelations r) hu _)
  · rfl

theorem partiesAnswered_without (hu : u ≠ t) (g : Answer (Graph .parties)) :
    (e.without t).partiesAnswered u g = (e.partiesAnswered u g).without t := by
  unfold partiesAnswered
  rw [get?_without hu, relations_without]
  split
  · split
    · exact answer_without _
    · rename_i n r _
      exact answer_without (e := e.withRelations r) _
  · rfl

theorem stopped_without (hu : u ≠ t) : (e.without t).stopped u = (e.stopped u).without t := by
  unfold stopped
  rw [get?_without hu, workersStopped_without]
  split
  · split
    · exact answer_without _
    · rfl
  · rfl

theorem stop_without (hu : u ≠ t) : (e.without t).stop u = (e.stop u).without t := by
  unfold stop
  dsimp only
  rw [awaited_without]
  split
  · exact answer_without (e := { e with shutdown := true }) _
  · exact congrArg (·, [])
      (await_without (e := { e with shutdown := true, awaited := true }) hu .shutdown)

theorem dropCall_without (hu : u ≠ t) : (e.without t).dropCall u = (e.dropCall u).without t := by
  have left : { e.without t with
        calls := (e.without t).calls.erase u
        queue := e.queue.abandon (.call u) } =
      ({ e with
        calls := e.calls.erase u
        queue := e.queue.abandon (.call u) } : Engine).without t := by
    simp only [without, Table.erase_comm e.calls t u]
  unfold dropCall
  rw [get?_without hu, queue_without, left]
  split <;> rfl

/-- An action that is not about call `t` commutes with `without t`. -/
theorem step_without (h : NotSubmitting e t) (ht : t < e.tickets) {a : Action}
    (hc : a.concerns t = false) :
    (e.without t).step a = (e.step a).without t := by
  have new : e.tickets ≠ t := by omega
  have about {v : Nat} (hv : decide (v = t) = false) : v ≠ t := of_decide_eq_false hv
  -- calls get their ticket first, so their squares start from the next number of tickets
  cases a with
  | heartbeat u => exact await_submit_without (e := { e with tickets := e.tickets + 1 }) h new _ _ _
  | offer ev => exact offer_without e t ev
  | openStatus u => exact openStatus_without (e := { e with tickets := e.tickets + 1 }) h new u
  | authorize p u => exact authorize_without (e := { e with tickets := e.tickets + 1 }) new p u false
  | openParty p u => exact authorize_without (e := { e with tickets := e.tickets + 1 }) new p u true
  | startParty m => exact startParty_without (e := { e with tickets := e.tickets + 1 }) h new m
  | inbound u link text =>
    exact inbound_without (e := { e with tickets := e.tickets + 1 }) h new u link text
  | refreshNow =>
    exact congrArg (·, []) (await_without (e := { e with tickets := e.tickets + 1 }) new _)
  | closeSession u => exact congrArg (·, [Note.dismissed u]) (closeSession_without e t u)
  | dropCall u => exact congrArg (·, []) (dropCall_without (about hc))
  | shutdown => exact stop_without (e := { e with tickets := e.tickets + 1 }) new
  | deliver link text => exact post_without e t link text
  | lookupAnswered u g => exact lookupAnswered_without h (about hc) g
  | friendsAnswered u g => exact friendsAnswered_without (about hc) g
  | partiesAnswered u g => exact partiesAnswered_without (about hc) g
  | loopAnswered kind g => exact congrArg (·, []) (loopAnswered_without e t kind g)
  | giveUp => exact giveUp_without h
  | dispatch => exact dispatchStep_without h
  | wakeLoop kind => exact wakeLoop_without e t kind
  | stopLoop kind => exact congrArg (·, []) (stopLoop_without e t kind)
  | stopped u => exact stopped_without (about hc)
  | tick s => exact congrArg (·, []) (tick_without e t s)
  | emit s => exact emit_without e t s
  | finishPoller s => exact congrArg (·, []) (finishPoller_without e t s)
  | drive s => exact congrArg (·, []) (drive_without e t s)
  | dropSession s => exact congrArg (·, []) (dropSession_without e t s)
  | read s frame => exact read_without h s frame
  | takeFrame s => exact takeFrame_without e t s
  | frameWritten s => exact frameWritten_without e t s
  | writeFailed s => exact congrArg (·, []) (writeFailed_without e t s)
  | starve s => exact congrArg (·, []) (starve_without e t s)
  | cancel s => exact congrArg (·, []) (cancel_without e t s)
  | finishDriver s => exact finishDriver_without e t s
  | _ => rfl

end

end Presence.Engine
