import Presence.Proofs.Engine.Fetches
import Presence.Proofs.Engine.Shutdown

/-!
Interrupted refresh loops. Only a loop's own actions and `stopped` read the state of a loop, so
replacing it commutes with every other action (`step_withLoop`). A loop that is stopped before its
fetch is answered has the lists and counters of a loop that never started the fetch.
-/

namespace Presence.Engine

/-- Replaces the loop of a kind in an effect. -/
def Effect.withLoop (x : Effect) (kind : RefreshKind) (l : RefreshLoop) : Effect :=
  (x.1.withLoop kind l, x.2)

/-! ### Functions that do not read loops -/

section
variable (e : Engine) (kind : RefreshKind) (l : RefreshLoop)

theorem config_withLoop : (e.withLoop kind l).config = e.config := rfl

theorem board_withLoop : (e.withLoop kind l).board = e.board := rfl

theorem dispatcher_withLoop : (e.withLoop kind l).dispatcher = e.dispatcher := rfl

theorem session?_withLoop (s : SessionId) : (e.withLoop kind l).session? s = e.session? s := rfl

theorem status_withLoop : (e.withLoop kind l).status = e.status := rfl

theorem relations_withLoop : (e.withLoop kind l).relations = e.relations := rfl

theorem queue_withLoop : (e.withLoop kind l).queue = e.queue := rfl

theorem calls_withLoop : (e.withLoop kind l).calls = e.calls := rfl

theorem shutdown_withLoop : (e.withLoop kind l).shutdown = e.shutdown := rfl

theorem awaited_withLoop : (e.withLoop kind l).awaited = e.awaited := rfl

theorem pollerRuns_withLoop (stopped : Bool) :
    (e.withLoop kind l).pollerRuns stopped = e.pollerRuns stopped := rfl

theorem isCancelled_withLoop (s : SessionId) (x : Session) :
    (e.withLoop kind l).isCancelled s x = e.isCancelled s x := rfl

theorem hasSender_withLoop (s : SessionId) (x : Session) :
    (e.withLoop kind l).hasSender s x = e.hasSender s x := rfl

theorem andThen_withLoop {x : Effect} {f : Engine → Effect}
    (h : f (x.1.withLoop kind l) = (f x.1).withLoop kind l) :
    andThen (x.withLoop kind l) f = (andThen x f).withLoop kind l := by
  simp only [andThen, Effect.withLoop, h]

/-! #### Submissions -/

theorem addPartySession_withLoop (t : Nat) (p : Party) (u : User) :
    (e.withLoop kind l).addPartySession t p u = (e.addPartySession t p u).withLoop kind l := by
  unfold addPartySession
  rw [board_withLoop, config_withLoop]
  split <;> rfl

theorem resume_withLoop (p : Producer) (b : Bool) :
    (e.withLoop kind l).resume p b = (e.resume p b).withLoop kind l := by
  cases p with
  | reader s => rfl
  | call t =>
    unfold resume
    simp only [calls_withLoop]
    split
    · rfl
    · rfl
    · rfl
    · exact addPartySession_withLoop e kind l t _ _
    · rfl

theorem submitted_withLoop (p : Producer) (b : Bool) :
    (e.withLoop kind l).submitted p b = (e.submitted p b).withLoop kind l :=
  andThen_withLoop kind l (x := (e, [.returned (some p) b])) (resume_withLoop e kind l p b)

theorem submit_withLoop (p : Producer) (ev : Event) :
    (e.withLoop kind l).submit p ev = (e.submit p ev).withLoop kind l := by
  unfold submit
  rw [queue_withLoop, now_withLoop]
  obtain ⟨outcome, queue⟩ := e.queue.submit p ev e.now
  have later (b : Bool) : ({ e.withLoop kind l with queue } : Engine).submitted p b =
      (({ e with queue } : Engine).submitted p b).withLoop kind l :=
    submitted_withLoop { e with queue } kind l p b
  cases outcome with
  | accepted => exact andThen_withLoop kind l (x := ({ e with queue }, [.accepted ev])) (later true)
  | dropped => exact andThen_withLoop kind l (x := ({ e with queue }, [.gaveUp ev])) (later false)
  | waiting => rfl

theorem await_submit_withLoop (t : Nat) (c : Call) (p : Producer) (ev : Event) :
    ((e.withLoop kind l).await t c).submit p ev = ((e.await t c).submit p ev).withLoop kind l :=
  submit_withLoop (e.await t c) kind l p ev

theorem offer_withLoop (ev : Event) :
    (e.withLoop kind l).offer ev = (e.offer ev).withLoop kind l := by
  unfold offer
  rw [queue_withLoop]
  split <;> rfl

theorem giveUp_withLoop : (e.withLoop kind l).giveUp = e.giveUp.withLoop kind l := by
  unfold giveUp
  rw [queue_withLoop, now_withLoop]
  cases e.queue.giveUp? e.now with
  | none => rfl
  | some wq =>
    obtain ⟨w, queue⟩ := wq
    exact andThen_withLoop kind l (x := ({ e with queue }, [.gaveUp w.event]))
      (submitted_withLoop { e with queue } kind l w.producer false)

/-! #### The dispatcher -/

theorem takeEvent_withLoop : (e.withLoop kind l).takeEvent = e.takeEvent.withLoop kind l := by
  unfold takeEvent
  rw [shutdown_withLoop, queue_withLoop, now_withLoop]
  split
  · rfl
  · cases e.queue.take? with
    | none => rfl
    | some taken =>
      obtain ⟨ev, promoted, queue⟩ := taken
      cases promoted with
      | none => rfl
      | some w =>
        exact andThen_withLoop kind l
          (x := (e.begin ev queue, [.processed ev e.now, .accepted w.event]))
          (submitted_withLoop (e.begin ev queue) kind l w.producer true)

theorem notifyStep_withLoop (f : Fanout) :
    (e.withLoop kind l).notifyStep f = (e.notifyStep f).withLoop kind l := by
  unfold notifyStep
  rw [board_withLoop]
  split
  · split
    · rfl
    · split <;> rfl
  · dsimp only
    split <;> rfl
  · rfl

theorem dispatchStep_withLoop :
    (e.withLoop kind l).dispatchStep = e.dispatchStep.withLoop kind l := by
  unfold dispatchStep
  rw [dispatcher_withLoop]
  split
  · exact takeEvent_withLoop e kind l
  · exact notifyStep_withLoop e kind l _
  · rfl

/-! #### Calls -/

theorem closeSession_withLoop (u : User) :
    ((e.withLoop kind l).closeSession u).2 = (e.closeSession u).2.withLoop kind l := by
  unfold closeSession
  rw [board_withLoop]
  split <;> rfl

theorem post_withLoop (h : Handle) (text : String) :
    (e.withLoop kind l).post h text = (e.post h text).withLoop kind l := by
  unfold post
  rw [board_withLoop]
  split <;> rfl

theorem openStatus_withLoop (t : Nat) (u : User) :
    (e.withLoop kind l).openStatus t u = (e.openStatus t u).withLoop kind l := by
  unfold openStatus
  rw [shutdown_withLoop, board_withLoop, config_withLoop]
  split
  · rfl
  · split
    · rfl
    · rename_i board _
      have opened (e₁ : Engine) (s : SessionId) :
          andThen ((e₁.withLoop kind l).await t (.openStatus s), [.registered u s])
              (·.submit (.call t) (Event.mk u .connected)) =
            (andThen (e₁.await t (.openStatus s), [.registered u s])
              (·.submit (.call t) (Event.mk u .connected))).withLoop kind l :=
        andThen_withLoop kind l (x := (e₁.await t (.openStatus s), [.registered u s]))
          (await_submit_withLoop e₁ kind l t _ _ _)
      exact opened { e.withBoard (board.register u ⟨e.nextSession, lineOf e.nextSession⟩) with
        sessions := e.sessions.add ⟨u, .status, .opening⟩
        opened := e.opened + 1 } e.nextSession

theorem authorize_withLoop (t : Nat) (p : Party) (u : User) (opens : Bool) :
    (e.withLoop kind l).authorize t p u opens = (e.authorize t p u opens).withLoop kind l := by
  unfold authorize
  rw [shutdown_withLoop]
  split <;> rfl

theorem startParty_withLoop (t : Nat) (m : Membership) :
    (e.withLoop kind l).startParty t m = (e.startParty t m).withLoop kind l := by
  unfold startParty
  rw [shutdown_withLoop]
  split
  · rfl
  · exact await_submit_withLoop e kind l t _ _ _

theorem inbound_withLoop (t : Nat) (u : User) (h : Handle) (text : String) :
    (e.withLoop kind l).inbound t u h text = (e.inbound t u h text).withLoop kind l := by
  unfold inbound
  split
  · rfl
  · rw [board_withLoop]
    split
    · rename_i board _
      exact andThen_withLoop kind l (x := (e.withBoard board, [.sent (h.line + 1) .pong]))
        (await_submit_withLoop (e.withBoard board) kind l t _ _ _)
    · exact andThen_withLoop kind l (x := (e, [])) (await_submit_withLoop e kind l t _ _ _)

theorem lookupAnswered_withLoop (t : Nat) (g : Answer (Option Membership)) :
    (e.withLoop kind l).lookupAnswered t g = (e.lookupAnswered t g).withLoop kind l := by
  unfold lookupAnswered
  rw [calls_withLoop]
  split
  · split
    · rfl
    · rfl
    · split
      · exact startParty_withLoop e kind l t _
      · rfl
  · rfl

theorem friendsAnswered_withLoop (t : Nat) (g : Answer (Graph .friends)) :
    (e.withLoop kind l).friendsAnswered t g = (e.friendsAnswered t g).withLoop kind l := by
  unfold friendsAnswered
  rw [calls_withLoop, relations_withLoop]
  split
  · split <;> rfl
  · rfl

theorem partiesAnswered_withLoop (t : Nat) (g : Answer (Graph .parties)) :
    (e.withLoop kind l).partiesAnswered t g = (e.partiesAnswered t g).withLoop kind l := by
  unfold partiesAnswered
  rw [calls_withLoop, relations_withLoop]
  split
  · split <;> rfl
  · rfl

theorem stop_withLoop (t : Nat) : (e.withLoop kind l).stop t = (e.stop t).withLoop kind l := by
  unfold stop
  dsimp only
  rw [awaited_withLoop]
  split <;> rfl

theorem dropCall_withLoop (t : Nat) :
    (e.withLoop kind l).dropCall t = (e.dropCall t).withLoop kind l := by
  unfold dropCall
  rw [calls_withLoop]
  split <;> rfl

/-! #### Sessions -/

theorem tick_withLoop (s : SessionId) :
    (e.withLoop kind l).tick s = (e.tick s).withLoop kind l := by
  unfold tick
  rw [session?_withLoop]
  split
  · rw [pollerRuns_withLoop, status_withLoop, relations_withLoop, now_withLoop]
    split
    · split <;> rfl
    · rfl
  · rfl

theorem emit_withLoop (s : SessionId) :
    (e.withLoop kind l).emit s = (e.emit s).withLoop kind l := by
  unfold emit
  rw [session?_withLoop, board_withLoop]
  split
  · rw [pollerRuns_withLoop]
    split
    · split <;> rfl
    · rfl
  · rfl

theorem finishPoller_withLoop (s : SessionId) :
    (e.withLoop kind l).finishPoller s = (e.finishPoller s).withLoop kind l := by
  unfold finishPoller
  rw [session?_withLoop]
  split
  · rw [pollerRuns_withLoop]
    split <;> rfl
  · rfl

theorem drive_withLoop (s : SessionId) :
    (e.withLoop kind l).drive s = (e.drive s).withLoop kind l := by
  unfold drive
  rw [session?_withLoop]
  split <;> rfl

theorem dropSession_withLoop (s : SessionId) :
    (e.withLoop kind l).dropSession s = (e.dropSession s).withLoop kind l := by
  unfold dropSession
  rw [session?_withLoop]
  split <;> rfl

theorem hear_withLoop (s : SessionId) (u : User) (w : Writer) (frame : Inflow) :
    (e.withLoop kind l).hear s u w frame = (e.hear s u w frame).withLoop kind l := by
  cases frame with
  | text text =>
    unfold hear
    dsimp only
    split
    · rfl
    · rw [board_withLoop]
      split
      · rename_i board _
        exact andThen_withLoop kind l (x := (e.withBoard board, [.sent s .pong]))
          (submit_withLoop ((e.withBoard board).setStage s (.driven .submitting w)) kind l _ _)
      · exact andThen_withLoop kind l (x := (e, []))
          (submit_withLoop (e.setStage s (.driven .submitting w)) kind l _ _)
  | _ => rfl

theorem read_withLoop (s : SessionId) (frame : Inflow) :
    (e.withLoop kind l).read s frame = (e.read s frame).withLoop kind l := by
  unfold read
  rw [session?_withLoop]
  split
  · exact andThen_withLoop kind l (x := (e, [.heard s frame])) (hear_withLoop e kind l s _ _ frame)
  · rfl

theorem takeFrame_withLoop (s : SessionId) :
    (e.withLoop kind l).takeFrame s = (e.takeFrame s).withLoop kind l := by
  unfold takeFrame
  rw [session?_withLoop, board_withLoop]
  split
  · rename_i r line _ _
    split
    · rename_i m frames _
      exact emit_withLoop ((e.withBoard (e.board.updateFrames (lineOf s) fun _ => frames)).setStage s
        (.driven r (.holding m))) kind l s
    · rfl
  · rfl

theorem frameWritten_withLoop (s : SessionId) :
    (e.withLoop kind l).frameWritten s = (e.frameWritten s).withLoop kind l := by
  unfold frameWritten
  rw [session?_withLoop]
  split <;> rfl

theorem writeFailed_withLoop (s : SessionId) :
    (e.withLoop kind l).writeFailed s = (e.writeFailed s).withLoop kind l := by
  unfold writeFailed
  rw [session?_withLoop]
  split <;> rfl

theorem starve_withLoop (s : SessionId) :
    (e.withLoop kind l).starve s = (e.starve s).withLoop kind l := by
  unfold starve
  rw [session?_withLoop, board_withLoop]
  split
  · split
    · rw [hasSender_withLoop]
      split <;> rfl
    · rfl
  · rfl

theorem cancel_withLoop (s : SessionId) :
    (e.withLoop kind l).cancel s = (e.cancel s).withLoop kind l := by
  unfold cancel
  rw [session?_withLoop]
  split
  · rw [isCancelled_withLoop]
    split <;> rfl
  · rfl

theorem finishDriver_withLoop (s : SessionId) :
    (e.withLoop kind l).finishDriver s = (e.finishDriver s).withLoop kind l := by
  unfold finishDriver
  rw [session?_withLoop]
  split
  · split
    · split
      · dsimp only
        split <;> rfl
      · rfl
    · rfl
  · rfl

end

/-! ### Functions that read loops -/

/-- Loops with the same counters, both stopped or neither. -/
structure Alike (l l' : RefreshLoop) : Prop where
  ok : l'.ok = l.ok
  err : l'.err = l.err
  stopped : l'.isStopped = l.isStopped

/-- Actions of a loop's cycle: the start of a fetch and its answer. -/
def Action.isCycle (kind : RefreshKind) : Action → Bool
  | .wakeLoop k => k = kind
  | .loopAnswered k _ => k = kind
  | _ => false

/-- Answers to the fetch of a loop. -/
def Action.answersLoop (kind : RefreshKind) : Action → Bool
  | .loopAnswered k _ => k = kind
  | _ => false

section
variable {e : Engine} {kind k : RefreshKind} {l l' : RefreshLoop} {a : Action}

theorem Alike.refl (l : RefreshLoop) : Alike l l := ⟨rfl, rfl, rfl⟩

theorem withLoop_loop : e.withLoop kind (e.loop kind) = e := by
  cases kind <;> rfl

theorem withLoop_withLoop : (e.withLoop kind l).withLoop kind l' = e.withLoop kind l' := by
  cases kind <;> rfl

theorem withLoop_comm (h : k ≠ kind) :
    (e.withLoop kind l).withLoop k l' = (e.withLoop k l').withLoop kind l := by
  cases kind with
  | friends =>
    cases k with
    | friends => exact absurd rfl h
    | parties => rfl
  | parties =>
    cases k with
    | friends => rfl
    | parties => exact absurd rfl h

theorem loop_withLoop_self : (e.withLoop kind l).loop kind = l := by
  rw [loop_withLoop, if_pos rfl]

theorem loop_withLoop_of_ne (h : k ≠ kind) : (e.withLoop kind l).loop k = e.loop k := by
  rw [loop_withLoop, if_neg h]

theorem metrics_withLoop (h : Alike (e.loop kind) l) :
    (e.withLoop kind l).metrics = e.metrics := by
  cases kind with
  | friends =>
    show { e.metrics with friendsRefreshOk := l.ok, friendsRefreshErr := l.err } = _
    rw [h.ok, h.err]
    rfl
  | parties =>
    show { e.metrics with partyRefreshOk := l.ok, partyRefreshErr := l.err } = _
    rw [h.ok, h.err]
    rfl

theorem workersStopped_withLoop (h : Alike (e.loop kind) l) :
    (e.withLoop kind l).workersStopped = e.workersStopped := by
  cases kind with
  | friends =>
    show (_ && l.isStopped && _) = _
    rw [h.stopped]
    rfl
  | parties =>
    show (_ && _ && l.isStopped) = _
    rw [h.stopped]
    rfl

theorem stopped_withLoop (h : Alike (e.loop kind) l) (t : Nat) :
    (e.withLoop kind l).stopped t = (e.stopped t).withLoop kind l := by
  unfold stopped
  rw [calls_withLoop, workersStopped_withLoop h]
  split
  · split <;> rfl
  · rfl

theorem wakeLoop_withLoop (h : k ≠ kind) :
    (e.withLoop kind l).wakeLoop k = (e.wakeLoop k).withLoop kind l := by
  unfold wakeLoop
  rw [shutdown_withLoop, loop_withLoop_of_ne h, now_withLoop]
  split
  · rfl
  · split
    · exact congrArg (·, _) (withLoop_comm h)
    · rfl

theorem loopAnswered_withLoop (h : k ≠ kind) (g : Answer (Graph k)) :
    (e.withLoop kind l).loopAnswered k g = (e.loopAnswered k g).withLoop kind l := by
  unfold loopAnswered
  rw [shutdown_withLoop, loop_withLoop_of_ne h, relations_withLoop, now_withLoop]
  split
  · rfl
  · split
    · rename_i l₁ r _
      exact withLoop_comm (e := e.withRelations r) h
    · rfl

theorem stopLoop_withLoop (h : k ≠ kind) :
    (e.withLoop kind l).stopLoop k = (e.stopLoop k).withLoop kind l := by
  unfold stopLoop
  rw [shutdown_withLoop, loop_withLoop_of_ne h]
  split
  · exact withLoop_comm h
  · rfl

/-- An action that is not the loop's own commutes with `withLoop`. -/
theorem step_withLoop (hc : a.isCycle kind = false) (hs : a ≠ .stopLoop kind)
    (hl : Alike (e.loop kind) l) : (e.withLoop kind l).step a = (e.step a).withLoop kind l := by
  cases a with
  | heartbeat u => exact await_submit_withLoop { e with tickets := e.tickets + 1 } kind l _ _ _ _
  | offer ev => exact offer_withLoop e kind l ev
  | openStatus u => exact openStatus_withLoop { e with tickets := e.tickets + 1 } kind l _ u
  | authorize p u => exact authorize_withLoop { e with tickets := e.tickets + 1 } kind l _ p u false
  | openParty p u => exact authorize_withLoop { e with tickets := e.tickets + 1 } kind l _ p u true
  | startParty m => exact startParty_withLoop { e with tickets := e.tickets + 1 } kind l _ m
  | inbound u h text =>
    exact inbound_withLoop { e with tickets := e.tickets + 1 } kind l _ u h text
  | closeSession u => exact congrArg (·, [Note.dismissed u]) (closeSession_withLoop e kind l u)
  | dropCall t => exact congrArg (·, []) (dropCall_withLoop e kind l t)
  | shutdown => exact stop_withLoop { e with tickets := e.tickets + 1 } kind l _
  | deliver h text => exact post_withLoop e kind l h text
  | lookupAnswered t g => exact lookupAnswered_withLoop e kind l t g
  | friendsAnswered t g => exact friendsAnswered_withLoop e kind l t g
  | partiesAnswered t g => exact partiesAnswered_withLoop e kind l t g
  | loopAnswered k g =>
    exact congrArg (·, []) (loopAnswered_withLoop (of_decide_eq_false hc) g)
  | giveUp => exact giveUp_withLoop e kind l
  | dispatch => exact dispatchStep_withLoop e kind l
  | wakeLoop k => exact wakeLoop_withLoop (of_decide_eq_false hc)
  | stopLoop k =>
    exact congrArg (·, []) (stopLoop_withLoop fun hk => hs (congrArg Action.stopLoop hk))
  | stopped t => exact stopped_withLoop hl t
  | tick s => exact congrArg (·, []) (tick_withLoop e kind l s)
  | emit s => exact emit_withLoop e kind l s
  | finishPoller s => exact congrArg (·, []) (finishPoller_withLoop e kind l s)
  | drive s => exact congrArg (·, []) (drive_withLoop e kind l s)
  | dropSession s => exact congrArg (·, []) (dropSession_withLoop e kind l s)
  | read s frame => exact read_withLoop e kind l s frame
  | takeFrame s => exact takeFrame_withLoop e kind l s
  | frameWritten s => exact frameWritten_withLoop e kind l s
  | writeFailed s => exact congrArg (·, []) (writeFailed_withLoop e kind l s)
  | starve s => exact congrArg (·, []) (starve_withLoop e kind l s)
  | cancel s => exact congrArg (·, []) (cancel_withLoop e kind l s)
  | finishDriver s => exact finishDriver_withLoop e kind l s
  | _ => rfl

/-- An action that is not the loop's own keeps the loop. -/
theorem loop_step (hc : a.isCycle kind = false) (hs : a ≠ .stopLoop kind) :
    (e.step a).1.loop kind = e.loop kind := by
  have same := step_withLoop hc hs (.refl (e.loop kind))
  rw [withLoop_loop] at same
  calc (e.step a).1.loop kind
      = ((e.step a).1.withLoop kind (e.loop kind)).loop kind := congrArg (·.1.loop kind) same
    _ = e.loop kind := loop_withLoop_self

/-- A step preserves `Alike`. -/
theorem step_alike (hc : a.isCycle kind = false) (hl : Alike (e.loop kind) l) :
    ∃ l', Alike ((e.step a).1.loop kind) l' ∧
      ((e.withLoop kind l).step a).1 = (e.step a).1.withLoop kind l' := by
  by_cases hs : a = .stopLoop kind
  · subst hs
    show ∃ l', Alike ((e.stopLoop kind).loop kind) l' ∧
      (e.withLoop kind l).stopLoop kind = (e.stopLoop kind).withLoop kind l'
    unfold stopLoop
    rw [shutdown_withLoop, loop_withLoop_self]
    split
    · refine ⟨l.stop, ?_, ?_⟩
      · rw [loop_withLoop_self]
        exact ⟨hl.ok, hl.err, rfl⟩
      · rw [withLoop_withLoop, withLoop_withLoop]
    · exact ⟨l, hl, rfl⟩
  · refine ⟨l, ?_, congrArg Prod.fst (step_withLoop hc hs hl)⟩
    rwa [loop_step hc hs]

/-- Starting a fetch preserves `Alike`. -/
theorem wakeLoop_alike (hl : Alike (e.loop kind) l) :
    Alike ((e.wakeLoop kind).1.loop kind) l ∧
      (e.wakeLoop kind).1.withLoop kind l = e.withLoop kind l := by
  unfold wakeLoop
  split
  · exact ⟨hl, rfl⟩
  · split
    · rename_i l₁ hw
      refine ⟨?_, withLoop_withLoop⟩
      rw [loop_withLoop_self]
      have stopped := hl.stopped
      unfold RefreshLoop.wake? at hw
      split at hw
      · rename_i wake hp
        split at hw
        · cases hw
          refine ⟨hl.ok, hl.err, stopped.trans ?_⟩
          simp [RefreshLoop.isStopped, hp]
        · cases hw
      · cases hw
    · exact ⟨hl, rfl⟩

theorem shutdown_step (h : e.shutdown = true) (a : Action) : (e.step a).1.shutdown = true :=
  (run_muted h [a]).1

/-- A run in which no fetch of the loop is answered reaches the same state as the run without the
loop's cycles, up to `Alike`. -/
theorem run_alike (as : List Action) (hl : Alike (e.loop kind) l)
    (h : e.shutdown = true ∨ ∀ a ∈ as, a.answersLoop kind = false) :
    ∃ l', Alike ((e.run as).1.loop kind) l' ∧
      ((e.withLoop kind l).run (as.filter fun a => !a.isCycle kind)).1 =
        (e.run as).1.withLoop kind l' := by
  -- a cycle changes nothing but the loop, and that up to `Alike`; other actions commute with
  -- `withLoop`
  induction as generalizing e l with
  | nil => exact ⟨l, hl, rfl⟩
  | cons a as ih =>
    have later : (e.step a).1.shutdown = true ∨ ∀ b ∈ as, b.answersLoop kind = false :=
      h.imp (shutdown_step · a) fun hb b hin => hb b (List.mem_cons_of_mem a hin)
    by_cases hc : a.isCycle kind = true
    · rw [List.filter_cons_of_neg (by simp [hc])]
      have idle : Alike ((e.step a).1.loop kind) l ∧
          (e.step a).1.withLoop kind l = e.withLoop kind l := by
        cases a with
        | wakeLoop k =>
          obtain rfl : k = kind := of_decide_eq_true hc
          exact wakeLoop_alike hl
        | loopAnswered k g =>
          rcases h with hs | hb
          · have unheard : e.loopAnswered k g = e := by
              unfold loopAnswered
              rw [if_pos hs]
            show Alike ((e.loopAnswered k g).loop kind) l ∧ _ = _
            rw [unheard]
            exact ⟨hl, congrArg (·.withLoop kind l) unheard⟩
          · have := hb _ List.mem_cons_self
            exact absurd (this.symm.trans hc) Bool.false_ne_true
        | _ => cases hc
      rw [← idle.2]
      exact ih idle.1 later
    · have hc : a.isCycle kind = false := by simpa using hc
      rw [List.filter_cons_of_pos (by simp [hc])]
      obtain ⟨l₁, hl₁, hstep⟩ := step_alike hc hl
      obtain ⟨l₂, hl₂, hrun⟩ := ih hl₁ later
      refine ⟨l₂, hl₂, ?_⟩
      show (((e.withLoop kind l).step a).1.run _).1 = _
      rw [hstep]
      exact hrun

end

end Presence.Engine
