import Presence.Proofs.Engine.Lifecycle
import Presence.Proofs.Engine.Readers

/-!
Independence of the session kind. Reading, submitting and dispatching do not read whether a session
is a status or a party session: `plain s` forgets the kind of session `s`, and every action that
does not read the kind commutes with it.
-/

namespace Presence

namespace Roster

/-- Commuting updates that agree where both apply. -/
theorem update_comm {r : Roster} {s t : SessionId} {f g : Session → Session}
    (h : s = t → ∀ x, f (g x) = g (f x)) :
    (r.update t g).update s f = (r.update s f).update t g := by
  apply ext
  intro v
  simp only [get?_update]
  by_cases hs : v = s
  · by_cases ht : v = t
    · rw [if_pos hs, if_pos ht, if_pos ht, if_pos hs]
      cases r.get? v with
      | none => rfl
      | some x => exact congrArg some (h (hs.symm.trans ht) x)
    · rw [if_pos hs, if_neg ht, if_neg ht, if_pos hs]
  · by_cases ht : v = t
    · rw [if_neg hs, if_pos ht, if_pos ht, if_neg hs]
    · rw [if_neg hs, if_neg ht, if_neg ht, if_neg hs]

/-- Updating an existing session commutes with adding one. -/
theorem update_add {r : Roster} {s : SessionId} {f : Session → Session} {x : Session}
    (h : s ≠ r.next) : (r.add x).update s f = (r.update s f).add x := by
  have next : (r.update s f).next = r.next := congrArg (· + 1) (length_update f)
  apply ext
  intro t
  rw [get?_update, get?_add, get?_add, get?_update, next]
  by_cases ht : t = s
  · rw [if_pos ht, if_neg (ht ▸ h), if_neg (ht ▸ h), if_pos ht]
  · rw [if_neg ht, if_neg ht]

/-- Of two updates the second absorbs the first, if it does not read what that changed. -/
theorem update_update {r : Roster} {s : SessionId} {f g : Session → Session}
    (h : ∀ x, f (g x) = f x) : (r.update s g).update s f = r.update s f := by
  apply ext
  intro t
  rw [get?_update, get?_update, get?_update]
  by_cases ht : t = s
  · rw [if_pos ht, if_pos ht, if_pos ht, Option.map_map]
    exact congrArg (Option.map · (r.get? t)) (funext h)
  · rw [if_neg ht, if_neg ht, if_neg ht]

end Roster

namespace Engine

/-- The engine with another kind for session `s`. -/
def recast (e : Engine) (s : SessionId) (role : Role) : Engine :=
  e.updateSession s fun x => { x with role }

/-- The engine without the kind of session `s`. -/
def plain (e : Engine) (s : SessionId) : Engine := e.recast s .status

/-- Forgets the kind of session `s` in an effect. -/
def Effect.plain (x : Effect) (s : SessionId) : Effect := (x.1.plain s, x.2)

section
variable {e : Engine} {s t : SessionId}

theorem sessions_inj {r r' : Roster} (h : r = r') :
    ({ e with sessions := r } : Engine) = { e with sessions := r' } := by
  rw [h]

theorem plain_recast (role : Role) : (e.recast s role).plain s = e.plain s :=
  sessions_inj (Roster.update_update fun _ => rfl)

theorem andThen_plain {x : Effect} {f : Engine → Effect} (h : f (x.1.plain s) = (f x.1).plain s) :
    andThen (x.plain s) f = (andThen x f).plain s := by
  simp only [andThen, Effect.plain, h]

/-- Updates that do not read the kind commute with `plain`. -/
theorem updateSession_plain {f : Session → Session}
    (hf : ∀ x, ({ f x with role := .status } : Session) = f { x with role := .status }) :
    (e.plain s).updateSession t f = (e.updateSession t f).plain s :=
  sessions_inj (Roster.update_comm fun _ x => (hf x).symm)

theorem setStage_plain (stage : Stage) :
    (e.plain s).setStage t stage = (e.setStage t stage).plain s :=
  updateSession_plain fun _ => rfl

theorem nextSession_recast {role : Role} : (e.recast s role).nextSession = e.nextSession :=
  congrArg (· + 1) (Roster.length_update _)

theorem addPartySession_plain (hs : s ≠ e.nextSession) (ticket : Nat) (p : Party) (u : User) :
    (e.plain s).addPartySession ticket p u = (e.addPartySession ticket p u).plain s := by
  have board : (e.plain s).board = e.board := rfl
  have config : (e.plain s).config = e.config := rfl
  have next : (e.plain s).nextSession = e.nextSession := nextSession_recast
  unfold addPartySession
  rw [board, config, next]
  cases e.board.addLine? e.config.sessionOutboundCapacity with
  | none => rfl
  | some board =>
    refine congrArg (·, _) (sessions_inj (e := { e.withBoard board with
      calls := e.calls.erase ticket
      opened := e.opened + 1 }) (Roster.update_add hs).symm)

/-- The continuation of a producer commutes with `plain`. -/
theorem resume_plain (hs : s ≠ e.nextSession) (p : Producer) (b : Bool) :
    (e.plain s).resume p b = (e.resume p b).plain s := by
  cases p with
  | reader t =>
    refine congrArg (·, []) (updateSession_plain fun x => ?_)
    obtain ⟨user, role, stage⟩ := x
    cases stage with
    | driven => rfl
    | _ => rfl
  | call u =>
    have calls : (e.plain s).calls = e.calls := rfl
    unfold resume
    simp only [calls]
    cases e.calls.get? u with
    | none => rfl
    | some c =>
      cases c with
      | openStatus t =>
        show ((e.plain s).setStage t .ready).answer u (.opened t) = _
        rw [setStage_plain]
        rfl
      | openParty p v =>
        exact addPartySession_plain hs u p v
      | _ => rfl

theorem submitted_plain (hs : s ≠ e.nextSession) (p : Producer) (b : Bool) :
    (e.plain s).submitted p b = (e.submitted p b).plain s :=
  andThen_plain (x := (e, [.returned (some p) b])) (resume_plain hs p b)

theorem submit_plain (hs : s ≠ e.nextSession) (p : Producer) (ev : Event) :
    (e.plain s).submit p ev = (e.submit p ev).plain s := by
  have queue : (e.plain s).queue = e.queue := rfl
  have now : (e.plain s).now = e.now := rfl
  unfold submit
  rw [queue, now]
  obtain ⟨outcome, queue⟩ := e.queue.submit p ev e.now
  have later (b : Bool) : ({ e.plain s with queue } : Engine).submitted p b =
      (({ e with queue } : Engine).submitted p b).plain s :=
    submitted_plain (e := { e with queue }) hs p b
  cases outcome with
  | accepted => exact andThen_plain (x := ({ e with queue }, [.accepted ev])) (later true)
  | dropped => exact andThen_plain (x := ({ e with queue }, [.gaveUp ev])) (later false)
  | waiting => rfl

theorem giveUp_plain (hs : s ≠ e.nextSession) : (e.plain s).giveUp = e.giveUp.plain s := by
  have queue : (e.plain s).queue = e.queue := rfl
  have now : (e.plain s).now = e.now := rfl
  unfold giveUp
  rw [queue, now]
  cases e.queue.giveUp? e.now with
  | none => rfl
  | some wq =>
    obtain ⟨w, queue⟩ := wq
    exact andThen_plain (x := ({ e with queue }, [.gaveUp w.event]))
      (submitted_plain (e := { e with queue }) hs w.producer false)

theorem takeEvent_plain (hs : s ≠ e.nextSession) :
    (e.plain s).takeEvent = e.takeEvent.plain s := by
  have shutdown : (e.plain s).shutdown = e.shutdown := rfl
  have queue : (e.plain s).queue = e.queue := rfl
  have now : (e.plain s).now = e.now := rfl
  unfold takeEvent
  rw [shutdown, queue, now]
  split
  · rfl
  · cases e.queue.take? with
    | none => rfl
    | some taken =>
      obtain ⟨ev, promoted, queue⟩ := taken
      cases promoted with
      | none => rfl
      | some w =>
        exact andThen_plain
          (x := (e.begin ev queue, [.processed ev e.now, .accepted w.event]))
          (submitted_plain (e := e.begin ev queue) hs w.producer true)

theorem notifyStep_plain (f : Fanout) : (e.plain s).notifyStep f = (e.notifyStep f).plain s := by
  have board : (e.plain s).board = e.board := rfl
  unfold notifyStep
  rw [board]
  split
  · split
    · rfl
    · split
      · rfl
      · rfl
  · dsimp only
    split
    · rfl
    · rfl
    · rfl
  · rfl

theorem dispatchStep_plain (hs : s ≠ e.nextSession) :
    (e.plain s).dispatchStep = e.dispatchStep.plain s := by
  have dispatcher : (e.plain s).dispatcher = e.dispatcher := rfl
  unfold dispatchStep
  rw [dispatcher]
  cases e.dispatcher with
  | idle => exact takeEvent_plain hs
  | notifying f => exact notifyStep_plain f
  | stopped => rfl

/-! ### Drivers -/

/-- Without the kind of `s`, the roster is the same but for that kind. -/
theorem session?_plain :
    (e.session? t = none → (e.plain s).session? t = none) ∧
      ∀ {x}, e.session? t = some x → ∃ role, (e.plain s).session? t = some { x with role } := by
  have changed : (e.plain s).session? t =
      if t = s then (e.session? t).map fun x => { x with role := .status } else e.session? t :=
    Roster.get?_update _
  rw [changed]
  by_cases ht : t = s
  · rw [if_pos ht]
    exact ⟨fun h => by rw [h]; rfl, fun h => ⟨.status, by rw [h]; rfl⟩⟩
  · rw [if_neg ht]
    exact ⟨id, fun {x} h => ⟨x.role, h⟩⟩

/-- Departing commutes with `plain`. -/
theorem depart_plain (stage : Stage) :
    (e.plain s).depart t stage = (e.depart t stage).plain s := by
  refine sessions_inj (e := e.depart t stage) (Roster.update_comm fun _ x => ?_)
  obtain ⟨user, role, _⟩ := x
  cases role with
  | status => rfl
  | party => rfl

theorem tryPong_plain : (e.plain s).tryPong t = (e.tryPong t).plain s := by
  have board : (e.plain s).board = e.board := rfl
  unfold tryPong
  rw [board]
  split
  · rfl
  · rfl

theorem beat_plain (hs : s ≠ e.nextSession) (user : User) (w : Writer) :
    (e.plain s).beat t user w = (e.beat t user w).plain s := by
  have next : s ≠ (e.setStage t (.driven .submitting w)).nextSession := fun h =>
    hs (h.trans (congrArg (· + 1) (Roster.length_update _)))
  unfold beat
  rw [setStage_plain]
  exact submit_plain next (.reader t) _

theorem hear_plain (hs : s ≠ e.nextSession) (user : User) (w : Writer) (f : Inflow) :
    (e.plain s).hear t user w f = (e.hear t user w f).plain s := by
  have left (how : SessionEnd) : ((e.plain s).leave t how, []) = Effect.plain (e.leave t how, []) s :=
    congrArg (·, []) (depart_plain (.leaving how))
  cases f with
  | text text =>
    cases hp : Inbound.parse text with
    | error fault =>
      unfold hear
      simp only [hp]
      rfl
    | ok message =>
      cases message
      have next : s ≠ (e.tryPong t).1.nextSession := by
        rw [tryPong_eq]
        exact hs
      rw [hear_ping hp, hear_ping hp, tryPong_plain]
      exact andThen_plain (beat_plain next user w)
  | other => rfl
  | close => exact left .clientClosed
  | finished => exact left .clientClosed
  | failure => exact left .readError

theorem read_plain (hs : s ≠ e.nextSession) (f : Inflow) :
    (e.plain s).read t f = (e.read t f).plain s := by
  have heard (user : User) (w : Writer) :
      andThen (e.plain s, [.heard t f]) (·.hear t user w f) =
        (andThen (e, [.heard t f]) (·.hear t user w f)).plain s :=
    andThen_plain (x := (e, [.heard t f])) (hear_plain hs user w f)
  unfold read
  cases hx : e.session? t with
  | none =>
    rw [session?_plain.1 hx]
    rfl
  | some x =>
    obtain ⟨role', hx'⟩ := (session?_plain (s := s)).2 hx
    obtain ⟨user, role, stage⟩ := x
    rw [hx']
    cases stage with
    | driven r w =>
      cases r with
      | reading => exact heard user w
      | submitting => rfl
    | _ => rfl

theorem frameWritten_plain : (e.plain s).frameWritten t = (e.frameWritten t).plain s := by
  unfold frameWritten
  cases hx : e.session? t with
  | none =>
    rw [session?_plain.1 hx]
    rfl
  | some x =>
    obtain ⟨role', hx'⟩ := (session?_plain (s := s)).2 hx
    obtain ⟨user, role, stage⟩ := x
    rw [hx']
    cases stage with
    | driven r w =>
      cases w with
      | idle => rfl
      | holding m => exact congrArg (·, [Note.wrote t m]) (setStage_plain (.driven r .idle))
    | _ => rfl

/-! ### Actions -/

/-- Actions that do not read the kind of the session they are about. -/
def Action.isBlind : Action → Bool
  | .heartbeat _ => true
  | .offer _ => true
  | .read .. => true
  | .frameWritten _ => true
  | .giveUp => true
  | .dispatch => true
  | .elapse _ => true
  | _ => false

theorem step_plain {a : Action} (ha : a.isBlind = true) (hs : s ≠ e.nextSession) :
    (e.plain s).step a = (e.step a).plain s := by
  cases a with
  | heartbeat u =>
    exact submit_plain (e := { e with tickets := e.tickets + 1 }.await e.tickets .heartbeat) hs
      (.call e.tickets) (Event.mk u .heartbeat)
  | offer ev =>
    have queue : (e.plain s).queue = e.queue := rfl
    show (e.plain s).offer ev = (e.offer ev).plain s
    unfold offer
    rw [queue]
    split
    · rfl
    · rfl
  | read t f => exact read_plain hs f
  | frameWritten t => exact frameWritten_plain
  | giveUp => exact giveUp_plain hs
  | dispatch => exact dispatchStep_plain hs
  | elapse d => rfl
  | _ => cases ha

/-- Such an action commutes with `recast`. -/
theorem step_recast {a : Action} (ha : a.isBlind = true) (hs : s ≠ e.nextSession) (role : Role) :
    Effect.plain ((e.recast s role).step a) s = (e.step a).plain s := by
  rw [← step_plain ha (by rwa [nextSession_recast]), plain_recast, step_plain ha hs]

/-- Existing sessions are kept. -/
theorem Moves.onward {a : Action} {e' : Engine} {out : List Note} (h : Moves a e out e') :
    Onward e e' := by
  induction h with
  | none e => exact .of_eq rfl rfl
  | more hm _ ih => exact hm.onward.trans ih

theorem lt_nextSession_step (hs : s < e.nextSession) (a : Action) :
    s < (e.step a).1.nextSession := by
  obtain ⟨k, -, grown⟩ := (step_moves a e).onward.grown
  show s < (e.step a).1.sessions.length + 1
  rw [grown]
  exact Nat.lt_of_lt_of_le hs (Nat.succ_le_succ (Nat.le_add_right _ k))

end

end Engine

end Presence
