import Presence.Proofs.Engine.Lifecycle
import Presence.Proofs.Engine.Shutdown

/-!
Pollers and their sessions. A poller runs while the line of its session is open and neither session
nor engine was cancelled. From the step in which a session is left, its line is closed and its
poller cancelled: the poller delivers nothing more and finishes when it is scheduled.
-/

namespace Presence

namespace Session

theorem role_stopPoller {x : Session} {p : Poller} {b : Bool} (h : x.role = .party p b) :
    x.stopPoller.role = .party p true := by
  simp [stopPoller, h]

theorem role_withPoller {x : Session} {p q : Poller} {b : Bool} (h : x.role = .party p b) :
    (x.withPoller q).role = .party q b := by
  simp [withPoller, h]

end Session

/-- Notes of snapshots that entered a line. -/
def Note.isSnapshot : Note → Bool
  | .sent _ (.snapshot _) => true
  | _ => false

namespace Engine

/-- Invariant of the poller of session `s` with the stage and the line. -/
structure Tended (e : Engine) (s : SessionId) (x : Session) (p : Poller) (b : Bool) : Prop where
  live : x.stage.isLive = true → b = false ∧ (e.shutdown = false → p.isFinished = false)
  left : x.stage.isLive = false → b = true ∧ e.board.isClosed (lineOf s) = true
  ended : x.hasEnded = true → p.isFinished = true

/-- Invariant of all pollers. -/
def AllTended (e : Engine) : Prop :=
  ∀ {s x p b}, e.session? s = some x → x.role = .party p b → Tended e s x p b

section
variable {a : Action} {e e' : Engine} {out ns : List Note} {s : SessionId} {x y : Session}

/-- A transition of other sessions preserves `Tended`. -/
theorem Tended.onward {p : Poller} {b : Bool} (h : Tended e s x p b)
    (hd : e'.shutdown = false → e.shutdown = false)
    (hc : e.board.isClosed (lineOf s) = true → e'.board.isClosed (lineOf s) = true) :
    Tended e' s x p b where
  live hl := ⟨(h.live hl).1, fun hn => (h.live hl).2 (hd hn)⟩
  left hl := ⟨(h.left hl).1, hc (h.left hl).2⟩
  ended := h.ended

/-- A step in the lifecycle of a session preserves `Tended`. -/
theorem Passage.tended {q : Poller} {c : Bool} (hp : Passage e e' s x y)
    (h : ∀ {p b}, x.role = .party p b → Tended e s x p b) (hi : InStage e)
    (hx : e.session? s = some x) (hd : e'.shutdown = false → e.shutdown = false)
    (hc : e.board.isClosed (lineOf s) = true → e'.board.isClosed (lineOf s) = true)
    (hy : y.role = .party q c) : Tended e' s y q c := by
  cases hp with
  | goesOn hl hs =>
    obtain ⟨hb, hf⟩ := (h hy).live hl
    have going := hasEnded_of_live (x := { x with stage := _ }) hs
    refine ⟨fun _ => ⟨hb, fun hn => hf (hd hn)⟩, fun hn => ?_, fun hn => ?_⟩
    · simp [hs] at hn
    · simp [going] at hn
  | @departs stage hl hs hn hc' =>
    have told : c = true := by
      cases hr : x.role with
      | status => simp [Session.stopPoller, hr] at hy
      | party p b =>
        have stopped := Session.role_stopPoller hr
        rw [show x.stopPoller.role = Role.party q c from hy] at stopped
        cases stopped
        rfl
    refine ⟨fun hl => ?_, fun _ => ⟨told, hc'⟩, fun he => ?_⟩
    · simp [hs] at hl
    · unfold Session.hasEnded at he
      split at he
      · exact absurd ‹_› (hn _)
      · cases he
  | @polls p q' hr _ hf =>
    have polled := Session.role_withPoller (q := q') hr
    rw [hy] at polled
    cases polled
    have kept := (h hr).onward hd hc
    have live : x.stage.isLive = true := by
      cases hl : x.stage.isLive with
      | true => rfl
      | false => exact absurd (kept.left hl).1 (by simp)
    have going : (x.withPoller q).hasEnded = false :=
      hasEnded_of_live (by rw [stage_withPoller, live])
    refine ⟨fun _ => ⟨rfl, fun _ => hf⟩, fun hn => ?_, fun hn => ?_⟩
    · simp [stage_withPoller, live] at hn
    · simp [going] at hn
  | @pollerEnds p b hr hb =>
    have polled := Session.role_withPoller (q := p.finish) hr
    rw [hy] at polled
    cases polled
    have kept := (h hr).onward hd hc
    refine ⟨fun hl => ?_, fun hl => ?_, fun _ => rfl⟩
    · rw [stage_withPoller] at hl
      obtain ⟨rfl, -⟩ := kept.live hl
      refine ⟨rfl, fun hn => ?_⟩
      -- a poller finishes only if it was cancelled or its line is closed
      rcases hb with hb | hb
      · simp [pollerRuns, hd hn] at hb
      · exact absurd (hi.live hx hl) (by simp [hb])
    · rw [stage_withPoller] at hl
      exact kept.left hl
  | isLeft hr =>
    have kept := (h hy).onward hd hc
    exact ⟨by simp [Stage.isLive], fun _ => kept.left (by simp [hr, Stage.isLive]),
      by simp [Session.hasEnded]⟩

theorem AllTended.move (hm : Move a e out e') (hw : Wired e) (hi : InStage e) (h : AllTended e) :
    AllTended e' := by
  have later : e'.shutdown = false → e.shutdown = false := by
    intro hn
    cases hd : e.shutdown with
    | false => rfl
    | true => simp [(hm.muted hd).1] at hn
  have shut {t y} (hy : e.session? t = some y) (hc : e.board.isClosed (lineOf t) = true) :
      e'.board.isClosed (lineOf t) = true := hm.onward.shut (hw.line_lt hy) hc
  -- sessions that a move does not touch
  have rest {t y q c} (hy : e.session? t = some y) (hr : y.role = .party q c) :
      Tended e' t y q c := (h hy hr).onward later (shut hy)
  intro t y q c hy hr
  cases hm.shift hi with
  | still hs => exact rest (by rwa [session?, ← hs]) hr
  | one hx hp hs =>
    rw [session?_of_update hx hs] at hy
    split at hy
    · subst t
      cases hy
      exact hp.tended (h hx) hi hx later (shut hx) hr
    · exact rest hy hr
  | @ended s x how hx hl hp hs =>
    rw [session?_of_update hx hs] at hy
    split at hy
    · subst t
      cases hy
      have kept := rest hx hr
      have finished : q.isFinished = true := by
        simpa [Session.pollerFinished, show x.role = Role.party q c from hr] using hp
      exact ⟨by simp [Stage.isLive], fun _ => kept.left (by simp [hl, Stage.isLive]),
        fun _ => finished⟩
    · exact rest hy hr
  | @added y' hs hn =>
    rw [session?, hs, Roster.get?_add] at hy
    split at hy
    · cases hy
      cases hn with
      | status => cases hr
      | party _ hf =>
        cases hr
        exact ⟨fun _ => ⟨rfl, fun _ => hf⟩, by simp [Stage.isLive], by simp [Session.hasEnded]⟩
    · exact rest hy hr

section
variable {config : Config} {as : List Action}

theorem Reaches.tended (h : Reaches config as e ns) {p : Poller} {b : Bool}
    (hx : e.session? s = some x) (hp : x.role = .party p b) : Tended e s x p b :=
  (h.keeps_sound (P := fun e _ => AllTended e)
    (fun _ _ {_ _ _ _} hx => by simp [fresh, initial, session?, Roster.get?] at hx)
    fun _ _ _ _ _ _ hw hi hm ht => ht.move hm hw hi).2 hx hp

/-- A driver that is `leaving` returns if its poller has finished. -/
theorem finishDriver_of_leaving {how : SessionEnd} (hx : e.session? s = some x)
    (hr : x.stage = .leaving how) (hp : x.pollerFinished = true) :
    (e.finishDriver s).2 = [.ended s how] ∧ (e.finishDriver s).1.closed = e.closed + 1 := by
  refine ⟨by simp [finishDriver, hx, hr, hp], ?_⟩
  simp only [finishDriver, hx, hr, hp, if_true]
  split <;> rfl

/-- A cancelled poller finishes in any phase. -/
theorem session?_finishPoller {p : Poller} (hx : e.session? s = some x)
    (hp : x.role = .party p true) :
    (e.finishPoller s).session? s = some (x.withPoller p.finish) := by
  obtain ⟨u, role, stage⟩ := x
  cases hp
  unfold finishPoller
  simp only [hx, pollerRuns, Bool.not_true, Bool.false_and, Bool.false_eq_true, if_false]
  simp [session?, updateSession, show e.sessions.get? s = _ from hx]

/-- The poller of a session that is left finishes when it is scheduled. -/
theorem Reaches.finishPoller_of_left (h : Reaches config as e ns) (hx : e.session? s = some x)
    (hl : x.stage.isLive = false) : ∃ y, (e.finishPoller s).session? s = some y ∧
      y.stage = x.stage ∧ y.pollerFinished = true := by
  cases hp : x.role with
  | status =>
    have still : e.finishPoller s = e := by
      obtain ⟨u, role, stage⟩ := x
      cases hp
      simp [finishPoller, hx]
    exact ⟨x, by rw [still, hx], rfl, by simp [Session.pollerFinished, hp]⟩
  | party p b =>
    obtain ⟨rfl, -⟩ := (h.tended hx hp).left hl
    refine ⟨_, session?_finishPoller hx hp, stage_withPoller _ _, ?_⟩
    simp [Session.pollerFinished, Session.role_withPoller hp, Poller.isFinished, Poller.finish]

/-- A driver that is `leaving` returns after its poller was scheduled. -/
theorem Reaches.finish (h : Reaches config as e ns) {how : SessionEnd}
    (hx : e.session? s = some x) (hr : x.stage = .leaving how) :
    (e.run [.finishPoller s, .finishDriver s]).2 = [.ended s how] ∧
      (e.run [.finishPoller s, .finishDriver s]).1.closed = e.closed + 1 := by
  have steps : e.run [.finishPoller s, .finishDriver s] = (e.finishPoller s).finishDriver s := by
    simp [run, andThen, Engine.step]
  have counted : (e.finishPoller s).closed = e.closed := by
    unfold finishPoller
    split
    · split <;> rfl
    · rfl
  obtain ⟨y, hy, same, hf⟩ := h.finishPoller_of_left hx (by rw [hr]; rfl)
  rw [steps, ← counted]
  exact finishDriver_of_leaving hy (same.trans hr) hf

/-! ### Snapshots -/

/-- A session that is left stays left. -/
theorem Move.notLive (hm : Move a e out e') (hi : InStage e) (hx : e.session? s = some x)
    (hl : x.stage.isLive = false) : ∃ y, e'.session? s = some y ∧ y.stage.isLive = false := by
  cases hm.shift hi with
  | still hs => exact ⟨x, by rwa [session?, hs], hl⟩
  | @one t x' y hx' hp hs =>
    by_cases ht : s = t
    · subst ht
      cases hx.symm.trans hx'
      refine ⟨y, by rw [session?_of_update hx hs, if_pos rfl], ?_⟩
      cases hp with
      | goesOn hn => simp [hl] at hn
      | departs hn => simp [hl] at hn
      | polls => rwa [stage_withPoller]
      | pollerEnds => rwa [stage_withPoller]
      | isLeft => rfl
    · exact ⟨x, by rw [session?_of_update hx' hs, if_neg ht, hx], hl⟩
  | @ended t x' how hx' _ _ hs =>
    by_cases ht : s = t
    · exact ⟨_, by rw [session?_of_update hx' hs, if_pos ht], rfl⟩
    · exact ⟨x, by rw [session?_of_update hx' hs, if_neg ht, hx], hl⟩
  | added hs =>
    have old := Roster.lt_next_of_get? hx
    exact ⟨x, by rw [session?, hs, Roster.get?_add, if_neg (Nat.ne_of_lt old.2), ← session?, hx],
      hl⟩

/-- No snapshot enters the line of a session that is left. -/
theorem Move.silent (hm : Move a e out e') (ht : AllTended e) (hx : e.session? s = some x)
    (hl : x.stage.isLive = false) (sn : Snapshot) : .sent s (.snapshot sn) ∉ out := by
  intro hn
  cases hm.sends (mem_sentTo.2 hn) with
  | snapshot hy hp =>
    cases hx.symm.trans hy
    exact absurd ((ht hx hp).left hl).1 (by simp)
  | direct _ hd => simp at hd

/-- A continuation sends no snapshot. -/
theorem Resumed.snapshots {p : Producer} {b : Bool} (h : Resumed e p b out e') :
    e'.snapshots = e.snapshots + out.countP Note.isSnapshot := by
  cases h <;> rfl

/-- The counter of snapshots counts those that enter a line. -/
theorem Move.snapshots (hm : Move a e out e') :
    e'.snapshots = e.snapshots + out.countP Note.isSnapshot := by
  cases hm with
  | entered _ _ h => exact h.snapshots
  | refused _ h => exact h.snapshots
  | timedOut _ h => exact h.snapshots
  | promoted _ _ _ _ h => exact h.snapshots
  | _ => rfl

theorem run_snapshots (e : Engine) (bs : List Action) :
    (e.run bs).1.snapshots = e.snapshots + (e.run bs).2.countP Note.isSnapshot :=
  run_makes (P := fun e' ns => e'.snapshots = e.snapshots + ns.countP Note.isSnapshot)
    (fun _ _ _ _ _ _ hm h => by rw [hm.snapshots, h, List.countP_append, Nat.add_assoc]) rfl

/-- No snapshot enters the line of a session that is left in any later run. -/
theorem Reaches.silent (h : Reaches config as e ns) (hx : e.session? s = some x)
    (hl : x.stage.isLive = false) (bs : List Action) (sn : Snapshot) :
    .sent s (.snapshot sn) ∉ (e.run bs).2 := by
  have first : AllTended e := h.tended
  refine (run_makes (P := fun e ns => Wired e ∧ InStage e ∧ AllTended e ∧
    (∃ x, e.session? s = some x ∧ x.stage.isLive = false) ∧ .sent s (.snapshot sn) ∉ ns)
    (fun _ _ _ _ _ _ hm ⟨hw, hi, ht, ⟨x, hx, hl⟩, hn⟩ => ?_)
    ⟨h.wired, h.inStage, first, ⟨x, hx, hl⟩, by simp⟩).2.2.2.2
  refine ⟨hw.move hm, hi.move hm hw, ht.move hm hw hi, hm.notLive hi hx hl, fun hin => ?_⟩
  exact (List.mem_append.1 hin).elim hn (hm.silent ht hx hl sn)

/-- While the line of a party session is open and the shutdown signal is not set, its poller runs.
After the driver has returned, the session was dropped or the signal was set, no snapshot enters its
line. The counter of snapshots counts exactly those that enter a line. A driver that is `leaving`
has closed its line and cancelled its poller, and returns after one step of the poller. -/
theorem poller_follows_session (h : Reaches config as e ns) {p : Poller} {b : Bool}
    (hx : e.session? s = some x) (hp : x.role = .party p b) :
    (e.board.isClosed (lineOf s) = false → e.shutdown = false →
      e.pollerRuns b = true ∧ p.isFinished = false) ∧
    (Returned s ns ∨ x.stage = .dropped ∨ e.shutdown = true →
      ∀ bs sn, .sent s (.snapshot sn) ∉ (e.run bs).2) ∧
    (∀ bs, (e.run bs).1.metrics.partySnapshotsSent =
      e.metrics.partySnapshotsSent + (e.run bs).2.countP Note.isSnapshot) ∧
    ∀ how, x.stage = .leaving how →
      b = true ∧ e.board.isClosed (lineOf s) = true ∧
      (e.run [.finishPoller s, .finishDriver s]).2 = [.ended s how] := by
  have tended := h.tended hx hp
  refine ⟨fun ho hd => ?runs, fun hs bs sn => ?silent, run_snapshots e, fun how hr => ?returns⟩
  case runs =>
    have live : x.stage.isLive = true := by
      cases hl : x.stage.isLive with
      | true => rfl
      | false => simp [(tended.left hl).2] at ho
    obtain ⟨rfl, hf⟩ := tended.live live
    exact ⟨by simp [pollerRuns, hd], hf hd⟩
  case silent =>
    rcases hs with hs | hs | hs
    · have ended := (h.returned_iff hx).1 hs
      refine h.silent hx ?_ bs sn
      cases hl : x.stage.isLive with
      | true => simp [hasEnded_of_live hl] at ended
      | false => rfl
    · exact h.silent hx (by rw [hs]; rfl) bs sn
    · exact (run_muted hs bs).2 s sn
  case returns =>
    obtain ⟨hb, hc⟩ := tended.left (by rw [hr]; rfl)
    exact ⟨hb, hc, (h.finish hx hr).1⟩

/-- The line has room for one frame and is full, the poller holds the next snapshot, and the client
leaves. -/
theorem poller_follows_session_blocked :
    ∃ u p e ns held next, Reaches { Config.standard with sessionOutboundCapacity := 1 }
        [.openParty p u, .lookupAnswered 0 (.ok (some ⟨p, u, .active⟩)), .tick 1, .emit 1,
          .elapse (.ofSeconds 5), .tick 1, .drive 1, .emit 1, .read 1 .close] e ns ∧
      e.session? 1 = some ⟨u, .party ⟨p, 5000000000, .sending held next⟩ true,
        .leaving .clientClosed⟩ ∧
      e.metrics.partySnapshotsSent = 1 ∧
      (e.run [.finishPoller 1, .finishDriver 1]).2 = [.ended 1 .clientClosed] := by
  have reached (u : User) (p : Party) :
      Reaches { Config.standard with sessionOutboundCapacity := 1 }
        [.openParty p u, .lookupAnswered 0 (.ok (some ⟨p, u, .active⟩)), .tick 1, .emit 1,
          .elapse (.ofSeconds 5), .tick 1, .drive 1, .emit 1, .read 1 .close] _ _ := .of_start rfl _
  have hr := reached ⟨"ann", by decide, "ann", rfl⟩ ⟨"p", by decide, "p", rfl⟩
  obtain ⟨-, -, -, returns⟩ := poller_follows_session hr
    (x := ⟨⟨"ann", by decide, "ann", rfl⟩, .party ⟨⟨"p", by decide, "p", rfl⟩, 5000000000,
      .sending (.online []) 10000000000⟩ true, .leaving .clientClosed⟩) (s := 1)
    (by decide +kernel) rfl
  exact ⟨_, _, _, _, .online [], 10000000000, hr, by decide +kernel, by decide +kernel,
    (returns _ rfl).2.2⟩

end

end

end Engine

end Presence
