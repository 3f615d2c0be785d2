import Presence.Proofs.Engine.Registration
import Presence.Proofs.Engine.Stages

/-!
The lifecycle of sessions: opened, driven, left and ended, or dropped on the way. `Move.shift`: a
move changes nothing in the roster, makes one step in the lifecycle of one session, or adds a
session. The driver of a session returns at most once.
-/

namespace Presence

/-- The stage is `ended`. -/
def Session.hasEnded (x : Session) : Bool :=
  match x.stage with
  | .ended _ => true
  | _ => false

/-- The note of the return of the driver of session `s`. -/
def Note.endsDriver (s : SessionId) : Note → Bool
  | .ended t _ => t = s
  | _ => false

namespace Roster

theorem ext {r r' : Roster} (h : ∀ t, r.get? t = r'.get? t) : r = r' := by
  apply List.ext_getElem?
  intro i
  simpa [get?] using h (i + 1)

/-- An update changes only the session it is about. -/
theorem update_of_get? {r : Roster} {s : SessionId} {x : Session} (h : r.get? s = some x)
    (f : Session → Session) : r.update s f = r.update s fun _ => f x := by
  apply ext
  intro t
  rw [get?_update, get?_update]
  by_cases ht : t = s
  · rw [ht, h]
    rfl
  · rw [if_neg ht, if_neg ht]

theorem update_of_fixed {r : Roster} {s : SessionId} {f : Session → Session}
    (h : ∀ x, r.get? s = some x → f x = x) : r.update s f = r := by
  apply ext
  intro t
  rw [get?_update]
  by_cases ht : t = s
  · rw [if_pos ht, ht]
    cases hx : r.get? s with
    | none => rfl
    | some x => rw [Option.map_some, h x hx]
  · rw [if_neg ht]

end Roster

namespace Engine

/-- One step in the lifecycle of session `s`. -/
inductive Passage (e e' : Engine) (s : SessionId) (x : Session) : Session → Prop
  /-- To another stage with an open line. -/
  | goesOn {stage : Stage} (hx : x.stage.isLive = true) (hs : stage.isLive = true) :
      Passage e e' s x { x with stage }
  /-- The line is closed and the poller cancelled. -/
  | departs {stage : Stage} (hx : x.stage.isLive = true) (hs : stage.isLive = false)
      (hn : ∀ how, stage ≠ .ended how) (hc : e'.board.isClosed (lineOf s) = true) :
      Passage e e' s x { x.stopPoller with stage }
  | polls {p q : Poller} (hp : x.role = .party p false) (hs : e.shutdown = false)
      (hq : q.isFinished = false) : Passage e e' s x (x.withPoller q)
  | pollerEnds {p : Poller} {b : Bool} (hp : x.role = .party p b)
      (hb : e.pollerRuns b = false ∨ e.board.isClosed (lineOf s) = true) :
      Passage e e' s x (x.withPoller p.finish)
  /-- The driver is dropped during its cleanup. -/
  | isLeft {how : SessionEnd} (hx : x.stage = .leaving how) :
      Passage e e' s x { x with stage := .dropped }

/-- The state of a session just opened. -/
inductive Newborn : Session → Prop
  | status (u : User) : Newborn ⟨u, .status, .opening⟩
  | party (u : User) {p : Poller} (hp : p.isFinished = false) : Newborn ⟨u, .party p false, .ready⟩

/-- No driver returns. -/
structure NoneEnds (e e' : Engine) (out : List Note) : Prop where
  counted : e'.closed = e.closed
  noted : ∀ s how, .ended s how ∉ out

/-- The change of the roster between two engines, with the counters. -/
inductive Shift (e e' : Engine) (out : List Note) : Prop
  | still (hs : e'.sessions = e.sessions) (ho : e'.opened = e.opened) (hn : NoneEnds e e' out)
  | one {s : SessionId} {x y : Session} (hx : e.session? s = some x) (hp : Passage e e' s x y)
      (hs : e'.sessions = e.sessions.update s fun _ => y) (ho : e'.opened = e.opened)
      (hn : NoneEnds e e' out)
  | ended {s : SessionId} {x : Session} {how : SessionEnd} (hx : e.session? s = some x)
      (hr : x.stage = .leaving how) (hp : x.pollerFinished = true)
      (hs : e'.sessions = e.sessions.update s fun _ => { x with stage := .ended how })
      (ho : e'.opened = e.opened) (hc : e'.closed = e.closed + 1) (hn : out = [.ended s how])
  | added {y : Session} (hs : e'.sessions = e.sessions.add y) (hy : Newborn y)
      (ho : e'.opened = e.opened + 1) (hn : NoneEnds e e' out)

section
variable {a : Action} {e e' : Engine} {out : List Note}

theorem isClosed_hangUp {b : Switchboard} {n : Nat} : (b.hangUp n).isClosed n = true := by
  simp only [Switchboard.isClosed, Switchboard.hangUp, Switchboard.updateFrames,
    Switchboard.line?_updateLine]
  cases b.line? n with
  | none => rfl
  | some l => simp [Channel.hangUp]

/-- An update of one session. -/
theorem Shift.update {s : SessionId} {x : Session} {f : Session → Session}
    (hx : e.session? s = some x) (hp : Passage e e' s x (f x))
    (hs : e'.sessions = e.sessions.update s f) (ho : e'.opened = e.opened)
    (hn : NoneEnds e e' out) : Shift e e' out :=
  .one hx hp (hs.trans (Roster.update_of_get? hx f)) ho hn

/-- The line of one session is closed. -/
theorem Shift.departs {s : SessionId} {x : Session} {stage : Stage} (hx : e.session? s = some x)
    (hl : x.stage.isLive = true) (hd : stage = .dropped ∨ ∃ how, stage = .leaving how)
    (hs : e'.sessions = e.sessions.update s fun x => { x.stopPoller with stage })
    (hb : e'.board = e.board.hangUp (lineOf s)) (ho : e'.opened = e.opened)
    (hc : e'.closed = e.closed) : Shift e e' [] := by
  have left : Passage e e' s x { x.stopPoller with stage } := by
    refine .departs hl ?_ ?_ (by rw [hb, isClosed_hangUp])
    · rcases hd with rfl | ⟨how, rfl⟩ <;> rfl
    · rcases hd with rfl | ⟨how, rfl⟩ <;> simp
  exact .update hx left hs ho ⟨hc, by simp⟩

/-- A continuation returns no driver. -/
theorem Resumed.noneEnds {p : Producer} {b : Bool} (h : Resumed e p b out e') :
    NoneEnds e e' out := by
  cases h <;> exact ⟨rfl, by simp⟩

/-- A continuation makes one step of one session or adds one. -/
theorem Resumed.shift {p : Producer} {b : Bool} (h : Resumed e p b out e') (hi : InStage e) :
    Shift e e' out := by
  have hn := h.noneEnds
  cases h with
  | reader s =>
    cases hx : e.session? s with
    | none =>
      exact .still (Roster.update_of_fixed fun x hx' => by simp [session?, hx'] at hx) rfl hn
    | some x =>
      by_cases hd : ∃ r w, x.stage = .driven r w
      · obtain ⟨r, w, hd⟩ := hd
        refine .update hx ?_ rfl rfl hn
        simp only [hd]
        exact .goesOn (by simp [hd, Stage.isLive]) rfl
      · refine .still (Roster.update_of_fixed fun y hy => ?_) rfl hn
        obtain rfl : y = x := by simpa [session?, hy] using hx
        split
        · exact absurd ⟨_, _, ‹_›⟩ hd
        · rfl
  | @status t _ s hc =>
    obtain ⟨x, hx, ho⟩ := hi.opening hc
    exact .update hx (.goesOn (by simp [ho, Stage.isLive]) rfl) rfl rfl hn
  | party => exact .added rfl (.party _ rfl) rfl hn
  | _ => exact .still rfl rfl hn

/-- A change of the queue before the move does not affect `Shift`. -/
theorem Shift.after {e₀ : Engine} {ms : List Note} (h : Shift e₀ e' out)
    (hs : e₀.sessions = e.sessions) (hb : e₀.board = e.board) (hd : e₀.shutdown = e.shutdown)
    (ho : e₀.opened = e.opened) (hn : NoneEnds e e₀ ms) (hm : NoneEnds e₀ e' out) :
    Shift e e' (ms ++ out) := by
  have none : NoneEnds e e' (ms ++ out) := ⟨hm.counted.trans hn.counted, fun s how h =>
    (List.mem_append.1 h).elim (hn.noted s how) (hm.noted s how)⟩
  cases h with
  | still hk ho' => exact .still (hk.trans hs) (ho'.trans ho) none
  | @one s x _ hx hp hk ho' =>
    refine .one (s := s) (x := x) (by rwa [session?, ← hs]) ?_ (by rw [hk, hs]) (ho'.trans ho) none
    cases hp with
    | goesOn hx hs => exact .goesOn hx hs
    | departs hx hs hn hc => exact .departs hx hs hn hc
    | polls hp hs hq => exact .polls hp (hd ▸ hs) hq
    | pollerEnds hp hc =>
      unfold pollerRuns at hc
      exact .pollerEnds hp (by unfold pollerRuns; rwa [← hd, ← hb])
    | isLeft hx => exact .isLeft hx
  | ended _ _ _ _ _ hc => simp [hm.counted] at hc
  | added hk hy ho' => exact .added (by rw [hk, hs]) hy (by rw [ho', ho]) none

theorem Move.shift (hm : Move a e out e') (hi : InStage e) : Shift e e' out := by
  -- a change of the queue leaves the sessions where they were
  have resumed {e₀ : Engine} {p : Producer} {b : Bool} {rest : List Note} (ms : List Note)
      (h : Resumed e₀ p b rest e') (hs : e₀.sessions = e.sessions) (hc : e₀.calls = e.calls)
      (hb : e₀.board = e.board) (hd : e₀.shutdown = e.shutdown) (ho : e₀.opened = e.opened)
      (hn : NoneEnds e e₀ ms) : Shift e e' (ms ++ rest) := by
    have hi₀ : InStage e₀ := by
      unfold InStage
      rw [hs, hc, hb]
      exact hi
    exact (h.shift hi₀).after hs hb hd ho hn h.noneEnds
  cases hm with
  | @forsookSession t s _ hc =>
    obtain ⟨x, hx, ho⟩ := hi.opening hc
    exact .departs hx (by simp [ho, Stage.isLive]) (.inl rfl) rfl rfl rfl rfl
  | @entered p ev _ _ _ _ h =>
    exact resumed [.accepted ev, .returned (some p) true] h rfl rfl rfl rfl rfl ⟨rfl, by simp⟩
  | @refused p ev _ _ _ h =>
    exact resumed [.gaveUp ev, .returned (some p) false] h rfl rfl rfl rfl rfl ⟨rfl, by simp⟩
  | @timedOut w _ _ _ _ h =>
    exact resumed [.gaveUp w.event, .returned (some w.producer) false] h rfl rfl rfl rfl rfl
      ⟨rfl, by simp⟩
  | @promoted ev w _ _ _ _ _ _ _ h =>
    exact resumed [.processed ev e.now, .accepted w.event, .returned (some w.producer) true] h
      rfl rfl rfl rfl rfl ⟨rfl, by simp⟩
  | opened => exact .added rfl (.status _) rfl ⟨rfl, by simp⟩
  | ticked _ hx hp hs ht =>
    obtain ⟨_, _, _, rfl⟩ := Poller.tick?_eq_some ht
    exact .update hx (.polls hp hs rfl) rfl rfl ⟨rfl, by simp⟩
  | emitted hx hp hs _ _ ht =>
    obtain ⟨_, _, _, _, _, _, rfl⟩ := Poller.emit_eq_sent ht
    exact .update hx (.polls hp hs rfl) rfl rfl ⟨rfl, by simp⟩
  | @pollerEnded s _ _ _ hx hp _ _ hl ht =>
    obtain ⟨ho, rfl⟩ := Poller.emit_eq_noReceiver ht
    have closed : e.board.isClosed (lineOf s) = true := by simp [Switchboard.isClosed, hl, ho]
    exact .update hx (.pollerEnds hp (.inr closed)) rfl rfl ⟨rfl, by simp⟩
  | pollerStopped _ hx hp hb =>
    exact .update hx (.pollerEnds hp (.inl hb)) rfl rfl ⟨rfl, by simp⟩
  | driven _ hx hr =>
    exact .update hx (.goesOn (by simp [hr, Stage.isLive]) rfl) rfl rfl ⟨rfl, by simp⟩
  | @dropped s x _ hx hr =>
    have live : x.stage.isLive = true := by
      rcases hr with hr | hr
      · simp [hr, Stage.isLive]
      · unfold Session.isDriven at hr
        split at hr
        · simp [*, Stage.isLive]
        · cases hr
    exact .departs hx live (.inl rfl) rfl rfl rfl rfl
  | leftUncleared _ hx hr => exact .update hx (.isLeft hr) rfl rfl ⟨rfl, by simp⟩
  | left hx hh =>
    obtain ⟨r, w, hr⟩ := hh.driven
    exact .departs hx (by simp [hr, Stage.isLive]) (.inr ⟨_, rfl⟩) rfl rfl rfl rfl
  | submitting hx hr =>
    exact .update hx (.goesOn (by simp [hr, Stage.isLive]) rfl) rfl rfl ⟨rfl, by simp⟩
  | took _ hx hr =>
    exact .update hx (.goesOn (by simp [hr, Stage.isLive]) rfl) rfl rfl ⟨rfl, by simp⟩
  | wrote _ hx hr =>
    exact .update hx (.goesOn (by simp [hr, Stage.isLive]) rfl) rfl rfl ⟨rfl, by simp⟩
  | ended _ hx hr hp =>
    exact .ended hx hr hp (Roster.update_of_get? hx fun x => { x with stage := .ended _ }) rfl rfl
      rfl
  | partyEnded _ hx hr hp =>
    exact .ended hx hr hp (Roster.update_of_get? hx fun x => { x with stage := .ended _ }) rfl rfl
      rfl
  | _ => exact .still rfl rfl ⟨rfl, by simp⟩

/-! ### Returned drivers -/

/-- The number of `.ended` notes of a session. -/
def endings (s : SessionId) (ns : List Note) : Nat := ns.countP (Note.endsDriver s)

theorem NoneEnds.endings (h : NoneEnds e e' out) (s : SessionId) : endings s out = 0 := by
  refine List.countP_eq_zero.2 fun n hn he => ?_
  cases n with
  | ended t how => exact h.noted t how hn
  | _ => cases he

theorem hasEnded_of_ne {x : Session} (h : ∀ how, x.stage ≠ .ended how) : x.hasEnded = false := by
  unfold Session.hasEnded
  split
  · exact absurd ‹_› (h _)
  · rfl

theorem hasEnded_of_live {x : Session} (h : x.stage.isLive = true) : x.hasEnded = false :=
  hasEnded_of_ne fun how hr => by simp [hr, Stage.isLive] at h

/-- An update keeps all other sessions. -/
theorem session?_of_update {s t : SessionId} {x y : Session} (hx : e.session? t = some x)
    (hs : e'.sessions = e.sessions.update t fun _ => y) :
    e'.session? s = if s = t then some y else e.session? s := by
  unfold session? at hx ⊢
  rw [hs, Roster.get?_update]
  by_cases ht : s = t
  · rw [if_pos ht, if_pos ht, ht, hx]
    rfl
  · rw [if_neg ht, if_neg ht]

theorem stage_withPoller (x : Session) (q : Poller) : (x.withPoller q).stage = x.stage := by
  unfold Session.withPoller
  split <;> rfl

/-- Steps other than the return of the driver keep `hasEnded`. -/
theorem Passage.hasEnded {s : SessionId} {x y : Session} (h : Passage e e' s x y) :
    y.hasEnded = x.hasEnded := by
  cases h with
  | goesOn hx hs => rw [hasEnded_of_live hx, hasEnded_of_live (by exact hs)]
  | departs hx _ hn => rw [hasEnded_of_live hx, hasEnded_of_ne (by exact hn)]
  | polls => simp only [Session.hasEnded, stage_withPoller]
  | pollerEnds => simp only [Session.hasEnded, stage_withPoller]
  | isLeft hx => simp only [Session.hasEnded, hx]

theorem Newborn.hasEnded {y : Session} (h : Newborn y) : y.hasEnded = false := by
  cases h <;> rfl

/-- A session has one `.ended` note if its stage is `ended`, and none otherwise. -/
theorem Reaches.endings {config : Config} {as : List Action} {ns : List Note}
    (h : Reaches config as e ns) (s : SessionId) :
    endings s ns = ((e.session? s).any Session.hasEnded).toNat := by
  have none (config : Config) (status : StatusStore) : (fresh config status).session? s = none := by
    simp [fresh, initial, session?, Roster.get?]
  refine (h.keeps_sound
    (P := fun e ns => Engine.endings s ns = ((e.session? s).any Session.hasEnded).toNat)
    (fun status _ => by rw [none]; rfl) fun _ _ e out e' ns _ hi hm ih => ?_).2
  have grown : Engine.endings s (ns ++ out) = Engine.endings s ns + Engine.endings s out :=
    List.countP_append
  rw [grown, ih]
  cases hm.shift hi with
  | still hs _ hn => rw [hn.endings, session?, session?, hs, Nat.add_zero]
  | @one t x y hx hp hs _ hn =>
    rw [hn.endings, session?_of_update hx hs, Nat.add_zero]
    by_cases ht : s = t
    · rw [if_pos ht, ht, hx, Option.any_some, Option.any_some, hp.hasEnded]
    · rw [if_neg ht]
  | @ended t x how hx hr _ hs _ _ hn =>
    have going : x.hasEnded = false := hasEnded_of_ne (by simp [hr])
    rw [hn, session?_of_update hx hs]
    by_cases ht : s = t
    · rw [if_pos ht, ht, hx, Option.any_some, going]
      simp [Engine.endings, Note.endsDriver, Session.hasEnded]
    · rw [if_neg ht]
      simp [Engine.endings, Note.endsDriver, Ne.symm ht]
  | added hs hy _ hn =>
    rw [hn.endings, session?, session?, hs, Roster.get?_add, Nat.add_zero]
    by_cases ht : s = e.sessions.next
    · rw [if_pos ht, ht, Roster.get?_next, Option.any_some, hy.hasEnded]
      rfl
    · rw [if_neg ht]

theorem endings_pos {s : SessionId} {ns : List Note} : 0 < endings s ns ↔ Returned s ns := by
  rw [endings, List.countP_pos_iff]
  constructor
  · rintro ⟨n, hn, hs⟩
    cases n with
    | ended t how =>
      obtain rfl : t = s := by simpa [Note.endsDriver] using hs
      exact ⟨how, hn⟩
    | _ => cases hs
  · rintro ⟨how, hn⟩
    exact ⟨_, hn, by simp [Note.endsDriver]⟩

/-- The drivers that have returned are those with an `.ended` note. -/
theorem Reaches.returned_iff {config : Config} {as : List Action} {ns : List Note}
    (h : Reaches config as e ns) {s : SessionId} {x : Session} (hx : e.session? s = some x) :
    Returned s ns ↔ x.hasEnded = true := by
  rw [← endings_pos, h.endings, hx, Option.any_some]
  cases x.hasEnded <;> simp

end

end Engine

end Presence
