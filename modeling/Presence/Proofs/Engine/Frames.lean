import Presence.Proofs.Engine.Stages

/-!
Conservation of frames. While a line is open, the accepted frames are, in order, those written, the
one held by the driver and those in the line; when the line is closed the rest is lost. An accepted
frame is a pong for a ping just read, a notice if the session is a status session, or a snapshot if
it is a party session.
-/

namespace Presence

/-- The frame taken from the line and not written yet. -/
def Writer.held : Writer → List Message
  | .idle => []
  | .holding m => [m]

/-- The frame held by the driver of a session. -/
def Stage.held : Stage → List Message
  | .driven _ w => w.held
  | _ => []

namespace Engine

/-! ### Reading a record -/

/-- The frames that entered the line of a session, oldest first. -/
def sentTo (s : SessionId) : List Note → List Message
  | [] => []
  | .sent t m :: ns => if t = s then m :: sentTo s ns else sentTo s ns
  | _ :: ns => sentTo s ns

/-- The frames written for a session, oldest first. -/
def writtenBy (s : SessionId) : List Note → List Message
  | [] => []
  | .wrote t m :: ns => if t = s then m :: writtenBy s ns else writtenBy s ns
  | _ :: ns => writtenBy s ns

/-- The number of pings that the driver of a session has read. -/
def pingsOf (s : SessionId) : List Note → Nat
  | [] => 0
  | .heard t (.text text) :: ns =>
    (if t = s ∧ (Inbound.parse text).isOk then 1 else 0) + pingsOf s ns
  | _ :: ns => pingsOf s ns

/-- The number of notices that entered a line. -/
def notices : List Note → Nat
  | [] => 0
  | .sent _ (.friendOnline _) :: ns => notices ns + 1
  | _ :: ns => notices ns

section
variable (s : SessionId) (ns ms : List Note)

@[simp] theorem sentTo_append : sentTo s (ns ++ ms) = sentTo s ns ++ sentTo s ms := by
  induction ns with
  | nil => rfl
  | cons n ns ih =>
    cases n with
    | sent t m => by_cases h : t = s <;> simp [sentTo, h, ih]
    | _ => simp [sentTo, ih]

@[simp] theorem writtenBy_append : writtenBy s (ns ++ ms) = writtenBy s ns ++ writtenBy s ms := by
  induction ns with
  | nil => rfl
  | cons n ns ih =>
    cases n with
    | wrote t m => by_cases h : t = s <;> simp [writtenBy, h, ih]
    | _ => simp [writtenBy, ih]

@[simp] theorem pingsOf_append : pingsOf s (ns ++ ms) = pingsOf s ns + pingsOf s ms := by
  induction ns with
  | nil => simp [pingsOf]
  | cons n ns ih =>
    cases n with
    | heard t frame => cases frame <;> simp [pingsOf, ih, Nat.add_assoc]
    | _ => simp [pingsOf, ih]

@[simp] theorem notices_append : notices (ns ++ ms) = notices ns + notices ms := by
  induction ns with
  | nil => simp [notices]
  | cons n ns ih =>
    cases n with
    | sent t m => cases m <;> simp [notices, ih, Nat.add_right_comm]
    | _ => simp [notices, ih]

end

/-! ### Frames not written yet -/

/-- The accepted frames that are still to be written, if the line is open. -/
def unwritten (b : Switchboard) (r : Roster) (s : SessionId) : Option (List Message) :=
  match r.get? s, b.line? (lineOf s) with
  | some x, some l => if l.frames.isOpen then some (x.stage.held ++ l.frames.items) else none
  | _, _ => none

/-- The effect of a move on the frames of one session: the session before it, the unwritten frames
before and after, and the frames that it accepted and wrote. -/
inductive Carriage (x : Option Session) (u u' : Option (List Message)) :
    List Message → List Message → Prop
  | kept (hu : ∀ q, u' = some q → u = some q) : Carriage x u u' [] []
  | sent {m : Message} (hx : x ≠ none) (hu : ∀ q, u' = some q → ∃ q', u = some q' ∧ q = q' ++ [m]) :
      Carriage x u u' [m] []
  | wrote {m : Message} {q : List Message} (hu : u = some (m :: q)) (hu' : u' = some q) :
      Carriage x u u' [] [m]
  | begun (hx : x = none) (hu : u' = some []) : Carriage x u u' [] []

section
variable {b b' : Switchboard} {r : Roster} {s t : SessionId} {n : Nat} {l : Line} {m : Message}

theorem unwritten_of_none (hx : r.get? s = none) : unwritten b r s = none := by
  simp [unwritten, hx]

theorem unwritten_eq {x : Session} (hx : r.get? s = some x) (hl : b.line? (lineOf s) = some l) :
    unwritten b r s =
      if l.frames.isOpen then some (x.stage.held ++ l.frames.items) else none := by
  simp [unwritten, hx, hl]

theorem unwritten_congr {r' : Roster} (hr : r'.get? s = r.get? s)
    (hl : b'.line? (lineOf s) = b.line? (lineOf s)) : unwritten b' r' s = unwritten b r s := by
  unfold unwritten
  rw [hr, hl]

/-- An update changes the unwritten frames only through the frame held. -/
theorem unwritten_update {f : Session → Session}
    (hf : ∀ {x}, r.get? t = some x → (f x).stage.held = x.stage.held) :
    unwritten b (r.update t f) s = unwritten b r s := by
  by_cases hs : s = t
  · subst hs
    cases hx : r.get? s with
    | none => simp [unwritten, hx]
    | some x => cases hl : b.line? (lineOf s) <;> simp [unwritten, hx, hl, hf hx]
  · exact unwritten_congr (by rw [Roster.get?_update, if_neg hs]) rfl

theorem unwritten_stage {x : Session} (stage : Stage) (hx : r.get? t = some x)
    (hh : stage.held = x.stage.held) :
    unwritten b (r.update t fun x => { x with stage }) s = unwritten b r s :=
  unwritten_update fun {y} hy => by
    obtain rfl : x = y := by simpa [hx] using hy
    exact hh

theorem unwritten_poller (p : Poller) :
    unwritten b (r.update t (·.withPoller p)) s = unwritten b r s :=
  unwritten_update fun {x} _ => by
    unfold Session.withPoller
    split <;> rfl

theorem unwritten_update_of_ne {f : Session → Session} (hst : s ≠ t) :
    unwritten b (r.update t f) s = unwritten b r s :=
  unwritten_congr (by rw [Roster.get?_update, if_neg hst]) rfl

/-- Updates of one line do not affect the frames of others. -/
theorem unwritten_updateLine_of_ne {f : Line → Line} (ht : 0 < t) (hst : s ≠ t) :
    unwritten (b.updateLine (lineOf t) f) r s = unwritten b r s := by
  cases hx : r.get? s with
  | none => rw [unwritten_of_none hx, unwritten_of_none hx]
  | some x =>
    have hne : lineOf s ≠ lineOf t := fun he =>
      hst (lineOf_inj (Roster.lt_next_of_get? hx).1 ht he)
    exact unwritten_congr rfl (by rw [Switchboard.line?_updateLine, if_neg hne])

/-- The line of a session after `updateFrames`. -/
theorem line?_updateFrames (hl : b.line? n = some l) (f : Channel Message → Channel Message) :
    (b.updateFrames n f).line? n = some { l with frames := f l.frames } := by
  rw [Switchboard.updateFrames, Switchboard.line?_updateLine, if_pos rfl, hl]
  rfl

/-- A frame enters a line. -/
theorem carriage_push (hl : b.line? n = some l) (hn : n < r.length) (s : SessionId) :
    Carriage (r.get? s) (unwritten b r s) (unwritten (b.updateFrames n (·.push m)) r s)
      (sentTo s [.sent (n + 1) m]) [] := by
  by_cases hs : n + 1 = s
  · subst hs
    obtain ⟨x, hx⟩ : ∃ x, r.get? (n + 1) = some x := by simp [Roster.get?, hn]
    rw [unwritten_eq hx hl, unwritten_eq hx (line?_updateFrames hl _),
      show sentTo (n + 1) [.sent (n + 1) m] = [m] by simp [sentTo]]
    refine .sent (by simp [hx]) fun q hq => ?_
    cases ho : l.frames.isOpen with
    | false => simp [ho] at hq
    | true =>
      simp [ho] at hq
      exact ⟨_, if_pos rfl, by simp [← hq]⟩
  · rw [show sentTo s [.sent (n + 1) m] = [] by simp [sentTo, hs]]
    have kept := unwritten_updateLine_of_ne (b := b) (r := r) (Nat.succ_pos n) (Ne.symm hs)
      (f := fun l => { l with frames := l.frames.push m })
    exact .kept fun q hq => kept ▸ hq

/-- A delivery through a handle. -/
theorem carriage_deliver (hb : b.deliver n m = .ok b') (hp : b.lines.length = r.length)
    (s : SessionId) :
    Carriage (r.get? s) (unwritten b r s) (unwritten b' r s) (sentTo s [.sent (n + 1) m]) [] := by
  obtain ⟨l, hl, -, -, rfl⟩ := Switchboard.deliver_eq_ok hb
  have hn := (List.getElem?_eq_some_iff.1 hl).1
  exact carriage_push hl (hp ▸ hn) s

/-- The driver takes the oldest frame of the line. -/
theorem unwritten_take {x : Session} {rd : Reader} {c : Channel Message} (hx : r.get? t = some x)
    (hs : x.stage = .driven rd .idle) (hl : b.line? (lineOf t) = some l)
    (hf : l.frames.take? = some (m, c)) :
    unwritten (b.updateFrames (lineOf t) fun _ => c)
      (r.update t fun x => { x with stage := .driven rd (.holding m) }) s = unwritten b r s := by
  obtain ⟨hi, -, ho⟩ := Channel.take?_eq_some_iff.1 hf
  by_cases hst : s = t
  · subst hst
    rw [unwritten_eq (x := { x with stage := .driven rd (.holding m) }) (by simp [hx])
      (line?_updateFrames hl _), unwritten_eq hx hl]
    simp [ho, hi, hs, Stage.held, Writer.held]
  · rw [unwritten_update_of_ne hst]
    exact unwritten_updateLine_of_ne (Roster.lt_next_of_get? hx).1 hst

/-- The line of a session is closed. -/
theorem unwritten_depart {x : Session} (hx : r.get? t = some x) {f : Session → Session}
    {q : List Message} (hq : unwritten (b.hangUp (lineOf t)) (r.update t f) s = some q) :
    unwritten b r s = some q := by
  by_cases hst : s = t
  · -- nothing is left of this line
    subst hst
    cases hl : b.line? (lineOf s) with
    | none =>
      unfold unwritten Switchboard.hangUp Switchboard.updateFrames at hq
      simp [hl] at hq
    | some l =>
      rw [Switchboard.hangUp, unwritten_eq (x := f x) (by simp [hx])
        (line?_updateFrames hl _)] at hq
      simp at hq
  · rw [unwritten_update_of_ne hst] at hq
    rw [← hq]
    exact (unwritten_updateLine_of_ne (Roster.lt_next_of_get? hx).1 hst).symm

/-- A session is added with its line. -/
theorem carriage_add {c : Nat} {x : Session} (hb : b.addLine? c = some b')
    (hp : b.lines.length = r.length) (hx : x.stage.held = []) (s : SessionId) :
    Carriage (r.get? s) (unwritten b r s) (unwritten b' (r.add x) s) [] [] := by
  obtain rfl := Switchboard.addLine?_eq_some hb
  have hn : lineOf r.next = b.lines.length := hp.symm
  by_cases hs : s = r.next
  · subst hs
    refine .begun Roster.get?_next ?_
    rw [unwritten_eq (x := x) (l := ⟨⟨c, [], true⟩, false⟩) (by simp)
      (by simp [Switchboard.line?, hn])]
    simp [hx]
  · refine .kept fun q hq => ?_
    have hr : (r.add x).get? s = r.get? s := by rw [Roster.get?_add, if_neg hs]
    cases hy : r.get? s with
    | none => simp [unwritten_of_none (hr.trans hy)] at hq
    | some y =>
      have ht := Roster.lt_next_of_get? hy
      have hlt : lineOf s < b.lines.length := by
        unfold Roster.next at ht
        unfold lineOf
        grind
      rw [← hq]
      exact (unwritten_congr hr (List.getElem?_append_left hlt)).symm

/-- The driver has written the frame it held. -/
theorem carriage_wrote {x : Session} {rd : Reader} (hx : r.get? t = some x)
    (hr : x.stage = .driven rd (.holding m)) (ho : b.isClosed (lineOf t) = false)
    (s : SessionId) :
    Carriage (r.get? s) (unwritten b r s)
      (unwritten b (r.update t fun x => { x with stage := .driven rd .idle }) s)
      [] (writtenBy s [.wrote t m]) := by
  by_cases hst : s = t
  · subst hst
    unfold Switchboard.isClosed at ho
    split at ho
    · rename_i l hl
      rw [unwritten_eq hx hl, unwritten_eq (x := { x with stage := .driven rd .idle })
        (by simp [hx]) hl, show writtenBy s [.wrote s m] = [m] by simp [writtenBy]]
      exact .wrote (q := l.frames.items) (by simp_all [Stage.held, Writer.held])
        (by simp_all [Stage.held, Writer.held])
    · cases ho
  · rw [unwritten_update_of_ne hst, show writtenBy s [.wrote t m] = [] by
      simp [writtenBy, Ne.symm hst]]
    exact .kept fun _ hq => hq

/-- A close request keeps the frames. -/
theorem unwritten_requestClose : unwritten (b.requestClose n) r s = unwritten b r s := by
  unfold unwritten Switchboard.requestClose
  rw [Switchboard.line?_updateLine]
  by_cases hn : lineOf s = n
  · cases r.get? s <;> cases b.line? (lineOf s) <;> simp [hn]
  · simp [hn]

theorem unwritten_deregisterSession (u : User) :
    unwritten (b.deregisterSession u t).2 r s = unwritten b r s :=
  unwritten_congr rfl (by simp [Switchboard.line?])

end

/-! ### Moves -/

section
variable {a : Action} {e e' : Engine} {ns out : List Note}

/-- The effect of a transition on the frames of a session. -/
abbrev Carries (e e' : Engine) (out : List Note) (s : SessionId) : Prop :=
  Carriage (e.session? s) (unwritten e.board e.sessions s) (unwritten e'.board e'.sessions s)
    (sentTo s out) (writtenBy s out)

theorem lineOf_succ {s : SessionId} (hs : 0 < s) : lineOf s + 1 = s := Nat.sub_add_cancel hs

theorem Carries.still (s : SessionId)
    (hu : unwritten e'.board e'.sessions s = unwritten e.board e.sessions s) :
    Carries e e' [] s :=
  .kept fun _ hq => hu ▸ hq

theorem Resumed.carries {p : Producer} {b : Bool} (h : Resumed e p b out e')
    (hp : e.board.lines.length = e.sessions.length) (hs : InStage e) (s : SessionId) :
    Carries e e' out s := by
  cases h with
  | reader t =>
    refine .still s (unwritten_update fun {x} _ => ?_)
    obtain ⟨u, role, stage⟩ := x
    cases stage <;> rfl
  | status hc =>
    obtain ⟨x, hx, ho⟩ := hs.opening hc
    exact .kept fun _ hq => unwritten_stage .ready hx (by rw [ho]; rfl) ▸ hq
  | party _ hb => exact carriage_add hb hp rfl s
  | _ => exact .kept fun _ hq => hq

theorem Move.carries (hm : Move a e out e') (hw : Wired e) (hs : InStage e) (s : SessionId) :
    Carries e e' out s := by
  cases hm with
  | forsookSession _ hc =>
    obtain ⟨x, hx, -⟩ := hs.opening hc
    exact .kept fun _ hq => unwritten_depart hx hq
  | entered _ _ hr => exact hr.carries hw.paired hs s
  | refused _ hr => exact hr.carries hw.paired hs s
  | timedOut _ hr => exact hr.carries hw.paired hs s
  | promoted _ _ _ _ hr => exact hr.carries hw.paired hs s
  | notified _ _ hb => exact carriage_deliver hb hw.paired s
  | removed => exact .still s (unwritten_deregisterSession _)
  | evicted => exact .kept fun _ hq => unwritten_requestClose ▸ hq
  | sessionDeregistered => exact .still s (unwritten_deregisterSession _)
  | posted _ hb => exact carriage_deliver hb hw.paired s
  | replied _ hb => exact carriage_deliver hb hw.paired s
  | opened _ _ hb => exact carriage_add hb hw.paired rfl s
  | ticked => exact .still s (unwritten_poller _)
  | @emitted t _ _ p' held _ _ _ hx _ _ hl hh ht =>
    obtain ⟨_, _, hh', -, -, hf, -⟩ := Poller.emit_eq_sent ht
    cases hh.symm.trans hh'
    have ht := lineOf_succ (Roster.lt_next_of_get? hx).1
    have pushed := carriage_push (m := .snapshot held) hl
      (hw.paired ▸ (List.getElem?_eq_some_iff.1 hl).1) s
    rw [← Switchboard.updateFrames_const hl hf,
      ← unwritten_poller (b := e.board.updateFrames _ _) (t := t) p', ht] at pushed
    exact pushed
  | pollerEnded => exact .still s (unwritten_poller _)
  | pollerStopped => exact .still s (unwritten_poller _)
  | driven _ hx hr => exact .still s (unwritten_stage _ hx (by rw [hr]; rfl))
  | dropped _ hx => exact .kept fun _ hq => unwritten_depart hx hq
  | leftUncleared _ hx hr => exact .still s (unwritten_stage _ hx (by rw [hr]; rfl))
  | left hx => exact .kept fun _ hq => unwritten_depart hx hq
  | ponged _ hx _ _ hb =>
    have sent := carriage_deliver hb hw.paired s
    rw [lineOf_succ (Roster.lt_next_of_get? hx).1] at sent
    exact sent
  | submitting hx hr => exact .still s (unwritten_stage _ hx (by rw [hr]; rfl))
  | took _ hx hr hl hf => exact .still s (unwritten_take hx hr hl hf)
  | wrote _ hx hr => exact carriage_wrote hx hr (hs.live hx (by rw [hr]; rfl)) s
  | @ended _ _ how _ hx hr =>
    have left := unwritten_stage (b := e.board) (s := s) (.ended how) hx (by rw [hr]; rfl)
    exact .kept fun _ hq => left ▸ unwritten_deregisterSession _ ▸ hq
  | @partyEnded _ _ how _ hx hr =>
    exact .kept fun _ hq => unwritten_stage (.ended how) hx (by rw [hr]; rfl) ▸ hq
  | _ => exact .kept fun _ hq => hq

/-- Invariant of the frames of a session: accepted ones are written, unwritten or lost. -/
structure Flow (e : Engine) (ns : List Note) (s : SessionId) : Prop where
  unsent : e.session? s = none → sentTo s ns = []
  flow : ∀ q, unwritten e.board e.sessions s = some q → sentTo s ns = writtenBy s ns ++ q
  order : writtenBy s ns <+: sentTo s ns

theorem Flow.move {s : SessionId} (hm : Move a e out e') (hw : Wired e) (hs : InStage e)
    (h : Flow e ns s) : Flow e' (ns ++ out) s := by
  have still (hn : e'.session? s = none) : e.session? s = none := by
    cases hx : e.session? s with
    | none => rfl
    | some x =>
      obtain ⟨y, hy, -⟩ := hm.onward.same hx
      simp [hn] at hy
  have hc := hm.carries hw hs s
  unfold Carries at hc
  generalize hso : sentTo s out = so at hc
  generalize hwo : writtenBy s out = wo at hc
  -- a move leaves the queue of `s`, extends it, writes its head or opens it
  cases hc with
  | kept hu =>
    refine ⟨fun hn => ?_, fun q hq => ?_, ?_⟩ <;> rw [sentTo_append, hso, List.append_nil]
    · exact h.unsent (still hn)
    · simpa [hwo] using h.flow q (hu q hq)
    · simpa [hwo] using h.order
  | sent hx hu =>
    refine ⟨fun hn => absurd (still hn) hx, fun q hq => ?_, ?_⟩ <;> rw [sentTo_append, hso]
    · obtain ⟨q', hq', rfl⟩ := hu q hq
      simp [hwo, h.flow q' hq']
    · simpa [hwo] using h.order.trans (List.prefix_append _ _)
  | wrote hu hu' =>
    have hf := h.flow _ hu
    refine ⟨fun hn => ?_, fun q' hq' => ?_, ?_⟩ <;> rw [sentTo_append, hso, List.append_nil]
    · exact h.unsent (still hn)
    · obtain rfl := Option.some.inj (hu'.symm.trans hq')
      simp [hwo, hf]
    · rw [writtenBy_append, hwo, hf]
      exact ⟨_, List.append_assoc ..⟩
  | begun hx hu =>
    have hs := h.unsent hx
    have hw : writtenBy s ns = [] := List.prefix_nil.1 (hs ▸ h.order)
    refine ⟨fun _ => ?_, fun q hq => ?_, ?_⟩
    · simp [hso, hs]
    · obtain rfl := Option.some.inj (hu.symm.trans hq)
      simp [hso, hs, hwo, hw]
    · simp [hwo, hw]

theorem Reaches.flow {config : Config} {as : List Action} (h : Reaches config as e ns)
    (s : SessionId) : Flow e ns s :=
  (h.keeps_sound (P := fun e ns => Flow e ns s)
    (fun _ _ => ⟨fun _ => rfl, by simp [fresh, initial, unwritten, Roster.get?], List.prefix_rfl⟩)
    fun _ _ _ _ _ _ hw hs hm hf => hf.move hm hw hs).2

/-! ### Accepted frames -/

/-- Actions that send a frame through a handle from outside. -/
def Action.bypasses : Action → Bool
  | .inbound .. => true
  | .deliver .. => true
  | _ => false

/-- The kinds of frames of a session. -/
def Suits (x : Session) (m : Message) : Prop :=
  m = .pong ∨ match x.party? with
    | none => ∃ v, m = .friendOnline v
    | some _ => ∃ sn, m = .snapshot sn

/-- A continuation sends no frame. -/
theorem Resumed.unsent {p : Producer} {b : Bool} (h : Resumed e p b out e') :
    (∀ s, sentTo s out = []) ∧ notices out = 0 ∧ e'.dispatch.delivered = e.dispatch.delivered := by
  cases h <;> exact ⟨fun _ => rfl, rfl, rfl⟩

theorem mem_sentTo {s : SessionId} {m : Message} {ns : List Note} :
    m ∈ sentTo s ns ↔ .sent s m ∈ ns := by
  induction ns with
  | nil => simp [sentTo]
  | cons n ns ih =>
    cases n with
    | sent t m' =>
      by_cases h : t = s
      · simp [sentTo, h, ih]
      · simp [sentTo, h, Ne.symm h, ih]
    | _ => simpa [sentTo] using ih

theorem mem_sentTo_one {s t : SessionId} {m m' : Message} :
    m ∈ sentTo s [.sent t m'] ↔ s = t ∧ m = m' := by
  simp [mem_sentTo]

/-- A pong enters a line only for a ping that was just read. -/
theorem Move.pongs (hm : Move a e out e') (ha : a.bypasses = false) (s : SessionId) :
    (sentTo s out).count .pong ≤ pingsOf s out := by
  have none {ms : List Message} (h : ms = []) : ms.count .pong ≤ pingsOf s out := by simp [h]
  cases hm with
  | entered _ _ hr => exact none (hr.unsent.1 s)
  | refused _ hr => exact none (hr.unsent.1 s)
  | timedOut _ hr => exact none (hr.unsent.1 s)
  | promoted _ _ _ _ hr => exact none (hr.unsent.1 s)
  | @notified _ _ _ _ h => by_cases hs : h.line + 1 = s <;> simp [sentTo, hs]
  | posted ha' => simp [ha', Action.bypasses] at ha
  | replied ha' => simp [ha', Action.bypasses] at ha
  | @emitted t => by_cases hs : t = s <;> simp [sentTo, hs]
  | @ponged t _ _ _ _ _ _ _ ht =>
    by_cases hs : t = s <;> simp [sentTo, pingsOf, hs, ht, Except.isOk, Except.toBool]
  | _ => exact none rfl

/-- The cause of an accepted frame. -/
inductive Sends (a : Action) (e : Engine) (s : SessionId) : Message → Prop
  | notice {ev : Event} {u : User} {rest : List User} {r : FanoutReport} {h : Handle}
      (hd : e.dispatcher = .notifying ⟨ev, rest, .sending u h, r⟩) (hs : s = h.line + 1) :
      Sends a e s (.friendOnline ev.user)
  | snapshot {x : Session} {p : Poller} {held : Snapshot} {next : Instant}
      (hx : e.session? s = some x) (hp : x.role = .party p false)
      (hh : p.phase = .sending held next) : Sends a e s (.snapshot held)
  | pong {x : Session} {text : String} (ha : a = .read s (.text text))
      (hx : e.session? s = some x) (ht : Inbound.parse text = .ok .ping) : Sends a e s .pong
  | direct {m : Message} (ha : a.bypasses = true) (hm : m = .pong ∨ ∃ text, m = .plain text) :
      Sends a e s m

theorem Move.sends {s : SessionId} {m : Message} (hm : Move a e out e') (hs : m ∈ sentTo s out) :
    Sends a e s m := by
  have none {ms : List Message} (h : ms = []) : m ∉ ms := by simp [h]
  cases hm with
  | entered _ _ hr => exact absurd hs (none (hr.unsent.1 s))
  | refused _ hr => exact absurd hs (none (hr.unsent.1 s))
  | timedOut _ hr => exact absurd hs (none (hr.unsent.1 s))
  | promoted _ _ _ _ hr => exact absurd hs (none (hr.unsent.1 s))
  | notified _ hd =>
    obtain ⟨rfl, rfl⟩ := mem_sentTo_one.1 hs
    exact .notice hd rfl
  | @posted _ text _ ha =>
    obtain ⟨rfl, rfl⟩ := mem_sentTo_one.1 hs
    exact .direct (ha ▸ rfl) (.inr ⟨text, rfl⟩)
  | replied ha =>
    obtain ⟨rfl, rfl⟩ := mem_sentTo_one.1 hs
    exact .direct (ha ▸ rfl) (.inl rfl)
  | emitted hx hp _ _ hh =>
    obtain ⟨rfl, rfl⟩ := mem_sentTo_one.1 hs
    exact .snapshot hx hp hh
  | ponged ha hx _ ht =>
    obtain ⟨rfl, rfl⟩ := mem_sentTo_one.1 hs
    exact .pong ha hx ht
  | _ => exact absurd hs (none rfl)

/-- An accepted frame suits its session. -/
theorem Sends.suits {s : SessionId} {m : Message} (h : Sends a e s m) (hw : Wired e)
    (ha : a.bypasses = false) : ∃ x, e.session? s = some x ∧ Suits x m := by
  cases h with
  | @notice ev u _ _ h hd hs =>
    have hh : Leads e u h := by simpa [hd, Holds] using hw.fanout
    obtain ⟨x, hx, -, hp⟩ := hh.session
    refine ⟨x, ?_, .inr (by rw [hp]; exact ⟨_, rfl⟩)⟩
    rw [hs, hh.line, lineOf_succ (Roster.lt_next_of_get? hx).1]
    exact hx
  | @snapshot x p _ _ hx hp =>
    have hx' : x.party? = some p.party := by simp [Session.party?, hp]
    exact ⟨x, hx, .inr (by rw [hx']; exact ⟨_, rfl⟩)⟩
  | pong _ hx => exact ⟨_, hx, .inl rfl⟩
  | direct hb => simp [ha] at hb

/-- The number of notices delivered in the fanout in progress. -/
def underway : DispatcherPhase → Nat
  | .notifying f => f.report.delivered
  | _ => 0

/-- The number of notices counted so far, with the fanout in progress. -/
def counted (e : Engine) : Nat := e.dispatch.delivered + underway e.dispatcher

/-- A continuation counts no notice. -/
theorem Resumed.counts {p : Producer} {b : Bool} (h : Resumed e p b out e') :
    counted e' = counted e + notices out := by
  cases h <;> rfl

theorem counted_of {d : DispatcherPhase} {n : Nat} (hd : e.dispatcher = d)
    (h : counted e' = e.dispatch.delivered + underway d + n) : counted e' = counted e + n := by
  unfold counted
  rw [hd]
  exact h

/-- Every notice that enters a line is counted. -/
theorem Move.counts (hm : Move a e out e') : counted e' = counted e + notices out := by
  cases hm with
  | entered _ _ hr => exact hr.counts
  | refused _ hr => exact hr.counts
  | timedOut _ hr => exact hr.counts
  | began _ hd => exact counted_of hd rfl
  | promoted _ hd _ _ hr => exact counted_of hd hr.counts
  | retired _ hd => exact counted_of hd rfl
  | finished _ hd => exact counted_of hd rfl
  | missed _ hd => exact counted_of hd rfl
  | found _ hd => exact counted_of hd rfl
  | notified _ hd => exact counted_of hd rfl
  | crowded _ hd => exact counted_of hd rfl
  | vanished _ hd => exact counted_of hd rfl
  | removed _ hd => exact counted_of hd rfl
  | _ => rfl

section
variable {config : Config} {as : List Action}

theorem Reaches.pongs (h : Reaches config as e ns) (ha : ∀ a ∈ as, a.bypasses = false)
    (s : SessionId) : (sentTo s ns).count .pong ≤ pingsOf s ns :=
  h.keeps (P := fun _ ns => (sentTo s ns).count .pong ≤ pingsOf s ns) (fun _ _ => Nat.le_refl 0)
    fun a hmem _ _ _ _ hm hP => by
      have hmore := hm.pongs (ha a hmem) s
      rw [sentTo_append, pingsOf_append, List.count_append]
      omega

theorem Reaches.suits (h : Reaches config as e ns) (ha : ∀ a ∈ as, a.bypasses = false)
    {s : SessionId} {x : Session} {m : Message} (hx : e.session? s = some x)
    (hs : m ∈ sentTo s ns) : Suits x m := by
  have kept := (h.keeps_wired
    (P := fun e ns => ∀ m ∈ sentTo s ns, ∃ x, e.session? s = some x ∧ Suits x m)
    (fun _ _ m hm => by simp [sentTo] at hm) fun a hmem e out e' ns hw hm hP m hs => ?_).2
  · obtain ⟨y, hy, hsuits⟩ := kept m hs
    cases hx.symm.trans hy
    exact hsuits
  · have there : ∃ x, e.session? s = some x ∧ Suits x m := by
      rw [sentTo_append, List.mem_append] at hs
      exact hs.elim (hP m) fun hs => (hm.sends hs).suits hw (ha a hmem)
    obtain ⟨x, hx, hsuits⟩ := there
    obtain ⟨y, hy, -, hp⟩ := hm.onward.same hx
    exact ⟨y, hy, by unfold Suits; rw [hp]; exact hsuits⟩

theorem Reaches.counts (h : Reaches config as e ns) : notices ns = counted e :=
  h.keeps (P := fun e ns => notices ns = counted e) (fun _ _ => rfl) fun _ _ _ _ _ _ hm hP => by
    rw [notices_append, hP, hm.counts]

end

end

end Engine

end Presence
