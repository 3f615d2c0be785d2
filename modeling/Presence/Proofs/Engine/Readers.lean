import Presence.Proofs.Engine.Stages

/-!
The reader of a session under actions of others. A reader takes a frame only by `read`, and has a
pending submission only after a ping. Every other action keeps its driver, and at most returns its
pending submission, after which it reads again (`Beside`).
-/

namespace Presence

/-- The session has or had a driver, which was not dropped. -/
def Stage.isManned : Stage → Bool
  | .driven .. => true
  | .leaving _ => true
  | .ended _ => true
  | _ => false

/-- The reader of the session has a pending submission. -/
def Session.isSubmitting (x : Session) : Bool :=
  match x.stage with
  | .driven .submitting _ => true
  | _ => false

/-- The effect on a stage of `n` returned submissions of the reader. -/
inductive Stage.Goes (answers : Nat) : Stage → Stage → Prop
  | driven {r r' : Reader} (w w' : Writer) (hr : r' = if answers = 0 then r else .reading) :
      Goes answers (.driven r w) (.driven r' w')
  | leaving (how : SessionEnd) : Goes answers (.leaving how) (.leaving how)
  | returns (how : SessionEnd) : Goes answers (.leaving how) (.ended how)
  | ended (how : SessionEnd) : Goes answers (.ended how) (.ended how)

namespace Stage

variable {st st' st'' : Stage} {n m : Nat}

theorem Goes.refl (h : st.isManned = true) : st.Goes 0 st := by
  cases st with
  | driven r w => exact .driven w w rfl
  | leaving how => exact .leaving how
  | ended how => exact .ended how
  | _ => cases h

theorem Goes.manned (h : st.Goes n st') : st'.isManned = true := by
  cases h <;> rfl

theorem Goes.trans (h : st.Goes n st') (h' : st'.Goes m st'') : st.Goes (n + m) st'' := by
  cases h with
  | driven w w' hr =>
    cases h' with
    | driven _ w'' hr' =>
      refine .driven w w'' ?_
      rw [hr', hr]
      by_cases hm : m = 0
      · rw [hm]
        rfl
      · rw [if_neg hm, if_neg (Nat.ne_of_gt (Nat.add_pos_right n (Nat.pos_of_ne_zero hm)))]
  | leaving =>
    cases h' with
    | leaving => exact .leaving _
    | returns => exact .returns _
  | returns =>
    cases h' with
    | ended => exact .returns _
  | ended =>
    cases h' with
    | ended => exact .ended _

end Stage

namespace Engine

/-! ### Reading a record -/

/-- The frames that the driver of a session has read, oldest first. -/
def heardBy (s : SessionId) : List Note → List Inflow
  | [] => []
  | .heard t frame :: ns => if t = s then frame :: heardBy s ns else heardBy s ns
  | _ :: ns => heardBy s ns

/-- The number of submissions of a session's reader that have returned. -/
def answersTo (s : SessionId) : List Note → Nat
  | [] => 0
  | .returned p _ :: ns => (if p = some (.reader s) then 1 else 0) + answersTo s ns
  | _ :: ns => answersTo s ns

section
variable (s : SessionId) (ns ms : List Note)

@[simp] theorem heardBy_append : heardBy s (ns ++ ms) = heardBy s ns ++ heardBy s ms := by
  induction ns with
  | nil => rfl
  | cons n ns ih =>
    cases n with
    | heard t frame => by_cases h : t = s <;> simp [heardBy, h, ih]
    | _ => simp [heardBy, ih]

@[simp] theorem answersTo_append : answersTo s (ns ++ ms) = answersTo s ns + answersTo s ms := by
  induction ns with
  | nil => simp [answersTo]
  | cons n ns ih => cases n <;> simp [answersTo, ih, Nat.add_assoc]

end

/-- The number of submissions of a session's reader that wait. -/
def waitsOf (s : SessionId) (q : Queue Producer) : Nat :=
  q.waiting.countP fun w => w.producer = .reader s

/-- The reader of session `s` has a pending submission. -/
def isSubmitting (s : SessionId) (e : Engine) : Bool := (e.session? s).any Session.isSubmitting

/-! ### The reader's own steps -/

/-- Delivers a pong to the session's own line, if there is room. -/
def tryPong (e : Engine) (s : SessionId) : Effect :=
  match e.board.deliver (lineOf s) .pong with
  | .ok board => (e.withBoard board, [.sent s .pong])
  | .error _ => (e, [])

/-- Submits a heartbeat of the user for the reader of a session. -/
def beat (e : Engine) (s : SessionId) (user : User) (w : Writer) : Effect :=
  (e.setStage s (.driven .submitting w)).submit (.reader s) (Event.mk user .heartbeat)

theorem hear_ping {e : Engine} {s : SessionId} {user : User} {w : Writer} {text : String}
    (h : Inbound.parse text = .ok .ping) :
    e.hear s user w (.text text) = andThen (e.tryPong s) (·.beat s user w) := by
  unfold hear
  simp only [h]
  rfl

/-- Delivering a pong changes only the board. -/
theorem tryPong_eq (e : Engine) (s : SessionId) :
    e.tryPong s = (e.withBoard (e.tryPong s).1.board, (e.tryPong s).2) := by
  unfold tryPong
  split
  · rfl
  · rfl

/-- A heartbeat does not depend on the board. -/
theorem beat_withBoard (e : Engine) (b : Switchboard) (s : SessionId) (u : User) (w : Writer) :
    (e.withBoard b).beat s u w = ((e.beat s u w).1.withBoard b, (e.beat s u w).2) := by
  have queue : ((e.withBoard b).setStage s (.driven .submitting w)).queue.events.trySend
      (Event.mk u .heartbeat) =
        (e.setStage s (.driven .submitting w)).queue.events.trySend (Event.mk u .heartbeat) := rfl
  unfold beat submit Queue.submit
  rw [queue]
  cases (e.setStage s (.driven .submitting w)).queue.events.trySend (Event.mk u .heartbeat) with
  | ok c => rfl
  | error d =>
    cases d with
    | closed => rfl
    | full => rfl

/-! ### Effects of others -/

/-- The change of the waiting producers while the reader of session `s` does not join them: some
remain in their order, new ones are behind them. -/
def GoesOn (s : SessionId) (line line' : List (Waiter Producer)) : Prop :=
  ∃ stay joined, line' = stay ++ joined ∧ stay.Sublist line ∧
    ∀ v ∈ joined, v.producer ≠ .reader s

section
variable {s : SessionId} {line line' line'' : List (Waiter Producer)}

theorem GoesOn.of_sublist (h : line'.Sublist line) : GoesOn s line line' :=
  ⟨line', [], (List.append_nil line').symm, h, by simp⟩

theorem GoesOn.of_eq (h : line' = line) : GoesOn s line line' :=
  .of_sublist (h ▸ List.Sublist.refl line)

theorem GoesOn.join {v : Waiter Producer} (hv : v.producer ≠ .reader s) :
    GoesOn s line (line ++ [v]) :=
  ⟨line, [v], rfl, .refl line, by simpa using hv⟩

theorem GoesOn.trans (h : GoesOn s line line') (h' : GoesOn s line' line'') :
    GoesOn s line line'' := by
  obtain ⟨stay, joined, rfl, hs, hj⟩ := h
  obtain ⟨stay', joined', rfl, hs', hj'⟩ := h'
  obtain ⟨older, newer, rfl, ho, hn⟩ := List.sublist_append_iff.1 hs'
  refine ⟨older, newer ++ joined', List.append_assoc .., ho.trans hs, fun v hv => ?_⟩
  exact (List.mem_append.1 hv).elim (fun h => hj v (hn.subset h)) (hj' v)

end

/-- The effect, on the reader of session `s`, of a transition that is not its own. -/
structure Beside (s : SessionId) (e e' : Engine) (out : List Note) : Prop where
  heard : heardBy s out = []
  waits : waitsOf s e'.queue + answersTo s out = waitsOf s e.queue
  line : GoesOn s e.queue.waiting e'.queue.waiting
  session : ∀ {x}, e.session? s = some x → x.stage.isManned = true →
    ∃ y, e'.session? s = some y ∧ y.user = x.user ∧ x.stage.Goes (answersTo s out) y.stage
  calm : isSubmitting s e = false → isSubmitting s e' = false

section
variable {s t : SessionId} {e e' e'' : Engine} {out rest : List Note} {x y : Session}

theorem Beside.andThen {f : Engine → Effect} {a : Effect} (h : Beside s e a.1 a.2)
    (h' : Beside s a.1 (f a.1).1 (f a.1).2) :
    Beside s e (Engine.andThen a f).1 (Engine.andThen a f).2 := by
  unfold Engine.andThen
  constructor
  case heard => simp [h.heard, h'.heard]
  case waits =>
    show waitsOf s (f a.1).1.queue + answersTo s (a.2 ++ (f a.1).2) = _
    rw [answersTo_append, Nat.add_comm (answersTo s a.2), ← Nat.add_assoc, h'.waits, h.waits]
  case line => exact h.line.trans h'.line
  case session =>
    intro x hx manned
    obtain ⟨y, hy, user, goes⟩ := h.session hx manned
    obtain ⟨z, hz, user', goes'⟩ := h'.session hy goes.manned
    rw [answersTo_append]
    exact ⟨z, hz, user'.trans user, goes.trans goes'⟩
  case calm => exact fun he => h'.calm (h.calm he)

/-- Notes that do not concern a reader. -/
def Aside (s : SessionId) (out : List Note) : Prop := heardBy s out = [] ∧ answersTo s out = 0

/-- Only the queue has changed. -/
theorem Beside.queue (hw : waitsOf s e'.queue = waitsOf s e.queue)
    (hl : GoesOn s e.queue.waiting e'.queue.waiting) (hs : e'.sessions = e.sessions)
    (hn : Aside s out) : Beside s e e' out := by
  constructor
  case heard => exact hn.1
  case waits => rw [hn.2, hw, Nat.add_zero]
  case line => exact hl
  case session =>
    intro x hx manned
    rw [hn.2, session?, hs]
    exact ⟨x, hx, rfl, .refl manned⟩
  case calm =>
    unfold isSubmitting session?
    rw [hs]
    exact id

/-- Neither the queue nor the roster has changed. -/
theorem Beside.still (hq : e'.queue.waiting = e.queue.waiting) (hs : e'.sessions = e.sessions)
    (hn : Aside s out) : Beside s e e' out :=
  .queue (congrArg (List.countP _) hq) (.of_eq hq) hs hn

/-- An update of a session that keeps what `Beside` relates. -/
theorem Beside.update {f : Session → Session} (hq : e'.queue.waiting = e.queue.waiting)
    (hs : e'.sessions = e.sessions.update t f)
    (hf : t = s → ∀ x, e.session? s = some x → x.stage.isManned = true →
      (f x).user = x.user ∧ x.stage.Goes 0 (f x).stage)
    (hc : t = s → ∀ x, e.session? s = some x → x.isSubmitting = false → (f x).isSubmitting = false)
    (hn : Aside s out) : Beside s e e' out := by
  constructor
  case heard => exact hn.1
  case waits => rw [hn.2, waitsOf, hq, ← waitsOf, Nat.add_zero]
  case line => exact .of_eq hq
  case session =>
    intro x hx manned
    rw [hn.2, session?, hs, Roster.get?_update]
    by_cases ht : s = t
    · obtain ⟨user, goes⟩ := hf ht.symm x hx manned
      rw [if_pos ht, show e.sessions.get? s = some x from hx]
      exact ⟨f x, rfl, user, goes⟩
    · rw [if_neg ht]
      exact ⟨x, hx, rfl, .refl manned⟩
  case calm =>
    unfold isSubmitting session?
    rw [hs, Roster.get?_update]
    by_cases ht : s = t
    · rw [if_pos ht]
      cases hx : e.sessions.get? s with
      | none => exact id
      | some x => exact hc ht.symm x hx
    · rw [if_neg ht]
      exact id

/-- An update of another session. -/
theorem Beside.other {f : Session → Session} (hst : t ≠ s)
    (hq : e'.queue.waiting = e.queue.waiting) (hs : e'.sessions = e.sessions.update t f)
    (hn : Aside s out) : Beside s e e' out :=
  .update hq hs (fun ht => absurd ht hst) (fun ht => absurd ht hst) hn

/-- An update of a poller. -/
theorem Beside.poller {p : Poller} (hq : e'.queue.waiting = e.queue.waiting)
    (hs : e'.sessions = e.sessions.update t (·.withPoller p)) (hn : Aside s out) :
    Beside s e e' out := by
  have same (x : Session) : (x.withPoller p).user = x.user ∧ (x.withPoller p).stage = x.stage := by
    obtain ⟨user, role, stage⟩ := x
    cases role <;> exact ⟨rfl, rfl⟩
  refine .update hq hs (fun _ x _ manned => ?_) (fun _ x _ hx => ?_) hn
  · rw [(same x).2]
    exact ⟨(same x).1, .refl manned⟩
  · unfold Session.isSubmitting
    rw [(same x).2]
    exact hx

/-- A session is added. -/
theorem Beside.add (hy : y.isSubmitting = false) (hq : e'.queue.waiting = e.queue.waiting)
    (hs : e'.sessions = e.sessions.add y) (hn : Aside s out) : Beside s e e' out := by
  constructor
  case heard => exact hn.1
  case waits => rw [hn.2, waitsOf, hq, ← waitsOf, Nat.add_zero]
  case line => exact .of_eq hq
  case session =>
    intro x hx manned
    have older : s ≠ e.sessions.next := fun h => by
      rw [session?, h, Roster.get?_next] at hx
      cases hx
    rw [hn.2, session?, hs, Roster.get?_add, if_neg older]
    exact ⟨x, hx, rfl, .refl manned⟩
  case calm =>
    unfold isSubmitting session?
    rw [hs, Roster.get?_add]
    split
    · exact fun _ => hy
    · exact id

theorem waitsOf_abandon {q : Queue Producer} {p : Producer} (hp : p ≠ .reader s) :
    waitsOf s (q.abandon p) = waitsOf s q := by
  unfold waitsOf Queue.abandon
  rw [List.countP_filter]
  refine List.countP_congr fun w _ => ?_
  by_cases hw : w.producer = .reader s
  · simp [hw, Ne.symm hp]
  · simp [hw]

/-- One waiting producer is removed. -/
theorem waitsOf_cut {q q' : Queue Producer} {w : Waiter Producer}
    {before after : List (Waiter Producer)} (hq : q.waiting = before ++ w :: after)
    (hq' : q'.waiting = before ++ after) :
    waitsOf s q = waitsOf s q' + if w.producer = .reader s then 1 else 0 := by
  unfold waitsOf
  rw [hq, hq', List.countP_append, List.countP_append, List.countP_cons]
  simp [Nat.add_assoc]

/-! ### Submissions of others -/

/-- A producer whose call opens a session that is already driven. -/
def Reopens (e : Engine) (p : Producer) (s : SessionId) : Prop :=
  ∃ t x, p = .call t ∧ e.calls.get? t = some (.openStatus s) ∧ e.session? s = some x ∧
    x.stage.isManned = true

theorem InStage.not_reopens (h : InStage e) (p : Producer) : ¬ Reopens e p s := by
  rintro ⟨t, x, -, hc, hx, manned⟩
  refine h.uncalled hx (fun ho => ?_) t hc
  rw [ho] at manned
  cases manned

theorem resume_beside {p : Producer} (hp : p ≠ .reader s) (ho : ¬ Reopens e p s) (b : Bool) :
    Beside s e (e.resume p b).1 (e.resume p b).2 := by
  have resumed := resume_resumed e p b
  generalize e.resume p b = x at resumed
  obtain ⟨e', out⟩ := x
  cases resumed with
  | reader t => exact .other (fun h => hp (h ▸ rfl)) rfl rfl ⟨rfl, rfl⟩
  | @status u _ t hc =>
    refine .update (f := fun x => { x with stage := .ready }) (t := t) rfl rfl ?_ ?_ ⟨rfl, rfl⟩
    · exact fun ht x hx manned => absurd ⟨u, x, rfl, ht ▸ hc, hx, manned⟩ ho
    · exact fun _ _ _ _ => rfl
  | party => exact .add rfl rfl rfl ⟨rfl, rfl⟩
  | _ => exact .still rfl rfl ⟨rfl, rfl⟩

/-- A reader whose submission has returned has none pending. -/
theorem isSubmitting_resume (b : Bool) : isSubmitting s (e.resume (.reader s) b).1 = false := by
  unfold isSubmitting session? resume updateSession
  rw [Roster.get?_update, if_pos rfl]
  cases e.sessions.get? s with
  | none => rfl
  | some x =>
    obtain ⟨user, role, stage⟩ := x
    cases stage <;> rfl

/-- A submission returns. -/
theorem submitted_beside (e₀ : Engine) {p : Producer} (hs : e.sessions = e₀.sessions)
    (hw : waitsOf s e₀.queue = waitsOf s e.queue + if p = .reader s then 1 else 0)
    (hl : GoesOn s e₀.queue.waiting e.queue.waiting)
    (ho : ¬ Reopens e p s) (hn : Aside s out) (b : Bool) :
    Beside s e₀ (Engine.andThen (e, out) (·.submitted p b)).1
      (Engine.andThen (e, out) (·.submitted p b)).2 := by
  by_cases hp : p = .reader s
  · subst hp
    rw [if_pos rfl] at hw
    have once : answersTo s (Engine.andThen (e, out) (·.submitted (.reader s) b)).2 = 1 := by
      simp [Engine.andThen, submitted, resume, answersTo, hn.2]
    constructor
    case heard => simp [Engine.andThen, submitted, resume, heardBy, hn.1]
    case waits =>
      rw [once]
      exact hw.symm
    case line => exact hl
    case session =>
      intro x hx manned
      rw [once]
      have hx : e.sessions.get? s = some x := hs ▸ hx
      refine ⟨_, (Roster.get?_update _).trans ((if_pos rfl).trans (congrArg _ hx)), ?_⟩
      obtain ⟨user, role, stage⟩ := x
      cases stage with
      | driven r w => exact ⟨rfl, .driven w w rfl⟩
      | leaving how => exact ⟨rfl, .leaving how⟩
      | ended how => exact ⟨rfl, .ended how⟩
      | _ => cases manned
    case calm =>
      intro _
      exact isSubmitting_resume b
  · rw [if_neg hp] at hw
    have removed : Beside s e₀ e out := .queue hw.symm hl hs hn
    have noted : Beside s e e [.returned (some p) b] := .still rfl rfl ⟨rfl, by simp [answersTo, hp]⟩
    exact removed.andThen (a := (e, out))
      (noted.andThen (a := (e, [.returned (some p) b])) (resume_beside hp ho b))

/-- Another producer submits an event. -/
theorem submit_beside {p : Producer} (hp : p ≠ .reader s) (ho : ¬ Reopens e p s) (ev : Event) :
    Beside s e (e.submit p ev).1 (e.submit p ev).2 := by
  unfold submit Queue.submit
  cases e.queue.events.trySend ev with
  | ok c =>
    have aside : Aside s [.accepted ev] := ⟨rfl, rfl⟩
    refine submitted_beside e (e := { e with queue := e.queue.accept ev }) rfl ?_ (.of_eq rfl) ho
      aside true
    rw [if_neg hp]
    rfl
  | error d =>
    cases d with
    | closed =>
      have aside : Aside s [.gaveUp ev] := ⟨rfl, rfl⟩
      refine submitted_beside e (e := { e with queue := e.queue.drop }) rfl ?_ (.of_eq rfl) ho
        aside false
      rw [if_neg hp]
      rfl
    | full =>
      refine .queue ?_ (.join hp) rfl ⟨rfl, rfl⟩
      simp [waitsOf, Queue.lineUp, hp]

/-- A waiting producer drops its event. -/
theorem giveUp_beside (ho : ∀ p, ¬ Reopens e p s) : Beside s e e.giveUp.1 e.giveUp.2 := by
  unfold giveUp
  cases hg : e.queue.giveUp? e.now with
  | none => exact .still rfl rfl ⟨rfl, rfl⟩
  | some found =>
    obtain ⟨w, q⟩ := found
    obtain ⟨before, after, hw, erased, -⟩ := Queue.giveUp?_cut hg
    obtain ⟨-, rfl⟩ := Queue.giveUp?_eq_some hg
    have fewer : (e.queue.waiting.eraseP (e.queue.mustGiveUp e.now)).Sublist e.queue.waiting :=
      List.eraseP_sublist
    generalize hq : e.queue.waiting.eraseP (e.queue.mustGiveUp e.now) = rest at erased fewer ⊢
    have aside : Aside s [.gaveUp w.event] := ⟨rfl, rfl⟩
    exact submitted_beside e
      (e := { e with queue := Queue.drop { e.queue with waiting := rest } }) rfl
      (waitsOf_cut hw erased) (.of_sublist fewer) (ho w.producer) aside false

/-- A step of the dispatcher. -/
theorem dispatchStep_beside (ho : ∀ p, ¬ Reopens e p s) :
    Beside s e e.dispatchStep.1 e.dispatchStep.2 := by
  unfold dispatchStep
  split
  · unfold takeEvent
    split
    · exact .still rfl rfl ⟨rfl, rfl⟩
    · cases ht : e.queue.take? with
      | none => exact .still rfl rfl ⟨rfl, rfl⟩
      | some taken =>
        obtain ⟨ev, promoted, q⟩ := taken
        cases promoted with
        | none =>
          obtain ⟨c, -, rfl⟩ := Queue.take?_eq_some ht
          exact .still rfl rfl ⟨rfl, rfl⟩
        | some w =>
          obtain ⟨c, rest, -, hw, -, rfl⟩ := Queue.take?_eq_some_waiter ht
          have aside : Aside s [.processed ev e.now, .accepted w.event] := ⟨rfl, rfl⟩
          have first : e.queue.waiting = [] ++ w :: rest := hw
          have fewer : rest.Sublist e.queue.waiting := hw ▸ List.sublist_cons_self w rest
          exact submitted_beside e (e := e.begin ev (Queue.accept
            { e.queue with events := c, waiting := rest } w.event)) rfl (waitsOf_cut first rfl)
            (.of_sublist fewer) (ho w.producer) aside true
  · unfold notifyStep
    split
    · split
      · exact .still rfl rfl ⟨rfl, rfl⟩
      · split
        · exact .still rfl rfl ⟨rfl, rfl⟩
        · exact .still rfl rfl ⟨rfl, rfl⟩
    · dsimp only
      split
      · exact .still rfl rfl ⟨rfl, rfl⟩
      · exact .still rfl rfl ⟨rfl, rfl⟩
      · exact .still rfl rfl ⟨rfl, rfl⟩
    · exact .still rfl rfl ⟨rfl, rfl⟩
  · exact .still rfl rfl ⟨rfl, rfl⟩

/-! ### Actions of others -/

/-- Composition with an effect without notes of the reader. -/
theorem Beside.next (h : Beside s e e' []) (h' : Beside s e' e'' out) : Beside s e e'' out :=
  h.andThen (a := (e', [])) (f := fun _ => (e'', out)) h'

/-- A call that submits an event. -/
theorem call_beside (ticket : Nat) {c : Call} (hc : ∀ t, c ≠ .openStatus t) (ev : Event) :
    Beside s e ((e.await ticket c).submit (.call ticket) ev).1
      ((e.await ticket c).submit (.call ticket) ev).2 := by
  have apart : ¬ Reopens (e.await ticket c) (.call ticket) s := by
    rintro ⟨t, x, ht, hget, -⟩
    cases ht
    simp only [await, Table.get?_insert, if_true, Option.some.injEq] at hget
    exact hc s hget
  have awaited : Beside s e (e.await ticket c) [] := .still rfl rfl ⟨rfl, rfl⟩
  exact awaited.next (submit_beside (by simp) apart ev)

/-- A delivery to a line. -/
theorem post_beside (h : Handle) (text : String) :
    Beside s e (e.post h text).1 (e.post h text).2 := by
  unfold post
  cases e.board.deliver h.line (.plain text) with
  | ok board => exact .still rfl rfl ⟨rfl, rfl⟩
  | error d => exact .still rfl rfl ⟨rfl, rfl⟩

/-- A pending submission of another producer is withdrawn. -/
theorem abandon_beside {p : Producer} (hp : p ≠ .reader s) :
    Beside s e { e with queue := e.queue.abandon p } [] :=
  .queue (waitsOf_abandon hp) (.of_sublist List.filter_sublist) rfl ⟨rfl, rfl⟩

/-- Another session is left. -/
theorem depart_beside (hst : t ≠ s) (stage : Stage) : Beside s e (e.depart t stage) [] :=
  (abandon_beside (p := .reader t) (by simpa using hst)).next (.other hst rfl rfl ⟨rfl, rfl⟩)

theorem waitsOf_abandon_self {q : Queue Producer} : waitsOf s (q.abandon (.reader s)) = 0 := by
  unfold waitsOf Queue.abandon
  rw [List.countP_filter, List.countP_eq_zero]
  intro w _
  simp

/-- A call for a status session. -/
theorem openStatus_beside (ticket : Nat) (u : User) :
    Beside s e (e.openStatus ticket u).1 (e.openStatus ticket u).2 := by
  unfold openStatus
  split
  · exact .still rfl rfl ⟨rfl, rfl⟩
  · split
    · exact .still rfl rfl ⟨rfl, rfl⟩
    · rename_i board _
      have added : Beside s e ({ e.withBoard (board.register u ⟨e.nextSession, lineOf e.nextSession⟩)
          with
            sessions := e.sessions.add ⟨u, .status, .opening⟩
            opened := e.opened + 1
            calls := e.calls.insert ticket (.openStatus e.nextSession) })
          [.registered u e.nextSession] := .add rfl rfl rfl ⟨rfl, rfl⟩
      refine added.andThen (a := (_, _)) (submit_beside (by simp) ?_ _)
      rintro ⟨t, x, ht, hget, hx, manned⟩
      cases ht
      obtain rfl : e.nextSession = s := by simpa [await, Table.get?_insert] using hget
      -- the session that is waited for has just been added
      obtain rfl : ⟨u, .status, .opening⟩ = x := by
        simpa [await, session?, nextSession] using hx
      cases manned

theorem stop_beside (ticket : Nat) : Beside s e (e.stop ticket).1 (e.stop ticket).2 := by
  unfold stop
  dsimp only
  split
  · exact .still rfl rfl ⟨rfl, rfl⟩
  · exact .still rfl rfl ⟨rfl, rfl⟩

theorem authorize_beside (ticket : Nat) (p : Party) (u : User) (opens : Bool) :
    Beside s e (e.authorize ticket p u opens).1 (e.authorize ticket p u opens).2 := by
  unfold authorize
  split
  · exact .still rfl rfl ⟨rfl, rfl⟩
  · exact .still rfl rfl ⟨rfl, rfl⟩

theorem startParty_beside (ticket : Nat) (m : Membership) :
    Beside s e (e.startParty ticket m).1 (e.startParty ticket m).2 := by
  unfold startParty
  split
  · exact .still rfl rfl ⟨rfl, rfl⟩
  · exact call_beside ticket (by simp) _

/-- A text that does not come through a driver. -/
theorem inbound_beside (ticket : Nat) (u : User) (h : Handle) (text : String) :
    Beside s e (e.inbound ticket u h text).1 (e.inbound ticket u h text).2 := by
  unfold inbound
  split
  · exact .still rfl rfl ⟨rfl, rfl⟩
  · refine Beside.andThen ?_ (call_beside ticket (by simp) _)
    split
    · exact .still rfl rfl ⟨rfl, rfl⟩
    · exact .still rfl rfl ⟨rfl, rfl⟩

/-- An answer to a lookup. -/
theorem lookupAnswered_beside (ticket : Nat) (a : Answer (Option Membership)) :
    Beside s e (e.lookupAnswered ticket a).1 (e.lookupAnswered ticket a).2 := by
  unfold lookupAnswered
  split
  · split
    · exact .still rfl rfl ⟨rfl, rfl⟩
    · exact .still rfl rfl ⟨rfl, rfl⟩
    · split
      · exact startParty_beside ticket _
      · exact .still rfl rfl ⟨rfl, rfl⟩
  · exact .still rfl rfl ⟨rfl, rfl⟩

/-- A call is dropped, with the session that it opens. -/
theorem dropCall_beside (hi : InStage e) (hw : waitsOf s e.queue = (isSubmitting s e).toNat)
    (ticket : Nat) : Beside s e (e.dropCall ticket) [] := by
  unfold dropCall
  have left : Beside s e { e with
      calls := e.calls.erase ticket
      queue := e.queue.abandon (.call ticket) } [] :=
    (abandon_beside (p := .call ticket) (by simp)).next (.still rfl rfl ⟨rfl, rfl⟩)
  cases hc : e.calls.get? ticket with
  | none => exact left
  | some c =>
    cases c with
    | openStatus t =>
      by_cases ht : t = s
      · subst ht
        obtain ⟨x, hx, opening⟩ := hi.opening hc
        have hx : e.session? t = some x := hx
        have idle : waitsOf t e.queue = 0 := by
          rw [hw, isSubmitting, hx, Option.any_some, Session.isSubmitting, opening]
          rfl
        have alone : Beside t e { e with
            queue := (e.queue.abandon (.call ticket)).abandon (.reader t) } [] :=
          .queue (waitsOf_abandon_self.trans idle.symm)
            (.of_sublist (List.filter_sublist.trans List.filter_sublist)) rfl ⟨rfl, rfl⟩
        refine alone.next (.update (f := fun x => { x.stopPoller with stage := .dropped }) (t := t)
          rfl rfl (fun _ y hy manned => ?_) (fun _ _ _ _ => rfl) ⟨rfl, rfl⟩)
        obtain rfl : x = y := Option.some.inj (hx.symm.trans hy)
        rw [opening] at manned
        cases manned
      · exact left.next (depart_beside ht .dropped)
    | _ => exact left

theorem tryPong_aside (e : Engine) (t s : SessionId) : Aside s (e.tryPong t).2 := by
  unfold tryPong
  split
  · exact ⟨rfl, rfl⟩
  · exact ⟨rfl, rfl⟩

theorem tryPong_beside (t : SessionId) : Beside s e (e.tryPong t).1 (e.tryPong t).2 := by
  have aside := tryPong_aside e t s
  rw [tryPong_eq]
  exact .still rfl rfl aside

theorem beat_beside (hst : t ≠ s) (user : User) (w : Writer) :
    Beside s e (e.beat t user w).1 (e.beat t user w).2 := by
  have begun : Beside s e (e.setStage t (.driven .submitting w)) [] :=
    .other hst rfl rfl ⟨rfl, rfl⟩
  have reader : ¬ Reopens (e.setStage t (.driven .submitting w)) (.reader t) s := by
    rintro ⟨_, _, h, -⟩
    cases h
  exact begun.next (submit_beside (by simpa using hst) reader _)

/-- Another driver reads a frame. -/
theorem read_beside (hst : t ≠ s) (frame : Inflow) :
    Beside s e (e.read t frame).1 (e.read t frame).2 := by
  unfold read
  split
  · have heard : Beside s e e [.heard t frame] := .still rfl rfl ⟨by simp [heardBy, hst], rfl⟩
    refine heard.andThen (a := (_, _)) ?_
    cases frame with
    | text text =>
      cases hp : Inbound.parse text with
      | error fault =>
        unfold hear
        simp only [hp]
        exact .still rfl rfl ⟨rfl, rfl⟩
      | ok message =>
        cases message
        rw [hear_ping hp]
        exact (tryPong_beside t).andThen (beat_beside hst _ _)
    | other => exact .still rfl rfl ⟨rfl, rfl⟩
    | close => exact depart_beside hst _
    | finished => exact depart_beside hst _
    | failure => exact depart_beside hst _
  · exact .still rfl rfl ⟨rfl, rfl⟩

/-- A step of a poller, possibly the session's own. -/
theorem emit_beside (t : SessionId) : Beside s e (e.emit t).1 (e.emit t).2 := by
  unfold emit
  split
  · split
    · split
      · exact .poller (t := t) rfl rfl ⟨rfl, rfl⟩
      · exact .poller (t := t) rfl rfl ⟨rfl, rfl⟩
      · exact .still rfl rfl ⟨rfl, rfl⟩
    · exact .still rfl rfl ⟨rfl, rfl⟩
  · exact .still rfl rfl ⟨rfl, rfl⟩

theorem tick_beside (t : SessionId) : Beside s e (e.tick t) [] := by
  unfold tick
  split
  · split
    · split
      · exact .poller (t := t) rfl rfl ⟨rfl, rfl⟩
      · exact .still rfl rfl ⟨rfl, rfl⟩
    · exact .still rfl rfl ⟨rfl, rfl⟩
  · exact .still rfl rfl ⟨rfl, rfl⟩

theorem finishPoller_beside (t : SessionId) : Beside s e (e.finishPoller t) [] := by
  unfold finishPoller
  split
  · split
    · exact .still rfl rfl ⟨rfl, rfl⟩
    · exact .poller (t := t) rfl rfl ⟨rfl, rfl⟩
  · exact .still rfl rfl ⟨rfl, rfl⟩

/-- A change of stage that keeps what `Beside` relates. -/
theorem setStage_beside {stage : Stage} (hx : e.session? t = some x)
    (hg : x.stage.isManned = true → x.stage.Goes 0 stage)
    (hc : x.isSubmitting = false → ({ x with stage } : Session).isSubmitting = false) :
    Beside s e (e.setStage t stage) [] := by
  refine .update (f := fun x => { x with stage }) rfl rfl (fun ht y hy manned => ?_)
    (fun ht y hy => ?_) ⟨rfl, rfl⟩
  · subst ht
    obtain rfl : x = y := by simpa [hx] using hy
    exact ⟨rfl, hg manned⟩
  · subst ht
    obtain rfl : x = y := by simpa [hx] using hy
    exact hc

/-- A step of a writer. -/
theorem setWriter_beside {r : Reader} {w w' : Writer} (hx : e.session? t = some x)
    (hr : x.stage = .driven r w) : Beside s e (e.setStage t (.driven r w')) [] := by
  refine setStage_beside hx (fun _ => ?_) fun hc => ?_
  · rw [hr]
    exact .driven w w' rfl
  · rw [Session.isSubmitting, hr] at hc
    cases r with
    | reading => rfl
    | submitting => cases hc

theorem takeFrame_beside (t : SessionId) : Beside s e (e.takeFrame t).1 (e.takeFrame t).2 := by
  unfold takeFrame
  split
  · rename_i hx _
    split
    · rename_i m frames _
      have taken : Beside s e (e.withBoard (e.board.updateFrames (lineOf t) fun _ => frames)) [] :=
        .still rfl rfl ⟨rfl, rfl⟩
      exact (taken.next (setWriter_beside hx rfl)).next (emit_beside t)
    · exact .still rfl rfl ⟨rfl, rfl⟩
  · exact .still rfl rfl ⟨rfl, rfl⟩

theorem frameWritten_beside (t : SessionId) :
    Beside s e (e.frameWritten t).1 (e.frameWritten t).2 := by
  unfold frameWritten
  split
  · rename_i m hx
    have noted : Beside s e e [.wrote t m] := .still rfl rfl ⟨rfl, rfl⟩
    exact noted.andThen (a := (_, _)) (f := fun e => (e.setStage t _, [])) (setWriter_beside hx rfl)
  · exact .still rfl rfl ⟨rfl, rfl⟩

theorem drive_beside (t : SessionId) : Beside s e (e.drive t) [] := by
  unfold drive
  split
  · rename_i hx
    exact setStage_beside hx (by simp [Stage.isManned]) fun _ => rfl
  · exact .still rfl rfl ⟨rfl, rfl⟩

/-- A driver returns. -/
theorem finishDriver_beside (t : SessionId) :
    Beside s e (e.finishDriver t).1 (e.finishDriver t).2 := by
  unfold finishDriver
  split
  · rename_i x hx
    split
    · rename_i how hr
      split
      · have cleared (board : Switchboard) : Beside s e
            { (e.withBoard board).setStage t (.ended how) with closed := e.closed + 1 }
            [.ended t how] := by
          have returned : Beside s e (e.setStage t (.ended how)) [] :=
            setStage_beside hx (fun _ => by rw [hr]; exact .returns how) fun _ => rfl
          have counted : Beside s (e.setStage t (.ended how))
            { (e.withBoard board).setStage t (.ended how) with closed := e.closed + 1 }
            [.ended t how] := .still rfl rfl ⟨rfl, rfl⟩
          exact returned.next counted
        split
        · exact cleared e.board
        · exact cleared _
      · exact .still rfl rfl ⟨rfl, rfl⟩
    · exact .still rfl rfl ⟨rfl, rfl⟩
  · exact .still rfl rfl ⟨rfl, rfl⟩

/-- Another session is dropped. -/
theorem dropSession_beside (hst : t ≠ s) : Beside s e (e.dropSession t) [] := by
  unfold dropSession
  split
  · exact depart_beside hst _
  · exact depart_beside hst _
  · exact .other hst rfl rfl ⟨rfl, rfl⟩
  · exact .still rfl rfl ⟨rfl, rfl⟩

/-- A session that is held has a sender of its line. -/
theorem hasSender_of_isHeld {x : Session} (h : x.isHeld = true) (e : Engine) (t : SessionId) :
    e.hasSender t x = true := by
  simp [hasSender, h]

/-- The action `starve` is never enabled for a driver, whose session is held. -/
theorem starve_eq (e : Engine) (t : SessionId) : e.starve t = e := by
  unfold starve
  split
  · rename_i x line _ _
    split
    · rename_i hr
      simp [hasSender_of_isHeld (x := x) (by simp [Session.isHeld, hr])]
    · rfl
  · rfl

/-- The reader of session `s` has a submission waiting exactly if its stage says so. -/
def Attends (s : SessionId) (e : Engine) : Prop :=
  waitsOf s e.queue = (isSubmitting s e).toNat

/-- Actions that concern neither the reader of session `s` nor end its driver. -/
def Action.isAside (s : SessionId) : Action → Bool
  | .read t _ => t ≠ s
  | .cancel t => t ≠ s
  | .dropSession t => t ≠ s
  | .writeFailed t => t ≠ s
  | _ => true

theorem step_beside {a : Action} (ha : a.isAside s = true) (hi : InStage e) (hw : Attends s e) :
    Beside s e (e.step a).1 (e.step a).2 := by
  have ticket : Beside s e { e with tickets := e.tickets + 1 } [] := .still rfl rfl ⟨rfl, rfl⟩
  -- one case per action; those that neither read for `s` nor change its session are `.still`
  cases a with
  | heartbeat u => exact ticket.next (call_beside _ (by simp) _)
  | offer ev =>
    show Beside s e (e.offer ev).1 (e.offer ev).2
    unfold offer Queue.trySubmit
    cases e.queue.events.trySend ev with
    | ok c => exact .still rfl rfl ⟨rfl, rfl⟩
    | error d => exact .still rfl rfl ⟨rfl, rfl⟩
  | openStatus u => exact ticket.next (openStatus_beside _ u)
  | authorize p u => exact ticket.next (authorize_beside _ p u false)
  | openParty p u => exact ticket.next (authorize_beside _ p u true)
  | startParty m => exact ticket.next (startParty_beside _ m)
  | inbound u h text => exact ticket.next (inbound_beside _ u h text)
  | refreshNow => exact .still rfl rfl ⟨rfl, rfl⟩
  | closeSession u =>
    show Beside s e (e.closeSession u).2 [.dismissed u]
    unfold closeSession
    split
    · exact .still rfl rfl ⟨rfl, rfl⟩
    · exact .still rfl rfl ⟨rfl, rfl⟩
  | dropCall t => exact dropCall_beside hi hw t
  | shutdown => exact ticket.next (stop_beside _)
  | signalShutdown => exact .still rfl rfl ⟨rfl, rfl⟩
  | deregister u => exact .still rfl rfl ⟨rfl, rfl⟩
  | deregisterSession u t => exact .still rfl rfl ⟨rfl, rfl⟩
  | deliver h text => exact post_beside h text
  | lookupAnswered t r => exact lookupAnswered_beside t r
  | friendsAnswered t r =>
    show Beside s e (e.friendsAnswered t r).1 (e.friendsAnswered t r).2
    unfold friendsAnswered
    split
    · split
      · exact .still rfl rfl ⟨rfl, rfl⟩
      · exact .still rfl rfl ⟨rfl, rfl⟩
    · exact .still rfl rfl ⟨rfl, rfl⟩
  | partiesAnswered t r =>
    show Beside s e (e.partiesAnswered t r).1 (e.partiesAnswered t r).2
    unfold partiesAnswered
    split
    · split
      · exact .still rfl rfl ⟨rfl, rfl⟩
      · exact .still rfl rfl ⟨rfl, rfl⟩
    · exact .still rfl rfl ⟨rfl, rfl⟩
  | loopAnswered kind r =>
    show Beside s e (e.loopAnswered kind r) []
    unfold loopAnswered
    split
    · exact .still rfl rfl ⟨rfl, rfl⟩
    · split
      · exact .still rfl rfl ⟨rfl, rfl⟩
      · exact .still rfl rfl ⟨rfl, rfl⟩
  | giveUp => exact giveUp_beside hi.not_reopens
  | dispatch => exact dispatchStep_beside hi.not_reopens
  | wakeLoop kind =>
    show Beside s e (e.wakeLoop kind).1 (e.wakeLoop kind).2
    unfold wakeLoop
    split
    · exact .still rfl rfl ⟨rfl, rfl⟩
    · split
      · exact .still rfl rfl ⟨rfl, rfl⟩
      · exact .still rfl rfl ⟨rfl, rfl⟩
  | stopLoop kind =>
    show Beside s e (e.stopLoop kind) []
    unfold stopLoop
    split
    · exact .still rfl rfl ⟨rfl, rfl⟩
    · exact .still rfl rfl ⟨rfl, rfl⟩
  | stopped t =>
    show Beside s e (e.stopped t).1 (e.stopped t).2
    unfold stopped
    split
    · split
      · exact .still rfl rfl ⟨rfl, rfl⟩
      · exact .still rfl rfl ⟨rfl, rfl⟩
    · exact .still rfl rfl ⟨rfl, rfl⟩
  | tick t => exact tick_beside t
  | emit t => exact emit_beside t
  | finishPoller t => exact finishPoller_beside t
  | drive t => exact drive_beside t
  | dropSession t => exact dropSession_beside (by simpa [Action.isAside] using ha)
  | read t frame => exact read_beside (by simpa [Action.isAside] using ha) frame
  | takeFrame t => exact takeFrame_beside t
  | frameWritten t => exact frameWritten_beside t
  | writeFailed t =>
    show Beside s e (e.writeFailed t) []
    unfold writeFailed
    split
    · exact depart_beside (by simpa [Action.isAside] using ha) _
    · exact .still rfl rfl ⟨rfl, rfl⟩
  | starve t =>
    show Beside s e (e.starve t) []
    rw [starve_eq]
    exact .still rfl rfl ⟨rfl, rfl⟩
  | cancel t =>
    show Beside s e (e.cancel t) []
    unfold cancel
    split
    · split
      · exact depart_beside (by simpa [Action.isAside] using ha) _
      · exact .still rfl rfl ⟨rfl, rfl⟩
    · exact .still rfl rfl ⟨rfl, rfl⟩
  | finishDriver t => exact finishDriver_beside t
  | elapse d => exact .still rfl rfl ⟨rfl, rfl⟩

end

end Engine

end Presence
