import Presence.Proofs.Engine.Feeding
import Presence.Proofs.Engine.Pollers

/-!
Termination of drivers. A waiting reader has fewer and fewer producers before it and drops its event
at its deadline at the latest. So, if the actions it depends on recur and time advances (`Fair`), a
driver fed with frames reads up to the frame that ends the session, its poller finishes, and it
returns.
-/

namespace Presence.Engine

/-! ### Position among the waiting producers -/

/-- The reader of session `s` waits as `v` with `k` producers before it. -/
def Behind (s : SessionId) (line : List (Waiter Producer)) (v : Waiter Producer) (k : Nat) : Prop :=
  ∃ ahead rest, line = ahead ++ v :: rest ∧ ahead.length = k ∧ v.producer = .reader s ∧
    ∀ a ∈ ahead, a.producer ≠ .reader s

section
variable {a : Action} {e e' : Engine} {out : List Note} {s : SessionId} {v : Waiter Producer}
  {k : Nat} {q q' : Queue Producer}

theorem waitsOf_eq_zero : waitsOf s q = 0 ↔ ∀ v ∈ q.waiting, v.producer ≠ .reader s := by
  simp [waitsOf, List.countP_eq_zero]

theorem exists_behind (h : waitsOf s q ≠ 0) : ∃ v k, Behind s q.waiting v k := by
  have there : ∃ v ∈ q.waiting, v.producer = .reader s := by
    simpa [waitsOf_eq_zero] using h
  obtain ⟨w, hw, hp⟩ := there
  have found : (q.waiting.find? fun w => decide (w.producer = .reader s)).isSome :=
    List.find?_isSome.2 ⟨w, hw, by simp [hp]⟩
  obtain ⟨v, hv⟩ := Option.isSome_iff_exists.1 found
  obtain ⟨hv, ahead, rest, hl, first⟩ := List.find?_eq_some_iff_append.1 hv
  exact ⟨v, ahead.length, ahead, rest, hl, rfl, of_decide_eq_true hv, fun a ha => by
    simpa using first a ha⟩

theorem Behind.waits (h : Behind s q.waiting v k) : waitsOf s q ≠ 0 := by
  obtain ⟨ahead, rest, hl, -, hp, -⟩ := h
  exact fun none => waitsOf_eq_zero.1 none v (by simp [hl]) hp

/-- Producers that arrive later are behind the reader. -/
theorem Behind.goesOn (h : Behind s q.waiting v k) (hg : GoesOn s q.waiting q'.waiting)
    (one : waitsOf s q = 1) (one' : waitsOf s q' = 1) :
    ∃ k' ≤ k, Behind s q'.waiting v k' := by
  obtain ⟨ahead, rest, hl, rfl, hp, others⟩ := h
  obtain ⟨stay, joined, hl', hs, newcomers⟩ := hg
  rw [hl] at hs
  obtain ⟨before, later, rfl, hb, hr⟩ := List.sublist_append_iff.1 hs
  have none {l : List (Waiter Producer)} (h : ∀ a ∈ l, a.producer ≠ .reader s) :
      l.countP (fun w => decide (w.producer = .reader s)) = 0 := by
    simpa [List.countP_eq_zero] using h
  unfold waitsOf at one one'
  rw [hl, List.countP_append, none others, List.countP_cons, if_pos (decide_eq_true hp)] at one
  rw [hl', List.countP_append, List.countP_append, none newcomers,
    none fun a ha => others a (hb.subset ha)] at one'
  rcases List.sublist_cons_iff.1 hr with hr | ⟨behind, rfl, -⟩
  · have fewer : later.countP (fun w => decide (w.producer = .reader s)) ≤ rest.countP _ :=
      hr.countP_le
    omega
  · refine ⟨before.length, hb.length_le, before, behind ++ joined, ?_, rfl, hp, fun a ha =>
      others a (hb.subset ha)⟩
    rw [hl', List.append_assoc, List.cons_append]

/-- After the reader's deadline, the producer that drops its event is the reader or one before
it. -/
theorem giveUp_behind (h : Behind s e.queue.waiting v k) (late : v.deadline ≤ e.now) :
    isSubmitting s (e.step .giveUp).1 = false ∨
      ∃ k' < k, Behind s (e.step .giveUp).1.queue.waiting v k' := by
  obtain ⟨ahead, rest, hl, rfl, hp, others⟩ := h
  have must : e.queue.mustGiveUp e.now v = true := by simp [Queue.mustGiveUp, late]
  have gives {w : Waiter Producer} (hw : e.queue.waiting.find? (e.queue.mustGiveUp e.now) = some w) :
      (e.step .giveUp).1 = (resume { e with queue := Queue.drop { e.queue with
        waiting := e.queue.waiting.eraseP (e.queue.mustGiveUp e.now) } } w.producer false).1 := by
    show e.giveUp.1 = _
    unfold giveUp Queue.giveUp?
    rw [hw]
    rfl
  cases hw : ahead.find? (e.queue.mustGiveUp e.now) with
  | none =>
    -- no producer before the reader is expired, so the one found is the reader
    have first : e.queue.waiting.find? (e.queue.mustGiveUp e.now) = some v := by
      rw [hl, List.find?_append, hw, List.find?_cons_of_pos must]
      rfl
    rw [gives first, hp]
    exact .inl (isSubmitting_resume false)
  | some w =>
    have first : e.queue.waiting.find? (e.queue.mustGiveUp e.now) = some w := by
      rw [hl, List.find?_append, hw]
      rfl
    have there := List.mem_of_find?_eq_some hw
    have resumed := resume_resumed { e with queue := Queue.drop { e.queue with
        waiting := e.queue.waiting.eraseP (e.queue.mustGiveUp e.now) } } w.producer false
    refine .inr ⟨ahead.length - 1, ?_, ahead.eraseP (e.queue.mustGiveUp e.now), rest, ?_, ?_, hp, ?_⟩
    · exact Nat.sub_lt (List.length_pos_of_mem there) Nat.one_pos
    · rw [gives first, resumed.books.1]
      show e.queue.waiting.eraseP _ = _
      rw [hl, List.eraseP_append_left (List.find?_some hw) _ there]
    · exact List.length_eraseP_of_mem there (List.find?_some hw)
    · exact fun a ha => others a (List.mem_of_mem_eraseP ha)

theorem Resumed.now {p : Producer} {b : Bool} (h : Resumed e p b out e') : e'.now = e.now := by
  cases h <;> rfl

/-- Time does not decrease. -/
theorem Move.now_le (hm : Move a e out e') : e.now ≤ e'.now := by
  cases hm with
  | elapsed d => exact Nat.le_add_right ..
  | entered _ _ h => exact Nat.le_of_eq h.now.symm
  | refused _ h => exact Nat.le_of_eq h.now.symm
  | timedOut _ h => exact Nat.le_of_eq h.now.symm
  | promoted _ _ _ _ h => exact Nat.le_of_eq h.now.symm
  | _ => exact Nat.le_refl _

theorem step_now_le (e : Engine) (a : Action) : e.now ≤ (e.step a).1.now := by
  exact step_makes (P := fun e' _ => e.now ≤ e'.now) (fun hm h => Nat.le_trans h hm.now_le)
    (Nat.le_refl _)

/-! ### Sessions that have been left -/

/-- A finished poller of a session that is left stays finished. -/
theorem Move.staysFinished (hm : Move a e out e') (hi : InStage e) (ht : AllTended e) {x : Session}
    (hx : e.session? s = some x) (hl : x.stage.isLive = false) (hf : x.pollerFinished = true) :
    ∃ y, e'.session? s = some y ∧ y.pollerFinished = true := by
  have still (y : Session) (hr : y.role = x.role) : y.pollerFinished = true := by
    unfold Session.pollerFinished
    rw [hr]
    exact hf
  cases hm.shift hi with
  | still hs => exact ⟨x, by rwa [session?, hs], hf⟩
  | @one t x' y hx' hp hs =>
    by_cases h : s = t
    · subst h
      cases hx.symm.trans hx'
      refine ⟨y, by rw [session?_of_update hx hs, if_pos rfl], ?_⟩
      cases hp with
      | goesOn hn => simp [hl] at hn
      | departs hn => simp [hl] at hn
      | polls hr => exact absurd ((ht hx hr).left hl).1 (by simp)
      | pollerEnds hr =>
        unfold Session.pollerFinished
        rw [Session.role_withPoller hr]
        rfl
      | isLeft => exact still _ rfl
    · exact ⟨x, by rw [session?_of_update hx' hs, if_neg h, hx], hf⟩
  | @ended t x' how hx' _ _ hs =>
    by_cases h : s = t
    · subst h
      cases hx.symm.trans hx'
      exact ⟨{ x with stage := .ended how }, by rw [session?_of_update hx hs, if_pos rfl],
        still _ rfl⟩
    · exact ⟨x, by rw [session?_of_update hx' hs, if_neg h, hx], hf⟩
  | added hs =>
    have old := Roster.lt_next_of_get? hx
    exact ⟨x, by rw [session?, hs, Roster.get?_add, if_neg (Nat.ne_of_lt old.2), ← session?, hx], hf⟩

/-- The session is left, and its poller has finished. -/
def Cleared (s : SessionId) (e : Engine) : Prop :=
  ∃ x, e.session? s = some x ∧ x.stage.isLive = false ∧ x.pollerFinished = true

theorem Reaches.staysCleared {config : Config} {as : List Action} {ns : List Note}
    (h : Reaches config as e ns) (hc : Cleared s e) (a : Action) : Cleared s (e.step a).1 := by
  have first : AllTended e := h.tended
  refine (step_makes (P := fun e _ => Wired e ∧ InStage e ∧ AllTended e ∧ Cleared s e)
    (fun hm h => ?_) ⟨h.wired, h.inStage, first, hc⟩).2.2.2
  obtain ⟨hw, hi, ht, x, hx, hl, hf⟩ := h
  obtain ⟨y, hy, hl'⟩ := hm.notLive hi hx hl
  obtain ⟨z, hz, hf'⟩ := hm.staysFinished hi ht hx hl hf
  cases hy.symm.trans hz
  exact ⟨hw.move hm, hi.move hm hw, ht.move hm hw hi, y, hy, hl', hf'⟩

/-! ### Recurring actions -/

/-- If `P` is kept until `Q` holds, and an action that leads from `P` to `Q` recurs, then `P` leads
to `Q`. -/
theorem eventually_of_next {P Q F : Nat → Prop} (often : ∀ n, ∃ m, n ≤ m ∧ F m)
    (stays : ∀ m, P m → P (m + 1) ∨ Q (m + 1)) (brings : ∀ m, P m → F m → Q (m + 1)) {n : Nat}
    (h : P n) : ∃ m, n ≤ m ∧ Q m := by
  obtain ⟨m, hm, hF⟩ := often n
  by_cases early : ∃ k, n ≤ k ∧ k ≤ m ∧ Q k
  · obtain ⟨k, hk, -, hQ⟩ := early
    exact ⟨k, hk, hQ⟩
  · have kept (j : Nat) (hj : n + j ≤ m) : P (n + j) := by
      induction j with
      | zero => exact h
      | succ j ih =>
        refine (stays (n + j) (ih (Nat.le_of_succ_le hj))).resolve_right fun hQ => early ?_
        exact ⟨n + j + 1, Nat.le_succ_of_le (Nat.le_add_right n j), hj, hQ⟩
    obtain ⟨j, rfl⟩ := Nat.exists_eq_add_of_le hm
    exact ⟨n + j + 1, Nat.le_succ_of_le hm, brings (n + j) (kept j (Nat.le_refl _)) hF⟩

/-- The actions on which the driver of a session depends recur, and time advances beyond every
moment. -/
structure Fair (s : SessionId) (cues : Nat → Cue) : Prop where
  reads : ∀ n, ∃ m, n ≤ m ∧ cues m = .reads
  givesUp : ∀ n, ∃ m, n ≤ m ∧ cues m = .other .giveUp
  pollerStops : ∀ n, ∃ m, n ≤ m ∧ cues m = .other (.finishPoller s)
  returns : ∀ n, ∃ m, n ≤ m ∧ cues m = .other (.finishDriver s)
  passes : ∀ n, ∃ m, n ≤ m ∧ ∃ d : Duration, 0 < d.nanos ∧ cues m = .other (.elapse d)

/-- A round robin of these actions and one second. -/
def roundRobin (s : SessionId) (n : Nat) : Cue :=
  match n % 5 with
  | 0 => .reads
  | 1 => .other .giveUp
  | 2 => .other (.finishPoller s)
  | 3 => .other (.finishDriver s)
  | _ => .other (.elapse (.ofSeconds 1))

theorem roundRobin_fair (s : SessionId) : Fair s (roundRobin s) := by
  have turn (n i : Nat) (hi : i < 5) : ∃ m, n ≤ m ∧ m % 5 = i :=
    ⟨5 * n + i, by omega, by omega⟩
  have often {i : Nat} {t : Cue} (hi : i < 5) (ht : ∀ m, m % 5 = i → roundRobin s m = t) (n : Nat) :
      ∃ m, n ≤ m ∧ roundRobin s m = t := by
    obtain ⟨m, hm, h⟩ := turn n i hi
    exact ⟨m, hm, ht m h⟩
  constructor
  case reads => exact often (i := 0) (by decide) fun m h => by simp [roundRobin, h]
  case givesUp => exact often (i := 1) (by decide) fun m h => by simp [roundRobin, h]
  case pollerStops => exact often (i := 2) (by decide) fun m h => by simp [roundRobin, h]
  case returns => exact often (i := 3) (by decide) fun m h => by simp [roundRobin, h]
  case passes =>
    intro n
    obtain ⟨m, hm, h⟩ := turn n 4 (by decide)
    exact ⟨m, hm, .ofSeconds 1, by decide, by simp [roundRobin, h]⟩

section
variable {config : Config} {as : List Action} {ns : List Note} {fs : List Inflow}
  {cues : Nat → Cue} {n m : Nat}

theorem course_now_le (h : n ≤ m) :
    (course s fs e cues n).1.now ≤ (course s fs e cues m).1.now := by
  induction h with
  | refl => exact Nat.le_refl _
  | step _ ih => exact Nat.le_trans ih (step_now_le _ _)

/-- Every moment is reached. -/
theorem Fair.comes (hf : Fair s cues) (e : Engine) (fs : List Inflow) (t : Nat) :
    ∃ n, t ≤ (course s fs e cues n).1.now := by
  induction t with
  | zero => exact ⟨0, Nat.zero_le _⟩
  | succ t ih =>
    obtain ⟨n, hn⟩ := ih
    obtain ⟨m, hm, d, hd, ht⟩ := hf.passes n
    have kept := Nat.le_trans hn (course_now_le hm)
    have later : (course s fs e cues (m + 1)).1.now = (course s fs e cues m).1.now + d.nanos := by
      rw [course_succ, ht]
      rfl
    exact ⟨m + 1, by rw [later]; exact Nat.add_le_add kept hd⟩

/-! ### Pending submissions -/

/-- A waiting reader returns, or waits with no more producers before it. -/
theorem course_behind (h : Reaches config as e ns) (ha : Aloof s cues)
    (hb : Behind s (course s fs e cues n).1.queue.waiting v k) :
    isSubmitting s (course s fs e cues (n + 1)).1 = false ∨
      ∃ k' ≤ k, Behind s (course s fs e cues (n + 1)).1.queue.waiting v k' := by
  obtain ⟨_, reached⟩ := course_reaches h ha fs n
  obtain ⟨_, reached'⟩ := course_reaches h ha fs (n + 1)
  have waits := reached.attends s
  have waits' := reached'.attends s
  unfold Attends at waits waits'
  have there := hb.waits
  cases hs : isSubmitting s (course s fs e cues n).1 with
  | false => exact absurd (by rw [waits, hs]; rfl) there
  | true =>
    cases hs' : isSubmitting s (course s fs e cues (n + 1)).1 with
    | false => exact .inl rfl
    | true =>
      rw [hs] at waits
      rw [hs'] at waits'
      cases course_turned h ha fs n with
      | beside hbe => exact .inr (hb.goesOn hbe.line waits waits')
      | read hf hx =>
        unfold isSubmitting at hs
        rw [hx] at hs
        cases hs

/-- A waiting reader returns after its deadline. -/
theorem Fair.answers (hf : Fair s cues) (h : Reaches config as e ns) (ha : Aloof s cues)
    (late : v.deadline ≤ (course s fs e cues n).1.now)
    (hb : Behind s (course s fs e cues n).1.queue.waiting v k) :
    ∃ m, n ≤ m ∧ isSubmitting s (course s fs e cues m).1 = false := by
  induction k using Nat.strongRecOn generalizing n with
  | ind k ih =>
    have fewer : ∃ m, n ≤ m ∧ (isSubmitting s (course s fs e cues m).1 = false ∨
        v.deadline ≤ (course s fs e cues m).1.now ∧
          ∃ k' < k, Behind s (course s fs e cues m).1.queue.waiting v k') := by
      refine eventually_of_next (P := fun m => v.deadline ≤ (course s fs e cues m).1.now ∧
        ∃ k' ≤ k, Behind s (course s fs e cues m).1.queue.waiting v k') hf.givesUp ?stays ?brings
        ⟨late, k, Nat.le_refl k, hb⟩
      case stays =>
        rintro m ⟨late, k', hk', hb'⟩
        have late' := Nat.le_trans late (course_now_le (Nat.le_succ m))
        rcases course_behind h ha hb' with calm | ⟨k'', hk'', hb''⟩
        · exact .inr (.inl calm)
        · exact .inl ⟨late', k'', Nat.le_trans hk'' hk', hb''⟩
      case brings =>
        rintro m ⟨late, k', hk', hb'⟩ ht
        have late' := Nat.le_trans late (course_now_le (Nat.le_succ m))
        have given : (course s fs e cues (m + 1)).1 = ((course s fs e cues m).1.step .giveUp).1 := by
          rw [course_succ, ht]
          rfl
        rw [given] at late' ⊢
        rcases giveUp_behind hb' late with calm | ⟨k'', hk'', hb''⟩
        · exact .inl calm
        · exact .inr ⟨late', k'', Nat.lt_of_lt_of_le hk'' hk', hb''⟩
    obtain ⟨m, hm, calm | ⟨late', k', hk', hb'⟩⟩ := fewer
    · exact ⟨m, hm, calm⟩
    · obtain ⟨m', hm', calm⟩ := ih k' hk' late' hb'
      exact ⟨m', Nat.le_trans hm hm', calm⟩

/-- Every submission of the reader returns. -/
theorem Fair.calms (hf : Fair s cues) (h : Reaches config as e ns) (ha : Aloof s cues)
    (fs : List Inflow) (n : Nat) :
    ∃ m, n ≤ m ∧ isSubmitting s (course s fs e cues m).1 = false := by
  cases hs : isSubmitting s (course s fs e cues n).1 with
  | false => exact ⟨n, Nat.le_refl n, hs⟩
  | true =>
    obtain ⟨_, reached⟩ := course_reaches h ha fs n
    have waits := reached.attends s
    unfold Attends at waits
    rw [hs] at waits
    obtain ⟨v, k, hb⟩ := exists_behind (by rw [waits]; decide)
    -- wait until the time of the reader is over
    obtain ⟨t, ht⟩ := hf.comes e fs v.deadline
    have stays {m : Nat} (hb : ∃ k, Behind s (course s fs e cues m).1.queue.waiting v k) :
        isSubmitting s (course s fs e cues (m + 1)).1 = false ∨
          ∃ k, Behind s (course s fs e cues (m + 1)).1.queue.waiting v k := by
      obtain ⟨k, hb⟩ := hb
      exact (course_behind h ha hb).imp_right fun hb => ⟨hb.choose, hb.choose_spec.2⟩
    have late : ∃ m, n ≤ m ∧ (isSubmitting s (course s fs e cues m).1 = false ∨
        v.deadline ≤ (course s fs e cues m).1.now ∧
          ∃ k, Behind s (course s fs e cues m).1.queue.waiting v k) := by
      refine eventually_of_next
        (P := fun m => ∃ k, Behind s (course s fs e cues m).1.queue.waiting v k) (F := (t ≤ ·)) (fun n => ⟨max n t, Nat.le_max_left n t, Nat.le_max_right n t⟩)
        (fun m hb => ?_) (fun m hb hm => ?_) ⟨k, hb⟩
      · exact (stays hb).symm.imp_right .inl
      · have late := Nat.le_trans ht (course_now_le (Nat.le_succ_of_le hm))
        exact (stays hb).imp_right fun hb => ⟨late, hb⟩
    obtain ⟨m, hm, calm | ⟨late, k', hb'⟩⟩ := late
    · exact ⟨m, hm, calm⟩
    · obtain ⟨m', hm', calm⟩ := hf.answers h ha late hb'
      exact ⟨m', Nat.le_trans hm hm', calm⟩

/-! ### Reading -/

/-- The number of frames read does not decrease. -/
theorem course_heard_le (h : n ≤ m) :
    (heardBy s (course s fs e cues n).2).length ≤ (heardBy s (course s fs e cues m).2).length := by
  induction h with
  | refl => exact Nat.le_refl _
  | step _ ih =>
    rw [course_succ, heardBy_append, List.length_append]
    exact Nat.le_trans ih (Nat.le_add_right ..)

/-- A driver that is reading reads another frame. -/
theorem Fair.hears (hf : Fair s cues) (h : Reaches config as e ns) (ha : Aloof s cues) {u : User}
    {role : Role} {w : Writer}
    (hx : (course s fs e cues n).1.session? s = some ⟨u, role, .driven .reading w⟩) :
    ∃ m, n ≤ m ∧ (heardBy s (course s fs e cues n).2).length <
      (heardBy s (course s fs e cues m).2).length := by
  refine eventually_of_next (P := fun m => (∃ u role w, (course s fs e cues m).1.session? s =
      some ⟨u, role, .driven .reading w⟩) ∧
    heardBy s (course s fs e cues m).2 = heardBy s (course s fs e cues n).2) hf.reads ?stays
    ?brings ⟨⟨u, role, w, hx⟩, rfl⟩
  case stays =>
    rintro m ⟨⟨u, role, w, hx⟩, same⟩
    cases course_turned h ha fs m with
    | beside hb hn =>
      obtain ⟨⟨u', role', stage⟩, hy, -, goes⟩ := hb.session hx rfl
      refine .inl ⟨?_, by rw [hn, heardBy_append, hb.heard, List.append_nil, same]⟩
      cases goes with
      | @driven _ r' _ w' hr =>
        obtain rfl : r' = .reading := by
          rw [hr]
          split <;> rfl
        exact ⟨u', role', w', hy⟩
    | read hf hx he hn =>
      refine .inr ?_
      rw [hn, heardBy_append, heardBy_read hx, List.length_append, same]
      exact Nat.lt_succ_self _
  case brings =>
    rintro m ⟨⟨u, role, w, hx⟩, same⟩ ht
    rw [course_succ, ht, heardBy_append]
    show _ < (_ ++ heardBy s (Engine.step _ (.read s _)).2).length
    rw [heardBy_read hx, List.length_append, same]
    exact Nat.lt_succ_self _

/-! ### Returning -/

/-- The state of the driver after `n` turns. -/
theorem course_stands (h : Reaches config as e ns) {u : User} {role : Role} {w : Writer}
    (hx : e.session? s = some ⟨u, role, .driven .reading w⟩) (ha : Aloof s cues)
    (fs : List Inflow) (n : Nat) : ∃ x, (course s fs e cues n).1.session? s = some x ∧ x.user = u ∧
      Stands fs (heardBy s (course s fs e cues n).2) x.stage := by
  obtain ⟨x, hx', user, heeds⟩ := (course_progress h hx ha n).session
  exact ⟨x, hx', user, heeds.stands (course_heard h ha n)⟩

/-- The driver of the session has left its loop or returned. -/
def HasStopped (s : SessionId) (e : Engine) : Prop :=
  ∃ x how, e.session? s = some x ∧ (x.stage = .leaving how ∨ x.stage = .ended how)

/-- A driver that has left its loop does not enter it again. -/
theorem course_stopped (h : Reaches config as e ns) (ha : Aloof s cues)
    (hs : HasStopped s (course s fs e cues n).1) : HasStopped s (course s fs e cues (n + 1)).1 := by
  obtain ⟨⟨u, role, stage⟩, how, hx, hst⟩ := hs
  cases course_turned h ha fs n with
  | beside hb =>
    obtain ⟨⟨u', role', stage'⟩, hy, -, goes⟩ := hb.session hx (by rcases hst with rfl | rfl <;> rfl)
    rcases hst with rfl | rfl
    · cases goes with
      | leaving => exact ⟨_, how, hy, .inl rfl⟩
      | returns => exact ⟨_, how, hy, .inr rfl⟩
    · cases goes with
      | ended => exact ⟨_, how, hy, .inr rfl⟩
  | read hf hx' =>
    cases hx.symm.trans hx'
    rcases hst with hst | hst <;> cases hst

/-- The driver reads the frame that ends the session and leaves its loop. -/
theorem Fair.stops (hf : Fair s cues) (h : Reaches config as e ns) (ha : Aloof s cues) {u : User}
    {role : Role} {w : Writer} (hx : e.session? s = some ⟨u, role, .driven .reading w⟩)
    (fs : List Inflow) (n : Nat) : ∃ m, n ≤ m ∧ HasStopped s (course s fs e cues m).1 := by
  -- by induction on how many frames are left to read
  generalize hk : (upToEnd fs).length - (heardBy s (course s fs e cues n).2).length = k
  induction k using Nat.strongRecOn generalizing n with
  | ind k ih =>
    obtain ⟨m, hm, calm⟩ := hf.calms h ha fs n
    obtain ⟨⟨u', role', stage⟩, hy, -, ⟨⟨r, w', driven⟩, first, more⟩ | ⟨stopped, -⟩⟩ :=
      course_stands h hx ha fs m
    · obtain rfl : stage = .driven r w' := driven
      cases r with
      | submitting =>
        unfold isSubmitting at calm
        rw [hy] at calm
        cases calm
      | reading =>
        obtain ⟨m', hm', further⟩ := hf.hears h ha hy
        have left : (heardBy s (course s fs e cues m).2).length < (upToEnd fs).length :=
          Nat.lt_of_le_of_ne first.length_le fun same => more (first.eq_of_length same)
        have heard : (heardBy s (course s fs e cues n).2).length ≤
            (heardBy s (course s fs e cues m).2).length := course_heard_le hm
        obtain ⟨m'', hm'', stopped⟩ := ih _ (by omega) m' rfl
        exact ⟨m'', Nat.le_trans hm (Nat.le_trans hm' hm''), stopped⟩
    · exact ⟨m, hm, _, _, hy, stopped⟩

/-- The poller of a session whose driver has left its loop finishes. -/
theorem Fair.clears (hf : Fair s cues) (h : Reaches config as e ns) (ha : Aloof s cues)
    (hs : HasStopped s (course s fs e cues n).1) :
    ∃ m, n ≤ m ∧ Cleared s (course s fs e cues m).1 := by
  refine eventually_of_next (P := fun m => HasStopped s (course s fs e cues m).1) hf.pollerStops
    (fun m hs => .inl (course_stopped h ha hs)) (fun m hs ht => ?_) hs
  obtain ⟨x, how, hx, hst⟩ := hs
  obtain ⟨_, reached⟩ := course_reaches h ha fs m
  have gone : x.stage.isLive = false := by rcases hst with hst | hst <;> rw [hst] <;> rfl
  obtain ⟨y, hy, same, finished⟩ := reached.finishPoller_of_left hx gone
  rw [course_succ, ht]
  exact ⟨y, hy, by rw [same, gone], finished⟩

/-- A driver that is `leaving` returns once its poller has finished. -/
theorem session?_finishDriver {x : Session} {how : SessionEnd} (hx : e.session? s = some x)
    (hl : x.stage = .leaving how) (hp : x.pollerFinished = true) :
    (e.finishDriver s).1.session? s = some { x with stage := .ended how } := by
  have hx' : e.sessions.get? s = some x := hx
  simp only [finishDriver, hx, hl, hp, if_true]
  split <;> simp [setStage, updateSession, session?, hx', withBoard]

theorem Fair.ends (hf : Fair s cues) (h : Reaches config as e ns) (ha : Aloof s cues)
    (hs : HasStopped s (course s fs e cues n).1) (hc : Cleared s (course s fs e cues n).1) :
    ∃ m, n ≤ m ∧ ∃ x how, (course s fs e cues m).1.session? s = some x ∧ x.stage = .ended how := by
  refine eventually_of_next (P := fun m => HasStopped s (course s fs e cues m).1 ∧
    Cleared s (course s fs e cues m).1) hf.returns ?stays ?brings ⟨hs, hc⟩
  case stays =>
    rintro m ⟨hs, hc⟩
    obtain ⟨_, reached⟩ := course_reaches h ha fs m
    exact .inl ⟨course_stopped h ha hs, reached.staysCleared hc _⟩
  case brings =>
    rintro m ⟨⟨x, how, hx, hst⟩, y, hy, -, finished⟩ ht
    cases hx.symm.trans hy
    rw [course_succ, ht]
    rcases hst with hst | hst
    · exact ⟨_, how, session?_finishDriver hx hst finished, rfl⟩
    · -- it has returned already
      have still : (course s fs e cues m).1.finishDriver s = ((course s fs e cues m).1, []) := by
        simp only [finishDriver, hx, hst]
      exact ⟨x, how, by rw [← hx]; exact congrArg (·.1.session? s) still, hst⟩

/-- The effect of a frame on a driver that is reading, for session `s` of user `u`. -/
structure HeedsFrame (s : SessionId) (u : User) (w : Writer) (e : Engine) (f : Inflow) : Prop where
  ignores : f.deed? = none → e.step (.read s f) = (e, [.heard s f])
  leaves : ∀ {how}, f.ending? = some how → e.step (.read s f) = (e.leave s how, [.heard s f])
  answers : ∀ {board}, f.isPing = true → e.board.deliver (lineOf s) .pong = .ok board →
    e.step (.read s f) = ((e.beat s u w).1.withBoard board,
      .heard s f :: .sent s .pong :: (e.beat s u w).2)
  /-- A pong for which the line has no room is dropped without further effect. -/
  losesPong : ∀ {fault}, f.isPing = true → e.board.deliver (lineOf s) .pong = .error fault →
    e.step (.read s f) = ((e.beat s u w).1, .heard s f :: (e.beat s u w).2)
  /-- The effect does not depend on the kind of the session. -/
  kind : ∀ role, ((e.recast s role).step (.read s f)).2 = (e.step (.read s f)).2 ∧
    ((e.recast s role).step (.read s f)).1.plain s = (e.step (.read s f)).1.plain s

theorem heedsFrame_of_reading (hs : s < e.nextSession) {u : User} {role : Role} {w : Writer}
    (hx : e.session? s = some ⟨u, role, .driven .reading w⟩) (f : Inflow) :
    HeedsFrame s u w e f := by
  have answered (hf : f.isPing = true) : f.deed? = some .answer := by
    unfold Inflow.deed?
    rw [if_pos hf]
  constructor
  case ignores => exact step_read_of_idle hx
  case leaves => exact fun hf => step_read_of_deed hx (Inflow.deed?_of_ending? hf)
  case answers =>
    intro board hf hb
    have sent : e.tryPong s = (e.withBoard board, [.sent s .pong]) := by
      unfold tryPong
      rw [hb]
    rw [step_read_of_deed hx (answered hf), perform_answer_eq, sent]
    rfl
  case losesPong =>
    intro fault hf hb
    have lost : e.tryPong s = (e, []) := by
      unfold tryPong
      rw [hb]
    have same : e.perform s u w .answer = e.beat s u w := by
      show andThen (e.tryPong s) (·.beat s u w) = _
      rw [lost]
      rfl
    rw [step_read_of_deed hx (answered hf), same]
  case kind =>
    intro role
    have same := step_recast (a := .read s f) rfl (Nat.ne_of_lt hs) role
    exact ⟨congrArg (·.2) same, congrArg (·.1) same⟩

/-- For a driver of a session of either kind that is reading and is fed with the frames `fs`, while
no other action ends it or fails its writer: at every turn the frames read are a prefix of `fs` up
to the first that ends the session (`Stands`); its effects are those of the deeds of these frames in
order, one pong attempt and one heartbeat per ping (`Plays`, `HeedsFrame`); the pings are as many as
the submissions that have returned or wait; and the course commutes with `recast`. If the course is
`Fair`, the driver reads up to that frame and returns with its result. -/
theorem driver_heeds_frames (h : Reaches config as e ns) {u : User} {role : Role} {w : Writer}
    (hx : e.session? s = some ⟨u, role, .driven .reading w⟩) (ha : Aloof s cues)
    (fs : List Inflow) :
    (∀ n, (∃ x, (course s fs e cues n).1.session? s = some x ∧ x.user = u ∧
        Stands fs (heardBy s (course s fs e cues n).2) x.stage) ∧
      Plays s u e ((heardBy s (course s fs e cues n).2).filterMap Inflow.deed?)
        (((List.range n).map cues).filterMap Cue.other?)
        (unheard s (course s fs e cues n).2) (course s fs e cues n).1 ∧
      (heardBy s (course s fs e cues n).2).countP Inflow.isPing =
        answersTo s (course s fs e cues n).2 + waitsOf s (course s fs e cues n).1.queue) ∧
    (∀ n role w f, (course s fs e cues n).1.session? s = some ⟨u, role, .driven .reading w⟩ →
      HeedsFrame s u w (course s fs e cues n).1 f) ∧
    ((∀ n a, cues n = .other a → a.isBlind = true) → ∀ role n,
      (course s fs (e.recast s role) cues n).2 = (course s fs e cues n).2 ∧
      (course s fs (e.recast s role) cues n).1.plain s = (course s fs e cues n).1.plain s) ∧
    (Fair s cues → ∃ n x, (course s fs e cues n).1.session? s = some x ∧
      x.stage = .ended (endOf fs) ∧ heardBy s (course s fs e cues n).2 = upToEnd fs) := by
  refine ⟨fun n => ⟨course_stands h hx ha fs n, ?plays, (course_progress h hx ha n).pings⟩,
    fun n role w f hx => ?frame, fun hb role n => ?kinds, fun hf => ?returns⟩
  case plays =>
    obtain ⟨bs, run, spared, others⟩ := course_eq_run e fs ha n
    rw [run, ← others]
    exact run_plays h (Progress.start h hx) spared
  case frame => exact heedsFrame_of_reading (Roster.lt_next_of_get? hx).2 hx f
  case kinds =>
    have same := course_recast fs hb (Roster.lt_next_of_get? hx).2 role n
    exact ⟨congrArg (·.2) same, congrArg (·.1) same⟩
  case returns =>
    obtain ⟨k, -, stopped⟩ := hf.stops h ha hx fs 0
    obtain ⟨m, hm, cleared⟩ := hf.clears h ha stopped
    have still {j : Nat} (hj : k ≤ j) : HasStopped s (course s fs e cues j).1 := by
      induction hj with
      | refl => exact stopped
      | step _ ih => exact course_stopped h ha ih
    obtain ⟨n, -, x, how, hx', ended⟩ := hf.ends h ha (still hm) cleared
    obtain ⟨y, hy, -, ⟨⟨r, w', driven⟩, -⟩ | ⟨leaving | ended', all⟩⟩ :=
      course_stands h hx ha fs n
    · cases hx'.symm.trans hy
      cases ended.symm.trans driven
    · cases hx'.symm.trans hy
      cases ended.symm.trans leaving
    · exact ⟨n, y, hy, ended', all⟩

/-- A driver is fed with a frame that is no text, two texts of which one is a ping, and a failure;
it does not read the frames after that. -/
theorem driver_heeds_frames_of_party :
    ∃ u p e ns, Reaches Config.standard
        [.openParty p u, .lookupAnswered 0 (.ok (some ⟨p, u, .active⟩)), .drive 1] e ns ∧ Aloof 1 (roundRobin 1) ∧
      let fs := [.other, .text "pong", .text "\x7b\"msg_type\":\"ping\"\x7d", .failure, .close]
      ∃ n x, (course 1 fs e (roundRobin 1) n).1.session? 1 = some x ∧
        x.stage = .ended .readError ∧
        heardBy 1 (course 1 fs e (roundRobin 1) n).2 = fs.take 4 ∧
        answersTo 1 (course 1 fs e (roundRobin 1) n).2 +
          waitsOf 1 (course 1 fs e (roundRobin 1) n).1.queue = 1 := by
  have reached (u : User) (p : Party) : Reaches Config.standard
      [.openParty p u, .lookupAnswered 0 (.ok (some ⟨p, u, .active⟩)), .drive 1] _ _ :=
    .of_start rfl _
  have hr := reached ⟨"ann", by decide, "ann", rfl⟩ ⟨"p", by decide, "p", rfl⟩
  have aloof : Aloof 1 (roundRobin 1) := by
    intro n a ht
    unfold roundRobin at ht
    split at ht <;> cases ht <;> rfl
  obtain ⟨each, -, -, returns⟩ := driver_heeds_frames hr
    (show Engine.session? _ 1 = some ⟨⟨"ann", by decide, "ann", rfl⟩,
      .party ⟨⟨"p", by decide, "p", rfl⟩, 5000000000, .waiting 0⟩ false, .driven .reading .idle⟩
      by decide +kernel) aloof
    [.other, .text "pong", .text "\x7b\"msg_type\":\"ping\"\x7d", .failure, .close]
  obtain ⟨n, x, hx, ended, heard⟩ := returns (roundRobin_fair 1)
  refine ⟨_, _, _, _, hr, aloof, n, x, hx, ended, heard, ?_⟩
  rw [← (each n).2.2, heard]
  decide +kernel

end

end

end Presence.Engine
