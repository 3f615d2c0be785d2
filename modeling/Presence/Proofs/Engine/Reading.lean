import Presence.Proofs.Engine.Moments
import Presence.Proofs.Engine.Readers

/-!
The effect of frames read by a driver. A ping makes the reader deliver one pong to its own line, if
there is room, and submit one heartbeat of its user; a frame that ends the session makes the driver
leave; other frames have no effect. A run with frames read is a run in which the reader performs
these deeds in order (`Plays`); none is read after the first frame that ends the session, and every
ping has one submission (`Progress`).
-/

namespace Presence

/-! ### Frames -/

/-- The result of a driver that reads the frame, if it ends the session. -/
def Inflow.ending? : Inflow → Option SessionEnd
  | .text _ => none
  | .other => none
  | .close => some .clientClosed
  | .finished => some .clientClosed
  | .failure => some .readError

/-- The frame is a text that parses as a ping. -/
def Inflow.isPing : Inflow → Bool
  | .text t => (Inbound.parse t).isOk
  | _ => false

/-- The steps of a reader on frames. -/
inductive Deed
  | answer
  | leave (how : SessionEnd)
deriving DecidableEq

/-- The deed of a frame, if any. -/
def Inflow.deed? (f : Inflow) : Option Deed :=
  if f.isPing then some .answer else f.ending?.map .leave

section
variable {f g : Inflow} {how : SessionEnd} {before after read : List Inflow}

theorem Inflow.deed?_eq_none (h : f.deed? = none) : f.isPing = false ∧ f.ending? = none := by
  unfold deed? at h
  split at h
  · cases h
  · rename_i hp
    exact ⟨Bool.eq_false_iff.2 hp, Option.map_eq_none_iff.1 h⟩

theorem Inflow.deed?_eq_answer (h : f.deed? = some .answer) :
    f.isPing = true ∧ f.ending? = none := by
  unfold deed? at h
  split at h
  · refine ⟨‹_›, ?_⟩
    cases f with
    | text => rfl
    | _ => cases ‹_›
  · obtain ⟨how, -, h⟩ := Option.map_eq_some_iff.1 h
    cases h

theorem Inflow.deed?_eq_leave (h : f.deed? = some (.leave how)) :
    f.isPing = false ∧ f.ending? = some how := by
  unfold deed? at h
  split at h
  · cases h
  · rename_i hp
    obtain ⟨how', ending, h⟩ := Option.map_eq_some_iff.1 h
    cases h
    exact ⟨Bool.eq_false_iff.2 hp, ending⟩

theorem Inflow.deed?_of_ending? (h : f.ending? = some how) : f.deed? = some (.leave how) := by
  unfold deed?
  cases f with
  | text => cases h
  | _ => rw [h]; rfl

/-- Frames read of which none ends the session are a prefix of those before the first that does. -/
theorem prefix_of_quiet (hf : f.ending? = some how) (fed : read <+: before ++ f :: after)
    (quiet : ∀ g ∈ read, g.ending? = none) : read <+: before := by
  induction before generalizing read with
  | nil =>
    cases read with
    | nil => exact List.nil_prefix
    | cons g rest =>
      obtain ⟨rfl, -⟩ := List.cons_prefix_cons.1 fed
      rw [quiet g (by simp)] at hf
      cases hf
  | cons b before ih =>
    cases read with
    | nil => exact List.nil_prefix
    | cons g rest =>
      obtain ⟨rfl, fed'⟩ := List.cons_prefix_cons.1 fed
      exact List.cons_prefix_cons.2 ⟨rfl, ih fed' fun g hg => quiet g (List.mem_cons_of_mem _ hg)⟩

/-- Uniqueness of the first frame that ends the session. -/
theorem eq_of_ending {first : List Inflow} {how' : SessionEnd} (hf : f.ending? = some how)
    (hg : g.ending? = some how') (quiet : ∀ g ∈ before, g.ending? = none)
    (quiet' : ∀ g ∈ first, g.ending? = none) (fed : first ++ [g] <+: before ++ f :: after) :
    first = before ∧ g = f := by
  induction before generalizing first with
  | nil =>
    cases first with
    | nil => exact ⟨rfl, (List.cons_prefix_cons.1 fed).1⟩
    | cons b rest =>
      obtain ⟨rfl, -⟩ := List.cons_prefix_cons.1 fed
      rw [quiet' b (by simp)] at hf
      cases hf
  | cons b before ih =>
    cases first with
    | nil =>
      obtain ⟨rfl, -⟩ := List.cons_prefix_cons.1 fed
      rw [quiet g (by simp)] at hg
      cases hg
    | cons b' rest =>
      obtain ⟨rfl, fed'⟩ := List.cons_prefix_cons.1 fed
      obtain ⟨rfl, rfl⟩ := ih (fun g hg => quiet g (List.mem_cons_of_mem _ hg))
        (fun g hg => quiet' g (List.mem_cons_of_mem _ hg)) fed'
      exact ⟨rfl, rfl⟩

end

namespace Engine

/-! ### One frame -/

/-- The engine after a deed of the reader of session `s`. -/
def perform (e : Engine) (s : SessionId) (user : User) (w : Writer) : Deed → Effect
  | .answer => andThen (e.tryPong s) (·.beat s user w)
  | .leave how => (e.leave s how, [])

section
variable {e e' : Engine} {s : SessionId} {u : User} {role : Role} {w : Writer} {f : Inflow}

/-- A frame without a deed has no effect. -/
theorem hear_of_idle (hd : f.deed? = none) : e.hear s u w f = (e, []) := by
  unfold Inflow.deed? Inflow.isPing at hd
  cases f with
  | text t =>
    cases hp : Inbound.parse t with
    | error fault =>
      unfold hear
      simp only [hp]
    | ok message => simp [hp, Except.isOk, Except.toBool] at hd
  | other => rfl
  | _ => simp [Inflow.ending?] at hd

/-- The effect of a frame is its deed. -/
theorem hear_of_deed {d : Deed} (hd : f.deed? = some d) :
    e.hear s u w f = e.perform s u w d := by
  unfold Inflow.deed? Inflow.isPing at hd
  cases f with
  | text t =>
    cases hp : Inbound.parse t with
    | error fault => simp [hp, Except.isOk, Except.toBool, Inflow.ending?] at hd
    | ok message =>
      cases message
      simp [hp, Except.isOk, Except.toBool] at hd
      subst hd
      exact hear_ping hp
  | other => simp [Inflow.ending?] at hd
  | _ =>
    simp [Inflow.ending?] at hd
    subst hd
    rfl

theorem step_read (hx : e.session? s = some ⟨u, role, .driven .reading w⟩) (f : Inflow) :
    e.step (.read s f) = ((e.hear s u w f).1, .heard s f :: (e.hear s u w f).2) := by
  show e.read s f = _
  unfold read
  rw [hx]
  rfl

theorem step_read_of_idle (hx : e.session? s = some ⟨u, role, .driven .reading w⟩)
    (hd : f.deed? = none) : e.step (.read s f) = (e, [.heard s f]) := by
  rw [step_read hx, hear_of_idle hd]

theorem step_read_of_deed (hx : e.session? s = some ⟨u, role, .driven .reading w⟩) {d : Deed}
    (hd : f.deed? = some d) :
    e.step (.read s f) = ((e.perform s u w d).1, .heard s f :: (e.perform s u w d).2) := by
  rw [step_read hx, hear_of_deed hd]

/-- A driver is reading, or `read` has no effect. -/
theorem reading_or_busy (s : SessionId) (e : Engine) :
    (∃ u role w, e.session? s = some ⟨u, role, .driven .reading w⟩) ∨
      ∀ f, e.step (.read s f) = (e, []) := by
  by_cases hr : ∃ u role w, e.session? s = some ⟨u, role, .driven .reading w⟩
  · exact .inl hr
  · refine .inr fun f => ?_
    show e.read s f = _
    unfold read
    split
    · exact absurd ⟨_, _, _, ‹_›⟩ hr
    · rfl

/-! ### The reader's own submissions -/

/-- After `beat` the reader's submission has returned or waits. -/
theorem beat_submits (hx : e.session? s = some ⟨u, role, .driven .reading w⟩) :
    heardBy s (e.beat s u w).2 = [] ∧
      waitsOf s (e.beat s u w).1.queue + answersTo s (e.beat s u w).2 = waitsOf s e.queue + 1 ∧
      ∃ r, (e.beat s u w).1.session? s = some ⟨u, role, .driven r w⟩ ∧
        (r = .submitting ↔ answersTo s (e.beat s u w).2 = 0) := by
  have hx : e.sessions.get? s = some ⟨u, role, .driven .reading w⟩ := hx
  unfold beat submit Queue.submit
  cases (e.setStage s (.driven .submitting w)).queue.events.trySend (Event.mk u .heartbeat) with
  | ok c =>
    refine ⟨rfl, ?_, .reading, ?_, ?_⟩
    · simp [andThen, submitted, resume, answersTo]
      rfl
    · simp [andThen, submitted, resume, setStage, updateSession, session?, hx]
    · simp [andThen, submitted, resume, answersTo]
  | error d =>
    cases d with
    | closed =>
      refine ⟨rfl, ?_, .reading, ?_, ?_⟩
      · simp [andThen, submitted, resume, answersTo]
        rfl
      · simp [andThen, submitted, resume, setStage, updateSession, session?, hx]
      · simp [andThen, submitted, resume, answersTo]
    | full =>
      refine ⟨rfl, ?_, .submitting, ?_, ?_⟩
      · simp [waitsOf, Queue.lineUp, setStage, updateSession, answersTo]
      · simp [setStage, updateSession, session?, hx]
      · simp [answersTo]

/-- A ping is a heartbeat, with at most one more frame on the board and in the notes. -/
theorem perform_answer_eq (e : Engine) (s : SessionId) (u : User) (w : Writer) :
    e.perform s u w .answer =
      ((e.beat s u w).1.withBoard (e.tryPong s).1.board, (e.tryPong s).2 ++ (e.beat s u w).2) := by
  have beaten := beat_withBoard e (e.tryPong s).1.board s u w
  show andThen (e.tryPong s) (·.beat s u w) = _
  rw [tryPong_eq]
  show (((e.withBoard _).beat s u w).1, _ ++ ((e.withBoard _).beat s u w).2) = _
  rw [beaten]
  rfl

theorem perform_answer (hx : e.session? s = some ⟨u, role, .driven .reading w⟩) :
    heardBy s (e.perform s u w .answer).2 = [] ∧
      waitsOf s (e.perform s u w .answer).1.queue + answersTo s (e.perform s u w .answer).2 =
        waitsOf s e.queue + 1 ∧
      ∃ r, (e.perform s u w .answer).1.session? s = some ⟨u, role, .driven r w⟩ ∧
        (r = .submitting ↔ answersTo s (e.perform s u w .answer).2 = 0) := by
  have aside := tryPong_aside e s s
  obtain ⟨heard, waits, r, session, busy⟩ := beat_submits hx
  have same : answersTo s ((e.tryPong s).2 ++ (e.beat s u w).2) =
      answersTo s (e.beat s u w).2 := by
    rw [answersTo_append, aside.2, Nat.zero_add]
  rw [perform_answer_eq]
  refine ⟨?_, ?_, r, session, ?_⟩
  · rw [heardBy_append, aside.1, heard, List.nil_append]
  · rw [same]
    exact waits
  · rw [same]
    exact busy

theorem attends_iff {x : Session} (hx : e.session? s = some x) :
    Attends s e ↔ waitsOf s e.queue = x.isSubmitting.toNat := by
  unfold Attends isSubmitting
  rw [hx, Option.any_some]

theorem heardBy_perform (hx : e.session? s = some ⟨u, role, .driven .reading w⟩) (d : Deed) :
    heardBy s (e.perform s u w d).2 = [] := by
  cases d with
  | answer => exact (perform_answer hx).1
  | leave how => rfl

/-- A driver that is reading reads the frame offered. -/
theorem heardBy_read (hx : e.session? s = some ⟨u, role, .driven .reading w⟩) (f : Inflow) :
    heardBy s (e.step (.read s f)).2 = [f] := by
  cases hd : f.deed? with
  | none => simp [step_read_of_idle hx hd, heardBy]
  | some d => simp [step_read_of_deed hx hd, heardBy, heardBy_perform hx d]

/-- A driver that leaves has no pending submission. -/
theorem attends_depart {stage : Stage} (hl : stage.isLive = false) :
    Attends s (e.depart s stage) := by
  have calm : isSubmitting s (e.depart s stage) = false := by
    unfold isSubmitting session?
    show (Roster.get? (e.sessions.update s fun x => { x.stopPoller with stage }) s).any _ = false
    rw [Roster.get?_update, if_pos rfl]
    cases e.sessions.get? s with
    | none => rfl
    | some x =>
      cases stage with
      | driven => cases hl
      | _ => rfl
  unfold Attends
  rw [calm]
  exact waitsOf_abandon_self

theorem Beside.attends {out : List Note} (h : Beside s e e' out) (hw : Attends s e) :
    Attends s e' := by
  have waits := h.waits
  unfold Attends at hw ⊢
  cases hb : isSubmitting s e with
  | false =>
    rw [hw, hb] at waits
    rw [h.calm hb]
    exact Nat.eq_zero_of_add_eq_zero_right waits
  | true =>
    rw [hw, hb] at waits
    unfold isSubmitting at hb
    cases hx : e.session? s with
    | none => rw [hx] at hb; cases hb
    | some x =>
      rw [hx, Option.any_some] at hb
      obtain ⟨user, role, stage⟩ := x
      cases stage with
      | driven r w =>
        cases r with
        | reading => cases hb
        | submitting =>
          obtain ⟨y, hy, -, goes⟩ := h.session hx rfl
          obtain ⟨user', role', stage'⟩ := y
          cases goes with
          | @driven _ r' _ w' hr =>
            unfold isSubmitting
            rw [hy, Option.any_some]
            by_cases ha : answersTo s out = 0
            · rw [if_pos ha] at hr
              subst hr
              rw [ha] at waits
              exact waits
            · rw [if_neg ha] at hr
              subst hr
              show _ = 0
              have one : (true).toNat = 1 := rfl
              omega
      | _ => cases hb

theorem session?_leave {x : Session} (hx : e.session? s = some x) (how : SessionEnd) :
    (e.leave s how).session? s = some { x.stopPoller with stage := .leaving how } :=
  (Roster.get?_update _).trans ((if_pos rfl).trans (congrArg _ hx))

/-- After a ping the submission has returned or waits. -/
theorem attends_perform (hw : Attends s e)
    (hx : e.session? s = some ⟨u, role, .driven .reading w⟩) (d : Deed) :
    Attends s (e.perform s u w d).1 := by
  cases d with
  | leave how => exact attends_depart rfl
  | answer =>
    have idle : waitsOf s e.queue = 0 := (attends_iff hx).1 hw
    obtain ⟨-, waits, r, session, busy⟩ := perform_answer hx
    refine (attends_iff session).2 ?_
    cases r with
    | reading =>
      have answered : answersTo s (e.perform s u w .answer).2 ≠ 0 := fun h => by cases busy.2 h
      show _ = 0
      omega
    | submitting =>
      have waiting := busy.1 rfl
      show _ = 1
      omega

theorem attends_read (hw : Attends s e) (f : Inflow) : Attends s (e.step (.read s f)).1 := by
  rcases reading_or_busy s e with ⟨u, role, w, hx⟩ | busy
  · cases hd : f.deed? with
    | none =>
      rw [step_read_of_idle hx hd]
      exact hw
    | some d =>
      rw [step_read_of_deed hx hd]
      exact attends_perform hw hx d
  · rw [busy]
    exact hw

theorem attends_dropSession (hw : Attends s e) : Attends s (e.dropSession s) := by
  unfold dropSession
  split
  · exact attends_depart rfl
  · exact attends_depart rfl
  · rename_i user p b how hx
    have idle : waitsOf s e.queue = 0 := (attends_iff hx).1 hw
    have gone : (e.setStage s .dropped).session? s = some ⟨user, .party p b, .dropped⟩ := by
      simp [setStage, updateSession, session?, show e.sessions.get? s = _ from hx]
    exact (attends_iff gone).2 idle
  · exact hw

/-- Every action preserves `Attends`. -/
theorem step_attends (hi : InStage e) (hw : Attends s e) (a : Action) : Attends s (e.step a).1 := by
  have left (how : SessionEnd) : Attends s (e.leave s how) := attends_depart rfl
  by_cases ha : a.isAside s = true
  · exact (step_beside ha hi hw).attends hw
  · cases a with
    | read t frame =>
      obtain rfl : t = s := by simpa [Action.isAside] using ha
      exact attends_read hw frame
    | cancel t =>
      obtain rfl : t = s := by simpa [Action.isAside] using ha
      show Attends t (e.cancel t)
      unfold cancel
      split
      · split
        · exact left _
        · exact hw
      · exact hw
    | dropSession t =>
      obtain rfl : t = s := by simpa [Action.isAside] using ha
      exact attends_dropSession hw
    | writeFailed t =>
      obtain rfl : t = s := by simpa [Action.isAside] using ha
      show Attends t (e.writeFailed t)
      unfold writeFailed
      split
      · exact left _
      · exact hw
    | _ => exact absurd rfl ha

theorem run_attends {config : Config} {as : List Action} {ns : List Note}
    (h : Reaches config as e ns) (hw : Attends s e) (bs : List Action) :
    Attends s (e.run bs).1 := by
  induction bs generalizing e as ns with
  | nil => exact hw
  | cons b bs ih => exact ih (h.step b) (step_attends h.inStage hw b)

theorem Reaches.attends {config : Config} {as : List Action} {ns : List Note}
    (h : Reaches config as e ns) (s : SessionId) : Attends s e := by
  obtain ⟨e₀, hs, hr⟩ := h
  obtain ⟨status, -, rfl⟩ := start_eq_fresh hs
  have started : Reaches config [] (fresh config status) [] := ⟨_, hs, rfl⟩
  have alone : Attends s (fresh config status) := by
    simp [Attends, waitsOf, isSubmitting, session?, Roster.get?, fresh, initial]
  have kept := run_attends started alone as
  rwa [hr] at kept

end

/-! ### Runs with frames -/

/-- The state of the driver of a session after these frames. -/
inductive Heeds (read : List Inflow) : Stage → Prop
  | driven (quiet : ∀ g ∈ read, g.ending? = none) (r : Reader) (w : Writer) :
      Heeds read (.driven r w)
  | leaving {before : List Inflow} {f : Inflow} {how : SessionEnd} (hr : read = before ++ [f])
      (quiet : ∀ g ∈ before, g.ending? = none) (hf : f.ending? = some how) :
      Heeds read (.leaving how)
  | ended {before : List Inflow} {f : Inflow} {how : SessionEnd} (hr : read = before ++ [f])
      (quiet : ∀ g ∈ before, g.ending? = none) (hf : f.ending? = some how) :
      Heeds read (.ended how)

/-- The state of the driver of session `s` with user `u`, by the notes since it was reading. -/
structure Progress (s : SessionId) (u : User) (e : Engine) (out : List Note) : Prop where
  session : ∃ x, e.session? s = some x ∧ x.user = u ∧ Heeds (heardBy s out) x.stage
  /-- The pings read are as many as the submissions that have returned or wait. -/
  pings : (heardBy s out).countP Inflow.isPing = answersTo s out + waitsOf s e.queue

section
variable {e e' : Engine} {s : SessionId} {u : User} {role : Role} {w : Writer} {f : Inflow}
  {out ms : List Note} {fs : List Inflow} {st st' : Stage} {n : Nat}

theorem Heeds.manned (h : Heeds fs st) : st.isManned = true := by
  cases h <;> rfl

theorem Heeds.goes (h : Heeds fs st) (hg : st.Goes n st') : Heeds fs st' := by
  cases hg with
  | driven =>
    cases h with
    | driven quiet => exact .driven quiet _ _
  | leaving => exact h
  | returns =>
    cases h with
    | leaving hr quiet hf => exact .ended hr quiet hf
  | ended => exact h

theorem Progress.aside (h : Progress s u e out) (hb : Beside s e e' ms) :
    Progress s u e' (out ++ ms) := by
  obtain ⟨x, hx, user, heeds⟩ := h.session
  obtain ⟨y, hy, user', goes⟩ := hb.session hx heeds.manned
  have pings := h.pings
  have waits := hb.waits
  constructor
  case session =>
    rw [heardBy_append, hb.heard, List.append_nil]
    exact ⟨y, hy, user'.trans user, heeds.goes goes⟩
  case pings =>
    rw [heardBy_append, hb.heard, List.append_nil, answersTo_append]
    omega

/-- Step of `Progress` on a frame whose deed is done. -/
theorem Progress.more (h : Progress s u e out) (hm : heardBy s ms = [])
    (hs : ∃ x, e'.session? s = some x ∧ x.user = u ∧ Heeds (heardBy s out ++ [f]) x.stage)
    (hp : f.isPing.toNat + waitsOf s e.queue = answersTo s ms + waitsOf s e'.queue) :
    Progress s u e' (out ++ .heard s f :: ms) := by
  have grown : heardBy s (out ++ .heard s f :: ms) = heardBy s out ++ [f] := by
    simp [heardBy, hm]
  have answers : answersTo s (out ++ .heard s f :: ms) = answersTo s out + answersTo s ms := by
    simp [answersTo]
  have counted : (heardBy s out ++ [f]).countP Inflow.isPing =
      (heardBy s out).countP Inflow.isPing + f.isPing.toNat := by
    rw [List.countP_append, List.countP_singleton]
    cases f.isPing <;> rfl
  have pings := h.pings
  constructor
  case session => rwa [grown]
  case pings =>
    rw [grown, counted, answers]
    omega

/-- A frame read is its deed. -/
theorem Progress.heard (h : Progress s u e out) (hw : Attends s e)
    (hx : e.session? s = some ⟨u, role, .driven .reading w⟩) (f : Inflow) :
    Progress s u (e.step (.read s f)).1 (out ++ (e.step (.read s f)).2) := by
  have quiet : ∀ g ∈ heardBy s out, g.ending? = none := by
    obtain ⟨x, hx', -, heeds⟩ := h.session
    cases hx.symm.trans hx'
    cases heeds
    assumption
  have still_quiet (hf : f.ending? = none) : ∀ g ∈ heardBy s out ++ [f], g.ending? = none := by
    intro g hg
    rcases List.mem_append.1 hg with hg | hg
    · exact quiet g hg
    · rw [List.mem_singleton.1 hg, hf]
  cases hd : f.deed? with
  | none =>
    obtain ⟨hp, hf⟩ := Inflow.deed?_eq_none hd
    rw [step_read_of_idle hx hd]
    exact h.more rfl ⟨_, hx, rfl, .driven (still_quiet hf) _ _⟩ (by rw [hp]; rfl)
  | some d =>
    rw [step_read_of_deed hx hd]
    cases d with
    | answer =>
      obtain ⟨hp, hf⟩ := Inflow.deed?_eq_answer hd
      obtain ⟨heard, waits, r, session, -⟩ := perform_answer hx
      refine h.more heard ⟨_, session, rfl, .driven (still_quiet hf) _ _⟩ ?_
      rw [hp, Nat.add_comm (answersTo ..), waits]
      exact Nat.add_comm ..
    | leave how =>
      obtain ⟨hp, hf⟩ := Inflow.deed?_eq_leave hd
      have idle : waitsOf s e.queue = 0 := (attends_iff hx).1 hw
      have gone : waitsOf s (e.leave s how).queue = 0 := waitsOf_abandon_self
      refine h.more rfl ⟨_, session?_leave hx how, ?_, .leaving rfl quiet hf⟩ ?_
      · cases role <;> rfl
      · rw [hp, idle]
        show 0 = 0 + waitsOf s (e.leave s how).queue
        rw [gone]

/-- A frame offered is read, or `read` has no effect. -/
theorem Progress.read (h : Progress s u e out) (hw : Attends s e) (f : Inflow) :
    Progress s u (e.step (.read s f)).1 (out ++ (e.step (.read s f)).2) := by
  rcases reading_or_busy s e with ⟨u', role, w, hr⟩ | busy
  · obtain ⟨x, hx, user, -⟩ := h.session
    cases hx.symm.trans hr
    cases user
    exact h.heard hw hr f
  · rw [busy, List.append_nil]
    exact h

/-- Actions that offer a frame to the driver of session `s` or are aside of it. -/
def Action.spares (s : SessionId) (a : Action) : Bool :=
  match a with
  | .read .. => true
  | a => a.isAside s

theorem Action.spares_cases {a : Action} (h : a.spares s = true) :
    a.isAside s = true ∨ ∃ f, a = .read s f := by
  cases a with
  | read t f =>
    by_cases ht : t = s
    · exact .inr ⟨f, by rw [ht]⟩
    · exact .inl (by simp [Action.isAside, ht])
  | _ => exact .inl h

section
variable {config : Config} {as bs : List Action} {ns : List Note}

theorem step_progress (hi : InStage e) (hw : Attends s e) (h : Progress s u e out) {a : Action}
    (ha : a.spares s = true) : Progress s u (e.step a).1 (out ++ (e.step a).2) := by
  rcases Action.spares_cases ha with ha | ⟨f, rfl⟩
  · exact h.aside (step_beside ha hi hw)
  · exact h.read hw f

theorem run_progress (hr : Reaches config as e ns) (h : Progress s u e out)
    (hb : ∀ b ∈ bs, b.spares s = true) : Progress s u (e.run bs).1 (out ++ (e.run bs).2) := by
  induction bs generalizing e as ns out with
  | nil => simpa [run] using h
  | cons b bs ih =>
    have first := step_progress hr.inStage (hr.attends s) h (hb b (by simp))
    have rest := ih (hr.step b) first fun c hc => hb c (List.mem_cons_of_mem b hc)
    rw [List.append_assoc] at rest
    exact rest

end

/-! ### Deeds of a reader -/

/-- A run in which the reader of session `s` reads nothing and performs these deeds in order,
interleaved with the actions `as`. -/
inductive Plays (s : SessionId) (u : User) :
    Engine → List Deed → List Action → List Note → Engine → Prop
  | done (e : Engine) : Plays s u e [] [] [] e
  | deed {e e' : Engine} {role : Role} {w : Writer} {d : Deed} {ds : List Deed} {as : List Action}
      {ns : List Note} (hx : e.session? s = some ⟨u, role, .driven .reading w⟩)
      (rest : Plays s u (e.perform s u w d).1 ds as ns e') :
      Plays s u e (d :: ds) as ((e.perform s u w d).2 ++ ns) e'
  | other {e e' : Engine} {a : Action} {ds : List Deed} {as : List Action} {ns : List Note}
      (ha : a.isAside s = true) (rest : Plays s u (e.step a).1 ds as ns e') :
      Plays s u e ds (a :: as) ((e.step a).2 ++ ns) e'

/-- The notes without the frames read by the driver of session `s`. -/
def unheard (s : SessionId) : List Note → List Note
  | [] => []
  | .heard t f :: ns => if t = s then unheard s ns else .heard t f :: unheard s ns
  | n :: ns => n :: unheard s ns

@[simp] theorem unheard_append : unheard s (out ++ ms) = unheard s out ++ unheard s ms := by
  induction out with
  | nil => rfl
  | cons n ns ih =>
    cases n with
    | heard t f => by_cases h : t = s <;> simp [unheard, h, ih]
    | _ => simp [unheard, ih]

theorem unheard_of_heardBy (h : heardBy s out = []) : unheard s out = out := by
  induction out with
  | nil => rfl
  | cons n ns ih =>
    cases n with
    | heard t f =>
      unfold heardBy at h
      split at h
      · cases h
      · simp [unheard, ih h, *]
    | _ => simp [unheard, ih h]

/-- A run with frames read is a run with their deeds. -/
theorem run_plays {config : Config} {as bs : List Action} {ns : List Note}
    (hr : Reaches config as e ns) (h : Progress s u e out) (hb : ∀ b ∈ bs, b.spares s = true) :
    Plays s u e ((heardBy s (e.run bs).2).filterMap Inflow.deed?) (bs.filter (Action.isAside s))
      (unheard s (e.run bs).2) (e.run bs).1 := by
  induction bs generalizing e as ns out with
  | nil => exact .done e
  | cons b bs ih =>
    have spared := hb b (by simp)
    have later : Plays s u (e.step b).1 _ _ _ _ :=
      ih (hr.step b) (step_progress hr.inStage (hr.attends s) h spared) fun c hc =>
        hb c (List.mem_cons_of_mem b hc)
    show Plays s u e ((heardBy s ((e.step b).2 ++ ((e.step b).1.run bs).2)).filterMap _) _
      (unheard s ((e.step b).2 ++ ((e.step b).1.run bs).2)) ((e.step b).1.run bs).1
    rw [heardBy_append, unheard_append, List.filterMap_append]
    -- an action that spares `s` is aside or reads a frame of it
    rcases Action.spares_cases spared with ha | ⟨f, rfl⟩
    · have aside := step_beside ha hr.inStage (hr.attends s)
      rw [aside.heard, unheard_of_heardBy aside.heard, List.filter_cons_of_pos ha]
      exact .other ha later
    · rw [List.filter_cons_of_neg (by simp [Action.isAside])]
      rcases reading_or_busy s e with ⟨u', role, w, hx⟩ | busy
      · obtain ⟨x, hx', user, -⟩ := h.session
        cases hx.symm.trans hx'
        cases user
        cases hd : f.deed? with
        | none =>
          rw [step_read_of_idle hx hd] at later ⊢
          simpa [heardBy, unheard, hd] using later
        | some d =>
          have quiet := heardBy_perform hx d
          rw [step_read_of_deed hx hd] at later ⊢
          simpa [heardBy, unheard, hd, quiet, unheard_of_heardBy quiet] using Plays.deed hx later
      · rw [busy] at later ⊢
        exact later

end

end Engine

end Presence
