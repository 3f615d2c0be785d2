import Mathlib.Data.List.Induction
import Presence.Proofs.Engine.Dismissal
import Presence.Proofs.Engine.Reading

/-!
Causes of a driver's return. A driver leaves its loop by one of five actions, and `SessionEnd`
records which. `Reaches.origin` finds the action of a run by which a property came to hold: the
action by which the driver left, and before it the one that cancelled its session. A driver never
finds its line without a sender, since its session holds one.
-/

namespace Presence

/-- The result of a driver that has left its loop. -/
def Session.verdict? (x : Session) : Option SessionEnd :=
  match x.stage with
  | .leaving how => some how
  | .ended how => some how
  | _ => none

namespace Engine

/-! ### Actions in a run -/

section
variable {config : Config} {as : List Action} {e : Engine} {ns : List Note}

/-- Action `a` was taken in a state with `P` in the course of the run. -/
def Amid (config : Config) (as : List Action) (a : Action) (P : Engine → Prop) : Prop :=
  ∃ before after e ns, as = before ++ a :: after ∧ Reaches config before e ns ∧ P e

theorem Amid.later {a : Action} {P : Engine → Prop} (h : Amid config as a P) (bs : List Action) :
    Amid config (as ++ bs) a P := by
  obtain ⟨before, after, e, ns, rfl, he, hP⟩ := h
  exact ⟨before, after ++ bs, e, ns, by simp, he, hP⟩

theorem Amid.mem {a : Action} {P : Engine → Prop} (h : Amid config as a P) : a ∈ as := by
  obtain ⟨before, after, e, ns, rfl, -⟩ := h
  simp

/-- A run is `Onward` from the state after any of its prefixes. -/
theorem Reaches.onward {before after : List Action} {e₀ : Engine} {ns₀ : List Note}
    (h₀ : Reaches config before e₀ ns₀) (h : Reaches config (before ++ after) e ns) :
    Onward e₀ e := by
  obtain ⟨rfl, -⟩ := h.unique (h₀.append after)
  exact run_makes (P := fun e _ => Onward e₀ e) (fun _ _ _ _ _ _ hm ho => ho.trans hm.onward)
    (.of_eq rfl rfl)

/-- A property that holds after a run but not before it came to hold by one of the run's actions. -/
theorem Reaches.origin {P : Engine → Prop} (h : Reaches config as e ns)
    (first : ∀ status, ¬ P (fresh config status)) (hP : P e) :
    ∃ a, Amid config as a fun e => ¬ P e ∧ P (e.step a).1 := by
  induction as using List.reverseRecOn generalizing e ns with
  | nil =>
    obtain ⟨e₀, hs, hr⟩ := h
    obtain ⟨status, -, rfl⟩ := start_eq_fresh hs
    cases hr
    exact absurd hP (first status)
  | append_singleton as a ih =>
    have begun : ∃ e₁ ns₁, Reaches config as e₁ ns₁ := by
      obtain ⟨e₀, hs, -⟩ := h
      exact ⟨_, _, .of_start hs as⟩
    obtain ⟨e₁, ns₁, h₁⟩ := begun
    obtain ⟨rfl, -⟩ := h.unique (h₁.step a)
    by_cases hP₁ : P e₁
    · obtain ⟨b, hb⟩ := ih h₁ hP₁
      exact ⟨b, hb.later [a]⟩
    · exact ⟨a, as, [], e₁, ns₁, rfl, h₁, hP₁, hP⟩

end

/-! ### Cancellation -/

section
variable {config : Config} {as : List Action} {a : Action} {e : Engine} {ns : List Note} {n : Nat}

/-- What an action brings about is brought about by one of its moves. -/
theorem step_origin {P : Engine → Prop} (hn : ¬ P e) (hp : P (e.step a).1) :
    ∃ e₁ out e₂, Move a e₁ out e₂ ∧ ¬ P e₁ ∧ P e₂ := by
  refine Classical.byContradiction fun none => ?_
  have kept : ¬ P (e.step a).1 :=
    step_makes (P := fun e _ => ¬ P e) (fun hm hn hp => none ⟨_, _, _, hm, hn, hp⟩) hn
  exact kept hp

/-- Only `closeSession` of the user for whom a session is registered requests it to close. -/
theorem step_closing (hc : (e.step a).1.board.closeRequested n = true)
    (he : ¬ e.board.closeRequested n = true) :
    ∃ u link, a = .closeSession u ∧ e.board.lookup u = some link ∧ link.line = n := by
  obtain ⟨e₁, _, _, hm, hn, hp⟩ :=
    step_origin (P := fun e => e.board.closeRequested n = true) he hc
  rcases hm.closing (n := n) with same | ⟨u, -, rfl, -⟩
  · exact absurd (same ▸ hp) hn
  · cases hu : e.board.lookup u with
    | none => exact absurd (step_closeSession_of_none hu ▸ hc) he
    | some link =>
      rw [step_closeSession_of_some hu] at hc
      rcases closeRequested_requestClose_iff.1 hc with hc | ⟨hn, -⟩
      · exact absurd hc he
      · exact ⟨u, link, rfl, hu, hn.symm⟩

theorem step_stopping (hs : (e.step a).1.shutdown = true) (he : ¬ e.shutdown = true) : a.Stops := by
  obtain ⟨_, _, _, hm, hn, hp⟩ := step_origin (P := fun e => e.shutdown = true) he hs
  exact hm.shutdown_eq.resolve_left fun same => hn (same ▸ hp)

/-- Session `s` is registered for its user. -/
def Registered (u : User) (s : SessionId) (e : Engine) : Prop :=
  e.board.lookup u = some ⟨s, lineOf s⟩

/-- A session that was requested to close was registered for its user when `closeSession` was
called. -/
theorem Reaches.closed_while_registered (h : Reaches config as e ns) {s : SessionId} {x : Session}
    (hx : e.session? s = some x) (hc : e.board.closeRequested (lineOf s) = true) :
    Amid config as (.closeSession x.user) (Registered x.user s) := by
  obtain ⟨a, before, after, e₀, ns₀, rfl, h₀, hn, hp⟩ :=
    h.origin (P := fun e => e.board.closeRequested (lineOf s) = true) (fun _ => nofun) hc
  obtain ⟨u, link, rfl, hu, hl⟩ := step_closing hp hn
  obtain ⟨hline, y, hy, hyu, -⟩ := h₀.wired.entry hu
  obtain rfl : link.session = s :=
    lineOf_inj (Roster.lt_next_of_get? hy).1 (Roster.lt_next_of_get? hx).1 (hline.symm.trans hl)
  obtain ⟨z, hz, hzu, -⟩ := (h₀.onward h).same hy
  obtain rfl : x = z := by simpa [hx] using hz
  obtain rfl : x.user = u := hzu.trans hyu
  exact ⟨before, after, e₀, ns₀, rfl, h₀, by rw [Registered, hu, ← hline]⟩

theorem Reaches.stopped_by (h : Reaches config as e ns) (hs : e.shutdown = true) :
    ∃ a ∈ as, a.Stops := by
  obtain ⟨a, ha⟩ := h.origin (P := fun e => e.shutdown = true) (fun _ => nofun) hs
  obtain ⟨-, -, e₀, -, -, -, hn, hp⟩ := id ha
  exact ⟨a, ha.mem, step_stopping hp hn⟩

end

/-! ### Leaving the loop -/

/-- The driver of a session has left its loop with result `how`. -/
def Stopped (e : Engine) (s : SessionId) (how : SessionEnd) : Prop :=
  ∃ x, e.session? s = some x ∧ x.verdict? = some how

section
variable {a : Action} {e e' : Engine} {out : List Note} {s : SessionId} {how : SessionEnd}

theorem Stopped.of_stage {t : SessionId} {f : Session → Session} {stage : Stage}
    (h : Stopped (e.updateSession t f) s how) (hf : ∀ x, (f x).stage = stage)
    (hs : ∀ how, stage ≠ .leaving how ∧ stage ≠ .ended how) : Stopped e s how := by
  refine Roster.exists_of_update h fun x _ hx => ?_
  unfold Session.verdict? at hx
  rw [hf] at hx
  split at hx
  · exact absurd rfl (hs _).1
  · exact absurd rfl (hs _).2
  · cases hx

theorem Stopped.of_poller {t : SessionId} {p : Poller}
    (h : Stopped (e.updateSession t (·.withPoller p)) s how) : Stopped e s how :=
  Roster.exists_of_update h fun x _ hx => by
    rwa [Session.verdict?, stage_withPoller] at hx

/-- A driver returns the result with which it left. -/
theorem Stopped.of_return {t : SessionId} {x : Session} {how' : SessionEnd}
    (h : Stopped (e.setStage t (.ended how')) s how) (hx : e.session? t = some x)
    (hr : x.stage = .leaving how') : Stopped e s how := by
  refine Roster.exists_of_update h fun y hy hv => ?_
  cases hx.symm.trans hy
  simpa [Session.verdict?, hr] using hv

theorem Resumed.stopped {p : Producer} {b : Bool} (hr : Resumed e p b out e')
    (h : Stopped e' s how) : Stopped e s how := by
  cases hr with
  | reader t =>
    refine Roster.exists_of_update h fun x _ hx => ?_
    obtain ⟨u, role, stage⟩ := x
    cases stage <;> exact hx
  | status => exact Stopped.of_stage h (fun _ => rfl) (by simp)
  | party => exact Roster.exists_of_add h (by simp [Session.verdict?])
  | _ => exact h

/-- Step of `Stopped`: it held before the move, or the move is the one by which the driver
leaves. -/
theorem Move.stopped (hm : Move a e out e') (h : Stopped e' s how) :
    Stopped e s how ∨ ∃ x, e.session? s = some x ∧ Leaving a e s x how := by
  cases hm with
  | forsookSession => exact .inl (Stopped.of_stage h (fun _ => rfl) (by simp))
  | entered _ _ hr => exact .inl (hr.stopped h)
  | refused _ hr => exact .inl (hr.stopped h)
  | timedOut _ hr => exact .inl (hr.stopped h)
  | promoted _ _ _ _ hr => exact .inl (hr.stopped h)
  | opened => exact .inl (Roster.exists_of_add h (by simp [Session.verdict?]))
  | ticked => exact .inl (Stopped.of_poller h)
  | emitted => exact .inl (Stopped.of_poller h)
  | pollerEnded => exact .inl (Stopped.of_poller h)
  | pollerStopped => exact .inl (Stopped.of_poller h)
  | driven => exact .inl (Stopped.of_stage h (fun _ => rfl) (by simp))
  | dropped => exact .inl (Stopped.of_stage h (fun _ => rfl) (by simp))
  | leftUncleared => exact .inl (Stopped.of_stage h (fun _ => rfl) (by simp))
  | @left t x how' hx hh =>
    obtain ⟨y, hy, hv⟩ := h
    have hy : (e.sessions.update t fun x => { x.stopPoller with stage := .leaving how' }).get? s =
        some y := hy
    rw [Roster.get?_update] at hy
    split at hy
    · subst s
      obtain ⟨z, hz, rfl⟩ := Option.map_eq_some_iff.1 hy
      cases hx.symm.trans hz
      cases hv
      exact .inr ⟨x, hx, hh⟩
    · exact .inl ⟨y, hy, hv⟩
  | submitting => exact .inl (Stopped.of_stage h (fun _ => rfl) (by simp))
  | took => exact .inl (Stopped.of_stage h (fun _ => rfl) (by simp))
  | wrote => exact .inl (Stopped.of_stage h (fun _ => rfl) (by simp))
  | ended _ hx hr => exact .inl (Stopped.of_return h hx hr)
  | partyEnded _ hx hr => exact .inl (Stopped.of_return h hx hr)
  | _ => exact .inl h

/-- The action by which a driver leaves has no other effect. -/
theorem step_leaving (a : Action) (e : Engine) :
    (∀ e₁ s x how, ¬ Leaving a e₁ s x how) ∨ (∃ out, e.step a = (e, out)) ∨
      ∃ s x how, e.session? s = some x ∧ Leaving a e s x how ∧ (e.step a).1 = e.leave s how := by
  cases a with
  | read s f =>
    rcases reading_or_busy s e with ⟨u, role, w, hx⟩ | busy
    · cases f with
      | close => exact .inr (.inr ⟨s, _, _, hx, .closed rfl rfl, by rw [step_read hx]; rfl⟩)
      | finished => exact .inr (.inr ⟨s, _, _, hx, .finished rfl rfl, by rw [step_read hx]; rfl⟩)
      | failure => exact .inr (.inr ⟨s, _, _, hx, .unreadable rfl rfl, by rw [step_read hx]; rfl⟩)
      | _ => exact .inl (by rintro _ _ _ _ ⟨⟩ <;> simp_all)
    · exact .inr (.inl ⟨_, busy f⟩)
  | writeFailed s =>
    show _ ∨ (∃ out, (e.writeFailed s, []) = (e, out)) ∨ _
    unfold writeFailed
    split
    · exact .inr (.inr ⟨s, _, _, ‹_›, .unwritable rfl rfl, by simp [step, writeFailed, *]⟩)
    · exact .inr (.inl ⟨_, rfl⟩)
  | starve s => exact .inr (.inl ⟨[], by simp [step, starve_eq]⟩)
  | cancel s =>
    cases hx : e.session? s with
    | none => exact .inr (.inl ⟨[], by simp [step, cancel, hx]⟩)
    | some x =>
      by_cases hc : x.isDriven = true ∧ e.isCancelled s x = true
      · have driven : ∃ r w, x.stage = .driven r w := by
          have hd := hc.1
          unfold Session.isDriven at hd
          split at hd
          · exact ⟨_, _, ‹_›⟩
          · cases hd
        obtain ⟨r, w, hr⟩ := driven
        exact .inr (.inr ⟨s, x, _, hx, .cancelled hr rfl hc.2, by simp [step, cancel, hx, hc]⟩)
      · exact .inr (.inl ⟨[], by simp [step, cancel, hx, hc]⟩)
  | _ => exact .inl (by rintro _ _ _ _ ⟨⟩ <;> simp_all)

theorem step_stopped (h : Stopped (e.step a).1 s how) (he : ¬ Stopped e s how) :
    ∃ x, e.session? s = some x ∧ Leaving a e s x how := by
  rcases step_leaving a e with stays | ⟨out, still⟩ | ⟨t, x, how', hx, leaves, hs⟩
  · obtain ⟨_, _, _, hm, hn, hp⟩ := step_origin (P := (Stopped · s how)) he h
    rcases hm.stopped hp with before | ⟨x, -, leaves⟩
    · exact absurd before hn
    · exact absurd leaves (stays _ s x how)
  · rw [still] at h
    exact absurd h he
  · rw [hs] at h
    exact (Move.stopped (.left hx leaves) h).resolve_left he

end

section
variable {config : Config} {as : List Action} {e e' : Engine} {ns : List Note} {s : SessionId}
  {x y : Session} {how : SessionEnd}

theorem Passage.ended (h : Passage e e' s x y) (hx : x.stage = .ended how) :
    y.stage = .ended how := by
  cases h with
  | goesOn hl => simp [hx, Stage.isLive] at hl
  | departs hl => simp [hx, Stage.isLive] at hl
  | polls => rw [stage_withPoller, hx]
  | pollerEnds => rw [stage_withPoller, hx]
  | isLeft hl => simp [hx] at hl

/-- The result of a driver is permanent. -/
theorem Reaches.ended (h : Reaches config as e ns) (hn : .ended s how ∈ ns) :
    ∃ x, e.session? s = some x ∧ x.stage = .ended how := by
  refine (h.keeps_sound (P := fun e ns => .ended s how ∈ ns →
    ∃ x, e.session? s = some x ∧ x.stage = .ended how) (fun _ _ => nofun)
    fun _ _ e out e' ns _ hi hm ih hn => ?_).2 hn
  cases hm.shift hi with
  | still hs _ none =>
    rw [session?, hs]
    exact ih ((List.mem_append.1 hn).resolve_right (none.noted s how))
  | @one t x y hx hp hs _ none =>
    obtain ⟨z, hz, hr⟩ := ih ((List.mem_append.1 hn).resolve_right (none.noted s how))
    rw [session?_of_update hx hs]
    by_cases ht : s = t
    · subst ht
      cases hx.symm.trans hz
      exact ⟨y, if_pos rfl, hp.ended hr⟩
    · exact ⟨z, by rw [if_neg ht, hz], hr⟩
  | @ended t x how' hx hl _ hs _ _ ho =>
    rw [session?_of_update hx hs]
    rcases List.mem_append.1 hn with hn | hn
    · obtain ⟨z, hz, hr⟩ := ih hn
      have ht : s ≠ t := by
        rintro rfl
        cases hx.symm.trans hz
        simp [hl] at hr
      exact ⟨z, by rw [if_neg ht, hz], hr⟩
    · obtain ⟨rfl, rfl⟩ : s = t ∧ how = how' := by simpa [ho] using hn
      exact ⟨_, if_pos rfl, rfl⟩
  | added hs _ _ none =>
    obtain ⟨z, hz, hr⟩ := ih ((List.mem_append.1 hn).resolve_right (none.noted s how))
    have ht := (Roster.lt_next_of_get? hz).2
    exact ⟨z, by rw [session?, hs, Roster.get?_add, if_neg (Nat.ne_of_lt ht)]; exact hz, hr⟩

/-! ### Reasons -/

/-- The driver of a session is reading. -/
def Reads (s : SessionId) (e : Engine) : Prop :=
  ∃ x w, e.session? s = some x ∧ x.stage = .driven .reading w

/-- The driver of a session is writing a frame. -/
def Writes (s : SessionId) (e : Engine) : Prop :=
  ∃ x r m, e.session? s = some x ∧ x.stage = .driven r (.holding m)

/-- The cause of each result of a driver, as an action in the past of the run. -/
inductive Reason (config : Config) (as : List Action) (s : SessionId) (x : Session) :
    SessionEnd → Prop
  | closed (h : Amid config as (.read s .close) (Reads s)) : Reason config as s x .clientClosed
  | finished (h : Amid config as (.read s .finished) (Reads s)) :
      Reason config as s x .clientClosed
  | unreadable (h : Amid config as (.read s .failure) (Reads s)) : Reason config as s x .readError
  | unwritable (h : Amid config as (.writeFailed s) (Writes s)) :
      Reason config as s x .writeFailed
  | dismissed (hp : x.isParty = false)
      (h : Amid config as (.closeSession x.user) (Registered x.user s)) :
      Reason config as s x .cancelled
  | shutDown {a : Action} (ha : a.Stops) (h : a ∈ as) : Reason config as s x .cancelled

theorem Reaches.reason (h : Reaches config as e ns) (hx : e.session? s = some x)
    (hv : x.verdict? = some how) : Reason config as s x how := by
  obtain ⟨a, ha⟩ := h.origin (P := (Stopped · s how)) (fun status ⟨_, hx, _⟩ => by
    simp [fresh, initial, session?, Roster.get?] at hx) ⟨x, hx, hv⟩
  obtain ⟨before, after, e₀, ns₀, rfl, h₀, hn, hp⟩ := ha
  obtain ⟨y, hy, leaves⟩ := step_stopped hp hn
  have amid {P : Engine → Prop} (hP : P e₀) : Amid config (before ++ a :: after) a P :=
    ⟨before, after, e₀, ns₀, rfl, h₀, hP⟩
  cases leaves with
  | closed hr ha => exact .closed (ha ▸ amid ⟨y, _, hy, hr⟩)
  | finished hr ha => exact .finished (ha ▸ amid ⟨y, _, hy, hr⟩)
  | unreadable hr ha => exact .unreadable (ha ▸ amid ⟨y, _, hy, hr⟩)
  | unwritable hr ha => exact .unwritable (ha ▸ amid ⟨y, _, _, hy, hr⟩)
  | starved hr _ _ _ alone =>
    have held : y.isHeld = true := by simp [Session.isHeld, hr]
    rw [hasSender_of_isHeld held] at alone
    cases alone
  | cancelled _ _ hc =>
    obtain ⟨z, hz, hu, hparty⟩ := (h₀.onward h).same hy
    obtain rfl : x = z := by simpa [hx] using hz
    rcases (Bool.or_eq_true ..).mp hc with hs | hs
    · obtain ⟨b, hb, stops⟩ := h₀.stopped_by hs
      exact .shutDown stops (List.mem_append_left _ hb)
    · obtain ⟨plain, asked⟩ : y.isParty = false ∧ e₀.board.closeRequested (lineOf s) = true := by
        simpa using hs
      refine .dismissed ?_ (hu ▸ (h₀.closed_while_registered hy asked).later _)
      rw [Session.isParty_eq, hparty, ← Session.isParty_eq, plain]

/-- If a driver has returned `how` then `Reason` holds: its client closed the connection or the
connection ended, reading failed, writing a frame failed, or the session was cancelled, by
`closeSession` while it was registered or by `shutdown`; a party session is cancelled only by
`shutdown`. A session that is held always has a sender of its line, so `starve` is never enabled. -/
theorem returns_for_reason (h : Reaches config as e ns) :
    (∀ {s how}, .ended s how ∈ ns →
      ∃ x, e.session? s = some x ∧ x.stage = .ended how ∧ Reason config as s x how) ∧
    (∀ {s x how}, e.session? s = some x → x.stage = .leaving how → Reason config as s x how) ∧
    (∀ {s x}, e.session? s = some x → x.isDriven = true ∨ (∃ how, x.stage = .leaving how) →
      e.hasSender s x = true) ∧
    ∀ s, e.step (.starve s) = (e, []) := by
  refine ⟨fun {s how} hn => ?returned, fun hx hl => h.reason hx (by rw [Session.verdict?, hl]),
    fun {s x} _ hd => ?sender, fun s => ?starves⟩
  case returned =>
    obtain ⟨x, hx, hr⟩ := h.ended hn
    exact ⟨x, hx, hr, h.reason hx (by rw [Session.verdict?, hr])⟩
  case sender =>
    refine hasSender_of_isHeld ?_ e s
    unfold Session.isHeld
    rcases hd with hd | ⟨how, hl⟩
    · unfold Session.isDriven at hd
      split at hd
      · simp [*]
      · cases hd
    · simp [hl]
  case starves => rw [step, starve_eq]

/-- The user's session is closed; its driver, which then holds the only sender, is cancelled. -/
theorem returns_for_reason_dismissed :
    ∃ u e ns x e' ns' y,
      Reaches Config.standard [.openStatus u, .drive 1, .closeSession u] e ns ∧
      e.session? 1 = some x ∧ x.isDriven = true ∧ e.board.lookup u = none ∧
      e.hasSender 1 { x with stage := .dropped } = false ∧ e.hasSender 1 x = true ∧
      Reaches Config.standard
        [.openStatus u, .drive 1, .closeSession u, .cancel 1, .finishDriver 1] e' ns' ∧
      .ended 1 .cancelled ∈ ns' ∧ e'.session? 1 = some y ∧
      Reason Config.standard
        [.openStatus u, .drive 1, .closeSession u, .cancel 1, .finishDriver 1] 1 y .cancelled := by
  have reached (u : User) : Reaches Config.standard
      [.openStatus u, .drive 1, .closeSession u] _ _ := .of_start rfl _
  have ended (u : User) : Reaches Config.standard
      [.openStatus u, .drive 1, .closeSession u, .cancel 1, .finishDriver 1] _ _ := .of_start rfl _
  have hr := reached ⟨"ann", by decide, "ann", rfl⟩
  have he := ended ⟨"ann", by decide, "ann", rfl⟩
  obtain ⟨-, -, sender, -⟩ := returns_for_reason hr
  obtain ⟨returns, -⟩ := returns_for_reason he
  obtain ⟨y, hy, -, reason⟩ := @returns 1 .cancelled (by decide +kernel)
  have alive := @sender 1 ⟨⟨"ann", by decide, "ann", rfl⟩, .status, .driven .reading .idle⟩
    (by decide +kernel) (.inl rfl)
  refine ⟨_, _, _, _, _, _, y, hr, ?_, rfl, ?_, ?_, alive, he, ?_, hy, reason⟩
  all_goals decide +kernel

end

end Engine

end Presence
