import Presence.Proofs.Engine.Wiring

/-!
Stages and lines. A session that is being opened, ready or driven has an open line, and a session
that is being opened has one pending call, which will make it ready.
-/

namespace Presence

/-- Stages with an open line. -/
def Stage.isLive : Stage → Bool
  | .opening => true
  | .ready => true
  | .driven .. => true
  | _ => false

namespace Engine

/-- Invariant: live sessions have open lines, and a session of a pending call is being opened. -/
structure Staged (b : Switchboard) (r : Roster) (calls : Table Nat Call) : Prop where
  live : ∀ {s x}, r.get? s = some x → x.stage.isLive = true → b.isClosed (lineOf s) = false
  opening : ∀ {t s}, calls.get? t = some (.openStatus s) →
    ∃ x, r.get? s = some x ∧ x.stage = .opening
  once : ∀ {t t' s}, calls.get? t = some (.openStatus s) → calls.get? t' = some (.openStatus s) →
    t = t'

section
variable {b b' : Switchboard} {r : Roster} {calls : Table Nat Call} {s : SessionId} {x : Session}

/-- A session that is not being opened has no pending call. -/
theorem Staged.uncalled (h : Staged b r calls) (hx : r.get? s = some x) (ho : x.stage ≠ .opening)
    (t : Nat) : calls.get? t ≠ some (.openStatus s) := by
  intro hc
  obtain ⟨y, hy, hs⟩ := h.opening hc
  obtain rfl : x = y := by simpa [hx] using hy
  exact ho hs

theorem Staged.erase (h : Staged b r calls) (t : Nat) : Staged b r (calls.erase t) := by
  have kept {u c} (hc : (calls.erase t).get? u = some c) : calls.get? u = some c := by
    rw [Table.get?_erase] at hc
    split at hc
    · cases hc
    · exact hc
  exact ⟨h.live, fun hc => h.opening (kept hc), fun hc hc' => h.once (kept hc) (kept hc')⟩

theorem Staged.insert {c : Call} (h : Staged b r calls) (t : Nat) (hc : ∀ s, c ≠ .openStatus s) :
    Staged b r (calls.insert t c) := by
  have kept {u s} (hu : (calls.insert t c).get? u = some (.openStatus s)) :
      calls.get? u = some (.openStatus s) := by
    rw [Table.get?_insert] at hu
    split at hu
    · cases hu
      exact absurd rfl (hc s)
    · exact hu
  exact ⟨h.live, fun hu => h.opening (kept hu), fun hu hu' => h.once (kept hu) (kept hu')⟩

/-- Open lines are kept. -/
theorem Staged.board (h : Staged b r calls)
    (hb : ∀ {s x}, r.get? s = some x → b.isClosed (lineOf s) = false →
      b'.isClosed (lineOf s) = false) : Staged b' r calls :=
  ⟨fun hx hl => hb hx (h.live hx hl), h.opening, h.once⟩

/-- A session changes its stage within the invariant. -/
theorem Staged.update (h : Staged b r calls) {f : Session → Session}
    (hl : ∀ {x}, r.get? s = some x → (f x).stage.isLive = true → x.stage.isLive = true)
    (hf : ∀ {t x}, calls.get? t = some (.openStatus s) → x.stage = .opening →
      (f x).stage = .opening) :
    Staged b (r.update s f) calls where
  live {t y} hy hlive := by
    rw [Roster.get?_update] at hy
    split at hy
    · subst t
      obtain ⟨x, hx, rfl⟩ := Option.map_eq_some_iff.1 hy
      exact h.live hx (hl hx hlive)
    · exact h.live hy hlive
  opening {t s'} hc := by
    obtain ⟨x, hx, hs⟩ := h.opening hc
    by_cases he : s' = s
    · subst he
      exact ⟨f x, by simp [hx], hf hc hs⟩
    · exact ⟨x, by simp [he, hx], hs⟩
  once := h.once

theorem Staged.stage (h : Staged b r calls) (hx : r.get? s = some x) (ho : x.stage ≠ .opening)
    {stage : Stage} (hl : stage.isLive = true → x.stage.isLive = true) :
    Staged b (r.update s fun x => { x with stage }) calls := by
  refine h.update (fun {y} hy hlive => ?_) fun hc => absurd hc (h.uncalled hx ho _)
  obtain rfl : x = y := by simpa [hx] using hy
  exact hl hlive

theorem Staged.poller (h : Staged b r calls) (p : Poller) :
    Staged b (r.update s (·.withPoller p)) calls := by
  have same (x : Session) : (x.withPoller p).stage = x.stage := by
    unfold Session.withPoller
    split <;> rfl
  exact h.update (fun {x} _ hl => by rwa [same] at hl) fun _ ho => (same _).trans ho

theorem lineOf_inj {s t : SessionId} (hs : 0 < s) (ht : 0 < t) (h : lineOf s = lineOf t) :
    s = t := by
  unfold lineOf at h
  grind

theorem Staged.depart (h : Staged b r calls) (hx : r.get? s = some x)
    (hc : ∀ t, calls.get? t ≠ some (.openStatus s)) {stage : Stage} (hs : stage.isLive = false) :
    Staged (b.hangUp (lineOf s)) (r.update s fun x => { x.stopPoller with stage }) calls := by
  have left := h.update (f := fun x => { x.stopPoller with stage }) (s := s)
    (fun _ hl => absurd hl (by simp [hs])) fun hc' => absurd hc' (hc _)
  refine ⟨fun {t y} hy hl => ?_, left.opening, left.once⟩
  have hne : t ≠ s := by
    rintro rfl
    obtain rfl : _ = y := by simpa [hx] using hy
    simp [hs] at hl
  have ht := Roster.lt_next_of_get? hy
  have hs := Roster.lt_next_of_get? hx
  have hn : lineOf t ≠ lineOf s := fun he => hne (lineOf_inj ht.1 hs.1 he)
  have hopen := left.live hy hl
  unfold Switchboard.hangUp Switchboard.updateFrames
  unfold Switchboard.isClosed at hopen ⊢
  rw [Switchboard.line?_updateLine, if_neg hn]
  exact hopen

/-- A session is added with an open line. -/
theorem Staged.add {c : Nat} (h : Staged b r calls) (hp : b.lines.length = r.length) (x : Session)
    (hb : b.addLine? c = some b') : Staged b' (r.add x) calls := by
  obtain rfl := Switchboard.addLine?_eq_some hb
  have hn : lineOf r.next = b.lines.length := hp.symm
  refine ⟨fun {t y} hy hl => ?_, fun {t s} hc => ?_, h.once⟩
  · rw [Roster.get?_add] at hy
    unfold Switchboard.isClosed Switchboard.line?
    split at hy
    · subst t
      rw [hn]
      simp
    · have hopen := h.live hy hl
      have ht := Roster.lt_next_of_get? hy
      have hlt : lineOf t < b.lines.length := by
        unfold Roster.next at ht
        unfold lineOf
        grind
      rw [List.getElem?_append_left hlt]
      exact hopen
  · obtain ⟨y, hy, hs⟩ := h.opening hc
    have ht := Roster.lt_next_of_get? hy
    exact ⟨y, by rw [Roster.get?_add, if_neg (by grind), hy], hs⟩

/-- A call is added for a new session. -/
theorem Staged.await (h : Staged b r calls) (t : Nat) (hs : r.get? s = some x)
    (ho : x.stage = .opening) (hc : ∀ t, calls.get? t ≠ some (.openStatus s)) :
    Staged b r (calls.insert t (.openStatus s)) := by
  refine ⟨h.live, fun {u s'} hu => ?_, fun {u u' s'} hu hu' => ?_⟩
  · rw [Table.get?_insert] at hu
    split at hu
    · cases hu
      exact ⟨x, hs, ho⟩
    · exact h.opening hu
  · rw [Table.get?_insert] at hu hu'
    split at hu <;> split at hu'
    · simp_all
    · cases hu
      exact absurd hu' (hc u')
    · cases hu'
      exact absurd hu (hc u)
    · exact h.once hu hu'

end

/-! ### Transitions that close no line -/

section
variable {b b' : Switchboard} {m n : Nat}

theorem isClosed_updateLine {f : Line → Line}
    (hf : ∀ l, b.line? n = some l → (f l).frames.isOpen = l.frames.isOpen) :
    (b.updateLine n f).isClosed m = b.isClosed m := by
  unfold Switchboard.isClosed
  rw [Switchboard.line?_updateLine]
  by_cases h : m = n
  · subst h
    cases hl : b.line? m with
    | none => simp
    | some l => simp [hf l hl]
  · simp [h]

theorem isClosed_deliver {frame : Message} (h : b.deliver n frame = .ok b') :
    b'.isClosed m = b.isClosed m := by
  obtain ⟨l, -, -, -, rfl⟩ := Switchboard.deliver_eq_ok h
  exact isClosed_updateLine fun _ _ => rfl

theorem isClosed_frames {l : Line} {c : Channel Message} (hl : b.line? n = some l)
    (hc : c.isOpen = l.frames.isOpen) :
    (b.updateFrames n fun _ => c).isClosed m = b.isClosed m :=
  isClosed_updateLine fun l' hl' => by
    obtain rfl : l = l' := by simpa [hl] using hl'
    exact hc

theorem isClosed_deregisterSession (u : User) (s : SessionId) :
    (b.deregisterSession u s).2.isClosed m = b.isClosed m := by
  unfold Switchboard.isClosed Switchboard.line?
  rw [Switchboard.lines_deregisterSession]

end

/-! ### Moves -/

/-- The invariant of an engine. -/
def InStage (e : Engine) : Prop := Staged e.board e.sessions e.calls

section
variable {a : Action} {e e' : Engine} {out : List Note}

theorem Resumed.inStage {p : Producer} {b : Bool} (h : Resumed e p b out e')
    (hp : e.board.lines.length = e.sessions.length) (hs : InStage e) : InStage e' := by
  cases h with
  | reader s =>
    refine Staged.update hs (fun {x} _ hl => ?_) fun {_ x} _ ho => ?_
    · obtain ⟨u, role, stage⟩ := x
      cases stage <;> exact hl
    · simp [ho]
  | heartbeat => exact Staged.erase hs _
  | inbound => exact Staged.erase hs _
  | @status t _ s hc =>
    -- the pending call was removed, and the session has no other one
    obtain ⟨x, hx, ho⟩ := hs.opening hc
    refine Staged.update (Staged.erase hs t) (fun {y} hy _ => ?_) fun {u _} hu _ => ?_
    · obtain rfl : x = y := by simpa [hx] using hy
      rw [ho]
      rfl
    · rw [Table.get?_erase] at hu
      split at hu
      · cases hu
      · exact absurd (hs.once hu hc) ‹_›
  | party _ hb => exact Staged.erase (Staged.add hs hp _ hb) _
  | noLine => exact Staged.erase hs _
  | nobody => exact hs

theorem Leaving.driven {s : SessionId} {x : Session} {how : SessionEnd}
    (h : Leaving a e s x how) : ∃ r w, x.stage = .driven r w := by
  cases h <;> exact ⟨_, _, ‹_›⟩

theorem InStage.depart (h : InStage e) {s : SessionId} {x : Session} (hx : e.session? s = some x)
    (hc : ∀ t, e.calls.get? t ≠ some (.openStatus s)) {stage : Stage} (hs : stage.isLive = false) :
    InStage (e.depart s stage) :=
  Staged.depart h hx hc hs

theorem InStage.move (hm : Move a e out e') (hw : Wired e) (h : InStage e) : InStage e' := by
  cases hm with
  | called t hc => exact Staged.insert h t hc
  | answered t => exact Staged.erase h t
  | forsook => exact Staged.erase h _
  | @forsookSession t s _ hc =>
    obtain ⟨x, hx, -⟩ := h.opening hc
    refine Staged.depart (Staged.erase h t) hx (fun u hu => ?_) rfl
    rw [Table.get?_erase] at hu
    split at hu
    · cases hu
    · exact absurd (h.once hu hc) ‹_›
  | entered _ _ hr => exact hr.inStage hw.paired h
  | refused _ hr => exact hr.inStage hw.paired h
  | timedOut _ hr => exact hr.inStage hw.paired h
  | promoted _ _ _ _ hr => exact hr.inStage hw.paired h
  | notified _ _ hb => exact Staged.board h fun _ hc => (isClosed_deliver hb).trans hc
  | removed => exact Staged.board h fun _ hc => (isClosed_deregisterSession _ _).trans hc
  | @evicted _ link =>
    have same {m : Nat} : (e.board.requestClose link.line).isClosed m = e.board.isClosed m :=
      isClosed_updateLine fun _ _ => rfl
    exact Staged.board h fun _ hc => same.trans hc
  | deregistered => exact Staged.board h fun _ hc => hc
  | sessionDeregistered =>
    exact Staged.board h fun _ hc => (isClosed_deregisterSession _ _).trans hc
  | posted _ hb => exact Staged.board h fun _ hc => (isClosed_deliver hb).trans hc
  | replied _ hb => exact Staged.board h fun _ hc => (isClosed_deliver hb).trans hc
  | @opened t u _ _ _ hb =>
    have added := Staged.add h hw.paired ⟨u, .status, .opening⟩ hb
    have there : (e.sessions.add ⟨u, .status, .opening⟩).get? e.nextSession =
        some ⟨u, .status, .opening⟩ := by simp [nextSession]
    -- the new session is awaited by call `t` alone
    have awaited := added.await t there rfl fun u hu => by
      obtain ⟨x, hx, -⟩ := h.opening hu
      simp [nextSession, Roster.get?_next] at hx
    exact awaited.board fun _ hc => hc
  | ticked => exact Staged.poller h _
  | @emitted _ _ _ _ _ _ l frames _ _ _ hl _ ht =>
    obtain ⟨_, _, _, _, _, hf, -⟩ := Poller.emit_eq_sent ht
    have ho : frames.isOpen = l.frames.isOpen := by rw [hf, Channel.isOpen_push]
    have sent := Staged.board h fun _ hc => (isClosed_frames hl ho).trans hc
    exact sent.poller _
  | pollerEnded => exact Staged.poller h _
  | pollerStopped => exact Staged.poller h _
  | driven _ hx hr => exact Staged.stage h hx (by simp [hr]) (by simp [hr, Stage.isLive])
  | dropped _ hx hr =>
    refine h.depart hx (Staged.uncalled h hx ?_) rfl
    rcases hr with hr | hr
    · simp [hr]
    · intro ho
      simp [Session.isDriven, ho] at hr
  | leftUncleared _ hx hr => exact Staged.stage h hx (by simp [hr]) (by simp [Stage.isLive])
  | left hx hh =>
    obtain ⟨r, w, hr⟩ := hh.driven
    exact h.depart hx (Staged.uncalled h hx (by simp [hr])) rfl
  | ponged _ _ _ _ hb => exact Staged.board h fun _ hc => (isClosed_deliver hb).trans hc
  | submitting hx hr => exact Staged.stage h hx (by simp [hr]) (by simp [hr, Stage.isLive])
  | took _ hx hr hl hf =>
    obtain ⟨-, -, ho⟩ := Channel.take?_eq_some_iff.1 hf
    have taken := Staged.board h fun _ hc => (isClosed_frames hl ho).trans hc
    exact taken.stage hx (by simp [hr]) (by simp [hr, Stage.isLive])
  | wrote _ hx hr => exact Staged.stage h hx (by simp [hr]) (by simp [hr, Stage.isLive])
  | @ended _ _ how _ hx hr =>
    have left : Staged e.board (e.sessions.update _ fun x => { x with stage := .ended how }) e.calls :=
      Staged.stage h hx (by simp [hr]) (by simp [Stage.isLive])
    exact left.board fun _ hc => (isClosed_deregisterSession _ _).trans hc
  | partyEnded _ hx hr => exact Staged.stage h hx (by simp [hr]) (by simp [Stage.isLive])
  | _ => exact h

/-- Induction over moves with the invariants of stages, lines, calls and handles. -/
theorem Reaches.keeps_sound {config : Config} {as : List Action} {ns : List Note}
    {P : Engine → List Note → Prop} (h : Reaches config as e ns)
    (first : ∀ status, StatusStore.create? config.statusTtl = some status →
      P (fresh config status) [])
    (move : ∀ a ∈ as, ∀ {e out e' ns}, Wired e → InStage e → Move a e out e' → P e ns →
      P e' (ns ++ out)) :
    InStage e ∧ P e ns :=
  (h.keeps_wired (P := fun e ns => InStage e ∧ P e ns)
    (fun status hs => ⟨⟨fun hx => by simp [fresh, initial, Roster.get?] at hx, nofun, nofun⟩,
      first status hs⟩)
    fun a ha _ _ _ _ hw hm ⟨hs, hP⟩ => ⟨hs.move hm hw, move a ha hw hs hm hP⟩).2

theorem Reaches.inStage {config : Config} {as : List Action} {ns : List Note}
    (h : Reaches config as e ns) : InStage e :=
  (h.keeps_sound (P := fun _ _ => True) (fun _ _ => trivial)
    fun _ _ _ _ _ _ _ _ _ _ => trivial).1

end

end Engine

end Presence
