import Presence.Proofs.Engine.Pollers

/-!
Closing a user's session. `closeSession` requests the session registered for the user to close, and
no other. A session that was replaced is not registered any more and continues; the session opened
last is requested to close by this call or was before, unless it has ended.
-/

namespace Presence.Engine

/-! ### The latest session -/

/-- The latest session of a user after a note. -/
def succeeded (u : User) (now : Option SessionId) : Note → Option SessionId
  | .registered v s => if v = u then some s else now
  | _ => now

/-- The status session opened last for a user. -/
def latest (u : User) (ns : List Note) : Option SessionId := ns.foldl (succeeded u) none

section
variable {ns out : List Note} {u : User}

theorem foldl_still {f : Option SessionId → Note → Option SessionId}
    (h : ∀ n ∈ out, ∀ now, f now n = now) (now : Option SessionId) : out.foldl f now = now := by
  induction out generalizing now with
  | nil => rfl
  | cons n out ih =>
    rw [List.foldl_cons, h n List.mem_cons_self]
    exact ih (fun m hm => h m (List.mem_cons_of_mem n hm)) now

theorem latest_append (h : ∀ s, .registered u s ∉ out) : latest u (ns ++ out) = latest u ns := by
  rw [latest, List.foldl_append, foldl_still, latest]
  intro n hn now
  cases n with
  | registered v s =>
    have hv : v ≠ u := fun he => h s (he ▸ hn)
    exact if_neg hv
  | _ => rfl

/-- The standing session of a user is the latest one. -/
theorem latest_of_standing {s : SessionId} (h : standing u ns = some s) : latest u ns = some s := by
  have follow (ns : List Note) (a b : Option SessionId) (hab : a = none ∨ a = b) :
      ns.foldl (succession u) a = none ∨ ns.foldl (succession u) a = ns.foldl (succeeded u) b := by
    induction ns generalizing a b with
    | nil => exact hab
    | cons n ns ih =>
      refine ih _ _ ?_
      cases n with
      | registered v t =>
        by_cases hv : v = u
        · exact .inr (by simp [succession, succeeded, hv])
        · simpa [succession, succeeded, hv] using hab
      | dismissed v =>
        by_cases hv : v = u
        · exact .inl (by simp [succession, hv])
        · simpa [succession, succeeded, hv] using hab
      | _ => exact hab
  rcases follow ns none none (.inl rfl) with hn | hn
  · rw [standing, hn] at h
    cases h
  · rw [latest, ← hn]
    exact h

theorem standing_append_of_notMem (h : ∀ s, .registered u s ∉ out) (hd : .dismissed u ∉ out) :
    standing u (ns ++ out) = standing u ns := by
  rw [standing_append, foldl_still]
  intro n hn now
  cases n with
  | registered v s =>
    have hv : v ≠ u := fun he => h s (he ▸ hn)
    exact if_neg hv
  | dismissed v =>
    have hv : v ≠ u := fun he => hd (he ▸ hn)
    exact if_neg hv
  | _ => rfl

end

/-! ### Close requests -/

section
variable {b b' : Switchboard} {m n : Nat}

theorem closeRequested_updateLine {f : Line → Line} (hf : ∀ l, (f l).closing = l.closing) :
    (b.updateLine m f).closeRequested n = b.closeRequested n := by
  unfold Switchboard.closeRequested
  rw [Switchboard.line?_updateLine]
  by_cases hn : n = m
  · rw [if_pos hn]
    cases b.line? n with
    | none => rfl
    | some l => exact hf l
  · rw [if_neg hn]

theorem closeRequested_updateFrames (f : Channel Message → Channel Message) :
    (b.updateFrames m f).closeRequested n = b.closeRequested n :=
  closeRequested_updateLine fun _ => rfl

theorem closeRequested_deliver {frame : Message} (hb : b.deliver m frame = .ok b') :
    b'.closeRequested n = b.closeRequested n := by
  obtain ⟨l, -, -, -, rfl⟩ := Switchboard.deliver_eq_ok hb
  exact closeRequested_updateFrames _

theorem closeRequested_addLine? {capacity : Nat} (hb : b.addLine? capacity = some b') :
    b'.closeRequested n = b.closeRequested n := by
  obtain rfl := Switchboard.addLine?_eq_some hb
  unfold Switchboard.closeRequested Switchboard.line?
  rcases Nat.lt_trichotomy n b.lines.length with hn | rfl | hn
  · rw [List.getElem?_append_left hn]
  · simp
  · rw [List.getElem?_eq_none (by simp; omega), List.getElem?_eq_none (Nat.le_of_lt hn)]

theorem closeRequested_deregisterSession (u : User) (s : SessionId) :
    (b.deregisterSession u s).2.closeRequested n = b.closeRequested n := by
  unfold Switchboard.closeRequested Switchboard.line?
  rw [Switchboard.lines_deregisterSession]

theorem closeRequested_requestClose_iff :
    (b.requestClose m).closeRequested n = true ↔
      b.closeRequested n = true ∨ n = m ∧ n < b.lines.length := by
  unfold Switchboard.closeRequested Switchboard.requestClose
  rw [Switchboard.line?_updateLine]
  by_cases hn : n = m
  · subst hn
    cases hl : b.line? n with
    | none => simpa using List.getElem?_eq_none_iff.1 hl
    | some l => simpa using .inr (List.getElem?_eq_some_iff.1 hl).1
  · simp [hn]

theorem closeRequested_requestClose (h : n < b.lines.length) :
    (b.requestClose n).closeRequested n = true :=
  closeRequested_requestClose_iff.2 (.inr ⟨rfl, h⟩)

end

section
variable {a : Action} {e e' : Engine} {out ns : List Note} {n : Nat}

theorem Resumed.closing {p : Producer} {b : Bool} (hr : Resumed e p b out e') :
    e'.board.closeRequested n = e.board.closeRequested n := by
  cases hr with
  | party _ hb => exact closeRequested_addLine? hb
  | _ => rfl

/-- A move requests only the session registered for a dismissed user to close. -/
theorem Move.closing (hm : Move a e out e') :
    e'.board.closeRequested n = e.board.closeRequested n ∨
      ∃ u link, a = .closeSession u ∧ e.board.lookup u = some link ∧
        e' = e.withBoard ((e.board.deregister u).requestClose link.line) := by
  cases hm with
  | evicted ha hu => exact .inr ⟨_, _, ha, hu, rfl⟩
  | forsookSession => exact .inl (closeRequested_updateFrames _)
  | entered _ _ hr => exact .inl hr.closing
  | refused _ hr => exact .inl hr.closing
  | timedOut _ hr => exact .inl hr.closing
  | promoted _ _ _ _ hr => exact .inl hr.closing
  | notified _ _ hb => exact .inl (closeRequested_deliver hb)
  | removed => exact .inl (closeRequested_deregisterSession _ _)
  | sessionDeregistered => exact .inl (closeRequested_deregisterSession _ _)
  | posted _ hb => exact .inl (closeRequested_deliver hb)
  | replied _ hb => exact .inl (closeRequested_deliver hb)
  | opened _ _ hb =>
    have same := closeRequested_addLine? (n := n) hb
    exact .inl same
  | @emitted s _ _ _ _ _ _ frames =>
    have same := closeRequested_updateFrames (b := e.board) (m := lineOf s) (n := n) fun _ => frames
    exact .inl same
  | dropped => exact .inl (closeRequested_updateFrames _)
  | left => exact .inl (closeRequested_updateFrames _)
  | ponged _ _ _ _ hb => exact .inl (closeRequested_deliver hb)
  | @took s _ _ _ _ frames =>
    have same := closeRequested_updateFrames (b := e.board) (m := lineOf s) (n := n) fun _ => frames
    exact .inl same
  | ended => exact .inl (closeRequested_deregisterSession _ _)
  | _ => exact .inl rfl

/-- A close request is permanent. -/
theorem Move.closeRequested (hm : Move a e out e') (h : e.board.closeRequested n = true) :
    e'.board.closeRequested n = true := by
  rcases hm.closing (n := n) with same | ⟨u, link, -, -, rfl⟩
  · exact same.trans h
  · exact closeRequested_requestClose_iff.2 (.inl h)

/-! ### Dismissals and registrations -/

/-- A move that registers a session opens it, and has no other note. -/
theorem Move.registers {u : User} {s : SessionId} (hm : Move a e out e')
    (hn : .registered u s ∈ out) :
    out = [.registered u s] ∧ e'.session? s = some ⟨u, .status, .opening⟩ := by
  have resumed {P : Prop} {e₀ p b rest} (hr : Resumed e₀ p b rest e')
      (h : .registered u s ∈ rest) : P := by
    cases hr <;> simp at h
  cases hm with
  | opened =>
    obtain ⟨rfl, rfl⟩ : u = _ ∧ s = _ := by simpa using hn
    exact ⟨rfl, by rw [session?, nextSession, Roster.get?_add, if_pos rfl]⟩
  | entered _ _ hr => exact resumed hr (by simpa using hn)
  | refused _ hr => exact resumed hr (by simpa using hn)
  | timedOut _ hr => exact resumed hr (by simpa using hn)
  | promoted _ _ _ _ hr => exact resumed hr (by simpa using hn)
  | _ => simp at hn

/-- A move that dismisses a user requests the registered session to close. -/
theorem Move.dismisses {u : User} (hm : Move a e out e') (hn : .dismissed u ∈ out) :
    out = [.dismissed u] ∧
      ∀ link, e.board.lookup u = some link →
        e' = e.withBoard ((e.board.deregister u).requestClose link.line) := by
  have resumed {P : Prop} {e₀ p b rest} (hr : Resumed e₀ p b rest e')
      (h : .dismissed u ∈ rest) : P := by
    cases hr <;> simp at h
  cases hm with
  | @dismissed v _ hu =>
    obtain rfl : u = v := by simpa using hn
    exact ⟨rfl, fun link hl => by simp [hu] at hl⟩
  | @evicted v link _ hu =>
    obtain rfl : u = v := by simpa using hn
    refine ⟨rfl, fun link' hl => ?_⟩
    obtain rfl : link = link' := by simpa [hu] using hl
    rfl
  | entered _ _ hr => exact resumed hr (by simpa using hn)
  | refused _ hr => exact resumed hr (by simpa using hn)
  | timedOut _ hr => exact resumed hr (by simpa using hn)
  | promoted _ _ _ _ hr => exact resumed hr (by simpa using hn)
  | _ => simp at hn

/-- A status session of a user exists. -/
def Belongs (e : Engine) (u : User) (s : SessionId) : Prop :=
  ∃ x, e.session? s = some x ∧ x.user = u ∧ x.party? = none

/-- The latest session of a user is the standing one, has returned, or its line is closed or was
requested to close. -/
structure Settled (e : Engine) (ns : List Note) : Prop where
  known : ∀ {u s}, latest u ns = some s → Belongs e u s
  last : ∀ {u s}, latest u ns = some s →
    standing u ns = some s ∨ Returned s ns ∨ e.board.isClosed (lineOf s) = true ∨
      e.board.closeRequested (lineOf s) = true

theorem Settled.move (h : Settled e ns) (hm : Move a e out e') (hw : Wired e)
    (hn : Enrolled e ns) (hr : Reachable e ns) : Settled e' (ns ++ out) := by
  have ho := hm.onward
  -- either this move registers a session for the user, or the last one is the one that it was
  have either {u s} (hl : latest u (ns ++ out) = some s) :
      (standing u (ns ++ out) = some s ∧ Belongs e' u s) ∨
        latest u ns = some s ∧ ∀ t, .registered u t ∉ out := by
    by_cases hin : ∃ t, .registered u t ∈ out
    · obtain ⟨t, hin⟩ := hin
      obtain ⟨rfl, hx⟩ := hm.registers hin
      obtain rfl : t = s := by simpa [latest, succeeded] using hl
      exact .inl ⟨by simp [standing_append, succession], _, hx, rfl, rfl⟩
    · have hin : ∀ t, .registered u t ∉ out := fun t ht => hin ⟨t, ht⟩
      exact .inr ⟨latest_append hin ▸ hl, hin⟩
  refine ⟨fun {u s} hl => ?known, fun {u s} hl => ?last⟩
  case known =>
    rcases either hl with ⟨-, hx⟩ | ⟨hl, -⟩
    · exact hx
    · obtain ⟨x, hx, hu, hp⟩ := h.known hl
      obtain ⟨y, hy, hu', hp'⟩ := ho.same hx
      exact ⟨y, hy, hu'.trans hu, hp'.trans hp⟩
  case last =>
    rcases either hl with ⟨hs, -⟩ | ⟨hl, hin⟩
    · exact .inl hs
    · obtain ⟨x, hx, -⟩ := h.known hl
      rcases h.last hl with hs | hs | hs | hs
      · by_cases hd : .dismissed u ∈ out
        · obtain ⟨rfl, he⟩ := hm.dismisses hd
          cases hu : e.board.lookup u with
          | none =>
            by_cases hret : Returned s ns
            · exact .inr (.inl (returned_append.2 (.inl hret)))
            · cases hc : e.board.isClosed (lineOf s) with
              | true => exact .inr (.inr (.inl (ho.shut (hw.line_lt hx) hc)))
              | false => simp [hr hs hret hc] at hu
          | some link =>
            obtain rfl : s = link.session := by simpa [hs] using (hn.entry hu).1
            rw [he link hu, (hw.entry hu).line]
            exact .inr (.inr (.inr (closeRequested_requestClose (hw.line_lt hx))))
        · exact .inl (by rw [standing_append_of_notMem hin hd, hs])
      · exact .inr (.inl (returned_append.2 (.inl hs)))
      · exact .inr (.inr (.inl (ho.shut (hw.line_lt hx) hs)))
      · exact .inr (.inr (.inr (hm.closeRequested hs)))

end

/-! ### The main statement -/

section
variable {config : Config} {as : List Action} {e : Engine} {ns : List Note} {u : User}
  {s : SessionId} {x : Session}

theorem Reaches.settled (h : Reaches config as e ns) (hd : ∀ u, .deregister u ∉ as)
    (hs : ∀ u s, .deregisterSession u s ∉ as) : Settled e ns :=
  (h.keeps_wired (P := fun e ns => Enrolled e ns ∧ Reachable e ns ∧ Settled e ns)
    (fun _ _ => ⟨⟨nofun, by simp [Returned], nofun⟩, nofun, ⟨nofun, nofun⟩⟩)
    fun a ha _ _ _ _ hw hm ⟨hn, hr, hl⟩ => ⟨hn.move hm hw, hr.move hm hw hn
      ⟨fun u he => hd u (he ▸ ha), fun u s he => hs u s (he ▸ ha)⟩, hl.move hm hw hn hr⟩).2.2.2

theorem step_closeSession_of_some {link : Handle} (hu : e.board.lookup u = some link) :
    (e.step (.closeSession u)).1 =
      e.withBoard ((e.board.deregister u).requestClose link.line) := by
  simp [step, closeSession, hu]

theorem step_closeSession_of_none (hu : e.board.lookup u = none) :
    (e.step (.closeSession u)).1 = e := by
  simp [step, closeSession, hu]

theorem isCancelled_of_closeRequested (hp : x.party? = none)
    (hc : e.board.closeRequested (lineOf s) = true) : e.isCancelled s x = true := by
  rw [isCancelled, x.isParty_eq, hp, hc]
  simp

/-- The registered session is requested to close. -/
theorem Reaches.closes_registered (h : Reaches config as e ns) {link : Handle}
    (hu : e.board.lookup u = some link) :
    (e.step (.closeSession u)).1.board.closeRequested (lineOf link.session) = true := by
  obtain ⟨hl, x, hx, -⟩ := h.wired.entry hu
  rw [step_closeSession_of_some hu, hl]
  exact closeRequested_requestClose (h.wired.line_lt hx)

/-- The latest session is requested to close, now or before, unless it has ended. -/
theorem Reaches.closes_latest (h : Reaches config as e ns) (hd : ∀ u, .deregister u ∉ as)
    (hs : ∀ u s, .deregisterSession u s ∉ as) (hl : latest u ns = some s)
    (hx : e.session? s = some x) (hlive : x.stage.isLive = true) :
    (e.step (.closeSession u)).1.board.closeRequested (lineOf s) = true := by
  have isOpen := h.inStage.live hx hlive
  have out : ¬ Returned s ns := fun hr => by
    have ended := (h.returned_iff hx).1 hr
    simp [hasEnded_of_live hlive] at ended
  rcases (h.settled hd hs).last hl with hst | hst | hst | hst
  · exact h.closes_registered (h.reachable hd hs hst out isOpen)
  · exact absurd hst out
  · rw [show e.board.isClosed (lineOf s) = false from isOpen] at hst
    cases hst
  · exact step_makes (P := fun e _ => e.board.closeRequested (lineOf s) = true)
      (fun hm hc => hm.closeRequested hc) hst

/-- No other session is. -/
theorem Reaches.closes_only_latest (h : Reaches config as e ns) (hl : latest u ns ≠ some s)
    (hx : e.session? s = some x) :
    (e.step (.closeSession u)).1.session? s = some x ∧
      (e.step (.closeSession u)).1.isCancelled s x = e.isCancelled s x := by
  cases hu : e.board.lookup u with
  | none => rw [step_closeSession_of_none hu]; exact ⟨hx, rfl⟩
  | some link =>
    rw [step_closeSession_of_some hu]
    refine ⟨hx, ?_⟩
    obtain ⟨hline, y, hy, -⟩ := h.wired.entry hu
    have other : lineOf s ≠ link.line := by
      intro he
      rw [hline] at he
      have same := lineOf_inj (Roster.lt_next_of_get? hx).1 (Roster.lt_next_of_get? hy).1 he
      exact hl (latest_of_standing (same ▸ (h.enrolled.entry hu).1))
    have kept : ((e.board.deregister u).requestClose link.line).closeRequested (lineOf s) =
        e.board.closeRequested (lineOf s) :=
      Bool.eq_iff_iff.2 (closeRequested_requestClose_iff.trans
        (or_iff_left fun ⟨same, _⟩ => other same))
    exact congrArg (fun b => e.shutdown || (!x.isParty && b)) kept

/-- A driver whose session was requested to close returns after `cancel` and `finishDriver`. -/
theorem run_cancel (hx : e.session? s = some x) (hd : x.isDriven = true) (hp : x.party? = none)
    (hc : e.isCancelled s x = true) :
    (e.run [.cancel s, .finishDriver s]).2 = [.ended s .cancelled] := by
  have steps : e.run [.cancel s, .finishDriver s] = (e.leave s .cancelled).finishDriver s := by
    simp [run, andThen, step, cancel, hx, hd, hc]
  have role := x.role_of_party? hp
  have there : (e.leave s .cancelled).session? s = some { x with stage := .leaving .cancelled } := by
    unfold session? at hx
    simp [leave, depart, session?, updateSession, hx, withBoard, Session.stopPoller, role]
  rw [steps]
  exact (finishDriver_of_leaving there rfl (by simp [Session.pollerFinished, role])).1

/-- In every reachable state `closeSession u` requests the session registered for `u` to close.
Without calls on the registry from outside, the latest session of `u` is requested to close by it or
was before, as long as its line is open, and its driver, if any, returns. Sessions that were
replaced, and those of other users, are unchanged. -/
theorem closeSession_stops_latest (h : Reaches config as e ns) (u : User) :
    (∀ {link x}, e.board.lookup u = some link → e.session? link.session = some x →
      (e.step (.closeSession u)).1.isCancelled link.session x = true) ∧
    ((∀ v, .deregister v ∉ as) → (∀ v s, .deregisterSession v s ∉ as) →
      ∀ {s x}, latest u ns = some s → e.session? s = some x → x.stage.isLive = true →
        (e.step (.closeSession u)).1.isCancelled s x = true ∧
        (x.isDriven = true →
          ((e.step (.closeSession u)).1.run [.cancel s, .finishDriver s]).2 =
            [.ended s .cancelled])) ∧
    ∀ {s x}, latest u ns ≠ some s → e.session? s = some x →
      (e.step (.closeSession u)).1.session? s = some x ∧
      (e.step (.closeSession u)).1.isCancelled s x = e.isCancelled s x := by
  have status {s x} (hs : Belongs e u s) (hx : e.session? s = some x) : x.party? = none := by
    obtain ⟨y, hy, -, hp⟩ := hs
    obtain rfl : x = y := by simpa [hx] using hy
    exact hp
  have still : (e.step (.closeSession u)).1.sessions = e.sessions := by
    cases hu : e.board.lookup u with
    | none => rw [step_closeSession_of_none hu]
    | some link => rw [step_closeSession_of_some hu]; rfl
  refine ⟨fun {link x} hu hx => ?registered, fun hd hs {s x} hl hx hlive => ?last,
    h.closes_only_latest⟩
  case registered =>
    exact isCancelled_of_closeRequested (status (h.wired.entry hu).session hx)
      (h.closes_registered hu)
  case last =>
    have plain := status ((h.settled hd hs).known hl) hx
    have told : (e.step (.closeSession u)).1.isCancelled s x = true :=
      isCancelled_of_closeRequested plain (h.closes_latest hd hs hl hx hlive)
    refine ⟨told, fun hdr => run_cancel ?_ hdr plain told⟩
    rw [session?, still, ← session?, hx]

/-- Of two sessions of a user, the latest is cancelled. -/
theorem closeSession_stops_latest_of_two :
    ∃ u e ns x, Reaches Config.standard [.openStatus u, .openStatus u, .drive 1, .drive 2] e ns ∧
      latest u ns = some 2 ∧ e.session? 2 = some x ∧ x.isDriven = true ∧
      ((e.step (.closeSession u)).1.run [.cancel 2, .finishDriver 2]).2 = [.ended 2 .cancelled] := by
  have reached (u : User) : Reaches Config.standard
      [.openStatus u, .openStatus u, .drive 1, .drive 2] _ _ := .of_start rfl _
  have hr := reached ⟨"ann", by decide, "ann", rfl⟩
  obtain ⟨-, last, -⟩ := closeSession_stops_latest hr ⟨"ann", by decide, "ann", rfl⟩
  have stops := last (by simp) (by simp) (s := 2)
    (x := ⟨⟨"ann", by decide, "ann", rfl⟩, .status, .driven .reading .idle⟩) (by decide +kernel)
    (by decide +kernel) rfl
  refine ⟨_, _, _, ⟨⟨"ann", by decide, "ann", rfl⟩, .status, .driven .reading .idle⟩, hr, ?_, ?_, rfl,
    stops.2 rfl⟩
  all_goals decide +kernel

/-- The replaced one is still driven and not cancelled. -/
theorem closeSession_spares_replaced :
    ∃ u e ns x, Reaches Config.standard
        [.openStatus u, .openStatus u, .drive 1, .drive 2, .closeSession u] e ns ∧
      e.session? 1 = some x ∧ x.user = u ∧ x.isParty = false ∧ x.isDriven = true ∧
      e.isCancelled 1 x = false ∧ e.cancel 1 = e := by
  have reached (u : User) : Reaches Config.standard
      [.openStatus u, .openStatus u, .drive 1, .drive 2, .closeSession u] _ _ := .of_start rfl _
  have hr := reached ⟨"ann", by decide, "ann", rfl⟩
  refine ⟨_, _, _, ⟨⟨"ann", by decide, "ann", rfl⟩, .status, .driven .reading .idle⟩, hr, ?_, rfl,
    rfl, rfl, ?_, rfl⟩
  all_goals decide +kernel

end

end Presence.Engine
