import Presence.Proofs.Engine.Moves

/-!
Sessions, lines and handles. The user and the kind of a session are permanent, a closed line stays
closed, and every handle of the registry or the dispatcher leads to a status session of its user.
-/

namespace Presence

/-- The party of a session, if it is a party session. -/
def Session.party? (x : Session) : Option Party :=
  match x.role with
  | .status => none
  | .party p _ => some p.party

/-- The same user and kind. -/
def Session.Same (x y : Session) : Prop := y.user = x.user ∧ y.party? = x.party?

namespace Session

theorem same_stopPoller (x : Session) (stage : Stage) : x.Same { x.stopPoller with stage } := by
  unfold stopPoller
  obtain ⟨u, role, st⟩ := x
  cases role <;> exact ⟨rfl, rfl⟩

theorem same_withPoller {x : Session} {p q : Poller} {b : Bool} (hx : x.role = .party p b)
    (hp : q.party = p.party) : x.Same (x.withPoller q) := by
  obtain ⟨u, role, st⟩ := x
  cases hx
  exact ⟨rfl, congrArg some hp⟩

theorem isParty_eq (x : Session) : x.isParty = x.party?.isSome := by
  obtain ⟨u, role, st⟩ := x
  cases role <;> rfl

theorem role_of_party? {x : Session} (h : x.party? = none) : x.role = .status := by
  obtain ⟨u, role, st⟩ := x
  cases role with
  | status => rfl
  | party => cases h

end Session

namespace Roster

variable {r : Roster} {s t : SessionId} {x : Session} {P : Session → Prop}

/-- A property of the updated session that the update does not produce held before. -/
theorem exists_of_update {f : Session → Session} (h : ∃ x, (r.update t f).get? s = some x ∧ P x)
    (hf : ∀ x, r.get? t = some x → P (f x) → P x) : ∃ x, r.get? s = some x ∧ P x := by
  obtain ⟨y, hy, hP⟩ := h
  rw [get?_update] at hy
  split at hy
  · subst s
    obtain ⟨x, hx, rfl⟩ := Option.map_eq_some_iff.1 hy
    exact ⟨x, hx, hf x hx hP⟩
  · exact ⟨y, hy, hP⟩

theorem exists_of_add (h : ∃ y, (r.add x).get? s = some y ∧ P y) (hx : ¬ P x) :
    ∃ y, r.get? s = some y ∧ P y := by
  obtain ⟨y, hy, hP⟩ := h
  rw [get?_add] at hy
  split at hy
  · cases hy
    exact absurd hP hx
  · exact ⟨y, hy, hP⟩

end Roster

namespace Engine

/-! ### Permanent properties -/

/-- Sessions exist with the same user and kind, and closed lines are closed. -/
structure Onward (e e' : Engine) : Prop where
  same : ∀ {s x}, e.session? s = some x → ∃ y, e'.session? s = some y ∧ x.Same y
  shut : ∀ {n}, n < e.board.lines.length → e.board.isClosed n = true → e'.board.isClosed n = true
  grown : ∃ k, e'.board.lines.length = e.board.lines.length + k ∧
    e'.sessions.length = e.sessions.length + k

section
variable {a : Action} {e e' : Engine} {out : List Note}

theorem Onward.of_eq (hl : e'.board.lines = e.board.lines) (hs : e'.sessions = e.sessions) :
    Onward e e' where
  same {s x} hx := ⟨x, by simpa [session?, hs] using hx, rfl, rfl⟩
  shut {n} _ hc := by simpa [Switchboard.isClosed, Switchboard.line?, hl] using hc
  grown := ⟨0, by simp [hl], by simp [hs]⟩

theorem Onward.trans {e'' : Engine} (h : Onward e e') (h' : Onward e' e'') : Onward e e'' where
  same hx := by
    obtain ⟨y, hy, hu, hp⟩ := h.same hx
    obtain ⟨z, hz, hu', hp'⟩ := h'.same hy
    exact ⟨z, hz, hu'.trans hu, hp'.trans hp⟩
  shut hn hc := by
    obtain ⟨k, hk, -⟩ := h.grown
    exact h'.shut (by omega) (h.shut hn hc)
  grown := by
    obtain ⟨k, hk, hs⟩ := h.grown
    obtain ⟨k', hk', hs'⟩ := h'.grown
    exact ⟨k + k', by omega, by omega⟩

/-- Depends on lines and sessions only. -/
theorem Onward.congr {e₁ e₂ : Engine} (h : Onward e₁ e₂) (hl : e₁.board.lines = e.board.lines)
    (hs : e₁.sessions = e.sessions) (hl' : e'.board.lines = e₂.board.lines)
    (hs' : e'.sessions = e₂.sessions) : Onward e e' :=
  (of_eq hl hs).trans (h.trans (of_eq hl' hs'))

theorem Onward.update (s : SessionId) {f : Session → Session}
    (hf : ∀ x, e.session? s = some x → x.Same (f x)) : Onward e (e.updateSession s f) where
  same {t x} hx := by
    by_cases h : t = s
    · subst h
      exact ⟨f x, by simp_all [session?, updateSession], hf x hx⟩
    · exact ⟨x, by simpa [session?, updateSession, h] using hx, rfl, rfl⟩
  shut _ hc := hc
  grown := ⟨0, rfl, Roster.length_update f⟩

theorem Onward.stage (s : SessionId) (stage : Stage) : Onward e (e.setStage s stage) :=
  .update s fun _ _ => ⟨rfl, rfl⟩

theorem Onward.poller {s : SessionId} {x : Session} {p q : Poller} {b : Bool}
    (hx : e.session? s = some x) (hp : x.role = .party p b) (hq : q.party = p.party) :
    Onward e (e.updateSession s (·.withPoller q)) :=
  .update s fun y hy => by
    obtain rfl : x = y := by simpa [hx] using hy
    exact Session.same_withPoller hp hq

theorem Onward.line (n : Nat) {f : Line → Line}
    (hf : ∀ l, e.board.line? n = some l → (f l).frames.isOpen = true → l.frames.isOpen = true) :
    Onward e (e.withBoard (e.board.updateLine n f)) where
  same {s x} hx := ⟨x, hx, rfl, rfl⟩
  shut {m} _ hc := by
    have hb : (e.withBoard (e.board.updateLine n f)).board = e.board.updateLine n f := rfl
    rw [hb]
    unfold Switchboard.isClosed at hc ⊢
    rw [Switchboard.line?_updateLine]
    by_cases h : m = n
    · subst h
      cases hl : e.board.line? m with
      | none => simp
      | some l =>
        have hf := hf l hl
        simp_all
    · simpa [h] using hc
  grown := ⟨0, Switchboard.length_updateLine n f, rfl⟩

theorem Onward.frames {n : Nat} {l : Line} {c : Channel Message} (hl : e.board.line? n = some l)
    (hc : c.isOpen = true → l.frames.isOpen = true) :
    Onward e (e.withBoard (e.board.updateFrames n fun _ => c)) :=
  .line n fun l' hl' ho => by
    obtain rfl : l = l' := by simpa [hl] using hl'
    exact hc ho

theorem Onward.depart (s : SessionId) (stage : Stage) : Onward e (e.depart s stage) := by
  have hung : Onward e (e.withBoard (e.board.hangUp (lineOf s))) := .line _ fun l _ => by simp
  have left (e : Engine) : Onward e (e.updateSession s fun x => { x.stopPoller with stage }) :=
    .update s fun x _ => x.same_stopPoller stage
  exact hung.trans ((left _).congr rfl rfl rfl rfl)

/-- A delivery. -/
theorem Onward.deliver {n : Nat} {m : Message} {board : Switchboard}
    (hb : e.board.deliver n m = .ok board) : Onward e (e.withBoard board) := by
  obtain ⟨l, -, -, -, rfl⟩ := Switchboard.deliver_eq_ok hb
  exact .line n fun l _ h => h

/-- A session is added with its line. -/
theorem Onward.add {board : Switchboard} {capacity : Nat} (x : Session)
    (hb : e.board.addLine? capacity = some board) (hs : e'.sessions = e.sessions.add x)
    (hl : e'.board.lines = board.lines) : Onward e e' := by
  obtain rfl := Switchboard.addLine?_eq_some hb
  refine ⟨fun {t y} hy => ⟨y, ?_, rfl, rfl⟩, fun {n} hn hc => ?_, 1, by simp [hl], by simp [hs]⟩
  · have := Roster.lt_next_of_get? hy
    have ht : t ≠ Roster.next e.sessions := by grind
    simpa [session?, hs, ht] using hy
  · unfold Switchboard.isClosed Switchboard.line? at hc ⊢
    rw [hl, List.getElem?_append_left hn]
    exact hc

theorem Resumed.onward {p : Producer} {b : Bool} (h : Resumed e p b out e') : Onward e e' := by
  cases h with
  | reader s =>
    refine .update s fun x _ => ?_
    split <;> exact ⟨rfl, rfl⟩
  | status => exact (Onward.stage _ _).congr rfl rfl rfl rfl
  | party _ hb => exact .add _ hb rfl rfl
  | _ => exact .of_eq rfl rfl

theorem Move.onward (hm : Move a e out e') : Onward e e' := by
  cases hm with
  | forsookSession => exact (Onward.depart _ _).congr rfl rfl rfl rfl
  | entered _ _ hr => exact hr.onward.congr rfl rfl rfl rfl
  | refused _ hr => exact hr.onward.congr rfl rfl rfl rfl
  | timedOut _ hr => exact hr.onward.congr rfl rfl rfl rfl
  | promoted _ _ _ _ hr => exact hr.onward.congr rfl rfl rfl rfl
  | notified _ _ hb => exact (Onward.deliver hb).congr rfl rfl rfl rfl
  | removed => exact .of_eq (Switchboard.lines_deregisterSession ..) rfl
  | @evicted _ h =>
    exact (Onward.line h.line (f := fun l => { l with closing := true }) fun l _ h => h).congr
      rfl rfl rfl rfl
  | sessionDeregistered => exact .of_eq (Switchboard.lines_deregisterSession ..) rfl
  | posted _ hb => exact .deliver hb
  | replied _ hb => exact .deliver hb
  | opened _ _ hb => exact .add _ hb rfl rfl
  | ticked _ hx hp _ ht =>
    obtain ⟨_, _, _, rfl⟩ := Poller.tick?_eq_some ht
    exact .poller hx hp rfl
  | @emitted _ _ p p' _ _ _ _ hx hp _ hl _ ht =>
    obtain ⟨_, _, _, ho, _, _, hq⟩ := Poller.emit_eq_sent ht
    have kept : p'.party = p.party := by rw [hq]
    have polled (b : Switchboard) := Onward.poller (e := e.withBoard b) hx hp kept
    exact (Onward.frames hl fun _ => ho).trans ((polled _).congr rfl rfl rfl rfl)
  | pollerEnded hx hp _ _ ht =>
    obtain ⟨-, rfl⟩ := Poller.emit_eq_noReceiver ht
    exact .poller hx hp rfl
  | pollerStopped _ hx hp => exact .poller hx hp rfl
  | driven => exact .stage _ _
  | dropped => exact .depart _ _
  | leftUncleared => exact .stage _ _
  | left => exact .depart _ _
  | ponged _ _ _ _ hb => exact .deliver hb
  | submitting => exact .stage _ _
  | took _ _ _ hl hf =>
    obtain ⟨-, -, ho⟩ := Channel.take?_eq_some_iff.1 hf
    exact (Onward.frames hl fun h => ho ▸ h).trans (.stage _ _)
  | wrote => exact .stage _ _
  | ended =>
    exact (Onward.stage (e := e.withBoard _) _ _).congr (Switchboard.lines_deregisterSession ..)
      rfl rfl rfl
  | partyEnded => exact (Onward.stage _ _).congr rfl rfl rfl rfl
  | _ => exact .of_eq rfl rfl

/-! ### Handles -/

/-- A handle leads to a status session of user `u`. -/
structure Leads (e : Engine) (u : User) (h : Handle) : Prop where
  line : h.line = lineOf h.session
  session : ∃ x, e.session? h.session = some x ∧ x.user = u ∧ x.party? = none

/-- The handle of a fanout leads to a session of its friend. -/
def Holds (e : Engine) : DispatcherPhase → Prop
  | .notifying ⟨_, _, .sending u h, _⟩ => Leads e u h
  | .notifying ⟨_, _, .removing _ s, _⟩ =>
    lineOf s < e.board.lines.length ∧ e.board.isClosed (lineOf s) = true
  | _ => True

/-- Invariant: every session has its line, and every handle leads to a status session of its
user. -/
structure Wired (e : Engine) : Prop where
  paired : e.board.lines.length = e.sessions.length
  entry : ∀ {u h}, e.board.lookup u = some h → Leads e u h
  fanout : Holds e e.dispatcher

theorem Leads.onward {u : User} {h : Handle} (hh : Leads e u h) (ho : Onward e e') :
    Leads e' u h := by
  obtain ⟨x, hx, hu, hp⟩ := hh.session
  obtain ⟨y, hy, hu', hp'⟩ := ho.same hx
  exact ⟨hh.line, y, hy, hu'.trans hu, hp'.trans hp⟩

/-- The line of an existing session exists. -/
theorem Wired.line_lt {s : SessionId} {x : Session} (h : Wired e) (hx : e.session? s = some x) :
    lineOf s < e.board.lines.length := by
  have hs := Roster.lt_next_of_get? hx
  have hp := h.paired
  unfold Roster.next at hs
  unfold lineOf
  grind

theorem Holds.onward {d : DispatcherPhase} (h : Holds e d) (ho : Onward e e') : Holds e' d := by
  obtain ⟨k, hk, -⟩ := ho.grown
  unfold Holds at h ⊢
  split
  · exact Leads.onward h ho
  · exact ⟨by omega, ho.shut h.1 h.2⟩
  · trivial

theorem Wired.onward (h : Wired e) (ho : Onward e e')
    (hl : ∀ {u h}, e'.board.lookup u = some h → e.board.lookup u = some h ∨ Leads e' u h)
    (hd : Holds e' e'.dispatcher) : Wired e' where
  paired := by
    obtain ⟨k, hk, hs⟩ := ho.grown
    have hp := h.paired
    omega
  entry hu := (hl hu).elim (fun hu => (h.entry hu).onward ho) id
  fanout := hd

theorem lookup_of_deregisterSession {b : Switchboard} {u v : User} {s : SessionId} {h : Handle}
    (hv : (b.deregisterSession u s).2.lookup v = some h) : b.lookup v = some h := by
  rw [Switchboard.lookup_deregisterSession] at hv
  split at hv
  · cases hv
  · exact hv

/-- Deregistering one session keeps every other. -/
theorem lookup_deregisterSession_of_ne {b : Switchboard} {u v : User} {s : SessionId} {h : Handle}
    (hv : b.lookup v = some h) (hs : h.session ≠ s) :
    (b.deregisterSession u s).2.lookup v = some h := by
  rw [Switchboard.lookup_deregisterSession, if_neg, hv]
  rintro ⟨rfl, hu⟩
  exact hs (by simpa [hv] using hu)

theorem lookup_of_deregister {b : Switchboard} {u v : User} {h : Handle}
    (hv : (b.deregister u).lookup v = some h) : b.lookup v = some h := by
  rw [Switchboard.lookup_deregister] at hv
  split at hv
  · cases hv
  · exact hv

/-- A delivery keeps the registry. -/
theorem lookup_of_deliver {b b' : Switchboard} {n : Nat} {m : Message}
    (hb : b.deliver n m = .ok b') (u : User) : b'.lookup u = b.lookup u := by
  obtain ⟨_, _, _, _, rfl⟩ := Switchboard.deliver_eq_ok hb
  rfl

theorem lookup_of_addLine? {b b' : Switchboard} {c : Nat} (hb : b.addLine? c = some b')
    (u : User) : b'.lookup u = b.lookup u := by
  obtain rfl := Switchboard.addLine?_eq_some hb
  rfl

/-- A continuation keeps the registry and the dispatcher. -/
theorem Resumed.keeps {p : Producer} {b : Bool} (h : Resumed e p b out e') :
    (∀ u, e'.board.lookup u = e.board.lookup u) ∧ e'.dispatcher = e.dispatcher := by
  cases h with
  | party _ hb => exact ⟨lookup_of_addLine? hb, rfl⟩
  | _ => exact ⟨fun _ => rfl, rfl⟩

theorem Wired.move (hm : Move a e out e') (h : Wired e) : Wired e' := by
  have ho := hm.onward
  have still : Holds e' e.dispatcher := h.fanout.onward ho
  cases hm with
  | entered _ _ hr =>
    obtain ⟨hl, hd⟩ := hr.keeps
    exact h.onward ho (fun hu => .inl (hl _ ▸ hu)) (hd ▸ still)
  | refused _ hr =>
    obtain ⟨hl, hd⟩ := hr.keeps
    exact h.onward ho (fun hu => .inl (hl _ ▸ hu)) (hd ▸ still)
  | timedOut _ hr =>
    obtain ⟨hl, hd⟩ := hr.keeps
    exact h.onward ho (fun hu => .inl (hl _ ▸ hu)) (hd ▸ still)
  | promoted _ _ _ _ hr =>
    obtain ⟨hl, hd⟩ := hr.keeps
    exact h.onward ho (fun hu => .inl (hl _ ▸ hu)) (hd ▸ trivial)
  | began => exact h.onward ho .inl trivial
  | retired => exact h.onward ho .inl trivial
  | finished => exact h.onward ho .inl trivial
  | missed => exact h.onward ho .inl trivial
  | found _ _ hu => exact h.onward ho .inl ((h.entry hu).onward ho)
  | notified _ _ hb => exact h.onward ho (fun hu => .inl (lookup_of_deliver hb _ ▸ hu)) trivial
  | crowded => exact h.onward ho .inl trivial
  | @vanished _ u _ _ link _ hd hb =>
    have hh : Leads e u link := by simpa [hd, Holds] using h.fanout
    obtain ⟨x, hx, -⟩ := hh.session
    have hc := Switchboard.isClosed_of_deliver_eq hb
    exact h.onward ho .inl ⟨h.line_lt hx, hh.line ▸ hc⟩
  | removed => exact h.onward ho (.inl ∘ lookup_of_deregisterSession) trivial
  | evicted => exact h.onward ho (.inl ∘ lookup_of_deregister) still
  | deregistered => exact h.onward ho (.inl ∘ lookup_of_deregister) still
  | sessionDeregistered => exact h.onward ho (.inl ∘ lookup_of_deregisterSession) still
  | posted _ hb => exact h.onward ho (fun hu => .inl (lookup_of_deliver hb _ ▸ hu)) still
  | replied _ hb => exact h.onward ho (fun hu => .inl (lookup_of_deliver hb _ ▸ hu)) still
  | ponged _ _ _ _ hb => exact h.onward ho (fun hu => .inl (lookup_of_deliver hb _ ▸ hu)) still
  | @opened _ u _ _ _ hb =>
    refine h.onward ho (fun {v link} hv => ?_) still
    have hl := lookup_of_addLine? hb v
    rw [← hl]
    -- the new entry leads to the new session; all others were registered before
    by_cases hu : v = u
    · subst hu
      obtain rfl : _ = link := by simpa [board, withBoard] using hv
      exact .inr ⟨rfl, ⟨v, .status, .opening⟩, by simp [session?, nextSession], rfl, rfl⟩
    · exact .inl (by simpa [board, withBoard, hu] using hv)
  | ended => exact h.onward ho (.inl ∘ lookup_of_deregisterSession) still
  | _ => exact h.onward ho .inl still

/-- Induction over moves with `Wired`. -/
theorem Reaches.keeps_wired {config : Config} {as : List Action} {ns : List Note}
    {P : Engine → List Note → Prop} (h : Reaches config as e ns)
    (first : ∀ status, StatusStore.create? config.statusTtl = some status →
      P (fresh config status) [])
    (move : ∀ a ∈ as, ∀ {e out e' ns}, Wired e → Move a e out e' → P e ns → P e' (ns ++ out)) :
    Wired e ∧ P e ns :=
  h.keeps (P := fun e ns => Wired e ∧ P e ns)
    (fun status hs => ⟨⟨rfl, nofun, trivial⟩, first status hs⟩)
    fun a ha _ _ _ _ hm ⟨hw, hP⟩ => ⟨hw.move hm, move a ha hw hm hP⟩

theorem Reaches.wired {config : Config} {as : List Action} {ns : List Note}
    (h : Reaches config as e ns) : Wired e :=
  (h.keeps_wired (P := fun _ _ => True) (fun _ _ => trivial) fun _ _ _ _ _ _ _ _ _ => trivial).1

end

end Engine

end Presence
