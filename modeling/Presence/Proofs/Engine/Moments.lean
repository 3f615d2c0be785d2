import Presence.Proofs.Engine.Frames
import Presence.Proofs.Relationships

/-!
Properties of the past of a run. A delivered snapshot was computed when its poller took the tick,
and a fanout's friends were read when its event was taken. `Reaches.history` is induction over runs
with access to the past; by it every accepted snapshot is the one of its party at some moment of the
run.
-/

namespace Presence

/-- The snapshot that a poller holds, and its party. -/
def Poller.showing? (p : Poller) : Option (Party × Snapshot) :=
  match p.phase with
  | .sending held _ => some (p.party, held)
  | _ => none

/-- The snapshot that the poller of a session holds. -/
def Session.showing? (x : Session) : Option (Party × Snapshot) :=
  match x.role with
  | .status => none
  | .party p _ => p.showing?

namespace Session

theorem showing?_stopPoller (x : Session) (stage : Stage) :
    Session.showing? { x.stopPoller with stage } = x.showing? := by
  unfold stopPoller
  obtain ⟨u, role, st⟩ := x
  cases role <;> rfl

theorem showing?_withPoller {x : Session} {p q : Poller} {b : Bool} (hx : x.role = .party p b) :
    (x.withPoller q).showing? = q.showing? := by
  obtain ⟨u, role, st⟩ := x
  cases hx
  rfl

theorem showing?_of_role {x : Session} {p : Poller} {b : Bool} (hx : x.role = .party p b) :
    x.showing? = p.showing? := by
  unfold showing?
  rw [hx]

end Session

namespace Engine

/-! ### The past of a run -/

section
variable {config : Config} {as bs : List Action} {e e' : Engine} {ns ns' : List Note}

theorem Reaches.append (h : Reaches config as e ns) (bs : List Action) :
    Reaches config (as ++ bs) (e.run bs).1 (ns ++ (e.run bs).2) := by
  obtain ⟨e₀, hs, hr⟩ := h
  exact ⟨e₀, hs, by rw [run_append, hr]⟩

theorem Reaches.step (h : Reaches config as e ns) (a : Action) :
    Reaches config (as ++ [a]) (e.step a).1 (ns ++ (e.step a).2) := by
  simpa [run, andThen] using h.append [a]

/-- The state after a run is determined by its actions. -/
theorem Reaches.unique (h : Reaches config as e ns) (h' : Reaches config as e' ns') :
    e = e' ∧ ns = ns' := by
  obtain ⟨e₀, hs, hr⟩ := h
  obtain ⟨e₁, hs', hr'⟩ := h'
  cases hs.symm.trans hs'
  cases hr.symm.trans hr'
  exact ⟨rfl, rfl⟩

/-- Actions that are at most one move. -/
def Action.isMoment : Action → Bool
  | .dispatch => true
  | .tick _ => true
  | _ => false

theorem step_move {a : Action} (ha : a.isMoment = true) (e : Engine) :
    e.step a = (e, []) ∨ Move a e (e.step a).2 (e.step a).1 := by
  cases a with
  | dispatch => exact dispatchStep_move e
  | tick s => exact (tick_move e s).imp (congrArg (·, [])) id
  | _ => cases ha

/-- A move that is the whole last action of a run, from a state that the run reached. -/
structure Moment (config : Config) (P : List Action → Engine → List Note → Prop)
    (as : List Action) (a : Action) (e : Engine) (ns out : List Note) (e' : Engine) : Prop where
  reaches : Reaches config as e ns
  past : P as e ns
  whole : e.step a = (e', out)

/-- Induction over runs with their past: a move may use the property of the past, and one that is
its whole action may use that the state before it was reached. -/
theorem Reaches.history {P : List Action → Engine → List Note → Prop}
    (h : Reaches config as e ns)
    (first : ∀ status, StatusStore.create? config.statusTtl = some status →
      P [] (fresh config status) [])
    (later : ∀ {as a e ns}, P as e ns → P (as ++ [a]) e ns)
    (move : ∀ {as a e out e' ns}, Wired e → Move a e out e' →
      (a.isMoment = true → Moment config P as a e ns out e') →
      P (as ++ [a]) e ns → P (as ++ [a]) e' (ns ++ out)) :
    P as e ns := by
  have step {as e ns} (a : Action) (hr : Reaches config as e ns) (hP : P as e ns) :
      P (as ++ [a]) (e.step a).1 (ns ++ (e.step a).2) := by
    -- a moment is one move; any other action is a sequence of moves
    cases ha : a.isMoment with
    | true =>
      rcases step_move ha e with hs | hm
      · rw [hs]
        simpa using later hP
      · exact move hr.wired hm (fun _ => ⟨hr, hP, rfl⟩) (later hP)
    | false =>
      refine ((step_moves a e).keeps (P := fun e ns => Wired e ∧ P (as ++ [a]) e ns)
        (fun hm ⟨hw, hP⟩ => ⟨hw.move hm, move hw hm (fun ht => ?_) hP⟩)
        ⟨hr.wired, later hP⟩).2
      simp [ha] at ht
  have run (bs : List Action) : ∀ {as e ns}, Reaches config as e ns → P as e ns →
      P (as ++ bs) (e.run bs).1 (ns ++ (e.run bs).2) := by
    induction bs with
    | nil =>
      intro as e ns _ hP
      simpa [Engine.run] using hP
    | cons b bs ih =>
      intro as e ns hr hP
      simpa [Engine.run, andThen] using ih (hr.step b) (step b hr hP)
  obtain ⟨e₀, hs, hr⟩ := h
  have begun := Reaches.of_start hs []
  obtain ⟨status, hst, rfl⟩ := start_eq_fresh hs
  have kept := run as begun (first status hst)
  simpa [hr, Engine.run] using kept

end

/-! ### Snapshots held by pollers -/

/-- The poller of session `s` holds a snapshot of party `p`. -/
def Shows (r : Roster) (s : SessionId) (ps : Party × Snapshot) : Prop :=
  ∃ x, r.get? s = some x ∧ x.showing? = some ps

section
variable {r : Roster} {s t : SessionId} {x : Session} {ps : Party × Snapshot}

theorem Shows.of_update {f : Session → Session} (h : Shows (r.update t f) s ps)
    (hf : ∀ x, r.get? t = some x → (f x).showing? = some ps → x.showing? = some ps) :
    Shows r s ps :=
  Roster.exists_of_update h hf

theorem Shows.of_stage {stage : Stage} (h : Shows (r.update t fun x => { x with stage }) s ps) :
    Shows r s ps :=
  h.of_update fun _ _ hx => hx

theorem Shows.of_depart {stage : Stage}
    (h : Shows (r.update t fun x => { x.stopPoller with stage }) s ps) : Shows r s ps :=
  h.of_update fun x _ hx => x.showing?_stopPoller stage ▸ hx

/-- A poller that holds nothing replaces another. -/
theorem Shows.of_poller {p q : Poller} {b : Bool}
    (h : Shows (r.update t (·.withPoller q)) s ps) (hx : r.get? t = some x)
    (hp : x.role = .party p b) (hq : q.showing? = none) : Shows r s ps := by
  refine h.of_update fun y hy hs => ?_
  cases hx.symm.trans hy
  simp [Session.showing?_withPoller hp, hq] at hs

theorem Shows.of_add (h : Shows (r.add x) s ps) (hx : x.showing? = none) : Shows r s ps :=
  Roster.exists_of_add h (by simp [hx])

end

section
variable {a : Action} {e e' : Engine} {out : List Note} {s : SessionId} {ps : Party × Snapshot}

theorem Resumed.shows {p : Producer} {b : Bool} (hr : Resumed e p b out e')
    (h : Shows e'.sessions s ps) : Shows e.sessions s ps := by
  cases hr with
  | reader =>
    refine Shows.of_update h fun x _ hx => ?_
    obtain ⟨u, role, stage⟩ := x
    cases stage <;> exact hx
  | status => exact Shows.of_stage h
  | party => exact Shows.of_add h rfl
  | _ => exact h

/-- After a move a poller holds the snapshot it held before, or the current one of the tick it
took. -/
theorem Move.shows (hm : Move a e out e') (h : Shows e'.sessions s ps) :
    Shows e.sessions s ps ∨
      a.isMoment = true ∧ ps.2 = partySnapshot e.status e.relations ps.1 e.now := by
  cases hm with
  | forsookSession => exact .inl (Shows.of_depart h)
  | entered _ _ hr => exact .inl (hr.shows h)
  | refused _ hr => exact .inl (hr.shows h)
  | timedOut _ hr => exact .inl (hr.shows h)
  | promoted _ _ _ _ hr => exact .inl (hr.shows h)
  | opened => exact .inl (Shows.of_add h rfl)
  | @ticked t x p _ ha hx hp _ ht =>
    obtain ⟨due, -, -, rfl⟩ := Poller.tick?_eq_some ht
    by_cases hst : s = t
    · subst hst
      obtain ⟨y, hy, hps⟩ := h
      obtain rfl : x.withPoller _ = y := by
        simpa [updateSession, show e.sessions.get? s = some x from hx] using hy
      rw [Session.showing?_withPoller hp] at hps
      cases hps
      exact .inr ⟨ha ▸ rfl, rfl⟩
    · exact .inl (by simpa [Shows, updateSession, hst] using h)
  | emitted hx hp _ _ _ ht =>
    obtain ⟨_, _, _, _, _, _, rfl⟩ := Poller.emit_eq_sent ht
    exact .inl (Shows.of_poller h hx hp rfl)
  | pollerEnded hx hp _ _ ht =>
    obtain ⟨-, rfl⟩ := Poller.emit_eq_noReceiver ht
    exact .inl (Shows.of_poller h hx hp rfl)
  | pollerStopped _ hx hp => exact .inl (Shows.of_poller h hx hp rfl)
  | driven => exact .inl (Shows.of_stage h)
  | dropped => exact .inl (Shows.of_depart h)
  | leftUncleared => exact .inl (Shows.of_stage h)
  | left => exact .inl (Shows.of_depart h)
  | submitting => exact .inl (Shows.of_stage h)
  | took => exact .inl (Shows.of_stage h)
  | wrote => exact .inl (Shows.of_stage h)
  | ended => exact .inl (Shows.of_stage h)
  | partyEnded => exact .inl (Shows.of_stage h)
  | _ => exact .inl h

/-- A snapshot that enters a line was held by the session's poller. -/
theorem Sends.showing {sn : Snapshot} (h : Sends a e s (.snapshot sn)) :
    ∃ x p, e.session? s = some x ∧ x.party? = some p ∧ x.showing? = some (p, sn) := by
  cases h with
  | @snapshot x p _ _ hx hp hh =>
    refine ⟨x, p.party, hx, ?_, ?_⟩
    · simp [Session.party?, hp]
    · simp [Session.showing?_of_role hp, Poller.showing?, hh]
  | direct _ hm => simp at hm

end

/-! ### Snapshots -/

/-- The snapshot was that of the party at some moment of the run. -/
def Shown (config : Config) (as : List Action) (p : Party) (sn : Snapshot) : Prop :=
  ∃ before e ns, before <+: as ∧ Reaches config before e ns ∧
    sn = partySnapshot e.status e.relations p e.now

/-- Every snapshot held or accepted is `Shown`. -/
structure Faithful (config : Config) (as : List Action) (e : Engine) (ns : List Note) : Prop where
  held : ∀ {s ps}, Shows e.sessions s ps → Shown config as ps.1 ps.2
  sent : ∀ {s sn}, .snapshot sn ∈ sentTo s ns →
    ∃ x p, e.session? s = some x ∧ x.party? = some p ∧ Shown config as p sn

section
variable {config : Config} {as bs : List Action} {e : Engine} {ns : List Note}

theorem Shown.later {p : Party} {sn : Snapshot} (h : Shown config as p sn) :
    Shown config (as ++ bs) p sn := by
  obtain ⟨before, e, ns, hb, hr, hs⟩ := h
  exact ⟨before, e, ns, hb.trans (List.prefix_append _ _), hr, hs⟩

theorem Reaches.faithful (h : Reaches config as e ns) : Faithful config as e ns := by
  refine h.history (fun _ _ => ⟨fun ⟨_, hx, _⟩ => by simp [fresh, initial, Roster.get?] at hx, nofun⟩)
    (fun hf => ⟨fun hs => (hf.held hs).later, fun hs => ?_⟩)
    fun {as a e out e' ns} _ hm now hf => ⟨fun {s ps} hs => ?_, fun {s sn} hs => ?_⟩
  · obtain ⟨x, p, hx, hp, hs⟩ := hf.sent hs
    exact ⟨x, p, hx, hp, hs.later⟩
  · rcases hm.shows hs with hs | ⟨ha, hs⟩
    · exact hf.held hs
    · exact ⟨as, e, ns, List.prefix_append _ _, (now ha).reaches, hs⟩
  · have there : ∃ x p, e.session? s = some x ∧ x.party? = some p ∧
        Shown config (as ++ [a]) p sn := by
      rw [sentTo_append, List.mem_append] at hs
      rcases hs with hs | hs
      · exact hf.sent hs
      · obtain ⟨x, p, hx, hp, hs⟩ := (hm.sends hs).showing
        exact ⟨x, p, hx, hp, hf.held ⟨x, hx, hs⟩⟩
    obtain ⟨x, p, hx, hp, hs⟩ := there
    obtain ⟨y, hy, -, hp'⟩ := hm.onward.same hx
    exact ⟨y, p, hy, hp'.trans hp, hs⟩

end

end Engine

end Presence
