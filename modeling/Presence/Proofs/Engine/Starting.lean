import Presence.Proofs.Engine.Moments
import Presence.Settings

/-!
Settings under which an engine works. `validate` rejects zeros but has no upper bounds. Validated
settings start an engine without panics exactly if the TTL is at most a thousand years and queue and
lines are within the largest capacity of a channel. No poller has an interval of zero.
-/

namespace Presence

/-- The upper bounds of flag store and channels. -/
structure Config.WithinLimits (c : Config) : Prop where
  statusTtl : c.statusTtl.nanos ≤ StatusStore.longestTtl
  queueCapacity : c.queueCapacity ≤ Channel.maxCapacity
  sessionOutboundCapacity : c.sessionOutboundCapacity ≤ Channel.maxCapacity

/-- The positive settings of `validate`. -/
structure Config.Positive (c : Config) : Prop where
  queueCapacity : 0 < c.queueCapacity
  sessionOutboundCapacity : 0 < c.sessionOutboundCapacity
  partyPollInterval : 0 < c.partyPollInterval.nanos

/-- Specification of `validate`. -/
theorem Config.validate_eq_ok_iff {c : Config} : c.validate = .ok () ↔
    c.statusTtl.nanos ≠ 0 ∧ c.statusCapacity ≠ 0 ∧ c.queueCapacity ≠ 0 ∧
      c.sessionOutboundCapacity ≠ 0 ∧ c.friendsRefreshInterval.nanos ≠ 0 ∧
      c.partyRefreshInterval.nanos ≠ 0 ∧ c.partyPollInterval.nanos ≠ 0 := by
  unfold validate Duration.isZero
  by_cases ht : c.statusTtl.nanos = 0
  · simp [ht]
  by_cases hf : c.statusCapacity = 0
  · simp [ht, hf]
  by_cases hq : c.queueCapacity = 0
  · simp [ht, hf, hq]
  by_cases ho : c.sessionOutboundCapacity = 0
  · simp [ht, hf, hq, ho]
  simp [ht, hf, hq, ho, and_assoc]

theorem Config.positive_of_validate {c : Config} (h : c.validate = .ok ()) : c.Positive := by
  obtain ⟨-, -, hq, hs, -, -, hi⟩ := validate_eq_ok_iff.1 h
  exact ⟨Nat.pos_of_ne_zero hq, Nat.pos_of_ne_zero hs, Nat.pos_of_ne_zero hi⟩

/-- Validated server settings have validated engine settings. -/
theorem Settings.validate_of_verify {s : Settings} (h : s.verify = .ok ()) :
    s.presence.validate = .ok () := by
  unfold verify at h
  split at h
  · cases h
  split at h
  · cases h
  split at h
  · cases h
  split at h
  · assumption
  · cases h

theorem Channel.create?_eq_none {α : Type} {capacity : Nat} (h : 0 < capacity) :
    (create? capacity : Option (Channel α)) = none ↔ maxCapacity < capacity := by
  unfold create?
  split
  · rename_i hc
    simp only [reduceCtorEq, false_iff, Nat.not_lt]
    exact hc.2
  · rename_i hc
    simp only [true_iff]
    omega

theorem Switchboard.addLine?_eq_none {b : Switchboard} {capacity : Nat} (h : 0 < capacity) :
    b.addLine? capacity = none ↔ Channel.maxCapacity < capacity := by
  unfold addLine?
  rw [Option.map_eq_none_iff, Channel.create?_eq_none h]

namespace Session

/-- The tick interval of a session's poller. -/
def pace? (x : Session) : Option Nat :=
  match x.role with
  | .status => none
  | .party p _ => some p.interval

theorem pace?_stopPoller (x : Session) (stage : Stage) :
    pace? { x.stopPoller with stage } = x.pace? := by
  obtain ⟨u, role, st⟩ := x
  cases role <;> rfl

theorem pace?_withPoller {x : Session} {p q : Poller} {b : Bool} (hx : x.role = .party p b)
    (hq : q.interval = p.interval) : (x.withPoller q).pace? = x.pace? := by
  obtain ⟨u, role, st⟩ := x
  cases hx
  exact congrArg some hq

end Session

namespace Engine

/-! ### Starting -/

/-- With validated settings `start` succeeds or panics. -/
theorem start_of_validate {config : Config} (h : config.validate = .ok ()) : start config =
    if config.statusTtl.nanos ≤ StatusStore.longestTtl ∧ config.queueCapacity ≤ Channel.maxCapacity
    then .ok (fresh config ⟨config.statusTtl.nanos, .empty⟩)
    else .error .panicked := by
  have hq : 1 ≤ config.queueCapacity := (Config.positive_of_validate h).queueCapacity
  unfold start StatusStore.create? Queue.create? Channel.create?
  rw [h]
  by_cases ht : config.statusTtl.nanos ≤ StatusStore.longestTtl <;>
    by_cases hc : config.queueCapacity ≤ Channel.maxCapacity <;>
      simp [ht, hc, hq, fresh]

theorem validate_of_start {config : Config} {e : Engine} (h : start config = .ok e) :
    config.validate = .ok () := by
  unfold start at h
  split at h
  · cases h
  · assumption

/-! ### Panics -/

section
variable {config : Config} {a : Action} {as : List Action} {e e' : Engine} {out ns : List Note}

theorem Resumed.panics {p : Producer} {b : Bool} {t : Nat} (h : Resumed e p b out e')
    (hn : .answered t .panicked ∈ out) :
    e.board.addLine? e.config.sessionOutboundCapacity = none := by
  cases h with
  | noLine _ hb => exact hb
  | _ => simp at hn

/-- A call panics only if its line cannot be created. -/
theorem Move.panics {t : Nat} (hm : Move a e out e') (hn : .answered t .panicked ∈ out) :
    ∃ b : Switchboard, b.addLine? e.config.sessionOutboundCapacity = none := by
  cases hm with
  | answered u hr =>
    simp at hn
    obtain ⟨-, rfl⟩ := hn
    exact ⟨_, hr⟩
  | entered _ _ hr => exact ⟨_, hr.panics (by simpa using hn)⟩
  | refused _ hr => exact ⟨_, hr.panics (by simpa using hn)⟩
  | timedOut _ hr => exact ⟨_, hr.panics (by simpa using hn)⟩
  | promoted _ _ _ _ hr => exact ⟨_, hr.panics (by simpa using hn)⟩
  | _ => simp at hn

theorem Resumed.settings {p : Producer} {b : Bool} (h : Resumed e p b out e') :
    e'.config = e.config := by
  cases h <;> rfl

theorem Move.settings (hm : Move a e out e') : e'.config = e.config := by
  cases hm with
  | entered _ _ hr => exact hr.settings
  | refused _ hr => exact hr.settings
  | timedOut _ hr => exact hr.settings
  | promoted _ _ _ _ hr => exact hr.settings
  | _ => rfl

theorem Reaches.settings (h : Reaches config as e ns) : e.config = config :=
  h.keeps (P := fun e _ => e.config = config) (fun _ _ => rfl)
    fun _ _ _ _ _ _ hm hc => hm.settings.trans hc

theorem Reaches.not_panicked (h : Reaches config as e ns)
    (hp : 0 < config.sessionOutboundCapacity)
    (hl : config.sessionOutboundCapacity ≤ Channel.maxCapacity) (t : Nat) :
    .answered t .panicked ∉ ns := by
  refine (h.keeps (P := fun e ns => e.config = config ∧ .answered t .panicked ∉ ns)
    (fun _ _ => ⟨rfl, by simp⟩) fun _ _ _ _ _ _ hm ⟨hc, hn⟩ => ⟨hm.settings.trans hc, ?_⟩).2
  intro hin
  rcases List.mem_append.1 hin with hin | hin
  · exact hn hin
  · obtain ⟨b, hb⟩ := hm.panics hin
    rw [hc, Switchboard.addLine?_eq_none hp] at hb
    exact Nat.not_lt.2 hl hb

theorem openStatus_of_noLine (hs : e.shutdown = false)
    (hb : e.board.addLine? e.config.sessionOutboundCapacity = none) (t : Nat) (u : User) :
    e.openStatus t u = e.answer t .panicked := by
  unfold openStatus
  rw [hs, hb]
  rfl

/-- If lines cannot be created, a call for a status session panics. -/
theorem openStatus_panics (h : Reaches config as e ns) (hs : e.shutdown = false)
    (hp : 0 < config.sessionOutboundCapacity)
    (hl : Channel.maxCapacity < config.sessionOutboundCapacity) (u : User) :
    (e.step (.openStatus u)).2 = [.answered e.tickets .panicked] := by
  have hb : e.board.addLine? e.config.sessionOutboundCapacity = none := by
    rw [h.settings, Switchboard.addLine?_eq_none hp]
    exact hl
  exact congrArg Prod.snd
    (openStatus_of_noLine (e := { e with tickets := e.tickets + 1 }) hs hb e.tickets u)

/-! ### Pollers -/

/-- All pollers have interval `n`. -/
def Paced (r : Roster) (n : Nat) : Prop :=
  ∀ s x, r.get? s = some x → ∀ i, x.pace? = some i → i = n

theorem Paced.update {r : Roster} {n : Nat} {s : SessionId} {f : Session → Session} (h : Paced r n)
    (hf : ∀ x, r.get? s = some x → (f x).pace? = x.pace?) : Paced (r.update s f) n := by
  intro t y hy i hi
  rw [Roster.get?_update] at hy
  split at hy
  · subst t
    obtain ⟨x, hx, rfl⟩ := Option.map_eq_some_iff.1 hy
    exact h s x hx i (hf x hx ▸ hi)
  · exact h t y hy i hi

theorem Paced.add {r : Roster} {n : Nat} {x : Session} (h : Paced r n)
    (hx : ∀ i, x.pace? = some i → i = n) : Paced (r.add x) n := by
  intro t y hy i hi
  rw [Roster.get?_add] at hy
  split at hy
  · cases hy
    exact hx i hi
  · exact h t y hy i hi

theorem Paced.stage {r : Roster} {n : Nat} {s : SessionId} {stage : Stage} (h : Paced r n) :
    Paced (r.update s fun x => { x with stage }) n :=
  h.update fun _ _ => rfl

theorem Paced.depart {r : Roster} {n : Nat} {s : SessionId} {stage : Stage} (h : Paced r n) :
    Paced (r.update s fun x => { x.stopPoller with stage }) n :=
  h.update fun x _ => x.pace?_stopPoller stage

theorem Paced.poller {r : Roster} {n : Nat} {s : SessionId} {x : Session} {p q : Poller} {b : Bool}
    (h : Paced r n) (hx : r.get? s = some x) (hp : x.role = .party p b)
    (hq : q.interval = p.interval) : Paced (r.update s (·.withPoller q)) n := by
  refine h.update fun y hy => ?_
  cases hx.symm.trans hy
  exact Session.pace?_withPoller hp hq

theorem Resumed.paced {p : Producer} {b : Bool} (hr : Resumed e p b out e')
    (h : Paced e.sessions e.config.partyPollInterval.nanos) :
    Paced e'.sessions e.config.partyPollInterval.nanos := by
  cases hr with
  | reader =>
    refine Paced.update h fun x _ => ?_
    obtain ⟨u, role, stage⟩ := x
    cases stage <;> rfl
  | status => exact Paced.stage h
  | party =>
    refine Paced.add h fun i hi => ?_
    cases hi
    rfl
  | _ => exact h

theorem Move.paced (hm : Move a e out e')
    (h : Paced e.sessions e.config.partyPollInterval.nanos) :
    Paced e'.sessions e.config.partyPollInterval.nanos := by
  cases hm with
  | forsookSession => exact Paced.depart h
  | entered _ _ hr => exact hr.paced h
  | refused _ hr => exact hr.paced h
  | timedOut _ hr => exact hr.paced h
  | promoted _ _ _ _ hr => exact hr.paced h
  | opened => exact Paced.add h (by simp [Session.pace?])
  | ticked _ hx hp _ ht =>
    obtain ⟨due, -, -, rfl⟩ := Poller.tick?_eq_some ht
    exact Paced.poller h hx hp rfl
  | emitted hx hp _ _ _ ht =>
    obtain ⟨_, _, _, _, _, _, rfl⟩ := Poller.emit_eq_sent ht
    exact Paced.poller h hx hp rfl
  | pollerEnded hx hp _ _ ht =>
    obtain ⟨-, rfl⟩ := Poller.emit_eq_noReceiver ht
    exact Paced.poller h hx hp rfl
  | pollerStopped _ hx hp => exact Paced.poller h hx hp rfl
  | driven => exact Paced.stage h
  | dropped => exact Paced.depart h
  | leftUncleared => exact Paced.stage h
  | left => exact Paced.depart h
  | submitting => exact Paced.stage h
  | took => exact Paced.stage h
  | wrote => exact Paced.stage h
  | ended => exact Paced.stage h
  | partyEnded => exact Paced.stage h
  | _ => exact h

theorem Reaches.paced (h : Reaches config as e ns) :
    Paced e.sessions config.partyPollInterval.nanos := by
  refine (h.keeps (P := fun e _ => e.config = config ∧
    Paced e.sessions config.partyPollInterval.nanos) (fun _ _ => ⟨rfl, ?_⟩)
    fun _ _ _ _ _ _ hm ⟨hc, hp⟩ => ⟨hm.settings.trans hc, ?_⟩).2
  · intro s x hx
    simp [fresh, initial, Roster.get?] at hx
  · subst hc
    exact hm.paced hp

/-! ### The main statement -/

/-- With validated settings, `start` succeeds and no run has a panicked call exactly if the settings
are `WithinLimits`; if `start` fails, it panics. No poller has an interval of zero. -/
theorem validated_works_iff (hv : config.validate = .ok ()) :
    (((∃ e, start config = .ok e) ∧
        ∀ as e ns, Reaches config as e ns → ∀ t, .answered t .panicked ∉ ns) ↔
      config.WithinLimits) ∧
    ((∃ e, start config = .ok e) ∨ start config = .error .panicked) ∧
    ∀ as e ns, Reaches config as e ns → ∀ s x p stopped, e.session? s = some x →
      x.role = .party p stopped → 0 < p.interval := by
  have started := start_of_validate hv
  obtain ⟨-, hout, hpoll⟩ := Config.positive_of_validate hv
  refine ⟨⟨fun ⟨⟨e, he⟩, never⟩ => ?_, fun within => ⟨?_, ?_⟩⟩, ?_, ?_⟩
  · rw [he] at started
    split at started
    · rename_i hl
      refine ⟨hl.1, hl.2, Nat.not_lt.1 fun hwide => ?_⟩
      have begun := Reaches.of_start he []
      have panics := openStatus_panics begun (by cases started; rfl) hout hwide
        ⟨"ann", by decide, "ann", rfl⟩
      exact never _ _ _ (begun.step _) _ (by rw [panics]; exact List.mem_append_right _ (.head _))
    · cases started
  · exact ⟨_, started.trans (if_pos ⟨within.statusTtl, within.queueCapacity⟩)⟩
  · exact fun as e ns h t => h.not_panicked hout within.sessionOutboundCapacity t
  · rw [started]
    split
    · exact .inl ⟨_, rfl⟩
    · exact .inr rfl
  · intro as e ns h s x p stopped hx hp
    rw [h.paced s x hx p.interval (by simp [Session.pace?, hp])]
    exact hpoll

/-- The default settings are within the limits. -/
theorem validated_works_standard :
    Config.standard.validate = .ok () ∧ Config.standard.WithinLimits ∧
      (∃ e, start Config.standard = .ok e) ∧
      ∀ as e ns, Reaches Config.standard as e ns → ∀ t, .answered t .panicked ∉ ns := by
  have hv : Config.standard.validate = .ok () := rfl
  have within : Config.standard.WithinLimits := by
    constructor <;> decide +kernel
  exact ⟨hv, within, (validated_works_iff hv).1.2 within⟩

/-- Validated server settings with a TTL of a thousand years and a millisecond, for which `start`
panics; and others with too large a line capacity, for which the first session panics. -/
theorem accepted_settings_panic :
    (∃ s : Settings, s.verify = .ok () ∧ start s.presence = .error .panicked) ∧
    ∃ s : Settings, s.verify = .ok () ∧ ∃ e u, start s.presence = .ok e ∧
      (e.step (.openStatus u)).2 = [.answered 0 .panicked] := by
  have long : Settings.verify ⟨"socialite", "0.0.0.0", 8080, "data/socialite.db",
      { Config.standard with statusTtl := .ofMillis 31536000000001 }⟩ = .ok () := rfl
  have wide : Settings.verify ⟨"socialite", "0.0.0.0", 8080, "data/socialite.db",
      { Config.standard with sessionOutboundCapacity := 2305843009213693952 }⟩ = .ok () := rfl
  refine ⟨⟨_, long, ?_⟩, ⟨_, wide, _, ⟨"ann", by decide, "ann", rfl⟩, rfl, ?_⟩⟩
  · refine (start_of_validate (Settings.validate_of_verify long)).trans (if_neg fun h => ?_)
    exact absurd h.1 (by decide +kernel)
  · decide +kernel

end

end Engine

end Presence
