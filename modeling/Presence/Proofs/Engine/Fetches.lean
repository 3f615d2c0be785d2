import Presence.Proofs.Engine.Starting

/-!
Spacing of fetches. Between two fetches of a loop there is at least its pause, the smaller of retry
delay and interval, for any answers of the source and any other actions. So the number of fetches in
a stretch of time is bounded by the number of pauses in it.
-/

namespace Presence

namespace Config

/-- The refresh interval of a kind. -/
def refreshInterval (c : Config) : RefreshKind → Duration
  | .friends => c.friendsRefreshInterval
  | .parties => c.partyRefreshInterval

/-- The shortest time between two fetches of a loop. -/
def pause (c : Config) (kind : RefreshKind) : Nat :=
  (c.retryDelayFor (c.refreshInterval kind)).nanos

theorem pause_le_interval (c : Config) (kind : RefreshKind) :
    c.pause kind ≤ (c.refreshInterval kind).nanos :=
  Nat.min_le_right ..

theorem refreshInterval_pos {c : Config} (h : c.validate = .ok ()) (kind : RefreshKind) :
    0 < (c.refreshInterval kind).nanos := by
  obtain ⟨-, -, -, -, friends, parties, -⟩ := validate_eq_ok_iff.1 h
  cases kind with
  | friends => exact Nat.pos_of_ne_zero friends
  | parties => exact Nat.pos_of_ne_zero parties

/-- With validated settings the pause is positive exactly if the retry delay is. -/
theorem pause_pos_iff {c : Config} (h : c.validate = .ok ()) (kind : RefreshKind) :
    0 < c.pause kind ↔ 0 < c.refreshRetryDelay.nanos := by
  have positive := refreshInterval_pos h kind
  unfold pause retryDelayFor Duration.min
  rw [Nat.lt_min]
  exact and_iff_left positive

end Config

/-! ### Spaced moments -/

/-- Every moment is at least a pause after the one before. -/
def Spaced (pause : Nat) (ts : List Instant) : Prop := ts.Pairwise fun t t' => t + pause ≤ t'

namespace Spaced

variable {pause : Nat} {ts : List Nat}

theorem concat {t : Nat} (h : Spaced pause ts) (hl : ∀ t' ∈ ts, t' + pause ≤ t) :
    Spaced pause (ts ++ [t]) := by
  refine List.pairwise_append.2 ⟨h, List.pairwise_singleton .., fun t' ht' u hu => ?_⟩
  obtain rfl := List.mem_singleton.1 hu
  exact hl t' ht'

/-- Bound on the number of spaced moments between two moments. -/
theorem length_mul_le {lo hi : Nat} (h : Spaced pause ts)
    (within : ∀ t ∈ ts, lo ≤ t ∧ t ≤ hi) : ts.length * pause ≤ hi - lo + pause := by
  induction ts generalizing lo with
  | nil => simp
  | cons t rest ih =>
    obtain ⟨first, others⟩ := List.pairwise_cons.1 h
    obtain ⟨hlo, hhi⟩ := within t List.mem_cons_self
    rw [List.length_cons, Nat.succ_mul]
    cases rest with
    | nil => simp
    | cons u rest =>
      have later : ∀ v ∈ u :: rest, t + pause ≤ v ∧ v ≤ hi := fun v hv =>
        ⟨first v hv, (within v (List.mem_cons_of_mem _ hv)).2⟩
      have fewer := ih others later
      have room := later u List.mem_cons_self
      omega

theorem filter {p : Nat → Bool} (h : Spaced pause ts) : Spaced pause (ts.filter p) :=
  h.sublist List.filter_sublist

end Spaced

namespace Engine

/-! ### The moments of fetches -/

/-- The moments at which the loop of a kind started its fetches. -/
def fetches (kind : RefreshKind) (ns : List Note) : List Instant :=
  ns.filterMap fun
    | .fetching k t => if k = kind then some t else none
    | _ => none

@[simp] theorem fetches_append (kind : RefreshKind) (ns ns' : List Note) :
    fetches kind (ns ++ ns') = fetches kind ns ++ fetches kind ns' := by
  simp [fetches]

theorem fetches_fetching (kind k : RefreshKind) (t : Instant) :
    fetches kind [.fetching k t] = if k = kind then [t] else [] := by
  by_cases hk : k = kind <;> simp [fetches, hk]

theorem loop_withLoop (e : Engine) (kind k : RefreshKind) (l : RefreshLoop) :
    (e.withLoop kind l).loop k = if k = kind then l else e.loop k := by
  cases kind <;> cases k <;> rfl

theorem loop_withRelations (e : Engine) (r : Relationships) (kind : RefreshKind) :
    (e.withRelations r).loop kind = e.loop kind := by
  cases kind <;> rfl

theorem now_withLoop (e : Engine) (kind : RefreshKind) (l : RefreshLoop) :
    (e.withLoop kind l).now = e.now := by
  cases kind <;> rfl

/-- Invariant of a loop: its fetches are spaced and in the past, and it does not wake before the
pause after the last one has passed. -/
structure Regular (config : Config) (kind : RefreshKind) (l : RefreshLoop) (now : Instant)
    (ts : List Instant) : Prop where
  interval : l.interval = (config.refreshInterval kind).nanos
  retryDelay : l.retryDelay = config.pause kind
  spaced : Spaced (config.pause kind) ts
  past : ∀ t ∈ ts, t ≤ now
  rested : ∀ {wake}, l.phase = .sleeping wake → ∀ t ∈ ts, t + config.pause kind ≤ wake

namespace Regular

variable {config : Config} {kind : RefreshKind} {l l' : RefreshLoop} {now now' : Instant}
  {ts : List Instant}

/-- Step that starts a fetch. -/
theorem woke (h : Regular config kind l now ts) (hl : l.wake? now = some l') :
    Regular config kind l' now (ts ++ [now]) := by
  unfold RefreshLoop.wake? at hl
  split at hl
  · rename_i wake hp
    split at hl
    · rename_i due
      cases hl
      have passed : ∀ t ∈ ts, t + config.pause kind ≤ now := fun t ht =>
        Nat.le_trans (h.rested hp t ht) due
      refine ⟨h.interval, h.retryDelay, h.spaced.concat passed, fun t ht => ?_, by simp⟩
      rcases List.mem_append.1 ht with ht | ht
      · exact h.past t ht
      · exact Nat.le_of_eq (List.mem_singleton.1 ht)
    · cases hl
  · cases hl

/-- Step on the answer: the sleep is at least the pause. -/
theorem answered {r r' : Relationships} {g : Answer (Graph kind)}
    (h : Regular config kind l now ts) (hl : l.answer? kind r g now = some (l', r')) :
    Regular config kind l' now ts := by
  unfold RefreshLoop.answer? at hl
  split at hl
  · cases hl
    unfold RefreshLoop.settle
    split
    · refine ⟨h.interval, h.retryDelay, h.spaced, h.past, fun hp t ht => ?_⟩
      cases hp
      exact Nat.add_le_add (h.past t ht) (h.interval ▸ config.pause_le_interval kind)
    · refine ⟨h.interval, h.retryDelay, h.spaced, h.past, fun hp t ht => ?_⟩
      cases hp
      exact Nat.add_le_add (h.past t ht) (Nat.le_of_eq h.retryDelay.symm)
  · cases hl

theorem stopped (h : Regular config kind l now ts) : Regular config kind l.stop now ts :=
  ⟨h.interval, h.retryDelay, h.spaced, h.past, by simp [RefreshLoop.stop]⟩

theorem later (h : Regular config kind l now ts) (hn : now ≤ now') :
    Regular config kind l now' ts :=
  ⟨h.interval, h.retryDelay, h.spaced, fun t ht => Nat.le_trans (h.past t ht) hn, h.rested⟩

end Regular

section
variable {config : Config} {kind : RefreshKind} {a : Action} {e e' : Engine}
  {out ns : List Note}

theorem Resumed.loops {p : Producer} {b : Bool} (h : Resumed e p b out e') (kind : RefreshKind) :
    e'.loop kind = e.loop kind ∧ e'.now = e.now ∧ fetches kind out = [] := by
  cases h <;> cases kind <;> exact ⟨rfl, rfl, rfl⟩

theorem Move.regular (hm : Move a e out e')
    (h : Regular config kind (e.loop kind) e.now (fetches kind ns)) :
    Regular config kind (e'.loop kind) e'.now (fetches kind (ns ++ out)) := by
  -- what is no business of the loop
  have apart {e' : Engine} {out : List Note} (hl : e'.loop kind = e.loop kind)
      (hn : e'.now = e.now) (ho : fetches kind out = []) :
      Regular config kind (e'.loop kind) e'.now (fetches kind (ns ++ out)) := by
    rw [hl, hn, fetches_append, ho, List.append_nil]
    exact h
  have resumed {e₀ : Engine} {p : Producer} {b : Bool} (ms : List Note) {rest : List Note}
      (hr : Resumed e₀ p b rest e') (hl : e₀.loop kind = e.loop kind) (hn : e₀.now = e.now)
      (hm : fetches kind ms = []) :
      Regular config kind (e'.loop kind) e'.now (fetches kind (ns ++ (ms ++ rest))) := by
    obtain ⟨loops, now, quiet⟩ := hr.loops kind
    refine apart (loops.trans hl) (now.trans hn) ?_
    rw [fetches_append, hm, quiet, List.append_nil]
  cases hm with
  | @woke k l _ hl =>
    rw [loop_withLoop, now_withLoop, fetches_append, fetches_fetching]
    by_cases hk : kind = k
    · subst hk
      rw [if_pos rfl, if_pos rfl]
      exact h.woke hl
    · rw [if_neg hk, if_neg (Ne.symm hk), List.append_nil]
      exact h
  | @loopAnswered k g l r _ hl =>
    rw [loop_withLoop, loop_withRelations, List.append_nil]
    by_cases hk : kind = k
    · subst hk
      rw [if_pos rfl]
      exact h.answered hl
    · rw [if_neg hk]
      exact h
  | loopStopped k =>
    rw [loop_withLoop, List.append_nil]
    by_cases hk : kind = k
    · subst hk
      rw [if_pos rfl]
      exact h.stopped
    · rw [if_neg hk]
      exact h
  | elapsed d =>
    have same : ({ e with now := e.now + d.nanos } : Engine).loop kind = e.loop kind := by
      cases kind <;> rfl
    rw [same, List.append_nil]
    exact h.later (Nat.le_add_right ..)
  | entered _ _ hr => exact resumed [_, _] hr (by cases kind <;> rfl) rfl rfl
  | refused _ hr => exact resumed [_, _] hr (by cases kind <;> rfl) rfl rfl
  | timedOut _ hr => exact resumed [_, _] hr (by cases kind <;> rfl) rfl rfl
  | promoted _ _ _ _ hr => exact resumed [_, _, _] hr (by cases kind <;> rfl) rfl rfl
  | _ => exact apart (by cases kind <;> rfl) rfl rfl

theorem Reaches.regular {as : List Action} (h : Reaches config as e ns) (kind : RefreshKind) :
    Regular config kind (e.loop kind) e.now (fetches kind ns) := by
  refine h.keeps (P := fun e ns => Regular config kind (e.loop kind) e.now (fetches kind ns))
    (fun status _ => ?_) fun _ _ _ _ _ _ hm hr => hm.regular hr
  refine ⟨?_, ?_, List.Pairwise.nil, by simp [fetches], by simp [fetches]⟩
  · cases kind <;> rfl
  · cases kind <;> rfl

/-- Bound on the number of fetches in any stretch of time. -/
theorem Reaches.fetches_le {as : List Action} (h : Reaches config as e ns) (kind : RefreshKind)
    (lo hi : Instant) :
    ((fetches kind ns).countP fun t => lo ≤ t && t ≤ hi) * config.pause kind ≤
      hi - lo + config.pause kind := by
  rw [List.countP_eq_length_filter]
  refine (h.regular kind).spaced.filter.length_mul_le fun t ht => ?_
  simpa using (List.mem_filter.1 ht).2

end

end Engine

end Presence
