import Presence.Proofs.Engine.Openings
import Presence.Proofs.Simulation.Settling

/-!
Calls of `authorize` in a simulated world. While a moment settles, a pending lookup comes after all
actions that belong to no call; once it is answered, the moment settles as it would without the
call. So the result is that of the source's answer, and the world is otherwise unchanged.
-/

namespace Presence

namespace World

open Engine (Action Reaches Asked NotSubmitting Replied)

/-- The world without call `t` and its answer. -/
def hide (w : World) (t : Nat) : World :=
  { w with engine := w.engine.without t, record := Engine.others t w.record }

/-- The world with its ticket counter advanced. -/
def skip (w : World) : World := { w with engine := w.engine.skip }

/-- The next action that belongs to no call. -/
def ownAction? (w : World) : Option Action :=
  let each (f : SessionId → Session → Option Action) : Option Action :=
    w.numbered.findSome? fun (s, x) => f s x
  w.giveUpAction?
    <|> each w.readAction?
    <|> each w.endAction?
    <|> w.dispatchAction?
    <|> each w.pollAction?
    <|> each w.writeAction?
    <|> w.loopAction? .friends
    <|> w.loopAction? .parties

/-- Call `t` is a pending lookup. -/
structure Asking (t : Nat) (p : Party) (u : User) (w : World) : Prop where
  call : w.engine.calls.get? t = some (.lookup p u false)
  old : t < w.engine.tickets
  silent : ∀ r, .answered t r ∉ w.record

/-- Call `t` is not pending and has exactly the result `r`. -/
structure Told (t : Nat) (r : CallResult) (w : World) : Prop where
  call : w.engine.calls.get? t = none
  old : t < w.engine.tickets
  told : Replied t r w.record

/-- The engine of the world is reachable. -/
def Reached (config : Config) (w : World) : Prop :=
  ∃ as past, Reaches config as w.engine (past ++ w.record)

section
variable {w : World} {a : Action} {t : Nat} {p : Party} {u : User} {r : CallResult}
  {config : Config}

/-! ### The next action -/

theorem nextAction?_eq (w : World) : w.nextAction? = w.ownAction?.or
    (w.engine.calls.entries.findSome? fun (t, c) => w.callAction? t c) := by
  simp only [nextAction?, ownAction?, Option.orElse_eq_orElse, Option.orElse_eq_or, Option.or_assoc]

theorem concerns_of_loopAction? {kind : RefreshKind} (h : w.loopAction? kind = some a) (t : Nat) :
    a.concerns t = false := by
  unfold loopAction? at h
  dsimp only at h
  repeat' split at h
  all_goals cases h
  all_goals rfl

/-- An action that belongs to no call is about none. -/
theorem concerns_of_ownAction? (h : w.ownAction? = some a) (t : Nat) : a.concerns t = false := by
  unfold ownAction? at h
  simp only [Option.orElse_eq_orElse, Option.orElse_eq_or, Option.or_eq_some_iff] at h
  rcases h with h | ⟨-, h | ⟨-, h | ⟨-, h | ⟨-, h | ⟨-, h | ⟨-, h | ⟨-, h⟩⟩⟩⟩⟩⟩⟩
  · unfold giveUpAction? at h
    split at h <;> cases h
    rfl
  · obtain ⟨s, x, -, -, h⟩ := of_each h
    unfold readAction? at h
    split at h <;> cases h
    rfl
  · obtain ⟨s, x, -, -, h⟩ := of_each h
    unfold endAction? at h
    repeat' split at h
    all_goals cases h
    all_goals rfl
  · unfold dispatchAction? at h
    repeat' split at h
    all_goals cases h
    all_goals rfl
  · obtain ⟨s, x, -, -, h⟩ := of_each h
    unfold pollAction? at h
    repeat' split at h
    all_goals cases h
    all_goals rfl
  · obtain ⟨s, x, -, -, h⟩ := of_each h
    unfold writeAction? at h
    repeat' split at h
    all_goals cases h
    all_goals rfl
  · exact concerns_of_loopAction? h t
  · exact concerns_of_loopAction? h t

/-- An action of one call is not about another. -/
theorem concerns_of_callAction? {j : Nat} {c : Call} (h : w.callAction? j c = some a)
    (hj : j ≠ t) : a.concerns t = false := by
  unfold callAction? at h
  repeat' split at h
  all_goals cases h
  all_goals exact decide_eq_false hj

/-- If no action is enabled, settling is the identity. -/
theorem settleWithin_of_nextAction? (h : w.nextAction? = none) (n : Nat) :
    w.settleWithin n = w := by
  cases n with
  | zero => rfl
  | succ n => simp [settleWithin, h]

theorem settleWithin_of_act (h : w.nextAction? = some a) (n : Nat) :
    w.settleWithin (n + 1) = (w.act a).settleWithin n := by
  simp [settleWithin, h]

theorem settleWithin_of_rests {k n : Nat} (hk : (w.settleWithin k).nextAction? = none)
    (hn : k ≤ n) : w.settleWithin n = w.settleWithin k := by
  induction k generalizing w n with
  | zero => exact settleWithin_of_nextAction? hk n
  | succ k ih =>
    cases h : w.nextAction? with
    | none => rw [settleWithin_of_nextAction? h, settleWithin_of_nextAction? h]
    | some a =>
      obtain ⟨n, rfl⟩ := Nat.exists_eq_add_of_le' hn
      rw [← Nat.add_assoc, settleWithin_of_act h, settleWithin_of_act h]
      exact ih (settleWithin_of_act h k ▸ hk) (Nat.le_add_left k n)

/-! ### Effects of an action -/

/-- An action is a step of the engine, with its notes on the record. -/
theorem act_eq (w : World) (a : Action) : w.act a =
    { w with
      engine := (w.engine.step a).1
      clients := (w.act a).clients
      record := w.record ++ (w.engine.step a).2 } := by
  cases a <;> rfl

theorem clients_act_hide (w : World) (a : Action) (t : Nat) :
    ((w.hide t).act a).clients = (w.act a).clients := by
  cases a <;> rfl

theorem membershipAnswer_act (w : World) (a : Action) :
    (w.act a).membershipAnswer = w.membershipAnswer := by
  cases a <;> rfl

theorem record_act (w : World) (a : Action) :
    (w.act a).record = w.record ++ (w.engine.step a).2 := by
  rw [act_eq]

/-- An action commutes with hiding a pending lookup. -/
theorem hide_act (h : Asked false w.engine t) (ht : t < w.engine.tickets) (a : Action) :
    (w.act a).hide t = (w.hide t).act a := by
  have ungranted : ¬ Engine.Grants w.engine t a := by
    rintro ⟨_, _, _, hc, -⟩
    obtain ⟨_, _, _, he, ho⟩ := h _ hc
    cases he
    cases ho rfl
  obtain ⟨same, -⟩ := Engine.step_asked h ht ungranted
  rw [act_eq (w.hide t), clients_act_hide, act_eq w]
  simp only [hide, same, Engine.others_append]

/-! ### Calls that are not pending -/

theorem Told.asked (h : Told t r w) : Asked false w.engine t := by
  intro c hc
  cases h.call.symm.trans hc

theorem Told.act (h : Told t r w) (a : Action) : Told t r (w.act a) := by
  obtain ⟨gone, silent⟩ := Engine.step_over h.call h.old a
  refine ⟨engine_act w a ▸ gone, ?_, ?_⟩
  · rw [engine_act]
    exact Nat.lt_of_lt_of_le h.old (Engine.step_tickets_le w.engine a)
  · rw [record_act]
    exact h.told.before silent

theorem Told.nextAction?_hide (h : Told t r w) : (w.hide t).nextAction? = w.nextAction? := by
  unfold hide
  rw [Engine.without_of_none h.call]
  rfl

theorem Told.answer? (h : Told t r w) : w.answer? t = some r := by
  have told := (h.told r).2 rfl
  cases found : w.answer? t with
  | none =>
    have missed := List.findSome?_eq_none_iff.1 found _ told
    simp at missed
  | some r' =>
    obtain ⟨n, hn, hr⟩ := List.exists_of_findSome?_eq_some found
    cases n with
    | answered j r'' =>
      obtain ⟨rfl, rfl⟩ : j = t ∧ r'' = r' := by simpa using hr
      rw [(h.told r'').1 hn]
    | _ => cases hr

/-- Settling commutes with hiding a call that is not pending. -/
theorem Told.settle (h : Told t r w) (n : Nat) :
    Told t r (w.settleWithin n) ∧ (w.settleWithin n).hide t = (w.hide t).settleWithin n := by
  induction n generalizing w with
  | zero => exact ⟨h, rfl⟩
  | succ n ih =>
    cases ha : w.nextAction? with
    | none =>
      have rests := h.nextAction?_hide.trans ha
      rw [settleWithin_of_nextAction? ha, settleWithin_of_nextAction? rests]
      exact ⟨h, rfl⟩
    | some a =>
      have next := h.nextAction?_hide.trans ha
      rw [settleWithin_of_act ha, settleWithin_of_act next, ← hide_act h.asked h.old]
      exact ih (h.act a)

/-! ### Pending lookups -/

theorem Asking.asked (h : Asking t p u w) : Asked false w.engine t := by
  intro c hc
  cases h.call.symm.trans hc
  exact ⟨p, u, false, rfl, id⟩

theorem Asking.awake (h : Asking t p u w) : ∃ a, w.nextAction? = some a := by
  refine Option.ne_none_iff_exists'.1 fun none => ?_
  rw [nextAction?_eq, Option.or_eq_none_iff, List.findSome?_eq_none_iff] at none
  cases none.2 _ (Table.mem_of_get? h.call)

/-- The next action is also the next one without the lookup, unless it is its answer. -/
theorem Asking.next (h : Asking t p u w) (ha : w.nextAction? = some a) :
    (a.concerns t = false ∧ (w.hide t).nextAction? = some a) ∨
      a = .lookupAnswered t (w.membershipAnswer p u) := by
  rw [nextAction?_eq, Option.or_eq_some_iff] at ha
  rcases ha with own | ⟨quiet, ha⟩
  · have same : (w.hide t).ownAction? = some a := own
    exact .inl ⟨concerns_of_ownAction? own t, by rw [nextAction?_eq, same, Option.some_or]⟩
  · obtain ⟨before, ⟨j, c⟩, after, split, hj, silent⟩ := List.findSome?_eq_some_iff.1 ha
    by_cases he : j = t
    · subst he
      have here := Table.get?_of_mem (split ▸ List.mem_append_right before List.mem_cons_self)
      cases here.symm.trans h.call
      cases hj
      exact .inr rfl
    · refine .inl ⟨concerns_of_callAction? hj he, ?_⟩
      have same : (w.hide t).ownAction? = none := quiet
      rw [nextAction?_eq, same, Option.none_or, List.findSome?_eq_some_iff]
      refine ⟨before.filter (·.1 ≠ t), (j, c), after.filter (·.1 ≠ t), ?_, hj, fun x hx =>
        silent x (List.mem_filter.1 hx).1⟩
      show w.engine.calls.entries.filter (·.1 ≠ t) = _
      rw [split, List.filter_append, List.filter_cons_of_pos (by simpa using he)]

theorem Asking.act (h : Asking t p u w) (hc : a.concerns t = false) : Asking t p u (w.act a) := by
  obtain ⟨kept, silent⟩ := Engine.step_idle h.old hc h.asked.idle
  refine ⟨?_, ?_, fun r hr => ?_⟩
  · rw [engine_act, kept, h.call]
  · rw [engine_act]
    exact Nat.lt_of_lt_of_le h.old (Engine.step_tickets_le w.engine a)
  · rw [record_act] at hr
    exact (List.mem_append.1 hr).elim (h.silent r) (silent r)

/-- The answer to the lookup has no other effect. -/
theorem Asking.answer (h : Asking t p u w) (g : Answer (Option Membership)) :
    Told t (.ofLookup p u g) (w.act (.lookupAnswered t g)) ∧
      (w.act (.lookupAnswered t g)).hide t = w.hide t := by
  have answered := Engine.step_lookupAnswered h.call g
  refine ⟨⟨?_, ?_, ?_⟩, ?_⟩
  · rw [engine_act, answered]
    simp [Engine.answer, Table.get?_erase]
  · rw [engine_act, answered]
    exact h.old
  · rw [record_act, answered]
    exact (Engine.replied_singleton t _).after h.silent
  · have untouched : (w.act (.lookupAnswered t g)).clients = w.clients := rfl
    rw [act_eq, answered, untouched]
    simp [hide, Engine.answer, Engine.without, Engine.others_append, Engine.others_answer]

/-- If the world without the lookup settles in `k` actions, the world with it settles in one more,
and the lookup is answered by the source. -/
theorem Asking.settle (h : Asking t p u w) {k n : Nat}
    (hk : ((w.hide t).settleWithin k).nextAction? = none) (hn : k < n) :
    Told t (.ofLookup p u (w.membershipAnswer p u)) (w.settleWithin n) ∧
      (w.settleWithin n).hide t = (w.hide t).settleWithin k := by
  induction n generalizing w k with
  | zero => cases hn
  | succ n ih =>
    obtain ⟨a, ha⟩ := h.awake
    rw [settleWithin_of_act ha]
    rcases h.next ha with ⟨hc, next⟩ | rfl
    · cases k with
      | zero => cases next.symm.trans hk
      | succ k =>
        rw [settleWithin_of_act next, ← hide_act h.asked h.old] at hk ⊢
        rw [← membershipAnswer_act w a]
        exact ih (h.act hc) hk (Nat.lt_of_succ_lt_succ hn)
    · obtain ⟨told, same⟩ := h.answer (w.membershipAnswer p u)
      obtain ⟨told', same'⟩ := told.settle n
      rw [same] at same'
      exact ⟨told', same'.trans (settleWithin_of_rests hk (Nat.le_of_lt_succ hn))⟩

/-! ### Calls of `authorize` -/

/-- The world settled without the call, but for the record. -/
def Unmarked (w w' : World) : Prop :=
  ∃ ns, Engine.others w.engine.tickets ns = w.skip.settle.record ∧
    w' = { w.skip.settle with record := ns }

theorem Reached.act (h : w.Reached config) (a : Action) : (w.act a).Reached config := by
  obtain ⟨as, past, h⟩ := h
  refine ⟨as ++ [a], past, ?_⟩
  rw [engine_act, record_act, ← List.append_assoc]
  exact h.step a

theorem Reached.settleWithin (h : w.Reached config) (n : Nat) :
    (w.settleWithin n).Reached config := by
  induction n generalizing w with
  | zero => exact h
  | succ n ih =>
    cases ha : w.nextAction? with
    | none =>
      rw [settleWithin_of_nextAction? ha]
      exact h
    | some a =>
      rw [settleWithin_of_act ha]
      exact ih (h.act a)

theorem Told.unmarked {w' : World} (h : Told w.engine.tickets r w')
    (hh : w'.hide w.engine.tickets = w.skip.settle) : Unmarked w w' := by
  refine ⟨w'.record, congrArg record hh, ?_⟩
  rw [← hh, hide, Engine.without_of_none h.call]

end

end World

end Presence
