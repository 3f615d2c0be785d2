import Presence.Proofs.Engine.Starting
import Presence.Proofs.Engine.Shutdown

/-!
Pending calls. A call is answered by an action about it, or when its submission returns; every other
action keeps it pending.
-/

namespace Presence

namespace Engine

/-- An action that is not about call `t`, which was made before. -/
structure Apart (a : Action) (e : Engine) (t : Nat) : Prop where
  other : a.concerns t = false
  older : a.isCall = true → t + 1 < e.tickets

/-- The effect on call `t` of a move that is not about it. -/
inductive Attended (e e' : Engine) (out : List Note) (t : Nat) : Prop
  | waits (hk : e'.calls.get? t = e.calls.get? t) (hq : ∀ r, .answered t r ∉ out)
      (hw : ∀ w ∈ e.queue.waiting, w.producer = .call t → w ∈ e'.queue.waiting)
  | resumed {e₀ : Engine} {b : Bool} {rest : List Note} (h : Resumed e₀ (.call t) b rest e')
      (hc : e₀.calls = e.calls) (hb : e₀.board = e.board) (hg : e₀.config = e.config)
      (ho : ∀ r, .answered t r ∈ out ↔ .answered t r ∈ rest)

section
variable {a : Action} {e e' : Engine} {out : List Note} {t u : Nat}

theorem Apart.not_owns (h : Apart a e t) : ¬ Owns a e t := by
  rintro (⟨hc, ht⟩ | ⟨hc, -⟩)
  · have := h.older hc
    omega
  · simp [h.other] at hc

theorem Apart.ne (h : Apart a e t) (ho : Owns a e u) : t ≠ u :=
  fun he => h.not_owns (he ▸ ho)

theorem Apart.move (h : Apart a e t) (hm : Move a e out e') : Apart a e' t :=
  ⟨h.other, fun hc => Nat.lt_of_lt_of_le (h.older hc) hm.tickets_le⟩

/-- The continuation of another producer keeps the call. -/
theorem Resumed.elsewhere {p : Producer} {b : Bool} (h : Resumed e p b out e')
    (hp : p ≠ .call t) :
    e'.calls.get? t = e.calls.get? t ∧ (∀ r, .answered t r ∉ out) ∧ e'.queue = e.queue := by
  have other {u} (hu : p = .call u) : t ≠ u := fun he => hp (he ▸ hu)
  cases h with
  | reader => exact ⟨rfl, by simp, rfl⟩
  | nobody => exact ⟨rfl, by simp, rfl⟩
  | _ => exact ⟨by simp [Table.get?_erase, other rfl], by simp [other rfl], rfl⟩

theorem mem_eraseP {l : List (Waiter Producer)} {p : Waiter Producer → Bool} {v w : Waiter Producer}
    (hf : l.find? p = some v) (hw : w ∈ l) (hn : w ≠ v) : w ∈ l.eraseP p := by
  induction l with
  | nil => cases hw
  | cons x l ih =>
    cases hp : p x with
    | true =>
      obtain rfl : x = v := by simpa [hp] using hf
      rw [List.eraseP_cons_of_pos hp]
      exact (List.mem_cons.1 hw).resolve_left hn
    | false =>
      rw [List.eraseP_cons_of_neg (by simp [hp])]
      rw [List.find?_cons_of_neg (by simp [hp])] at hf
      rcases List.mem_cons.1 hw with rfl | hw
      · exact List.mem_cons_self
      · exact List.mem_cons_of_mem x (ih hf hw)

theorem mem_abandon {q : Queue Producer} {p : Producer} {w : Waiter Producer}
    (hw : w ∈ q.waiting) (hp : w.producer ≠ p) : w ∈ (q.abandon p).waiting :=
  List.mem_filter.2 ⟨hw, by simpa using hp⟩

/-- A move that is not about a call keeps it pending, unless its submission returns. -/
theorem Move.attends (hm : Move a e out e') (h : Apart a e t) : Attended e e' out t := by
  -- a producer continues: the submission is the call's or another one
  have resumed {e₀ : Engine} {p : Producer} {b : Bool} {rest : List Note} (ms : List Note)
      (hr : Resumed e₀ p b rest e') (hc : e₀.calls = e.calls) (hb : e₀.board = e.board)
      (hg : e₀.config = e.config) (hms : ∀ r, .answered t r ∉ ms)
      (hw : p ≠ .call t → ∀ w ∈ e.queue.waiting, w.producer = .call t → w ∈ e₀.queue.waiting) :
      Attended e e' (ms ++ rest) t := by
    by_cases hp : p = .call t
    · subst hp
      exact .resumed hr hc hb hg fun r => by simp [hms r]
    · obtain ⟨hk, hq, hsame⟩ := hr.elsewhere hp
      refine .waits (hc ▸ hk) (fun r => by simp [hms r, hq r]) fun w hin hwp => ?_
      rw [hsame]
      exact hw hp w hin hwp
  cases hm with
  | called u _ ho =>
    exact .waits (by simp [await, Table.get?_insert, h.ne ho]) (by simp) fun _ hw _ => hw
  | answered u _ ho =>
    exact .waits (by simp [Table.get?_erase, h.ne ho]) (by simp [h.ne ho]) fun _ hw _ => hw
  | @forsook u ha =>
    have hu : t ≠ u := fun he => by simpa [ha, he, Action.concerns] using h.other
    refine .waits (by simp [Table.get?_erase, hu]) (by simp) fun w hw hp => mem_abandon hw ?_
    simp [hp, hu]
  | @forsookSession u s ha =>
    have hu : t ≠ u := fun he => by simpa [ha, he, Action.concerns] using h.other
    refine .waits (by simp [depart, updateSession, withBoard, Table.get?_erase, hu]) (by simp)
      fun w hw hp => mem_abandon (mem_abandon hw ?_) ?_
    · simp [hp, hu]
    · simp [hp]
  | @entered p ev _ _ _ _ hr =>
    exact resumed [.accepted ev, .returned (some p) true] hr rfl rfl rfl (by simp) fun _ _ hw _ => hw
  | @refused p ev _ _ _ hr =>
    exact resumed [.gaveUp ev, .returned (some p) false] hr rfl rfl rfl (by simp) fun _ _ hw _ => hw
  | linedUp => exact .waits rfl (by simp) fun w hw _ => List.mem_append_left _ hw
  | @timedOut v _ _ _ hq hr =>
    obtain ⟨hf, rfl⟩ := Queue.giveUp?_eq_some hq
    refine resumed [.gaveUp v.event, .returned (some v.producer) false] hr rfl rfl rfl (by simp)
      fun hp w hw hwp => mem_eraseP hf hw ?_
    rintro rfl
    exact hp hwp
  | began _ _ _ hq =>
    obtain ⟨c, -, rfl⟩ := Queue.take?_eq_some hq
    exact .waits rfl (by simp) fun _ hw _ => hw
  | @promoted ev v _ _ _ _ _ _ hq hr =>
    obtain ⟨c, rest, -, hv, -, rfl⟩ := Queue.take?_eq_some_waiter hq
    refine resumed [.processed ev e.now, .accepted v.event, .returned (some v.producer) true] hr
      rfl rfl rfl (by simp) fun hp w hw hwp => ?_
    rw [hv] at hw
    refine (List.mem_cons.1 hw).resolve_left ?_
    rintro rfl
    exact hp hwp
  | opened ha _ _ ho =>
    have hu := h.ne (.inl ⟨ha ▸ rfl, ho⟩)
    exact .waits (by simp [Table.get?_insert, hu]) (by simp) fun _ hw _ => hw
  | dropped => exact .waits rfl (by simp) fun w hw hp => mem_abandon hw (by simp [hp])
  | left => exact .waits rfl (by simp) fun w hw hp => mem_abandon hw (by simp [hp])
  | _ => exact .waits rfl (by simp) fun _ hw _ => hw

/-- An action that is not about a call preserves what its moves preserve. -/
theorem step_apart {P : Engine → List Note → Prop} (ht : t < e.tickets)
    (hc : a.concerns t = false) (hP : P (ticketed a e) [])
    (move : ∀ {e out e' ns}, Apart a e t → Move a e out e' → P e ns → P e' (ns ++ out)) :
    P (e.step a).1 (e.step a).2 := by
  have apart : Apart a (ticketed a e) t := by
    refine ⟨hc, fun hcall => ?_⟩
    simp only [ticketed, hcall]
    omega
  exact ((ticketed_moves a e).keeps (P := fun e ns => Apart a e t ∧ P e ns)
    (fun hm ⟨ha, hP⟩ => ⟨ha.move hm, move ha hm hP⟩) ⟨apart, hP⟩).2

theorem calls_ticketed (a : Action) (e : Engine) : (ticketed a e).calls = e.calls := by
  unfold ticketed
  split <;> rfl

theorem Moves.tickets_le (h : Moves a e out e') : e.tickets ≤ e'.tickets := by
  induction h with
  | none => exact Nat.le_refl _
  | more hm _ ih => exact Nat.le_trans hm.tickets_le ih

theorem step_tickets_le (e : Engine) (a : Action) : e.tickets ≤ (e.step a).1.tickets :=
  (step_moves a e).tickets_le

theorem lt_tickets_of_isCall (ha : a.isCall = true) : e.tickets < (e.step a).1.tickets := by
  have next : (ticketed a e).tickets = e.tickets + 1 := by simp [ticketed, ha]
  have grown := (ticketed_moves a e).tickets_le
  omega

/-- A run preserves what each of its actions preserves for a call made before. -/
theorem run_called {P : Engine → List Note → Prop} {as : List Action} (ns : List Note)
    (ht : t < e.tickets) (hP : P e ns)
    (step : ∀ {e ns} a, a ∈ as → t < e.tickets → P e ns → P (e.step a).1 (ns ++ (e.step a).2)) :
    P (e.run as).1 (ns ++ (e.run as).2) := by
  induction as generalizing e ns with
  | nil => simpa [run] using hP
  | cons a as ih =>
    have later := ih (ns ++ (e.step a).2) (Nat.lt_of_lt_of_le ht (step_tickets_le e a))
      (step a (.head _) ht hP) fun b hb => step b (.tail _ hb)
    rwa [List.append_assoc] at later

/-- A call that waits for no submission is kept by every action that is not about it. -/
theorem step_idle (ht : t < e.tickets) (hc : a.concerns t = false)
    (hs : ∀ c, e.calls.get? t = some c → submits c = false) :
    (e.step a).1.calls.get? t = e.calls.get? t ∧ ∀ r, .answered t r ∉ (e.step a).2 := by
  refine step_apart (P := fun e' ns => e'.calls.get? t = e.calls.get? t ∧ ∀ r, .answered t r ∉ ns)
    ht hc ⟨by rw [calls_ticketed], by simp⟩ fun {e₁ out e' ns} ha hm ⟨hk, hq⟩ => ?_
  have quiet (hout : ∀ r, .answered t r ∉ out) (r : CallResult) : .answered t r ∉ ns ++ out :=
    fun hin => (List.mem_append.1 hin).elim (hq r) (hout r)
  cases hm.attends ha with
  | waits hk' hq' => exact ⟨hk'.trans hk, quiet hq'⟩
  | @resumed e₀ _ _ hr hcalls _ _ ho =>
    have waitsNot {c : Call} (hcall : e₀.calls.get? t = some c) : submits c = false :=
      hs c (by rw [← hk, ← hcalls, hcall])
    cases hr with
    | heartbeat hcall => cases waitsNot hcall
    | inbound hcall => cases waitsNot hcall
    | status hcall => cases waitsNot hcall
    | party hcall => cases waitsNot hcall
    | noLine hcall => cases waitsNot hcall
    | nobody => exact ⟨by rw [hcalls, hk], quiet fun r => by simp [ho r]⟩

/-! ### Tickets -/

/-- Tickets of pending calls and of answers are below the ticket counter. -/
structure Issued (e : Engine) (ns : List Note) : Prop where
  calls : ∀ {t c}, e.calls.get? t = some c → t < e.tickets
  answers : ∀ {t r}, .answered t r ∈ ns → t < e.tickets

theorem Issued.owned {ns : List Note} (h : Issued e ns) (ho : Owns a e t) : t < e.tickets := by
  rcases ho with ⟨-, ho⟩ | ⟨-, _, ho⟩
  · omega
  · exact h.calls ho

/-- A continuation adds no call. -/
theorem Resumed.calls_of {p : Producer} {b : Bool} (h : Resumed e p b out e') {c : Call}
    (hc : e'.calls.get? t = some c) : e.calls.get? t = some c := by
  cases h with
  | reader => exact hc
  | nobody => exact hc
  | _ => exact Table.get?_of_erase hc

/-- A continuation answers only the call that waited. -/
theorem Resumed.answers_of {p : Producer} {b : Bool} (h : Resumed e p b out e') {r : CallResult}
    (hr : .answered t r ∈ out) : ∃ c, e.calls.get? t = some c := by
  cases h with
  | reader => cases hr
  | nobody => cases hr
  | _ =>
    cases List.mem_singleton.1 hr
    exact ⟨_, ‹_›⟩

theorem Move.calls_lt {ns : List Note} (hm : Move a e out e') (h : Issued e ns) {c : Call}
    (hc : e'.calls.get? t = some c) : t < e'.tickets := by
  have old {u} (hu : (e.calls.erase u).get? t = some c) : t < e.tickets :=
    h.calls (Table.get?_of_erase hu)
  have resumed {e₀ p b rest} (hr : Resumed e₀ p b rest e') (hcalls : e₀.calls = e.calls)
      (ht : e₀.tickets = e.tickets) : t < e'.tickets := by
    rw [hr.apart.1, ht]
    exact h.calls (hcalls ▸ hr.calls_of hc)
  cases hm with
  | ticket => exact Nat.lt_succ_of_lt (h.calls hc)
  | called u _ ho =>
    simp only [await, Table.get?_insert] at hc
    split at hc
    · subst t
      exact h.owned ho
    · exact h.calls hc
  | answered => exact old hc
  | forsook => exact old hc
  | forsookSession => exact old hc
  | entered _ _ hr => exact resumed hr rfl rfl
  | refused _ hr => exact resumed hr rfl rfl
  | timedOut _ hr => exact resumed hr rfl rfl
  | promoted _ _ _ _ hr => exact resumed hr rfl rfl
  | opened _ _ _ ho =>
    simp only [Table.get?_insert] at hc
    split at hc
    · subst t
      exact Nat.lt_of_succ_le (Nat.le_of_eq ho)
    · exact h.calls hc
  | _ => exact h.calls hc

theorem Move.answers_lt {ns : List Note} (hm : Move a e out e') (h : Issued e ns) {r : CallResult}
    (hr : .answered t r ∈ out) : t < e.tickets := by
  have resumed {e₀ p b rest} (hres : Resumed e₀ p b rest e') (hcalls : e₀.calls = e.calls)
      (hin : .answered t r ∈ rest) : t < e.tickets := by
    obtain ⟨c, hc⟩ := hres.answers_of hin
    exact h.calls (hcalls ▸ hc)
  cases hm with
  | answered u _ ho =>
    cases List.mem_singleton.1 hr
    exact h.owned ho
  | entered _ _ hres => exact resumed hres rfl (by simpa using hr)
  | refused _ hres => exact resumed hres rfl (by simpa using hr)
  | timedOut _ hres => exact resumed hres rfl (by simpa using hr)
  | promoted _ _ _ _ hres => exact resumed hres rfl (by simpa using hr)
  | _ => simp at hr

theorem Move.issued {ns : List Note} (hm : Move a e out e') (h : Issued e ns) :
    Issued e' (ns ++ out) where
  calls := hm.calls_lt h
  answers hr := Nat.lt_of_lt_of_le
    ((List.mem_append.1 hr).elim h.answers (hm.answers_lt h)) hm.tickets_le

theorem Reaches.issued {config : Config} {as : List Action} {ns : List Note}
    (h : Reaches config as e ns) : Issued e ns :=
  h.keeps (fun _ _ => ⟨fun hc => by simp [fresh, initial] at hc, nofun⟩)
    fun _ _ _ _ _ _ hm ih => hm.issued ih

theorem Reaches.ticket_lt {config : Config} {as : List Action} {ns : List Note}
    (h : Reaches config as e ns) {c : Call} (hc : e.calls.get? t = some c) : t < e.tickets :=
  h.issued.calls hc

/-- The next ticket is unused. -/
theorem Reaches.ticket_free {config : Config} {as : List Action} {ns : List Note}
    (h : Reaches config as e ns) : e.calls.get? e.tickets = none := by
  cases hc : e.calls.get? e.tickets with
  | none => rfl
  | some c => exact absurd (h.ticket_lt hc) (Nat.lt_irrefl _)

end

end Engine

end Presence
