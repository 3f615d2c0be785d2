import Presence.Proofs.Engine.Admission

/-!
Calls for party sessions from the source's answer to their result. A granted call submits its
`connected` event, waits at most for the overflow wait, and is then answered with a session of the
member, unless its line cannot be created.
-/

namespace Presence.Engine

section
variable {config : Config} {as : List Action} {a b : Action} {e e' : Engine} {out ns : List Note}
  {t : Nat} {m : Membership} {d : Instant}

/-! ### The deadline of a submission -/

theorem Resumed.overflowWait {p : Producer} {b : Bool} (h : Resumed e p b out e') :
    e'.queue.overflowWait = e.queue.overflowWait := by
  cases h <;> rfl

theorem Move.overflowWait (hm : Move a e out e') :
    e'.queue.overflowWait = e.queue.overflowWait := by
  cases hm with
  | entered _ _ hr => exact hr.overflowWait
  | refused _ hr => exact hr.overflowWait
  | timedOut hq hr =>
    obtain ⟨-, rfl⟩ := Queue.giveUp?_eq_some hq
    exact hr.overflowWait
  | began _ _ _ hq =>
    obtain ⟨_, -, rfl⟩ := Queue.take?_eq_some hq
    rfl
  | promoted _ _ _ hq hr =>
    obtain ⟨_, _, -, -, -, rfl⟩ := Queue.take?_eq_some_waiter hq
    exact hr.overflowWait
  | _ => rfl

theorem Reaches.overflowWait (h : Reaches config as e ns) :
    e.queue.overflowWait = config.queueOverflowWait.nanos :=
  h.keeps (P := fun e _ => e.queue.overflowWait = config.queueOverflowWait.nanos)
    (fun _ _ => rfl) fun _ _ _ _ _ _ hm hw => hm.overflowWait.trans hw

/-- If a waiting producer's deadline has passed, `giveUp?` finds one. -/
theorem giveUp?_isSome {q : Queue Producer} {w : Waiter Producer} {now : Instant}
    (hw : w ∈ q.waiting) (hd : w.deadline ≤ now) : (q.giveUp? now).isSome = true := by
  have must : q.mustGiveUp now w = true := by simp [Queue.mustGiveUp, hd]
  simpa [Queue.giveUp?] using ⟨w, hw, must⟩

/-- The settings of an engine that has started leave room in its lines. -/
theorem Reaches.linePositive (h : Reaches config as e ns) :
    0 < config.sessionOutboundCapacity := by
  obtain ⟨e₀, hs, -⟩ := h
  unfold start at hs
  split at hs
  · cases hs
  · exact (Config.positive_of_validate ‹_›).sessionOutboundCapacity

/-! ### Answers -/

/-- The call has this result and no other. -/
def Replied (t : Nat) (r : CallResult) (ns : List Note) : Prop := ∀ r', .answered t r' ∈ ns ↔ r' = r

theorem replied_singleton (t : Nat) (r : CallResult) : Replied t r [.answered t r] :=
  fun r' => by simp

theorem Replied.before {r : CallResult} (h : Replied t r ns) (hq : ∀ r, .answered t r ∉ out) :
    Replied t r (ns ++ out) := fun r' => by
  rw [List.mem_append, or_iff_left (hq r'), h r']

theorem Replied.after {r : CallResult} (h : Replied t r out) (hq : ∀ r, .answered t r ∉ ns) :
    Replied t r (ns ++ out) := fun r' => by
  rw [List.mem_append, or_iff_right (hq r'), h r']

/-- A call that is not pending gets no further result. -/
theorem Replied.run {r : CallResult} (h : Replied t r ns) (hc : e.calls.get? t = none)
    (ht : t < e.tickets) (bs : List Action) : Replied t r (ns ++ (e.run bs).2) :=
  h.before (run_over hc ht bs).2

/-! ### The result of a granted call -/

/-- The result of a granted call: a session of the member, unless its line cannot be created. -/
def Given (config : Config) (e : Engine) (m : Membership) (r : CallResult) : Prop :=
  if config.sessionOutboundCapacity ≤ Channel.maxCapacity then
    ∃ s x, r = .opened s ∧ e.session? s = some x ∧ x.user = m.user ∧ x.party? = some m.party
  else r = .panicked

/-- The state of a granted call: its submission waits with a deadline of at most `d`, or it has been
answered. -/
inductive Standing (config : Config) (m : Membership) (d : Instant) (e : Engine) (t : Nat)
    (ns : List Note) : Prop
  | waits {w : Waiter Producer} (hc : e.calls.get? t = some (.openParty m.party m.user))
      (hn : ∀ r, .answered t r ∉ ns) (hw : w ∈ e.queue.waiting) (hp : w.producer = .call t)
      (hd : w.deadline ≤ d)
  | given {r : CallResult} (hc : e.calls.get? t = none) (ha : Replied t r ns)
      (hg : Given config e m r)

theorem Given.onward {r : CallResult} (h : Given config e m r) (ho : Onward e e') :
    Given config e' m r := by
  unfold Given at h ⊢
  split
  · rename_i hl
    rw [if_pos hl] at h
    obtain ⟨s, x, rfl, hx, hu, hp⟩ := h
    obtain ⟨y, hy, hu', hp'⟩ := ho.same hx
    exact ⟨s, y, rfl, hy, hu'.trans hu, hp'.trans hp⟩
  · rename_i hl
    rwa [if_neg hl] at h

theorem Given.opened_iff {r : CallResult} (h : Given config e m r) :
    (∃ s, r = .opened s) ↔ config.sessionOutboundCapacity ≤ Channel.maxCapacity := by
  unfold Given at h
  split at h
  · obtain ⟨s, x, rfl, -⟩ := h
    simp [*]
  · subst h
    simp [*]

theorem Given.session {s : SessionId} (h : Given config e m (.opened s)) :
    ∃ x, e.session? s = some x ∧ x.user = m.user ∧ x.party? = some m.party := by
  have fits := h.opened_iff.1 ⟨s, rfl⟩
  rw [Given, if_pos fits] at h
  obtain ⟨s, x, hs, hx⟩ := h
  cases hs
  exact ⟨x, hx⟩

/-- The continuation of a granted call answers it as `Given`. -/
theorem Resumed.gives {ok : Bool} (h : Resumed e (.call t) ok out e')
    (hc : e.calls.get? t = some (.openParty m.party m.user)) (hs : e.config = config)
    (hp : 0 < config.sessionOutboundCapacity) :
    e'.calls.get? t = none ∧ ∃ r, out = [.answered t r] ∧ Given config e' m r := by
  subst hs
  cases h with
  | party hc' hb =>
    cases hc.symm.trans hc'
    have fits : e.config.sessionOutboundCapacity ≤ Channel.maxCapacity := by
      refine Nat.not_lt.1 fun hl => ?_
      rw [(Switchboard.addLine?_eq_none hp).2 hl] at hb
      cases hb
    refine ⟨by simp [Table.get?_erase], _, rfl, ?_⟩
    rw [Given, if_pos fits]
    exact ⟨_, _, rfl, Roster.get?_add.trans (if_pos rfl), rfl, rfl⟩
  | noLine hc' hb =>
    refine ⟨by simp [Table.get?_erase], _, rfl, ?_⟩
    rw [Given, if_neg (Nat.not_le.2 ((Switchboard.addLine?_eq_none hp).1 hb))]
  | nobody _ _ hn => cases hn _ hc
  | heartbeat hc' => cases hc.symm.trans hc'
  | inbound hc' => cases hc.symm.trans hc'
  | status hc' => cases hc.symm.trans hc'

/-- A call that is not pending has no continuation. -/
theorem Resumed.of_none {ok : Bool} (h : Resumed e (.call t) ok out e')
    (hc : e.calls.get? t = none) : e' = e ∧ out = [] := by
  cases h with
  | nobody => exact ⟨rfl, rfl⟩
  | heartbeat hc' => cases hc.symm.trans hc'
  | inbound hc' => cases hc.symm.trans hc'
  | status hc' => cases hc.symm.trans hc'
  | party hc' => cases hc.symm.trans hc'
  | noLine hc' => cases hc.symm.trans hc'

theorem Standing.move (h : Standing config m d e t ns) (ha : Apart a e t) (hm : Move a e out e')
    (hs : e.config = config) (hp : 0 < config.sessionOutboundCapacity) :
    Standing config m d e' t (ns ++ out) := by
  cases h with
  | waits hc hn hw hpr hd =>
    cases hm.attends ha with
    | waits hk hq hw' =>
      refine .waits (hk.trans hc) (fun r hin => ?_) (hw' _ hw hpr) hpr hd
      exact (List.mem_append.1 hin).elim (hn r) (hq r)
    | resumed hr hc' _ hg ho =>
      obtain ⟨hk, r, rfl, hgive⟩ := hr.gives (hc' ▸ hc) (hg.trans hs) hp
      have told : Replied t r out := fun r' => (ho r').trans (replied_singleton t r r')
      exact .given hk (told.after hn) hgive
  | given hc hr hg =>
    cases hm.attends ha with
    | waits hk hq => exact .given (hk.trans hc) (hr.before hq) (hg.onward hm.onward)
    | resumed hres hc' _ _ ho =>
      obtain ⟨rfl, rfl⟩ := hres.of_none (hc' ▸ hc)
      exact .given (hc' ▸ hc) (hr.before fun r => by simp [ho]) (hg.onward hm.onward)

theorem Standing.after (h : Standing config m d e t out) (hq : ∀ r, .answered t r ∉ ns) :
    Standing config m d e t (ns ++ out) := by
  cases h with
  | waits hc hn hw hp hd =>
    exact .waits hc (fun r hin => (List.mem_append.1 hin).elim (hq r) (hn r)) hw hp hd
  | given hc hr hg => exact .given hc (hr.after hq) hg

theorem Standing.ticketed (h : Standing config m d e t ns) (a : Action) :
    Standing config m d (ticketed a e) t ns := by
  unfold Engine.ticketed
  split
  · cases h with
    | waits hc hn hw hp hd => exact .waits hc hn hw hp hd
    | given hc ha hg => exact .given hc ha hg
  · exact h

theorem Standing.step (h : Standing config m d e t ns) (ht : t < e.tickets)
    (hs : e.config = config) (hp : 0 < config.sessionOutboundCapacity) (hd : b ≠ .dropCall t) :
    (e.step b).1.config = config ∧ Standing config m d (e.step b).1 t (ns ++ (e.step b).2) := by
  cases hb : b.concerns t with
  | false =>
    refine step_apart
      (P := fun e out => e.config = config ∧ Standing config m d e t (ns ++ out)) ht hb ?_ ?_
    · rw [List.append_nil]
      refine ⟨?_, h.ticketed b⟩
      unfold Engine.ticketed
      split <;> exact hs
    · intro e out e' ns' ha hm ⟨hs, h⟩
      rw [← List.append_assoc]
      exact ⟨hm.settings.trans hs, h.move ha hm hs hp⟩
  | true =>
    have openParty {c : Call} (hc : e.calls.get? t = some c) :
        c = .openParty m.party m.user := by
      cases h with
      | waits hc' =>
        cases hc.symm.trans hc'
        rfl
      | given hc' => cases hc.symm.trans hc'
    have kind (c : Call) (hc : e.calls.get? t = some c) : forSession c = true := by
      rw [openParty hc]
      rfl
    rcases step_concerned hb hd kind with ⟨p, u, o, g, hc, -⟩ | hsame
    · cases openParty hc
    · rw [hsame, List.append_nil]
      exact ⟨hs, h⟩

theorem Standing.run {bs : List Action} (h : Standing config m d e t ns) (ht : t < e.tickets)
    (hs : e.config = config) (hp : 0 < config.sessionOutboundCapacity) (hd : .dropCall t ∉ bs) :
    Standing config m d (e.run bs).1 t (ns ++ (e.run bs).2) :=
  (run_called (P := fun e ns => e.config = config ∧ Standing config m d e t ns) ns ht ⟨hs, h⟩
    fun _ hb ht ⟨hs, h⟩ => h.step ht hs hp fun he => hd (he ▸ hb)).2

/-- The submission of a granted call waits or returns at once. -/
theorem standing_of_submit (hs : e.config = config) (hp : 0 < config.sessionOutboundCapacity)
    (hc : e.calls.get? t = some (.openParty m.party m.user)) (ev : Event) :
    Standing config m (e.now + e.queue.overflowWait) (e.submit (.call t) ev).1 t
      (e.submit (.call t) ev).2 := by
  rcases submit_resumed e (.call t) ev with hw | ⟨queue, ok, rest, hr, ha⟩
  · rw [hw]
    have last : Waiter.mk (.call t) ev (e.now + e.queue.overflowWait) ∈
        (e.queue.lineUp (.call t) ev e.now).waiting :=
      List.mem_append_right _ (List.mem_singleton.2 rfl)
    exact .waits hc (by simp) last rfl (Nat.le_refl _)
  · obtain ⟨hk, r, rfl, hg⟩ := hr.gives hc hs hp
    exact .given hk (fun r' => (ha t r').trans (replied_singleton t r r')) hg

/-! ### Runs from the call to its result -/

/-- Actions that are not about call `t` keep it pending, if it waits for no submission. -/
theorem run_idle {bs : List Action} (h : NotSubmitting e t) (ht : t < e.tickets)
    (hb : ∀ b ∈ bs, b.concerns t = false) :
    (e.run bs).1.calls.get? t = e.calls.get? t ∧ ∀ r, .answered t r ∉ (e.run bs).2 :=
  run_called (P := fun e' ns => e'.calls.get? t = e.calls.get? t ∧ ∀ r, .answered t r ∉ ns) [] ht
    ⟨rfl, by simp⟩ fun b hin ht ⟨hk, hq⟩ => by
      obtain ⟨hk', hq'⟩ := step_idle ht (hb b hin) fun c hc => h c (hk ▸ hc)
      exact ⟨hk'.trans hk, fun r hr => (List.mem_append.1 hr).elim (hq r) (hq' r)⟩

/-- A pending lookup is kept by actions that are not about it, without an answer. -/
theorem run_asks {p : Party} {u : User} {opens : Bool} {mid : List Action}
    (ha : e.step a = ((skip e).await e.tickets (.lookup p u opens), []))
    (ht : e.tickets < (e.step a).1.tickets) (hb : ∀ b ∈ mid, b.concerns e.tickets = false) :
    (e.run (a :: mid)).1.calls.get? e.tickets = some (.lookup p u opens) ∧
      ∀ r, .answered e.tickets r ∉ (e.run (a :: mid)).2 := by
  have asked : (e.step a).1.calls.get? e.tickets = some (.lookup p u opens) := by
    simp [ha, await, Table.get?_insert]
  have idle : NotSubmitting (e.step a).1 e.tickets := fun c hc => by
    cases asked.symm.trans hc
    rfl
  obtain ⟨hk, hq⟩ := run_idle idle ht hb
  exact ⟨hk.trans asked, fun r => by simpa [run, andThen, ha] using hq r⟩

/-- A call for a party session passes both shutdown checks, and the source has the membership. -/
def Passes (e e' : Engine) (g : Answer (Option Membership)) : Prop :=
  e.shutdown = false ∧ e'.shutdown = false ∧ ∃ m, g = .ok (some m)

/-- The state of a call for a party session after the source's answer: refused, or granted and
`Standing`. -/
inductive Concluded (config : Config) (e e₁ e₂ : Engine) (g : Answer (Option Membership))
    (ns : List Note) : Prop
  | refused (err : PresenceError) (hn : ¬ Passes e e₁ g)
      (hr : Replied e.tickets (.failed err) ns)
  | passed {m : Membership} (hp : Passes e e₁ g) (hg : g = .ok (some m))
      (hs : Standing config m (e₁.now + config.queueOverflowWait.nanos) e₂ e.tickets ns)

/-- A call that is not granted fails. -/
theorem step_refused {p : Party} {u : User} {g : Answer (Option Membership)}
    (hc : e.calls.get? t = some (.lookup p u true))
    (hg : ¬ (e.shutdown = false ∧ ∃ m, g = .ok (some m))) :
    ∃ err, e.step (.lookupAnswered t g) = e.answer t (.failed err) := by
  have lets : ¬ Grants e t (.lookupAnswered t g) := by
    rintro ⟨_, _, m, -, he, hs⟩
    cases he
    exact hg ⟨hs, m, rfl⟩
  obtain ⟨r, hr, failed⟩ := lookupAnswered_eq hc lets
  obtain ⟨err, rfl⟩ := failed rfl
  exact ⟨err, hr⟩

/-- The state of a call that was a pending lookup. -/
theorem concluded_of_lookup {p : Party} {u : User} {g : Answer (Option Membership)}
    {later : List Action} (hs : e.shutdown = false) (hcfg : e'.config = config)
    (hp : 0 < config.sessionOutboundCapacity)
    (hw : e'.queue.overflowWait = config.queueOverflowWait.nanos) (ht : e.tickets < e'.tickets)
    (hc : e'.calls.get? e.tickets = some (.lookup p u true)) (hn : ∀ r, .answered e.tickets r ∉ ns)
    (hd : .dropCall e.tickets ∉ later) :
    Concluded config e e' (e'.run (.lookupAnswered e.tickets g :: later)).1 g
      (ns ++ (e'.run (.lookupAnswered e.tickets g :: later)).2) := by
  have ht' := Nat.lt_of_lt_of_le ht (step_tickets_le e' (.lookupAnswered e.tickets g))
  by_cases hg : e'.shutdown = false ∧ ∃ m, g = .ok (some m)
  · obtain ⟨hs', m, rfl⟩ := hg
    have settings : (e'.step (.lookupAnswered e.tickets (.ok (some m)))).1.config = config :=
      step_makes (P := fun e _ => e.config = config) (fun hm hc => hm.settings.trans hc) hcfg
    have waiting : (e'.await e.tickets (.openParty m.party m.user)).calls.get? e.tickets =
        some (.openParty m.party m.user) := by
      simp [await, Table.get?_insert]
    have stands := standing_of_submit (e := e'.await e.tickets _) hcfg hp waiting
      (Event.mk m.user .connected)
    rw [← step_granted hc hs'] at stands
    have lasts := (stands.run ht' settings hp hd).after hn
    exact .passed ⟨hs, hs', m, rfl⟩ rfl (hw ▸ lasts)
  · obtain ⟨err, hr⟩ := step_refused hc hg
    have gone : (e'.step (.lookupAnswered e.tickets g)).1.calls.get? e.tickets = none := by
      simp [hr, answer, Table.get?_erase]
    have told : Replied e.tickets (.failed err) (e'.step (.lookupAnswered e.tickets g)).2 := by
      rw [hr]
      exact replied_singleton _ _
    exact .refused err (fun hpass => hg hpass.2) ((told.run gone ht' later).after hn)

theorem step_openParty (e : Engine) (p : Party) (u : User) : e.step (.openParty p u) =
    if e.shutdown then (skip e).answer e.tickets (.failed .shutDown)
    else ((skip e).await e.tickets (.lookup p u true), []) := rfl

/-- The state of a call for a party session that is not dropped. -/
theorem Reaches.concluded (h : Reaches config as e ns) {p : Party} {u : User}
    {mid later : List Action} {g : Answer (Option Membership)} {e₁ e₂ : Engine}
    {ns₁ ns₂ : List Note}
    (hb : ∀ b ∈ mid, b.concerns e.tickets = false) (hd : .dropCall e.tickets ∉ later)
    (hr₁ : e.run (.openParty p u :: mid) = (e₁, ns₁))
    (hr₂ : e₁.run (.lookupAnswered e.tickets g :: later) = (e₂, ns₂)) :
    (e.shutdown = false → e₁.calls.get? e.tickets = some (.lookup p u true)) ∧
      Concluded config e e₁ e₂ g (ns₁ ++ ns₂) := by
  have ht : e.tickets < (e.step (.openParty p u)).1.tickets := lt_tickets_of_isCall rfl
  have ht₁ := Nat.lt_of_lt_of_le ht (run_tickets_le (e.step (.openParty p u)).1 mid)
  have reached := h.append (.openParty p u :: mid)
  have settings := reached.settings
  have wait := reached.overflowWait
  obtain ⟨rfl, rfl⟩ : (e.run (.openParty p u :: mid)).1 = e₁ ∧
      (e.run (.openParty p u :: mid)).2 = ns₁ := by simp [hr₁]
  obtain ⟨rfl, rfl⟩ : ((e.run (.openParty p u :: mid)).1.run
        (.lookupAnswered e.tickets g :: later)).1 = e₂ ∧
      ((e.run (.openParty p u :: mid)).1.run (.lookupAnswered e.tickets g :: later)).2 = ns₂ := by
    simp [hr₂]
  cases hs : e.shutdown with
  | true =>
    have gone : (e.step (.openParty p u)).1.calls.get? e.tickets = none := by
      simp [step_openParty, hs, answer, Table.get?_erase]
    have told : Replied e.tickets (.failed .shutDown) (e.step (.openParty p u)).2 := by
      rw [step_openParty, if_pos hs]
      exact replied_singleton _ _
    refine ⟨by simp, .refused .shutDown (fun hpass => ?_) ?_⟩
    · rw [hpass.1] at hs
      cases hs
    · exact (told.run gone ht mid).run (run_over gone ht mid).1 ht₁ _
  | false =>
    have asks : e.step (.openParty p u) = ((skip e).await e.tickets (.lookup p u true), []) := by
      rw [step_openParty, if_neg (by simp [hs])]
    obtain ⟨still, quiet⟩ := run_asks asks ht hb
    exact ⟨fun _ => still, concluded_of_lookup hs settings h.linePositive wait ht₁ still quiet hd⟩

/-! ### The main statement -/

/-- A call for a session that fails is `Untraced`, and so is every call of `authorize`. A call for a
party session that is not dropped is a lookup of that party and user; it is answered with a session
of the member exactly if it passes both shutdown checks, the source has the membership and a line
can be created. As long as it has no answer it has passed, and its submission waits with a
deadline. -/
theorem opening_calls_isolated (h : Reaches config as e ns) :
    (∀ a bs err, a.isOpening = true → .answered e.tickets (.failed err) ∈ (e.run (a :: bs)).2 →
      Untraced e a bs) ∧
    (∀ p u bs, Untraced e (.authorize p u) bs) ∧
    ∀ p u mid g later e₁ ns₁ e₂ ns₂, (∀ b ∈ mid, b.concerns e.tickets = false) →
      .dropCall e.tickets ∉ later → e.run (.openParty p u :: mid) = (e₁, ns₁) →
      e₁.run (.lookupAnswered e.tickets g :: later) = (e₂, ns₂) →
      (e.shutdown = false → e₁.calls.get? e.tickets = some (.lookup p u true)) ∧
      (∀ r, .answered e.tickets r ∈ ns₁ ++ ns₂ → ((∃ s, r = .opened s) ↔
        Passes e e₁ g ∧ config.sessionOutboundCapacity ≤ Channel.maxCapacity)) ∧
      (∀ s, .answered e.tickets (.opened s) ∈ ns₁ ++ ns₂ → ∃ m x, g = .ok (some m) ∧
        e₂.session? s = some x ∧ x.user = m.user ∧ x.party? = some m.party) ∧
      ((∀ r, .answered e.tickets r ∉ ns₁ ++ ns₂) → Passes e e₁ g ∧
        (e₂.now < e₁.now + config.queueOverflowWait.nanos ∨
          (e₂.queue.giveUp? e₂.now).isSome = true)) := by
  refine ⟨fun a bs err ha hin => ?_, fun p u bs => ?_, ?_⟩
  · rcases opening_begins h.ticket_free ha with begins | ⟨hk, hn⟩
    · exact (begins.untraced (isCall_of_isOpening ha) bs).resolve_right fun never => never.2 err hin
    · exact absurd ((List.mem_append.1 hin).resolve_left (hn err))
        (run_admitted hk (lt_tickets_of_isCall (isCall_of_isOpening ha)) bs err)
  · have begins : Begins false e (.authorize p u) := authorize_begins h.ticket_free p u false rfl id
    exact (begins.untraced rfl bs).resolve_right fun never => by cases never.1
  · intro p u mid g later e₁ ns₁ e₂ ns₂ hb hd hr₁ hr₂
    obtain ⟨asked, concluded⟩ := h.concluded hb hd hr₁ hr₂
    refine ⟨asked, ?_⟩
    cases concluded with
    | refused err hn hr =>
      refine ⟨fun r hin => ?_, fun s hin => ?_, fun hquiet => absurd ((hr _).2 rfl) (hquiet _)⟩
      · obtain rfl := (hr r).1 hin
        exact iff_of_false (by simp) fun hpass => hn hpass.1
      · cases (hr _).1 hin
    | passed hpass hg hs =>
      cases hs with
      | waits _ hn hw _ hd =>
        refine ⟨fun r hin => absurd hin (hn r), fun s hin => absurd hin (hn _), fun _ => ?_⟩
        refine ⟨hpass, ?_⟩
        rcases Nat.lt_or_ge e₂.now (e₁.now + config.queueOverflowWait.nanos) with hlt | hle
        · exact .inl hlt
        · exact .inr (giveUp?_isSome hw (Nat.le_trans hd hle))
      | @given r' _ hr hgive =>
        refine ⟨fun r hin => ?_, fun s hin => ?_, fun hquiet => absurd ((hr _).2 rfl) (hquiet _)⟩
        · obtain rfl := (hr r).1 hin
          rw [hgive.opened_iff]
          exact ⟨fun hl => ⟨hpass, hl⟩, And.right⟩
        · obtain rfl := (hr _).1 hin
          obtain ⟨x, hx⟩ := hgive.session
          exact ⟨_, x, hg, hx⟩

/-- A user with a status session is dismissed during the lookup for a party session. If the source
has no membership, the run differs from one without the call in nothing but its answer; if it has
one, the session is opened. -/
theorem opening_calls_isolated_of_dismissed :
    ∃ u p e ns e₁ ns₁ e₂ ns₂ x, Reaches Config.standard [.openStatus u] e ns ∧
      .answered 1 (.failed (.notPartyMember p u)) ∈
        (e.run [.openParty p u, .closeSession u, .lookupAnswered 1 (.ok none)]).2 ∧
      Untraced e (.openParty p u) [.closeSession u, .lookupAnswered 1 (.ok none)] ∧
      e.run [.openParty p u, .closeSession u] = (e₁, ns₁) ∧
      e₁.run [.lookupAnswered 1 (.ok (some ⟨p, u, .active⟩))] = (e₂, ns₂) ∧
      .answered 1 (.opened 2) ∈ ns₁ ++ ns₂ ∧
      e₂.session? 2 = some x ∧ x.user = u ∧ x.party? = some p := by
  have reached (u : User) : Reaches Config.standard [.openStatus u] _ _ := .of_start rfl _
  have hr := reached ⟨"ann", by decide, "ann", rfl⟩
  obtain ⟨traceless, -, opens⟩ := opening_calls_isolated hr
  have untraced := traceless (.openParty ⟨"p", by decide, "p", rfl⟩ ⟨"ann", by decide, "ann", rfl⟩)
    [.closeSession ⟨"ann", by decide, "ann", rfl⟩, .lookupAnswered 1 (.ok none)]
    (.notPartyMember ⟨"p", by decide, "p", rfl⟩ ⟨"ann", by decide, "ann", rfl⟩) rfl
    (by decide +kernel)
  obtain ⟨-, -, session, -⟩ := opens ⟨"p", by decide, "p", rfl⟩ ⟨"ann", by decide, "ann", rfl⟩
    [.closeSession ⟨"ann", by decide, "ann", rfl⟩]
    (.ok (some ⟨⟨"p", by decide, "p", rfl⟩, ⟨"ann", by decide, "ann", rfl⟩, .active⟩)) [] _ _ _ _
    (by simp [Action.concerns]) (by simp) rfl rfl
  obtain ⟨m, x, hm, hx⟩ := session 2 (by decide +kernel)
  cases hm
  exact ⟨_, _, _, _, _, _, _, _, x, hr, by decide +kernel, untraced, rfl, rfl, by decide +kernel, hx⟩

/-- Validated server settings under which a call for a party session panics, although it passes both
checks and the source has the membership: the event is submitted, but no line can be created. -/
theorem accepted_opening_panics :
    ∃ s : Settings, s.verify = .ok () ∧ ∃ p u e e₁ ns₁ e₂ ns₂, start s.presence = .ok e ∧
      e.run [.openParty p u] = (e₁, ns₁) ∧
      e₁.run [.lookupAnswered 0 (.ok (some ⟨p, u, .active⟩))] = (e₂, ns₂) ∧
      Passes e e₁ (.ok (some ⟨p, u, .active⟩)) ∧
      ns₁ ++ ns₂ = [.accepted ⟨u, .connected⟩, .returned (some (.call 0)) true,
        .answered 0 .panicked] := by
  have wide : Settings.verify ⟨"socialite", "0.0.0.0", 8080, "data/socialite.db",
      { Config.standard with sessionOutboundCapacity := 2305843009213693952 }⟩ = .ok () := rfl
  exact ⟨_, wide, ⟨"p", by decide, "p", rfl⟩, ⟨"ann", by decide, "ann", rfl⟩, _, _, _, _, _,
    rfl, rfl, rfl, ⟨rfl, rfl, _, rfl⟩, by decide +kernel⟩

end

end Presence.Engine
