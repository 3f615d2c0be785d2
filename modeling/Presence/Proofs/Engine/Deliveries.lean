import Presence.Proofs.Engine.Conservation
import Presence.Proofs.Engine.Moments

/-!
Provenance of notices. Every accepted notice comes from one event of the user that it names, and a
session accepts its notices in the order in which their events were processed, at most one per
event. The user of the session was in the friend list when the event was taken, and the session was
registered when it was looked up for the event.
-/

namespace Presence

/-- The user named by a notice. -/
def Message.notice? : Message → Option User
  | .friendOnline u => some u
  | _ => none

/-- The friends still to be notified, including one whose handle was looked up. -/
def Fanout.addressees (f : Fanout) : List User :=
  match f.stage with
  | .sending u _ => u :: f.pending
  | _ => f.pending

namespace Engine

/-! ### Reading a record -/

/-- The notices that entered the line of a session, oldest first: the number of the event processed
last, counted from zero, and the user named. The record follows `n` processed events. -/
def deliveries (s : SessionId) (n : Nat) : List Note → List (Nat × User)
  | [] => []
  | .processed _ _ :: ns => deliveries s (n + 1) ns
  | .sent t (.friendOnline u) :: ns =>
    if t = s then (n - 1, u) :: deliveries s n ns else deliveries s n ns
  | _ :: ns => deliveries s n ns

theorem deliveries_append (s : SessionId) (ns ms : List Note) (n : Nat) :
    deliveries s n (ns ++ ms) =
      deliveries s n ns ++ deliveries s (n + (processed ns).length) ms := by
  induction ns generalizing n with
  | nil => rfl
  | cons note ns ih =>
    cases note with
    | processed => simp [deliveries, processed, ih, Nat.add_assoc, Nat.add_comm 1]
    | sent t m =>
      cases m with
      | friendOnline u => by_cases h : t = s <;> simp [deliveries, processed, h, ih]
      | _ => simp [deliveries, processed, ih]
    | _ => simp [deliveries, processed, ih]

/-- The deliveries of a session are its notices. -/
theorem map_deliveries (s : SessionId) (ns : List Note) (n : Nat) :
    (deliveries s n ns).map Prod.snd = (sentTo s ns).filterMap Message.notice? := by
  induction ns generalizing n with
  | nil => rfl
  | cons note ns ih =>
    cases note with
    | sent t m =>
      cases m <;> by_cases h : t = s <;> simp [deliveries, sentTo, Message.notice?, h, ih, List.filterMap_cons]
    | _ => simp [deliveries, sentTo, ih]

/-! ### The two lookups of a notice -/

/-- The dispatcher is about to take event number `p`, whose user has `u` in the friend list. -/
structure TakenUp (e : Engine) (ns : List Note) (p : Nat) (ev : Event) (u : User) : Prop where
  number : (processed ns).length = p
  event : processed (e.step .dispatch).2 = [ev]
  friend : u ∈ e.relations.friendsOf ev.user

/-- The fanout of event number `p` is in progress, and session `s` is registered for `u`. -/
structure Addressed (e : Engine) (ns : List Note) (p : Nat) (ev : Event) (u : User)
    (s : SessionId) : Prop where
  number : (processed ns).length = p + 1
  underway : ∃ f, e.dispatcher = .notifying f ∧ f.event = ev
  registered : e.board.lookup u = some ⟨s, lineOf s⟩

/-- In the past the dispatcher took event number `p` with `u` in the friend list. -/
def Promised (config : Config) (as : List Action) (p : Nat) (ev : Event) (u : User) : Prop :=
  ∃ before e ns, before ++ [.dispatch] <+: as ∧ Reaches config before e ns ∧ TakenUp e ns p ev u

/-- In the past the dispatcher took event number `p` with `u` in the friend list, and later, in the
fanout of the same event, session `s` was registered for `u`. If only dispatcher steps lie between,
it was registered at the first moment too. -/
def Due (config : Config) (as : List Action) (p : Nat) (ev : Event) (u : User) (s : SessionId) :
    Prop :=
  ∃ before mid e ns e' ns', before ++ .dispatch :: mid <+: as ∧
    Reaches config before e ns ∧ TakenUp e ns p ev u ∧
    Reaches config (before ++ .dispatch :: mid) e' ns' ∧ Addressed e' ns' p ev u s ∧
    ((∀ a ∈ mid, a = .dispatch) → e.board.lookup u = some ⟨s, lineOf s⟩)

section
variable {config : Config} {as bs : List Action} {p : Nat} {ev : Event} {u : User} {s : SessionId}

theorem Promised.later (h : Promised config as p ev u) : Promised config (as ++ bs) p ev u := by
  obtain ⟨before, e, ns, hb, hr, ht⟩ := h
  exact ⟨before, e, ns, hb.trans (List.prefix_append _ _), hr, ht⟩

theorem Due.later (h : Due config as p ev u s) : Due config (as ++ bs) p ev u s := by
  obtain ⟨before, mid, e, ns, e', ns', hb, rest⟩ := h
  exact ⟨before, mid, e, ns, e', ns', hb.trans (List.prefix_append _ _), rest⟩

end

/-- Dispatcher steps only remove entries of the registry. -/
theorem Move.lookup_of_dispatch {e e' : Engine} {out : List Note} {u : User} {h : Handle}
    (hm : Move .dispatch e out e') (hu : e'.board.lookup u = some h) :
    e.board.lookup u = some h := by
  cases hm with
  | entered _ _ hr => exact hr.keeps.1 u ▸ hu
  | refused _ hr => exact hr.keeps.1 u ▸ hu
  | timedOut _ hr => exact hr.keeps.1 u ▸ hu
  | promoted _ _ _ _ hr => exact hr.keeps.1 u ▸ hu
  | notified _ _ hb => exact lookup_of_deliver hb u ▸ hu
  | removed => exact lookup_of_deregisterSession hu
  | evicted ha => cases ha
  | deregistered ha => cases ha
  | sessionDeregistered ha => cases ha
  | posted ha => cases ha
  | replied ha => cases ha
  | opened ha => cases ha
  | ponged ha => cases ha
  | ended ha => cases ha
  | _ => exact hu

theorem lookup_of_run_dispatch {e : Engine} {as : List Action} (ha : ∀ a ∈ as, a = .dispatch)
    {u : User} {h : Handle} (hu : (e.run as).1.board.lookup u = some h) :
    e.board.lookup u = some h := by
  induction as generalizing e with
  | nil => exact hu
  | cons a as ih =>
    obtain rfl : a = .dispatch := ha a (by simp)
    have first := ih (fun b hb => ha b (by simp [hb])) hu
    rcases step_move (a := .dispatch) rfl e with hs | hm
    · rwa [hs] at first
    · exact hm.lookup_of_dispatch first

/-! ### Dispatcher moves -/

/-- Notes of no processed event and no notice. -/
def Idle (out : List Note) : Prop := processed out = [] ∧ ∀ s n, deliveries s n out = []

/-- The effect of a move on the fanout in progress. -/
inductive Turn (a : Action) (e e' : Engine) : List Note → Prop
  | kept {out : List Note} (ho : Idle out) (hd : e'.dispatcher = e.dispatcher) : Turn a e e' out
  | rested {out : List Note} (ho : Idle out) (hd : e'.dispatcher = .idle ∨ e'.dispatcher = .stopped) :
      Turn a e e' out
  | began {ev : Event} {r : FanoutReport} {out : List Note} (ha : a = .dispatch)
      (hp : processed out = [ev]) (ho : ∀ s n, deliveries s n out = [])
      (hd : e'.dispatcher = .notifying ⟨ev, e.relations.friendsOf ev.user, .next, r⟩) :
      Turn a e e' out
  | went {f f' : Fanout} (hd : e.dispatcher = .notifying f) (hd' : e'.dispatcher = .notifying f')
      (he : f'.event = f.event) (hs : f'.addressees.Sublist f.addressees)
      (hn : f'.stage = .next ∨ ∃ u s, f'.stage = .removing u s) : Turn a e e' []
  | found {ev : Event} {u : User} {rest : List User} {r : FanoutReport} {h : Handle}
      (ha : a = .dispatch) (hd : e.dispatcher = .notifying ⟨ev, u :: rest, .next, r⟩)
      (hu : e.board.lookup u = some h)
      (hd' : e'.dispatcher = .notifying ⟨ev, rest, .sending u h, r⟩) : Turn a e e' []
  | notified {ev : Event} {u : User} {rest : List User} {r r' : FanoutReport} {h : Handle}
      (hd : e.dispatcher = .notifying ⟨ev, rest, .sending u h, r⟩)
      (hd' : e'.dispatcher = .notifying ⟨ev, rest, .next, r'⟩) :
      Turn a e e' [.sent (h.line + 1) (.friendOnline ev.user)]

section
variable {a : Action} {e e' : Engine} {out : List Note}

theorem Resumed.idle {p : Producer} {b : Bool} (h : Resumed e p b out e') : Idle out := by
  cases h <;> exact ⟨rfl, fun _ _ => rfl⟩

theorem Move.turn (hm : Move a e out e') : Turn a e e' out := by
  have one (u : User) (rest : List User) : rest.Sublist (u :: rest) := List.sublist_cons_self u rest
  cases hm with
  | entered _ _ hr => exact .kept hr.idle hr.keeps.2
  | refused _ hr => exact .kept hr.idle hr.keeps.2
  | timedOut _ hr => exact .kept hr.idle hr.keeps.2
  | began ha => exact .began ha rfl (fun _ _ => rfl) rfl
  | promoted ha _ _ _ hr =>
    obtain ⟨hp, ho⟩ := hr.idle
    exact .began ha (congrArg _ hp) (fun s n => ho s (n + 1)) hr.keeps.2
  | retired => exact .rested ⟨rfl, fun _ _ => rfl⟩ (.inr rfl)
  | finished => exact .rested ⟨rfl, fun _ _ => rfl⟩ (.inl rfl)
  | @missed _ u rest _ _ hd => exact .went hd rfl rfl (one u rest) (.inl rfl)
  | found ha hd hu => exact .found ha hd hu rfl
  | notified _ hd => exact .notified hd rfl
  | @crowded _ u rest _ _ _ hd => exact .went hd rfl rfl (one u rest) (.inl rfl)
  | @vanished _ u rest _ _ _ hd => exact .went hd rfl rfl (one u rest) (.inr ⟨_, _, rfl⟩)
  | @removed _ _ _ rest _ _ hd => exact .went hd rfl rfl (List.Sublist.refl rest) (.inl rfl)
  | _ => exact .kept ⟨rfl, fun _ _ => rfl⟩ rfl

end

/-! ### The invariant -/

/-- Invariant of the fanout of event number `p`: every friend still to be notified was promised, and
has accepted nothing since the event was processed. -/
structure Underway (config : Config) (as : List Action) (e : Engine) (ns : List Note) (p : Nat)
    (f : Fanout) : Prop where
  number : (processed ns).length = p + 1
  event : (processed ns)[p]? = some f.event
  distinct : f.addressees.Nodup
  promised : ∀ u ∈ f.addressees, Promised config as p f.event u
  waiting : ∀ u ∈ f.addressees, ∀ {s x d}, e.session? s = some x → x.user = u →
    d ∈ deliveries s 0 ns → d.1 < p
  found : ∀ {u h}, f.stage = .sending u h → Due config as p f.event u h.session

/-- Every accepted notice is due. -/
structure Traced (config : Config) (as : List Action) (e : Engine) (ns : List Note) : Prop where
  rising : ∀ s, ((deliveries s 0 ns).map Prod.fst).Pairwise (· < ·)
  due : ∀ {s d}, d ∈ deliveries s 0 ns → ∃ x ev, e.session? s = some x ∧
    (processed ns)[d.1]? = some ev ∧ ev.user = d.2 ∧ Due config as d.1 ev x.user s
  underway : ∀ {f}, e.dispatcher = .notifying f → ∃ p, Underway config as e ns p f

section
variable {config : Config} {as : List Action} {a : Action} {e e' : Engine} {ns out : List Note}
  {p : Nat} {f : Fanout}

theorem Underway.later (h : Underway config as e ns p f) :
    Underway config (as ++ [a]) e ns p f where
  number := h.number
  event := h.event
  distinct := h.distinct
  promised u hu := (h.promised u hu).later
  waiting := h.waiting
  found hs := (h.found hs).later

theorem Traced.later (h : Traced config as e ns) : Traced config (as ++ [a]) e ns where
  rising := h.rising
  due hd := by
    obtain ⟨x, ev, hx, hp, hu, hdue⟩ := h.due hd
    exact ⟨x, ev, hx, hp, hu, hdue.later⟩
  underway hd := by
    obtain ⟨p, hf⟩ := h.underway hd
    exact ⟨p, hf.later⟩

/-- The session of an accepted notice exists, with the user to whom the notice was due. -/
theorem Traced.user (h : Traced config as e ns) (ho : Onward e e') {s : SessionId} {y : Session}
    {d : Nat × User} (hy : e'.session? s = some y) (hd : d ∈ deliveries s 0 ns) :
    ∃ x, e.session? s = some x ∧ y.user = x.user := by
  obtain ⟨x, _, hx, -⟩ := h.due hd
  obtain ⟨y', hy', hu, -⟩ := ho.same hx
  cases hy.symm.trans hy'
  exact ⟨x, hx, hu⟩

/-- Accepted notices stay due. -/
theorem Traced.due_later (h : Traced config as e ns) (ho : Onward e e') (out : List Note)
    {s : SessionId} {d : Nat × User} (hd : d ∈ deliveries s 0 ns) :
    ∃ x ev, e'.session? s = some x ∧ (processed (ns ++ out))[d.1]? = some ev ∧ ev.user = d.2 ∧
      Due config as d.1 ev x.user s := by
  obtain ⟨x, ev, hx, hp, hu, hdue⟩ := h.due hd
  obtain ⟨y, hy, huser, -⟩ := ho.same hx
  refine ⟨y, ev, hy, ?_, hu, huser ▸ hdue⟩
  rw [processed_append, List.getElem?_append_left (List.getElem?_eq_some_iff.1 hp).1, hp]

/-- A move without an accepted notice preserves `Traced` if it preserves the fanout's invariant. -/
theorem Traced.still (h : Traced config as e ns) (ho : Onward e e')
    (hn : ∀ s n, deliveries s n out = [])
    (hf : ∀ {f}, e'.dispatcher = .notifying f → ∃ p, Underway config as e' (ns ++ out) p f) :
    Traced config as e' (ns ++ out) where
  rising s := by
    rw [deliveries_append, hn, List.append_nil]
    exact h.rising s
  due {s d} hd := by
    rw [deliveries_append, hn, List.append_nil] at hd
    exact h.due_later ho out hd
  underway := hf

/-- The invariant of the fanout is preserved while friends are removed from the pending ones. -/
theorem Underway.still {f' : Fanout} (h : Underway config as e ns p f) (ht : Traced config as e ns)
    (ho : Onward e e') (hi : Idle out) (he : f'.event = f.event)
    (hs : f'.addressees.Sublist f.addressees)
    (hfound : ∀ {u h}, f'.stage = .sending u h → Due config as p f.event u h.session) :
    Underway config as e' (ns ++ out) p f' where
  number := by simp [hi.1, h.number]
  event := by simp [hi.1, h.event, he]
  distinct := h.distinct.sublist hs
  promised u hu := he ▸ h.promised u (hs.subset hu)
  waiting u hu {s y d} hy hyu hd := by
    rw [deliveries_append, hi.2, List.append_nil] at hd
    obtain ⟨x, hx, hxu⟩ := ht.user ho hy hd
    exact h.waiting u (hs.subset hu) hx (hxu.symm.trans hyu) hd
  found hs := he ▸ hfound hs

/-- The friend lists are ascending. -/
theorem Reaches.ascending (h : Reaches config as e ns) : e.relations.Ascending := by
  refine h.keeps (P := fun e _ => e.relations.Ascending)
    (fun _ _ => Relationships.ascending_empty) fun a _ e out e' _ hm hr => ?_
  have resumed {e e' : Engine} {p b out} (h : Resumed e p b out e') :
      e'.relations = e.relations := by cases h <;> rfl
  cases hm with
  | refreshed kind g => exact hr.refresh kind g
  | @loopAnswered kind g _ _ _ hl =>
    unfold RefreshLoop.answer? at hl
    split at hl
    · cases hl
      have absorbed := hr.absorb kind g
      cases kind <;> exact absorbed
    · cases hl
  | woke => cases ‹RefreshKind› <;> exact hr
  | loopStopped kind => cases kind <;> exact hr
  | entered _ _ h => exact resumed h ▸ hr
  | refused _ h => exact resumed h ▸ hr
  | timedOut _ h => exact resumed h ▸ hr
  | promoted _ _ _ _ h => exact resumed h ▸ hr
  | _ => exact hr

/-- Step that takes an event: its friends are promised. -/
theorem Traced.began {ev : Event} {r : FanoutReport} (h : Traced config (as ++ [a]) e ns)
    (now : Moment config (Traced config) as a e ns out e') (ha : a = .dispatch)
    (hp : processed out = [ev]) (hn : ∀ s n, deliveries s n out = []) :
    Underway config (as ++ [a]) e' (ns ++ out) (processed ns).length
      ⟨ev, e.relations.friendsOf ev.user, .next, r⟩ where
  number := by simp [hp]
  event := by simp [hp]
  distinct := now.reaches.ascending.nodup ev.user
  promised u hu := by
    refine ⟨as, e, ns, ha ▸ List.prefix_rfl, now.reaches, rfl, ?_, hu⟩
    rw [← ha, now.whole]
    exact hp
  waiting u _ {s y d} _ _ hd := by
    rw [deliveries_append, hn, List.append_nil] at hd
    obtain ⟨_, _, _, hd, -⟩ := h.due hd
    exact (List.getElem?_eq_some_iff.1 hd).1
  found := nofun

/-- Step that looks up the handle of a friend. -/
theorem Underway.due {ev : Event} {u : User} {rest : List User} {r : FanoutReport} {h : Handle}
    (hw : Wired e) (hr : Reaches config as e ns)
    (hf : Underway config as e ns p ⟨ev, u :: rest, .next, r⟩)
    (hd : e.dispatcher = .notifying ⟨ev, u :: rest, .next, r⟩) (hu : e.board.lookup u = some h) :
    Due config (as ++ [a]) p ev u h.session := by
  obtain ⟨before, e₁, ns₁, ⟨mid, hb⟩, hr₁, ht⟩ := hf.promised u (List.mem_cons_self ..)
  have hb : before ++ .dispatch :: mid = as := by simpa using hb
  have hh : h = ⟨h.session, lineOf h.session⟩ := by
    rw [← (hw.entry hu).line]
  refine ⟨before, mid, e₁, ns₁, e, ns, hb ▸ List.prefix_append _ _, hr₁, ht, hb ▸ hr,
    ⟨hf.number, ⟨_, hd, rfl⟩, hh ▸ hu⟩, fun hall => ?_⟩
  obtain ⟨he, -⟩ := (hr₁.append (.dispatch :: mid)).unique (hb ▸ hr)
  rw [← he] at hu
  exact hh ▸ lookup_of_run_dispatch (by simpa using hall) hu

theorem deliveries_one (s t : SessionId) (n : Nat) (u : User) :
    deliveries s (n + 1) [.sent t (.friendOnline u)] = if t = s then [(n, u)] else [] := by
  simp [deliveries]

/-- Step that delivers a notice. -/
theorem Traced.notified {ev : Event} {u : User} {rest : List User} {r r' : FanoutReport} {h : Handle}
    (ht : Traced config as e ns) (hw : Wired e) (ho : Onward e e')
    (hd : e.dispatcher = .notifying ⟨ev, rest, .sending u h, r⟩)
    (hd' : e'.dispatcher = .notifying ⟨ev, rest, .next, r'⟩) :
    Traced config as e' (ns ++ [.sent (h.line + 1) (.friendOnline ev.user)]) := by
  obtain ⟨p, hf⟩ := ht.underway hd
  have leads : Leads e u h := by simpa [hd, Holds] using hw.fanout
  obtain ⟨x, hx, hxu, -⟩ := leads.session
  have hs : h.line + 1 = h.session := by
    rw [leads.line, lineOf_succ (Roster.lt_next_of_get? hx).1]
  have more (s : SessionId) :
      deliveries s 0 (ns ++ [.sent (h.line + 1) (.friendOnline ev.user)]) =
        deliveries s 0 ns ++ if h.session = s then [(p, ev.user)] else [] := by
    rw [deliveries_append, hf.number, Nat.zero_add, deliveries_one, hs]
  have before {d : Nat × User} (hd : d ∈ deliveries h.session 0 ns) : d.1 < p :=
    hf.waiting u (List.mem_cons_self ..) hx hxu hd
  refine ⟨fun s => ?_, fun {s d} hd => ?_, fun {f} hn => ⟨p, ?_⟩⟩
  · rw [more]
    split
    · subst s
      rw [List.map_append, List.pairwise_append]
      refine ⟨ht.rising _, by simp, fun m hm n hn => ?_⟩
      obtain ⟨d, hd, rfl⟩ := List.mem_map.1 hm
      obtain rfl : n = p := by simpa using hn
      exact before hd
    · simpa using ht.rising s
  · rw [more, List.mem_append] at hd
    rcases hd with hd | hd
    · exact ht.due_later ho _ hd
    · split at hd
      · subst s
        obtain rfl : d = (p, ev.user) := by simpa using hd
        obtain ⟨y, hy, hyu, -⟩ := ho.same hx
        refine ⟨y, ev, hy, ?_, rfl, ?_⟩
        · simpa [processed] using hf.event
        · rw [hyu, hxu]
          exact hf.found rfl
      · simp at hd
  · cases hd'.symm.trans hn
    have distinct : (u :: rest).Nodup := hf.distinct
    rw [List.nodup_cons] at distinct
    refine ⟨by simpa [processed] using hf.number, by simpa [processed] using hf.event, distinct.2,
      fun v hv => hf.promised v (List.mem_cons_of_mem u hv), fun v hv {s y d} hy hyv hd => ?_,
      fun hs => by cases hs⟩
    rw [more] at hd
    split at hd
    · -- the session that was sent the notice is no session of a friend still to be notified
      subst s
      obtain ⟨y', hy', hyu, -⟩ := ho.same hx
      cases hy.symm.trans hy'
      exact absurd hv (by rw [← hyv, hyu, hxu]; exact distinct.1)
    · rw [List.append_nil] at hd
      obtain ⟨x', hx', hxy⟩ := ht.user ho hy hd
      exact hf.waiting v (List.mem_cons_of_mem u hv) hx' (hxy.symm.trans hyv) hd

theorem Traced.move (hm : Move a e out e') (hw : Wired e)
    (now : a.isMoment = true → Moment config (Traced config) as a e ns out e')
    (h : Traced config (as ++ [a]) e ns) : Traced config (as ++ [a]) e' (ns ++ out) := by
  have ho := hm.onward
  cases hm.turn with
  | kept hi hd =>
    refine h.still ho hi.2 fun hn => ?_
    obtain ⟨p, hf⟩ := h.underway (hd ▸ hn)
    exact ⟨p, hf.still h ho hi rfl (List.Sublist.refl _) hf.found⟩
  | rested hi hd =>
    refine h.still ho hi.2 fun hn => ?_
    rcases hd with hd | hd <;> cases hd.symm.trans hn
  | began ha hp hn hd =>
    refine h.still ho hn fun hn' => ?_
    cases hd.symm.trans hn'
    exact ⟨_, h.began (now (ha ▸ rfl)) ha hp hn⟩
  | @went f f' hd hd' he hs hn =>
    have hi : Idle [] := ⟨rfl, fun _ _ => rfl⟩
    refine h.still ho hi.2 fun hn' => ?_
    cases hd'.symm.trans hn'
    obtain ⟨p, hf⟩ := h.underway hd
    refine ⟨p, hf.still h ho hi he hs fun hsend => ?_⟩
    rcases hn with hn | ⟨u, s, hn⟩ <;> cases hn.symm.trans hsend
  | found ha hd hu hd' =>
    have hi : Idle [] := ⟨rfl, fun _ _ => rfl⟩
    have moment := now (ha ▸ rfl)
    obtain ⟨p, hf⟩ := moment.past.underway hd
    refine h.still ho hi.2 fun hn' => ?_
    cases hd'.symm.trans hn'
    refine ⟨p, hf.later.still h ho hi rfl (List.Sublist.refl _) fun hsend => ?_⟩
    cases hsend
    exact hf.due hw moment.reaches hd hu
  | notified hd hd' => exact h.notified hw ho hd hd'

theorem Reaches.traced (h : Reaches config as e ns) : Traced config as e ns :=
  h.history (fun _ _ => ⟨fun _ => .nil, nofun, nofun⟩) Traced.later
    fun hw hm now hP => hP.move hm hw now

/-! ### The main statement -/

/-- Accepted frames of a status session: pongs, and notices each of which is due by an event of its
own, in the order of these events. -/
structure StatusFrames (config : Config) (as : List Action) (ns : List Note) (s : SessionId)
    (u : User) : Prop where
  kinds : ∀ m ∈ sentTo s ns, m = .pong ∨ ∃ v, m = .friendOnline v
  listed : (deliveries s 0 ns).map Prod.snd = (sentTo s ns).filterMap Message.notice?
  rising : ((deliveries s 0 ns).map Prod.fst).Pairwise (· < ·)
  due : ∀ d ∈ deliveries s 0 ns, ∃ ev, (processed ns)[d.1]? = some ev ∧ ev.user = d.2 ∧
    Due config as d.1 ev u s

/-- Accepted frames of a party session: pongs, and snapshots of its party. -/
def PartyFrames (config : Config) (as : List Action) (ns : List Note) (s : SessionId) (p : Party) :
    Prop :=
  ∀ m ∈ sentTo s ns, m = .pong ∨ ∃ sn, m = .snapshot sn ∧ Shown config as p sn

theorem Reaches.statusFrames (h : Reaches config as e ns) (ha : ∀ a ∈ as, a.bypasses = false)
    {s : SessionId} {x : Session} (hx : e.session? s = some x) (hp : x.party? = none) :
    StatusFrames config as ns s x.user where
  kinds m hm := by
    have hs := h.suits ha hx hm
    unfold Suits at hs
    rwa [hp] at hs
  listed := map_deliveries s ns 0
  rising := h.traced.rising s
  due d hd := by
    obtain ⟨y, ev, hy, rest⟩ := h.traced.due hd
    cases hx.symm.trans hy
    exact ⟨ev, rest⟩

theorem Reaches.partyFrames (h : Reaches config as e ns) (ha : ∀ a ∈ as, a.bypasses = false)
    {s : SessionId} {x : Session} {p : Party} (hx : e.session? s = some x)
    (hp : x.party? = some p) : PartyFrames config as ns s p := by
  intro m hm
  have hs := h.suits ha hx hm
  unfold Suits at hs
  rw [hp] at hs
  rcases hs with hs | ⟨sn, hsn⟩
  · exact .inl hs
  · obtain ⟨y, q, hy, hq, shown⟩ := h.faithful.sent (hsn ▸ hm)
    cases hx.symm.trans hy
    cases hp.symm.trans hq
    exact .inr ⟨sn, hsn, shown⟩

/-- In a run without frames sent from outside, the frames written for a session are a prefix of
those accepted; the accepted pongs are at most as many as the pings read; the other accepted frames
are those of `StatusFrames` or `PartyFrames`. The accepted notices are as many as
`notificationsDelivered` counts, with the report of the fanout in progress. -/
theorem frames_accounted (h : Reaches config as e ns) (ha : ∀ a ∈ as, a.bypasses = false) :
    (∀ s x, e.session? s = some x →
      writtenBy s ns <+: sentTo s ns ∧
      (sentTo s ns).count .pong ≤ pingsOf s ns ∧
      (x.party? = none → StatusFrames config as ns s x.user) ∧
      ∀ p, x.party? = some p → PartyFrames config as ns s p) ∧
    notices ns = e.metrics.notificationsDelivered + underway e.dispatcher :=
  ⟨fun s _ hx => ⟨(h.flow s).order, h.pongs ha s, h.statusFrames ha hx,
    fun _ => h.partyFrames ha hx⟩, h.counts⟩

/-- A heartbeat of a friend yields a notice and a ping a pong; only the notice has been written. -/
theorem frames_accounted_two :
    ∃ (u v : User) (e : Engine) (ns : List Note),
      let as : List Action := [.openStatus v, .dispatch, .dispatch, .wakeLoop .friends,
        .loopAnswered .friends (.ok (.ofList [(u, [v])])), .drive 1, .offer ⟨u, .heartbeat⟩,
        .dispatch, .dispatch, .dispatch, .dispatch,
        .read 1 (.text "\x7b\"msg_type\":\"ping\"\x7d"), .takeFrame 1, .frameWritten 1]
      Reaches Config.standard as e ns ∧ (∀ a ∈ as, a.bypasses = false) ∧
      writtenBy 1 ns <+: sentTo 1 ns ∧ writtenBy 1 ns = [.friendOnline u] ∧
      sentTo 1 ns = [.friendOnline u, .pong] ∧
      (sentTo 1 ns).count .pong ≤ pingsOf 1 ns ∧ pingsOf 1 ns = 1 ∧
      StatusFrames Config.standard as ns 1 v ∧ deliveries 1 0 ns = [(1, u)] ∧
      notices ns = e.metrics.notificationsDelivered + underway e.dispatcher ∧ notices ns = 1 := by
  have reached (u v : User) : Reaches Config.standard
      [.openStatus v, .dispatch, .dispatch, .wakeLoop .friends,
        .loopAnswered .friends (.ok (.ofList [(u, [v])])), .drive 1, .offer ⟨u, .heartbeat⟩,
        .dispatch, .dispatch, .dispatch, .dispatch,
        .read 1 (.text "\x7b\"msg_type\":\"ping\"\x7d"), .takeFrame 1, .frameWritten 1] _ _ :=
    .of_start rfl _
  have hr := reached ⟨"ann", by decide, "ann", rfl⟩ ⟨"bob", by decide, "bob", rfl⟩
  obtain ⟨sessions, total⟩ := frames_accounted hr (by simp [Action.bypasses])
  obtain ⟨written, pongs, status, -⟩ := sessions 1
    ⟨⟨"bob", by decide, "bob", rfl⟩, .status, .driven .reading .idle⟩ (by decide +kernel)
  refine ⟨_, _, _, _, hr, by simp [Action.bypasses], written, ?_, ?_, pongs, ?_, status rfl, ?_,
    total, ?_⟩
  all_goals decide +kernel

end

end Engine

end Presence
