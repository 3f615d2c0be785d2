import Presence.Proofs.Engine.Interruptions
import Presence.Proofs.Engine.Openings

/-!
Atomicity of refreshes. An answer of the source replaces all lists of its kind, a failure changes
none. A refresh on demand absorbs two answers in turn and ends at the first failure. A loop that is
stopped leaves no effect of the cycle in progress.
-/

namespace Presence

/-- A failure is returned and changes nothing; an answer replaces all lists of its kind, each
sorted, and none of the other kind. -/
theorem Relationships.absorb_cases (r : Relationships) (kind : RefreshKind)
    (a : Answer (Graph kind)) :
    (∀ f, (r.absorb kind a).1 = .error f ↔ a = .error f) ∧
    (∀ f, a = .error f → (r.absorb kind a).2 = r) ∧
    ∀ g, a = .ok g → (r.absorb kind a).1 = .ok g.size ∧
      (∀ k, ((r.absorb kind a).2.lists kind).get? k = (g.get? k).map Name.sortedSet) ∧
      ∀ k, k ≠ kind → (r.absorb kind a).2.lists k = r.lists k := by
  refine ⟨fun f => ?_, ?_, ?_⟩
  · cases a <;> simp [absorb]
  · rintro f rfl
    rfl
  · rintro g rfl
    refine ⟨rfl, fun k => ?_, fun k hk => lists_refresh_other hk⟩
    show ((r.refresh kind g).lists kind).get? k = _
    rw [lists_refresh, Table.get?_mapValues]

namespace Engine

/-! ### On demand -/

/-- The future of a refresh on demand, from a state in which it waits for the friend lists: the
effect of each answer, after any actions that are not about the call. -/
structure RefreshesInTurn (e : Engine) (t : Nat) : Prop where
  /-- A failure of the first fetch is the result and changes no list. -/
  friendsFailed : ∀ f,
    (e.step (.friendsAnswered t (.error f))).2 = [.answered t (.failed f.asPresence)] ∧
    (e.step (.friendsAnswered t (.error f))).1.relations = e.relations ∧
    ∀ cs b, ((e.step (.friendsAnswered t (.error f))).1.run cs).1.step (.partiesAnswered t b) =
      (((e.step (.friendsAnswered t (.error f))).1.run cs).1, [])
  /-- Friend lists are replaced, without a result yet. -/
  friendsTaken : ∀ g, (e.step (.friendsAnswered t (.ok g))).2 = [] ∧
    (e.step (.friendsAnswered t (.ok g))).1.relations = e.relations.refresh .friends g
  /-- A failure of the second fetch is the result and changes no list. -/
  partiesFailed : ∀ g cs, (∀ c ∈ cs, c.concerns t = false) → ∀ e',
    ((e.step (.friendsAnswered t (.ok g))).1.run cs).1 = e' → ∀ f,
    (e'.step (.partiesAnswered t (.error f))).2 = [.answered t (.failed f.asPresence)] ∧
    (e'.step (.partiesAnswered t (.error f))).1.relations = e'.relations
  /-- Member lists are replaced, and the result has both counts. -/
  partiesTaken : ∀ g cs, (∀ c ∈ cs, c.concerns t = false) → ∀ e',
    ((e.step (.friendsAnswered t (.ok g))).1.run cs).1 = e' → ∀ g',
    (e'.step (.partiesAnswered t (.ok g'))).2 = [.answered t (.refreshed g.size g'.size)] ∧
    (e'.step (.partiesAnswered t (.ok g'))).1.relations = e'.relations.refresh .parties g'

section
variable {e : Engine} {t : Nat}

theorem friendsAnswered_error (h : e.calls.get? t = some .refreshFriends) (f : SourceFailure) :
    e.step (.friendsAnswered t (.error f)) = e.answer t (.failed f.asPresence) := by
  simp [step, friendsAnswered, h, Relationships.absorb]

theorem friendsAnswered_ok (h : e.calls.get? t = some .refreshFriends) (g : Graph .friends) :
    e.step (.friendsAnswered t (.ok g)) =
      ((e.withRelations (e.relations.refresh .friends g)).await t (.refreshParties g.size), []) := by
  simp [step, friendsAnswered, h, Relationships.absorb]

theorem partiesAnswered_error {n : Nat} (h : e.calls.get? t = some (.refreshParties n))
    (f : SourceFailure) :
    e.step (.partiesAnswered t (.error f)) = e.answer t (.failed f.asPresence) := by
  simp [step, partiesAnswered, h, Relationships.absorb]

theorem partiesAnswered_ok {n : Nat} (h : e.calls.get? t = some (.refreshParties n))
    (g : Graph .parties) :
    e.step (.partiesAnswered t (.ok g)) =
      (e.withRelations (e.relations.refresh .parties g)).answer t (.refreshed n g.size) := by
  simp [step, partiesAnswered, h, Relationships.absorb]

theorem partiesAnswered_none (h : e.calls.get? t = none) (b : Answer (Graph .parties)) :
    e.step (.partiesAnswered t b) = (e, []) := by
  simp [step, partiesAnswered, h]

theorem refreshesInTurn (h : e.calls.get? t = some .refreshFriends) (ht : t < e.tickets) :
    RefreshesInTurn e t := by
  have waiting (g : Graph .friends) {cs : List Action} (hcs : ∀ c ∈ cs, c.concerns t = false) :
      ((e.step (.friendsAnswered t (.ok g))).1.run cs).1.calls.get? t =
        some (.refreshParties g.size) := by
    rw [friendsAnswered_ok h]
    have asked : ((e.withRelations (e.relations.refresh .friends g)).await t
        (.refreshParties g.size)).calls.get? t = some (.refreshParties g.size) := by
      simp [await, Table.get?_insert]
    have idle : NotSubmitting ((e.withRelations (e.relations.refresh .friends g)).await t
        (.refreshParties g.size)) t := by
      intro c hc
      cases asked.symm.trans hc
      rfl
    exact (run_idle idle ht hcs).1.trans asked
  constructor
  case friendsFailed =>
    intro f
    rw [friendsAnswered_error h]
    refine ⟨rfl, rfl, fun cs b => partiesAnswered_none ?_ b⟩
    have gone : (e.answer t (.failed f.asPresence)).1.calls.get? t = none := by
      simp [answer, Table.get?_erase]
    exact (run_over gone ht cs).1
  case friendsTaken =>
    intro g
    rw [friendsAnswered_ok h]
    exact ⟨rfl, rfl⟩
  case partiesFailed =>
    rintro g cs hcs _ rfl f
    rw [partiesAnswered_error (waiting g hcs)]
    exact ⟨rfl, rfl⟩
  case partiesTaken =>
    rintro g cs hcs _ rfl g'
    rw [partiesAnswered_ok (waiting g hcs)]
    exact ⟨rfl, rfl⟩

/-- A new call of `refreshNow` waits for its first answer. -/
theorem refreshNow_inTurn {bs : List Action} (hb : ∀ b ∈ bs, b.concerns e.tickets = false) :
    RefreshesInTurn ((e.step .refreshNow).1.run bs).1 e.tickets := by
  have asked : (e.step .refreshNow).1.calls.get? e.tickets = some .refreshFriends := by
    simp [step, withTicket, await, Table.get?_insert]
  have older : e.tickets < (e.step .refreshNow).1.tickets := Nat.lt_succ_self _
  have idle : NotSubmitting (e.step .refreshNow).1 e.tickets := by
    intro c hc
    cases asked.symm.trans hc
    rfl
  exact refreshesInTurn ((run_idle idle older hb).1.trans asked)
    (Nat.lt_of_lt_of_le older (run_tickets_le _ bs))

/-! ### Loops -/

theorem metrics_stopLoop (kind : RefreshKind) : (e.stopLoop kind).metrics = e.metrics := by
  unfold stopLoop
  split
  · cases kind <;> rfl
  · rfl

theorem relations_stopLoop (kind : RefreshKind) : (e.stopLoop kind).relations = e.relations := by
  unfold stopLoop
  split <;> rfl

/-- A shutdown changes neither lists nor counters. -/
theorem step_stops {a : Action} {kind : RefreshKind} (h : a.Stops ∨ a = .stopLoop kind) :
    (e.step a).1.relations = e.relations ∧ (e.step a).1.metrics = e.metrics := by
  obtain (rfl | rfl) | rfl := h
  · unfold step withTicket stop
    dsimp only
    split <;> exact ⟨rfl, rfl⟩
  · exact ⟨rfl, rfl⟩
  · exact ⟨relations_stopLoop kind, metrics_stopLoop kind⟩

theorem run_stops {as : List Action} (kind : RefreshKind)
    (h : ∀ a ∈ as, a.Stops ∨ a = .stopLoop kind) :
    (e.run as).1.relations = e.relations ∧ (e.run as).1.metrics = e.metrics := by
  induction as generalizing e with
  | nil => exact ⟨rfl, rfl⟩
  | cons a as ih =>
    obtain ⟨hr, hm⟩ := step_stops (e := e) (h a List.mem_cons_self)
    obtain ⟨hr', hm'⟩ := ih (e := (e.step a).1) fun b hb => h b (List.mem_cons_of_mem a hb)
    exact ⟨hr'.trans hr, hm'.trans hm⟩

theorem Action.Stops.apart {a : Action} (h : a.Stops) (kind : RefreshKind) :
    a.answersLoop kind = false ∧ a.isCycle kind = false := by
  rcases h with rfl | rfl <;> exact ⟨rfl, rfl⟩

/-- A run in which a loop is stopped before its fetch is answered agrees with the run without the
loop's cycles, up to the loop. -/
theorem run_interrupted {before : List Action} (after : List Action) {s : Action}
    {kind : RefreshKind} (hs : s.Stops) (hb : ∀ a ∈ before, a.answersLoop kind = false) :
    ∃ l, Alike ((e.run (before ++ s :: after)).1.loop kind) l ∧
      (e.run ((before ++ s :: after).filter fun a => !a.isCycle kind)).1 =
        (e.run (before ++ s :: after)).1.withLoop kind l := by
  have unanswered : ∀ a ∈ before ++ [s], a.answersLoop kind = false := by
    intro a ha
    rcases List.mem_append.1 ha with ha | ha
    · exact hb a ha
    · rw [List.mem_singleton.1 ha]
      exact (hs.apart kind).1
  have told : (e.run (before ++ [s])).1.shutdown = true := by
    rw [run_append]
    rcases hs with rfl | rfl
    · show ((e.run before).1.step .shutdown).1.shutdown = true
      unfold step withTicket stop
      dsimp only
      split <;> rfl
    · rfl
  -- before the signal no fetch is answered, and after it answers are ignored
  obtain ⟨l₁, hl₁, first⟩ := run_alike (before ++ [s]) (.refl (e.loop kind)) (.inr unanswered)
  obtain ⟨l₂, hl₂, second⟩ := run_alike after hl₁ (.inl told)
  rw [withLoop_loop] at first
  rw [← first] at second
  have parts (cs ds : List Action) : (e.run (cs ++ ds)).1 = ((e.run cs).1.run ds).1 := by
    rw [run_append]
  rw [← parts] at hl₂
  rw [← parts, ← parts, ← List.filter_append] at second
  rw [show before ++ s :: after = (before ++ [s]) ++ after by simp]
  exact ⟨l₂, hl₂, second⟩

end

/-- Absorbing a failure returns it and changes no list; absorbing an answer replaces all lists of
its kind and none of the other. A refresh on demand absorbs the friend lists if they are answered
and the member lists only after that; each failure is its result and changes no list at that moment.
If a loop is stopped before its fetch is answered, the lists and counters after the run are those of
the run without the loop's cycles. -/
theorem refreshes_whole_or_not_at_all :
    (∀ (r : Relationships) (kind : RefreshKind) (a : Answer (Graph kind)),
      (∀ f, (r.absorb kind a).1 = .error f ↔ a = .error f) ∧
      (∀ f, a = .error f → (r.absorb kind a).2 = r) ∧
      ∀ g, a = .ok g → (r.absorb kind a).1 = .ok g.size ∧
        (∀ k, ((r.absorb kind a).2.lists kind).get? k = (g.get? k).map Name.sortedSet) ∧
        ∀ k, k ≠ kind → (r.absorb kind a).2.lists k = r.lists k) ∧
    (∀ (e : Engine) (bs : List Action), (∀ b ∈ bs, b.concerns e.tickets = false) →
      (e.step .refreshNow).2 = [] ∧ (e.step .refreshNow).1.relations = e.relations ∧
      RefreshesInTurn ((e.step .refreshNow).1.run bs).1 e.tickets) ∧
    ∀ (e : Engine) (kind : RefreshKind) (before after : List Action) (s : Action), s.Stops →
      (∀ a ∈ before, a.answersLoop kind = false) → ∀ as, as = before ++ s :: after →
      (e.run as).1.relations = (e.run (as.filter fun a => !a.isCycle kind)).1.relations ∧
      (e.run as).1.metrics = (e.run (as.filter fun a => !a.isCycle kind)).1.metrics ∧
      ((∀ a ∈ before ++ after, a.isCycle kind = true ∨ a = .stopLoop kind) →
        (e.run as).1.relations = e.relations ∧ (e.run as).1.metrics = e.metrics) := by
  refine ⟨Relationships.absorb_cases, fun e bs hb => ⟨rfl, rfl, refreshNow_inTurn hb⟩, ?_⟩
  rintro e kind before after s hs hb _ rfl
  obtain ⟨l, hl, same⟩ := run_interrupted (e := e) after hs hb
  have relations := relations_withLoop (e.run (before ++ s :: after)).1 kind l
  have metrics := metrics_withLoop hl
  rw [← same] at relations metrics
  refine ⟨relations.symm, metrics.symm, fun alone => ?_⟩
  rw [← relations, ← metrics]
  refine run_stops kind fun a ha => ?_
  obtain ⟨hin, hc⟩ := List.mem_filter.1 ha
  have stops (other : a ∈ before ++ after) : a = .stopLoop kind :=
    (alone a other).resolve_left (by simpa using hc)
  rcases List.mem_append.1 hin with hin | hin
  · exact .inr (stops (List.mem_append_left _ hin))
  · rcases List.mem_cons.1 hin with rfl | hin
    · exact .inl hs
    · exact .inr (stops (List.mem_append_right _ hin))

/-- A panic keeps the old lists; on demand, the friend lists are replaced although the parties fail,
with a session opened in between; and an answer after shutdown is ignored. -/
theorem refreshes_whole_or_not_at_all_each :
    ∃ (ann bob : User) (e : Engine) (g : Graph .friends), start Config.standard = .ok e ∧
      g = .ofList [(ann, [bob, ann, bob])] ∧
      (Relationships.empty.absorb .friends (.error .crashed)).2 = .empty ∧
      (let e' := ((e.step .refreshNow).1.run [.openStatus ann]).1
        let e'' := ((e'.step (.friendsAnswered 0 (.ok g))).1.run [.dispatch]).1
        (e'.step (.friendsAnswered 0 (.ok g))).1.relations = e'.relations.refresh .friends g ∧
        (e''.step (.partiesAnswered 0 (.error .crashed))).2 = [.answered 0 (.failed .sourceCrashed)] ∧
        (e''.step (.partiesAnswered 0 (.error .crashed))).1.relations = e''.relations) ∧
      let as : List Action :=
        [.wakeLoop .friends, .shutdown, .loopAnswered .friends (.ok g), .stopLoop .friends]
      (e.run as).1.relations = e.relations ∧ (e.run as).1.metrics = e.metrics := by
  obtain ⟨once, now, loops⟩ := refreshes_whole_or_not_at_all
  refine ⟨⟨"ann", by decide, "ann", rfl⟩, ⟨"bob", by decide, "bob", rfl⟩, _, _, rfl, rfl,
    (once .empty .friends (.error .crashed)).2.1 .crashed rfl, ?_, ?_⟩
  · obtain ⟨-, -, turns⟩ := now (fresh Config.standard ⟨Config.standard.statusTtl.nanos, .empty⟩)
      [.openStatus ⟨"ann", by decide, "ann", rfl⟩] (by simp [Action.concerns])
    exact ⟨(turns.friendsTaken _).2,
      turns.partiesFailed _ [.dispatch] (by simp [Action.concerns]) _ rfl .crashed⟩
  · exact (loops _ .friends [.wakeLoop .friends]
      [.loopAnswered .friends (.ok _), .stopLoop .friends] .shutdown (.inl rfl)
      (by simp [Action.answersLoop]) _ rfl).2.2 (by simp [Action.isCycle])

end Engine

end Presence
