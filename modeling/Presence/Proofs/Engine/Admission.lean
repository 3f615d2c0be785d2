import Presence.Proofs.Engine.Isolation

/-!
Calls for sessions up to the decision of the source. A call that fails has changed nothing but its
ticket and its entry among the pending calls, so it can be removed from the run (`Untraced`). A call
that was granted does not fail later (`Admitted`).
-/

namespace Presence

/-- The answer to call `t`. -/
def Note.isAnswerTo (t : Nat) : Note → Bool
  | .answered u _ => u = t
  | _ => false

/-- The result of `authorize` for an answer of the source. -/
def CallResult.ofLookup (p : Party) (u : User) : Answer (Option Membership) → CallResult
  | .ok (some m) => .authorized m
  | .ok none => .failed (.notPartyMember p u)
  | .error f => .failed f.asPresence

namespace Engine

/-- The notes without the answer to call `t`. -/
def others (t : Nat) (ns : List Note) : List Note := ns.filter fun n => !n.isAnswerTo t

/-- Calls for a session or for permission to open one. -/
def forSession : Call → Bool
  | .openStatus _ => true
  | .openParty .. => true
  | .lookup .. => true
  | _ => false

section
variable {a b : Action} {e e' : Engine} {out ns rest : List Note} {t : Nat}

theorem others_append : others t (ns ++ out) = others t ns ++ others t out :=
  List.filter_append ..

theorem others_of_notMem (h : ∀ r, .answered t r ∉ ns) : others t ns = ns := by
  refine List.filter_eq_self.2 fun n hn => ?_
  cases n with
  | answered u r =>
    have hu : u ≠ t := fun he => h r (he ▸ hn)
    simp [Note.isAnswerTo, hu]
  | _ => rfl

theorem others_answer (r : CallResult) : others t [.answered t r] = [] := by
  simp [others, Note.isAnswerTo]

theorem without_of_none (h : e.calls.get? t = none) : e.without t = e := by
  rw [without, Table.erase_of_get? h]

/-! ### Calls that are not pending -/

/-- The only action about a call for a session, apart from dropping it, is the answer to its
lookup. -/
theorem step_concerned (hb : b.concerns t = true) (hd : b ≠ .dropCall t)
    (hc : ∀ c, e.calls.get? t = some c → forSession c = true) :
    (∃ p u opens g, e.calls.get? t = some (.lookup p u opens) ∧ b = .lookupAnswered t g) ∨
      e.step b = (e, []) := by
  -- the other answers are to calls that open no session
  cases b with
  | dropCall u =>
    obtain rfl : u = t := of_decide_eq_true hb
    exact absurd rfl hd
  | lookupAnswered u g =>
    obtain rfl : u = t := of_decide_eq_true hb
    cases hu : e.calls.get? u with
    | none => exact .inr (by simp [step, lookupAnswered, hu])
    | some c =>
      cases c with
      | lookup p v opens => exact .inl ⟨p, v, opens, g, rfl, rfl⟩
      | _ => exact .inr (by simp [step, lookupAnswered, hu])
  | friendsAnswered u g =>
    obtain rfl : u = t := of_decide_eq_true hb
    have nothing : e.friendsAnswered u g = (e, []) := by
      unfold friendsAnswered
      split
      · cases hc _ ‹_›
      · rfl
    exact .inr nothing
  | partiesAnswered u g =>
    obtain rfl : u = t := of_decide_eq_true hb
    have nothing : e.partiesAnswered u g = (e, []) := by
      unfold partiesAnswered
      split
      · cases hc _ ‹_›
      · rfl
    exact .inr nothing
  | stopped u =>
    obtain rfl : u = t := of_decide_eq_true hb
    have nothing : e.stopped u = (e, []) := by
      unfold stopped
      split
      · cases hc _ ‹_›
      · rfl
    exact .inr nothing
  | _ => cases hb

theorem dropCall_plain (h : ∀ s, e.calls.get? t ≠ some (.openStatus s)) :
    e.dropCall t = { e with
      calls := e.calls.erase t
      queue := e.queue.abandon (.call t) } := by
  unfold dropCall
  split
  · exact absurd ‹_› (h _)
  · rfl

/-- A dropped call is removed without an answer. -/
theorem step_dropCall (e : Engine) (t : Nat) :
    (e.step (.dropCall t)).1.calls.get? t = none ∧ (e.step (.dropCall t)).2 = [] := by
  have gone : (e.dropCall t).calls = e.calls.erase t := by
    unfold dropCall
    split <;> rfl
  refine ⟨?_, rfl⟩
  rw [step, gone, Table.get?_erase, if_pos rfl]

/-- A call that is not pending gets no answer. -/
theorem step_over (h : e.calls.get? t = none) (ht : t < e.tickets) (b : Action) :
    (e.step b).1.calls.get? t = none ∧ ∀ r, .answered t r ∉ (e.step b).2 := by
  cases hb : b.concerns t with
  | false =>
    obtain ⟨hk, hq⟩ := step_idle ht hb fun c hc => by simp [h] at hc
    exact ⟨hk.trans h, hq⟩
  | true =>
    by_cases hd : b = .dropCall t
    · subst hd
      obtain ⟨hk, hq⟩ := step_dropCall e t
      exact ⟨hk, by simp [hq]⟩
    · rcases step_concerned (e := e) hb hd fun c hc => by simp [h] at hc with
        ⟨_, _, _, _, hc, -⟩ | hs
      · simp [h] at hc
      · rw [hs]
        exact ⟨h, by simp⟩

theorem run_over (h : e.calls.get? t = none) (ht : t < e.tickets) (bs : List Action) :
    (e.run bs).1.calls.get? t = none ∧ ∀ r, .answered t r ∉ (e.run bs).2 :=
  run_called (P := fun e ns => e.calls.get? t = none ∧ ∀ r, .answered t r ∉ ns) [] ht
    ⟨h, by simp⟩ fun b _ ht ⟨hk, hq⟩ => by
      obtain ⟨hk', hq'⟩ := step_over hk ht b
      exact ⟨hk', fun r hr => (List.mem_append.1 hr).elim (hq r) (hq' r)⟩

/-! ### Pending lookups -/

/-- If call `t` is pending, it is a lookup; `opens` bounds whether it may open a session. -/
def Asked (opens : Bool) (e : Engine) (t : Nat) : Prop :=
  ∀ c, e.calls.get? t = some c → ∃ p u o, c = .lookup p u o ∧ (o = true → opens = true)

/-- The source's answer grants call `t`, and the engine is not shutting down. -/
def Grants (e : Engine) (t : Nat) (b : Action) : Prop :=
  ∃ p u m, e.calls.get? t = some (.lookup p u true) ∧ b = .lookupAnswered t (.ok (some m)) ∧
    e.shutdown = false

/-- The run of `bs` from the engine without call `t` is the run with it, with the call removed from
its result. -/
def Hidden (e : Engine) (t : Nat) (bs : List Action) : Prop :=
  (e.without t).run bs = ((e.run bs).1.without t, others t (e.run bs).2)

variable {opens : Bool}

theorem Asked.idle (h : Asked opens e t) : NotSubmitting e t := by
  intro c hc
  obtain ⟨p, u, o, rfl, -⟩ := h c hc
  rfl

/-- The answer to a lookup of `authorize`. -/
theorem step_lookupAnswered {p : Party} {u : User} (hc : e.calls.get? t = some (.lookup p u false))
    (g : Answer (Option Membership)) :
    e.step (.lookupAnswered t g) = e.answer t (.ofLookup p u g) := by
  show e.lookupAnswered t g = _
  unfold lookupAnswered
  rw [hc]
  cases g with
  | error f => rfl
  | ok found => cases found <;> rfl

/-- An answer that does not grant the call removes it; a call that may open a session fails. -/
theorem lookupAnswered_eq {p : Party} {u : User} {o : Bool} {g : Answer (Option Membership)}
    (hc : e.calls.get? t = some (.lookup p u o)) (hg : ¬ Grants e t (.lookupAnswered t g)) :
    ∃ r, e.lookupAnswered t g = e.answer t r ∧ (o = true → ∃ err, r = .failed err) := by
  unfold lookupAnswered
  rw [hc]
  cases g with
  | error f => exact ⟨_, rfl, fun _ => ⟨_, rfl⟩⟩
  | ok found =>
    cases found with
    | none => exact ⟨_, rfl, fun _ => ⟨_, rfl⟩⟩
    | some m =>
      cases o with
      | false => exact ⟨_, rfl, nofun⟩
      | true =>
        cases hs : e.shutdown with
        | true => exact ⟨.failed .shutDown, by simp [startParty, hs], fun _ => ⟨_, rfl⟩⟩
        | false => exact absurd ⟨p, u, m, hc, rfl, hs⟩ hg

/-- A granted call submits its `connected` event. -/
theorem step_granted {p : Party} {u : User} (hc : e.calls.get? t = some (.lookup p u true))
    (hs : e.shutdown = false) (m : Membership) :
    e.step (.lookupAnswered t (.ok (some m))) =
      (e.await t (.openParty m.party m.user)).submit (.call t) (Event.mk m.user .connected) := by
  simp [step, lookupAnswered, hc, startParty, hs]

theorem step_asked (h : Asked opens e t) (ht : t < e.tickets) (hg : ¬ Grants e t b) :
    (e.without t).step b = ((e.step b).1.without t, others t (e.step b).2) ∧
      ((e.step b).1.calls.get? t = e.calls.get? t ∧ (∀ r, .answered t r ∉ (e.step b).2) ∨
        (e.step b).1.calls.get? t = none) := by
  cases hb : b.concerns t with
  | false =>
    obtain ⟨hk, hq⟩ := step_idle ht hb h.idle
    rw [step_without h.idle ht hb, others_of_notMem hq]
    exact ⟨rfl, .inl ⟨hk, hq⟩⟩
  | true =>
    have gone : (e.without t).calls.get? t = none := by simp [without, Table.get?_erase]
    have kind (c : Call) (hc : e.calls.get? t = some c) : forSession c = true := by
      obtain ⟨p, u, o, rfl, -⟩ := h c hc
      rfl
    by_cases hd : b = .dropCall t
    · subst hd
      have plain := dropCall_plain fun s hc => by simpa [NotSubmitting, submits] using h.idle _ hc
      have plain' := dropCall_plain (e := e.without t) (t := t) fun s hc => by simp [gone] at hc
      have same : (e.without t).dropCall t = (e.dropCall t).without t := by
        rw [plain, plain']
        rfl
      exact ⟨congrArg (·, []) same, .inr (step_dropCall e t).1⟩
    · rcases step_concerned hb hd kind with ⟨p, u, o, g, hc, rfl⟩ | hs
      · obtain ⟨r, hr, -⟩ := lookupAnswered_eq hc hg
        have nothing : (e.without t).lookupAnswered t g = (e.without t, []) := by
          simp [lookupAnswered, gone]
        simp only [step, hr, nothing]
        exact ⟨by simp [answer, without, others_answer], .inr (by simp [answer, Table.get?_erase])⟩
      · have nothing : (e.without t).step b = (e.without t, []) := by
          refine (step_concerned hb hd fun c hc => by simp [gone] at hc).resolve_left ?_
          rintro ⟨_, _, _, _, hc, -⟩
          simp [gone] at hc
        rw [hs, nothing]
        exact ⟨rfl, .inl ⟨rfl, by simp⟩⟩

theorem hidden_of_none (h : e.calls.get? t = none) (ht : t < e.tickets) (bs : List Action) :
    Hidden e t bs := by
  obtain ⟨hk, hq⟩ := run_over h ht bs
  rw [Hidden, without_of_none h, without_of_none hk, others_of_notMem hq]

theorem Hidden.cons {bs : List Action}
    (hs : (e.without t).step b = ((e.step b).1.without t, others t (e.step b).2))
    (h : Hidden (e.step b).1 t bs) : Hidden e t (b :: bs) := by
  rw [Hidden] at h ⊢
  simp only [run, andThen, hs, h, others_append]

/-! ### Granted calls -/

/-- If call `t` is pending, it waits for the submission of its `connected` event. -/
def Admitted (e : Engine) (t : Nat) : Prop :=
  ∀ c, e.calls.get? t = some c → (∃ s, c = .openStatus s) ∨ ∃ p u, c = .openParty p u

/-- The continuation of a granted call removes it with a result other than a failure. -/
theorem Resumed.through {ok : Bool} (h : Resumed e (.call t) ok out e') :
    (e'.calls = e.calls ∧ out = []) ∨
      e'.calls.get? t = none ∧ (∃ r, .answered t r ∈ out) ∧
        ∀ err, .answered t (.failed err) ∉ out := by
  cases h with
  | nobody => exact .inl ⟨rfl, rfl⟩
  | _ => exact .inr ⟨by simp [Table.get?_erase], ⟨_, List.mem_singleton.2 rfl⟩, by simp⟩

/-- A submission returns in the same step or its producer is appended to the waiting ones. -/
theorem submit_resumed (e : Engine) (p : Producer) (ev : Event) :
    e.submit p ev = ({ e with queue := e.queue.lineUp p ev e.now }, []) ∨
      ∃ queue ok rest, Resumed { e with queue } p ok rest (e.submit p ev).1 ∧
        ∀ t r, .answered t r ∈ (e.submit p ev).2 ↔ .answered t r ∈ rest := by
  unfold submit Queue.submit
  cases e.queue.events.trySend ev with
  | ok c =>
    exact .inr ⟨e.queue.accept ev, true, _, resume_resumed _ p true, fun t r => by
      simp [andThen, submitted]⟩
  | error d =>
    cases d with
    | closed =>
      exact .inr ⟨e.queue.drop, false, _, resume_resumed _ p false, fun t r => by
        simp [andThen, submitted]⟩
    | full => exact .inl rfl

theorem submit_admitted (h : Admitted e t) (ev : Event) :
    Admitted (e.submit (.call t) ev).1 t ∧
      ∀ err, .answered t (.failed err) ∉ (e.submit (.call t) ev).2 := by
  rcases submit_resumed e (.call t) ev with hw | ⟨queue, ok, rest, hr, ha⟩
  · rw [hw]
    exact ⟨h, by simp⟩
  · rcases hr.through with ⟨hk, hn⟩ | ⟨hk, -, hn⟩
    · exact ⟨fun c hc => h c (hk ▸ hc), fun err => by simp [ha, hn]⟩
    · exact ⟨fun c hc => by simp [hk] at hc, fun err => by simp [ha, hn]⟩

/-- A step keeps `Admitted` and does not fail the call. -/
theorem step_admitted (h : Admitted e t) (ht : t < e.tickets) (b : Action) :
    Admitted (e.step b).1 t ∧ ∀ err, .answered t (.failed err) ∉ (e.step b).2 := by
  have kind (c : Call) (hc : e.calls.get? t = some c) : forSession c = true := by
    rcases h c hc with ⟨s, rfl⟩ | ⟨p, u, rfl⟩ <;> rfl
  cases hb : b.concerns t with
  | false =>
    have begins : Admitted (ticketed b e) t := fun c hc => h c (by rwa [calls_ticketed] at hc)
    refine step_apart (P := fun e ns => Admitted e t ∧ ∀ err, .answered t (.failed err) ∉ ns) ht hb
      ⟨begins, by simp⟩ fun {e out e' ns} hap hm ⟨hk, hn⟩ => ?_
    have quiet (ho : ∀ err, .answered t (.failed err) ∉ out) (err : PresenceError) :
        .answered t (.failed err) ∉ ns ++ out :=
      fun hin => (List.mem_append.1 hin).elim (hn err) (ho err)
    cases hm.attends hap with
    | waits hk' hq => exact ⟨fun c hc => hk c (hk' ▸ hc), quiet fun err => hq _⟩
    | resumed hr hc _ _ ho =>
      rcases hr.through with ⟨hk', hn'⟩ | ⟨hk', -, hn'⟩
      · exact ⟨fun c hc' => hk c (hc ▸ hk' ▸ hc'), quiet fun err => by simp [ho, hn']⟩
      · exact ⟨fun c hc' => by simp [hk'] at hc', quiet fun err => by simp [ho, hn']⟩
  | true =>
    by_cases hd : b = .dropCall t
    · subst hd
      obtain ⟨hk, hq⟩ := step_dropCall e t
      exact ⟨fun c hc => by simp [hk] at hc, by simp [hq]⟩
    · rcases step_concerned hb hd kind with ⟨p, u, o, g, hc, -⟩ | hs
      · rcases h _ hc with ⟨s, he⟩ | ⟨p, u, he⟩ <;> cases he
      · rw [hs]
        exact ⟨h, by simp⟩

theorem run_admitted (h : Admitted e t) (ht : t < e.tickets) (bs : List Action) :
    ∀ err, .answered t (.failed err) ∉ (e.run bs).2 :=
  (run_called (P := fun e ns => Admitted e t ∧ ∀ err, .answered t (.failed err) ∉ ns) [] ht
    ⟨h, by simp⟩ fun b _ ht ⟨hk, hn⟩ => by
      obtain ⟨hk', hn'⟩ := step_admitted hk ht b
      exact ⟨hk', fun err hin => (List.mem_append.1 hin).elim (hn err) (hn' err)⟩).2

theorem Grants.admitted (h : Grants e t b) :
    Admitted (e.step b).1 t ∧ ∀ err, .answered t (.failed err) ∉ (e.step b).2 := by
  obtain ⟨p, u, m, hc, rfl, hs⟩ := h
  rw [step_granted hc hs]
  refine submit_admitted (fun c hc => ?_) _
  obtain rfl : .openParty m.party m.user = c := by simpa [await, Table.get?_insert] using hc
  exact .inr ⟨_, _, rfl⟩

/-! ### Failed calls -/

/-- A call that is at most a pending lookup is hidden from a run, or is granted in it and does not
fail. -/
theorem run_asked (h : Asked opens e t) (ht : t < e.tickets) (bs : List Action) :
    Hidden e t bs ∨ opens = true ∧ ∀ err, .answered t (.failed err) ∉ (e.run bs).2 := by
  induction bs generalizing e with
  | nil => exact .inl rfl
  | cons b bs ih =>
    have ht' := Nat.lt_of_lt_of_le ht (step_tickets_le e b)
    by_cases hg : Grants e t b
    · obtain ⟨p, u, m, hc, -⟩ := id hg
      obtain ⟨p, u, o, he, ho⟩ := h _ hc
      cases he
      obtain ⟨hk, hn⟩ := hg.admitted
      exact .inr ⟨ho rfl, fun err hin =>
        (List.mem_append.1 hin).elim (hn err) (run_admitted hk ht' bs err)⟩
    · obtain ⟨hs, ⟨hk, hq⟩ | hk⟩ := step_asked h ht hg
      · rcases ih (fun c hc => h c (hk ▸ hc)) ht' with hh | ⟨ho, hn⟩
        · exact .inl (hh.cons hs)
        · exact .inr ⟨ho, fun err hin => (List.mem_append.1 hin).elim (hq _) (hn err)⟩
      · exact .inl ((hidden_of_none hk ht' bs).cons hs)

/-- The engine with its ticket counter advanced. -/
def skip (e : Engine) : Engine := { e with tickets := e.tickets + 1 }

/-- The run of `a :: bs` is that of `bs` from the next ticket, but for the call's own answer. -/
def Untraced (e : Engine) (a : Action) (bs : List Action) : Prop :=
  (skip e).run bs = ((e.run (a :: bs)).1.without e.tickets, others e.tickets (e.run (a :: bs)).2)

theorem Hidden.untraced {bs : List Action} (h : Hidden (e.step a).1 e.tickets bs)
    (hs : (e.step a).1.without e.tickets = skip e) (hn : others e.tickets (e.step a).2 = []) :
    Untraced e a bs := by
  rw [Hidden, hs] at h
  simp only [Untraced, run, andThen, h, others_append, hn, List.nil_append]

/-- The call has only taken its ticket, and is answered or a pending lookup. -/
structure Begins (opens : Bool) (e : Engine) (a : Action) : Prop where
  asked : Asked opens (e.step a).1 e.tickets
  same : (e.step a).1.without e.tickets = skip e
  told : (e.step a).2 = [] ∨
    (e.step a).1.calls.get? e.tickets = none ∧ ∃ r, (e.step a).2 = [.answered e.tickets r]

theorem begins_of_answer (hf : e.calls.get? e.tickets = none) {r : CallResult}
    (hs : e.step a = (skip e).answer e.tickets r) : Begins opens e a := by
  have gone : (e.step a).1.calls.get? e.tickets = none := by
    rw [hs, answer, Table.get?_erase, if_pos rfl]
  refine ⟨fun c hc => by simp [gone] at hc, ?_, .inr ⟨gone, r, by rw [hs, answer]⟩⟩
  rw [without_of_none gone, hs]
  simp [answer, skip, Table.erase_of_get? hf]

theorem begins_of_lookup (hf : e.calls.get? e.tickets = none) {p : Party} {u : User} {o : Bool}
    (hs : e.step a = ((skip e).await e.tickets (.lookup p u o), [])) (ho : o = true → opens = true) :
    Begins opens e a := by
  refine ⟨fun c hc => ?_, ?_, .inl (by rw [hs])⟩
  · obtain rfl : .lookup p u o = c := by simpa [hs, await, Table.get?_insert] using hc
    exact ⟨p, u, o, rfl, ho⟩
  · rw [hs]
    simp [await, without, skip, Table.erase_insert_self, Table.erase_of_get? hf]

/-- A call of `authorize` begins as a lookup. -/
theorem authorize_begins (hf : e.calls.get? e.tickets = none) (p : Party) (u : User) (o : Bool)
    (hs : e.step a = (skip e).authorize e.tickets p u o) (ho : o = true → opens = true) :
    Begins opens e a := by
  unfold authorize at hs
  split at hs
  · exact begins_of_answer hf hs
  · exact begins_of_lookup hf hs ho

/-- A call for a session begins as a lookup, or is granted in its first step. -/
theorem opening_begins (hf : e.calls.get? e.tickets = none) (ha : a.isOpening = true) :
    Begins true e a ∨
      Admitted (e.step a).1 e.tickets ∧
        ∀ err, .answered e.tickets (.failed err) ∉ (e.step a).2 := by
  cases a with
  | openStatus u =>
    have begins : e.step (.openStatus u) = (skip e).openStatus e.tickets u := rfl
    cases hs : (skip e).shutdown with
    | true =>
      refine .inl (begins_of_answer hf (r := .failed .shutDown) ?_)
      rw [begins, openStatus, if_pos hs]
    | false =>
      refine .inr ?_
      rw [begins]
      unfold openStatus
      rw [if_neg (by simp [hs])]
      split
      · exact ⟨fun c hc => by simp [answer, Table.get?_erase] at hc, by simp [answer]⟩
      · have announced (e₁ : Engine) (s : SessionId) :
            Admitted (e₁.await e.tickets (.openStatus s)) e.tickets := fun c hc => by
          obtain rfl : .openStatus s = c := by simpa [await, Table.get?_insert] using hc
          exact .inl ⟨s, rfl⟩
        obtain ⟨hk, hn⟩ := submit_admitted (announced _ _) (Event.mk u .connected)
        exact ⟨hk, fun err hin => hn err (by simpa [andThen] using hin)⟩
  | authorize p u => exact .inl (authorize_begins hf p u false rfl fun _ => rfl)
  | openParty p u => exact .inl (authorize_begins hf p u true rfl id)
  | startParty m =>
    have begins : e.step (.startParty m) = (skip e).startParty e.tickets m := rfl
    cases hs : (skip e).shutdown with
    | true =>
      refine .inl (begins_of_answer hf (r := .failed .shutDown) ?_)
      rw [begins, startParty, if_pos hs]
    | false =>
      refine .inr ?_
      rw [begins, startParty, if_neg (by simp [hs])]
      refine submit_admitted (fun c hc => ?_) _
      obtain rfl : .openParty m.party m.user = c := by simpa [await, Table.get?_insert] using hc
      exact .inr ⟨_, _, rfl⟩
  | _ => cases ha

theorem isCall_of_isOpening (ha : a.isOpening = true) : a.isCall = true := by
  cases a <;> first | rfl | cases ha

/-- A call that begins as a lookup is untraced unless it is granted. -/
theorem Begins.untraced (h : Begins opens e a) (ha : a.isCall = true) (bs : List Action) :
    Untraced e a bs ∨
      opens = true ∧ ∀ err, .answered e.tickets (.failed err) ∉ (e.run (a :: bs)).2 := by
  have ht := lt_tickets_of_isCall (e := e) ha
  have notes : others e.tickets (e.step a).2 = [] := by
    rcases h.told with hn | ⟨-, r, hn⟩
    · rw [hn]
      rfl
    · rw [hn, others_answer]
  rcases h.told with hn | ⟨hk, -⟩
  · rcases run_asked h.asked ht bs with hh | ⟨ho, hq⟩
    · exact .inl (hh.untraced h.same notes)
    · refine .inr ⟨ho, fun err hin => hq err ?_⟩
      simpa [run, andThen, hn] using hin
  · exact .inl ((hidden_of_none hk ht bs).untraced h.same notes)

end

end Engine

end Presence
