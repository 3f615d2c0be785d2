import Presence.Proofs.Engine.Wiring

/-!
The registry over a run. A user is registered with the status session registered last, unless the
user was dismissed since or the session's driver has returned, and stays registered with it while
its line is open. Late steps about a replaced session do not change this.
-/

namespace Presence.Engine

/-! ### Reading a record -/

/-- The standing session of a user after a note. -/
def succession (u : User) (now : Option SessionId) : Note → Option SessionId
  | .registered v s => if v = u then some s else now
  | .dismissed v => if v = u then none else now
  | _ => now

/-- The session registered last for a user, if the user was not dismissed since. -/
def standing (u : User) (ns : List Note) : Option SessionId := ns.foldl (succession u) none

/-- The driver of a session has returned. -/
def Returned (s : SessionId) (ns : List Note) : Prop := ∃ how, .ended s how ∈ ns

/-- Notes without registrations and returns. -/
def Quiet (out : List Note) : Prop :=
  (∀ u now, out.foldl (succession u) now = now) ∧ ∀ s how, .ended s how ∉ out

section
variable {ns out : List Note} {u : User} {s : SessionId}

theorem standing_append : standing u (ns ++ out) = out.foldl (succession u) (standing u ns) :=
  List.foldl_append

theorem Quiet.standing (h : Quiet out) : standing u (ns ++ out) = standing u ns := by
  rw [standing_append, h.1]

theorem returned_append : Returned s (ns ++ out) ↔ Returned s ns ∨ Returned s out := by
  simp [Returned, exists_or]

theorem Quiet.returned (h : Quiet out) : Returned s (ns ++ out) ↔ Returned s ns := by
  rw [returned_append, or_iff_left]
  rintro ⟨how, hn⟩
  exact h.2 s how hn

end

/-! ### Moves and the registry -/

/-- The registrations and returns in the notes of a move, and the registry after it. -/
inductive Turnover (a : Action) (e e' : Engine) : List Note → Prop
  | none {out : List Note} (hq : Quiet out) (hl : ∀ v, e'.board.lookup v = e.board.lookup v) :
      Turnover a e e' out
  | opened (u : User) (hs : ∃ x, e'.session? e.nextSession = some x)
      (hl : ∀ v, e'.board.lookup v =
        if v = u then some ⟨e.nextSession, lineOf e.nextSession⟩ else e.board.lookup v) :
      Turnover a e e' [.registered u e.nextSession]
  | dismissed (u : User)
      (hl : ∀ v, e'.board.lookup v = if v = u then Option.none else e.board.lookup v) :
      Turnover a e e' [.dismissed u]
  | removed (u : User) {s : SessionId} {out : List Note} (hq : Quiet out)
      (hs : lineOf s < e.board.lines.length) (hc : e.board.isClosed (lineOf s) = true)
      (hl : ∀ v, e'.board.lookup v = (e.board.deregisterSession u s).2.lookup v) :
      Turnover a e e' out
  | ended {s : SessionId} {x : Session} (how : SessionEnd) (hx : e.session? s = some x)
      (hl : ∀ v, e'.board.lookup v =
        if x.isParty then e.board.lookup v else (e.board.deregisterSession x.user s).2.lookup v) :
      Turnover a e e' [.ended s how]
  | meddled {out : List Note} (ha : (∃ u, a = .deregister u) ∨ ∃ u s, a = .deregisterSession u s)
      (hq : Quiet out) (hl : ∀ {v h}, e'.board.lookup v = some h → e.board.lookup v = some h) :
      Turnover a e e' out

section
variable {a : Action} {e e' : Engine} {ns out : List Note}

theorem Quiet.append {ms : List Note} (h : Quiet out) (h' : Quiet ms) : Quiet (out ++ ms) :=
  ⟨fun u now => by rw [List.foldl_append, h.1, h'.1],
    fun s how hn => (List.mem_append.1 hn).elim (h.2 s how) (h'.2 s how)⟩

/-- A continuation is quiet. -/
theorem Resumed.quiet {p : Producer} {b : Bool} (h : Resumed e p b out e') : Quiet out := by
  cases h <;> simp [Quiet, succession]

theorem Move.turnover (hm : Move a e out e') (hw : Wired e) : Turnover a e e' out := by
  have silent : Quiet [] := by simp [Quiet]
  cases hm with
  | @entered p ev _ _ _ _ hr =>
    have pre : Quiet [.accepted ev, .returned (some p) true] := by simp [Quiet, succession]
    exact .none (pre.append hr.quiet) hr.keeps.1
  | @refused p ev _ _ _ hr =>
    have pre : Quiet [.gaveUp ev, .returned (some p) false] := by simp [Quiet, succession]
    exact .none (pre.append hr.quiet) hr.keeps.1
  | @timedOut w _ _ _ _ hr =>
    have pre : Quiet [.gaveUp w.event, .returned (some w.producer) false] := by
      simp [Quiet, succession]
    exact .none (pre.append hr.quiet) hr.keeps.1
  | @promoted ev w _ _ _ _ _ _ _ hr =>
    have pre : Quiet [.processed ev e.now, .accepted w.event,
        .returned (some w.producer) true] := by simp [Quiet, succession]
    exact .none (pre.append hr.quiet) hr.keeps.1
  | notified _ _ hb => exact .none (by simp [Quiet, succession]) (lookup_of_deliver hb)
  | @removed ev u s _ _ _ hd =>
    obtain ⟨hs, hc⟩ : lineOf s < e.board.lines.length ∧ e.board.isClosed (lineOf s) = true := by
      simpa [hd, Holds] using hw.fanout
    exact .removed u silent hs hc fun _ => rfl
  | @dismissed u _ hu =>
    refine .dismissed u fun v => ?_
    split
    · simp_all
    · rfl
  | @evicted u h _ _ =>
    refine .dismissed u fun v => ?_
    rw [← Switchboard.lookup_deregister]
    rfl
  | deregistered ha => exact .meddled (.inl ⟨_, ha⟩) silent lookup_of_deregister
  | sessionDeregistered ha => exact .meddled (.inr ⟨_, _, ha⟩) silent lookup_of_deregisterSession
  | posted _ hb => exact .none (by simp [Quiet, succession]) (lookup_of_deliver hb)
  | replied _ hb => exact .none (by simp [Quiet, succession]) (lookup_of_deliver hb)
  | ponged _ _ _ _ hb => exact .none (by simp [Quiet, succession]) (lookup_of_deliver hb)
  | @opened _ u board _ _ hb =>
    refine .opened u ⟨⟨u, .status, .opening⟩, by simp [session?, nextSession]⟩ fun v => ?_
    rw [← lookup_of_addLine? hb, ← Switchboard.lookup_register]
    rfl
  | @ended _ x how _ hx _ _ hs => exact .ended how hx fun v => by rw [hs]; rfl
  | @partyEnded _ x how _ hx _ _ hs => exact .ended how hx fun v => by rw [hs]; rfl
  | _ => exact .none (by simp [Quiet, succession]) fun _ => rfl

end

/-! ### The registry and the record -/

/-- Every entry of the registry is a standing session that has not returned. -/
structure Enrolled (e : Engine) (ns : List Note) : Prop where
  standing_known : ∀ {u s}, standing u ns = some s → ∃ x, e.session? s = some x
  returned_known : ∀ {s}, Returned s ns → ∃ x, e.session? s = some x
  entry : ∀ {u h}, e.board.lookup u = some h →
    standing u ns = some h.session ∧ ¬ Returned h.session ns

/-- Every standing session with an open line is registered. -/
def Reachable (e : Engine) (ns : List Note) : Prop :=
  ∀ {u s}, standing u ns = some s → ¬ Returned s ns → e.board.isClosed (lineOf s) = false →
    e.board.lookup u = some ⟨s, lineOf s⟩

section
variable {a : Action} {e e' : Engine} {ns out : List Note}

/-- Standing sessions exist after a move that is `Onward`. -/
theorem Enrolled.onward (h : Enrolled e ns) (ho : Onward e e')
    (hs : ∀ {u s}, standing u (ns ++ out) = some s →
      standing u ns = some s ∨ ∃ x, e'.session? s = some x)
    (hr : ∀ {s}, Returned s out → ∃ x, e'.session? s = some x)
    (he : ∀ {u h}, e'.board.lookup u = some h →
      standing u (ns ++ out) = some h.session ∧ ¬ Returned h.session (ns ++ out)) :
    Enrolled e' (ns ++ out) where
  standing_known hk := by
    refine (hs hk).elim (fun hk => ?_) id
    obtain ⟨x, hx⟩ := h.standing_known hk
    obtain ⟨y, hy, -⟩ := ho.same hx
    exact ⟨y, hy⟩
  returned_known hk := by
    refine (returned_append.1 hk).elim (fun hk => ?_) hr
    obtain ⟨x, hx⟩ := h.returned_known hk
    obtain ⟨y, hy, -⟩ := ho.same hx
    exact ⟨y, hy⟩
  entry := he

theorem Enrolled.quiet (h : Enrolled e ns) (ho : Onward e e') (hq : Quiet out)
    (hl : ∀ {u h}, e'.board.lookup u = some h → e.board.lookup u = some h) :
    Enrolled e' (ns ++ out) :=
  h.onward ho (fun hs => .inl (hq.standing ▸ hs)) (fun ⟨how, hn⟩ => absurd hn (hq.2 _ how))
    fun hu => by
      rw [hq.standing, hq.returned]
      exact h.entry (hl hu)

theorem Enrolled.move (h : Enrolled e ns) (hm : Move a e out e') (hw : Wired e) :
    Enrolled e' (ns ++ out) := by
  have ho := hm.onward
  cases hm.turnover hw with
  | none hq hl => exact h.quiet ho hq fun hu => hl _ ▸ hu
  | removed u hq _ _ hl =>
    exact h.quiet ho hq fun hu => lookup_of_deregisterSession (hl _ ▸ hu)
  | meddled _ hq hl => exact h.quiet ho hq hl
  | opened u hs hl =>
    have fresh : ¬ Returned e.nextSession ns := fun hr => by
      obtain ⟨x, hx⟩ := h.returned_known hr
      simp [session?, nextSession, Roster.get?_next] at hx
    refine h.onward ho (fun {v s} hv => ?_) (by simp [Returned]) fun {v link} hv => ?_
    · simp only [standing_append, List.foldl, succession] at hv
      split at hv
      · cases hv
        exact .inr hs
      · exact .inl hv
    · simp only [standing_append, returned_append, List.foldl, succession]
      rw [hl] at hv
      by_cases hu : v = u
      · subst hu
        rw [if_pos rfl] at hv ⊢
        cases hv
        exact ⟨rfl, by simpa [Returned] using fresh⟩
      · rw [if_neg hu] at hv
        rw [if_neg (Ne.symm hu)]
        simpa [Returned] using h.entry hv
  | dismissed u hl =>
    refine h.onward ho (fun {v s} hv => ?_) (by simp [Returned]) fun {v link} hv => ?_
    · simp only [standing_append, List.foldl, succession] at hv
      split at hv
      · cases hv
      · exact .inl hv
    · simp only [standing_append, returned_append, List.foldl, succession]
      rw [hl] at hv
      by_cases hu : v = u
      · simp [hu] at hv
      · rw [if_neg hu] at hv
        rw [if_neg (Ne.symm hu)]
        simpa [Returned] using h.entry hv
  | @ended s x how hx hl =>
    refine h.onward ho (fun hv => .inl (by simpa [standing_append, succession] using hv))
      (fun hr => ?_) fun {v link} hv => ?_
    · obtain ⟨_, hn⟩ := hr
      obtain ⟨rfl, -⟩ : _ = s ∧ _ := by simpa using hn
      obtain ⟨y, hy, -⟩ := ho.same hx
      exact ⟨y, hy⟩
    · have hu : e.board.lookup v = some link := by
        rw [hl] at hv
        split at hv
        · exact hv
        · exact lookup_of_deregisterSession hv
      -- the session that returns is not the one that is still registered
      have hne : link.session ≠ s := by
        rintro rfl
        obtain ⟨y, hy, rfl, hp⟩ := (hw.entry hu).session
        obtain rfl : x = y := by simpa [hx] using hy
        rw [hl, x.isParty_eq, hp, Switchboard.lookup_deregisterSession] at hv
        simp [hu] at hv
      obtain ⟨hs, hr⟩ := h.entry hu
      exact ⟨by simpa [standing_append, succession] using hs,
        by simpa [returned_append, Returned, hne] using hr⟩

theorem Reachable.move (h : Reachable e ns) (hm : Move a e out e') (hw : Wired e)
    (hn : Enrolled e ns) (ha : (∀ u, a ≠ .deregister u) ∧ ∀ u s, a ≠ .deregisterSession u s) :
    Reachable e' (ns ++ out) := by
  intro u s hs hr hc
  have ho := hm.onward
  -- a standing session with an open line had an open line before the move
  have before (hs : standing u ns = some s) : e.board.lookup u = some ⟨s, lineOf s⟩ := by
    obtain ⟨x, hx⟩ := hn.standing_known hs
    refine h hs (fun hr' => hr (returned_append.2 (.inl hr'))) ?_
    cases hc' : e.board.isClosed (lineOf s) with
    | false => rfl
    | true => simp [ho.shut (hw.line_lt hx) hc'] at hc
  cases hm.turnover hw with
  | none hq hl =>
    rw [hq.standing] at hs
    rw [hl, before hs]
  | opened v _ hl =>
    simp only [standing_append, List.foldl, succession] at hs
    rw [hl]
    split at hs
    · cases hs
      simp_all
    · rw [before hs, if_neg]
      grind
  | dismissed v hl =>
    simp only [standing_append, List.foldl, succession] at hs
    split at hs
    · cases hs
    · rw [hl, before hs, if_neg]
      grind
  | @removed v t _ hq ht hct hl =>
    rw [hq.standing] at hs
    rw [hl]
    refine lookup_deregisterSession_of_ne (before hs) ?_
    rintro rfl
    simp [ho.shut ht hct] at hc
  | @ended t x how hx hl =>
    have hne : s ≠ t := fun h => hr (returned_append.2 (.inr ⟨how, by simp [h]⟩))
    have hs : standing u ns = some s := by simpa [standing_append, succession] using hs
    rw [hl]
    split
    · exact before hs
    · exact lookup_deregisterSession_of_ne (before hs) hne
  | meddled hb =>
    rcases hb with ⟨v, rfl⟩ | ⟨v, t, rfl⟩
    · exact absurd rfl (ha.1 v)
    · exact absurd rfl (ha.2 v t)

end

/-- The return of a driver removes at most the entry of its own session. -/
theorem lookup_finishDriver {e : Engine} {u : User} {link : Handle} {s : SessionId}
    (hu : e.board.lookup u = some link) (hs : link.session ≠ s) :
    (e.finishDriver s).1.board.lookup u = some link := by
  unfold finishDriver
  split
  · rename_i x _
    split
    · split
      · cases hp : x.isParty with
        | true => exact hu
        | false => exact lookup_deregisterSession_of_ne hu hs
      · exact hu
    · exact hu
  · exact hu

/-! ### The main statement -/

section
variable {config : Config} {as : List Action} {e : Engine} {ns : List Note}

theorem Reaches.enrolled (h : Reaches config as e ns) : Enrolled e ns :=
  (h.keeps_wired (P := Enrolled) (fun _ _ => ⟨nofun, by simp [Returned], nofun⟩)
    fun _ _ _ _ _ _ hw hm hn => hn.move hm hw).2

theorem Reaches.reachable (h : Reaches config as e ns) (hd : ∀ u, .deregister u ∉ as)
    (hs : ∀ u s, .deregisterSession u s ∉ as) : Reachable e ns :=
  (h.keeps_wired (P := fun e ns => Enrolled e ns ∧ Reachable e ns)
    (fun _ _ => ⟨⟨nofun, by simp [Returned], nofun⟩, nofun⟩)
    fun a ha _ _ _ _ hw hm ⟨hn, hr⟩ => ⟨hn.move hm hw, hr.move hm hw hn
      ⟨fun u he => hd u (he ▸ ha), fun u s he => hs u s (he ▸ ha)⟩⟩).2.2

/-- An entry of the registry leads to the standing status session of its user, which has not
returned. Without calls on the registry from outside, a standing session with an open line is
registered. The return of another session's driver, and the removal of another session found closed
by the dispatcher, keep the entry. -/
theorem lookup_follows_record (h : Reaches config as e ns) (u : User) :
    (∀ {link}, e.board.lookup u = some link →
      link.line = lineOf link.session ∧
      (∃ x, e.session? link.session = some x ∧ x.user = u ∧ x.role = .status) ∧
      standing u ns = some link.session ∧ ¬ Returned link.session ns) ∧
    ((∀ v, .deregister v ∉ as) → (∀ v s, .deregisterSession v s ∉ as) →
      ∀ s, standing u ns = some s → ¬ Returned s ns → e.board.isClosed (lineOf s) = false →
        e.board.lookup u = some ⟨s, lineOf s⟩) ∧
    (∀ {link s}, e.board.lookup u = some link → link.session ≠ s →
      (e.step (.finishDriver s)).1.board.lookup u = some link) ∧
    ∀ {link ev rest v s r}, e.board.lookup u = some link → link.session ≠ s →
      e.dispatcher = .notifying ⟨ev, rest, .removing v s, r⟩ →
        (e.step .dispatch).1.board.lookup u = some link := by
  refine ⟨fun {link} hu => ?_, fun hd hs s => h.reachable hd hs, lookup_finishDriver,
    fun {link ev rest v s r} hu hs hd => ?_⟩
  · obtain ⟨hl, x, hx, hxu, hp⟩ := h.wired.entry hu
    obtain ⟨hst, hr⟩ := h.enrolled.entry hu
    exact ⟨hl, ⟨x, hx, hxu, x.role_of_party? hp⟩, hst, hr⟩
  · have step : e.step .dispatch = e.notifyStep ⟨ev, rest, .removing v s, r⟩ := by
      simp [step, dispatchStep, hd]
    rw [step]
    exact lookup_deregisterSession_of_ne hu hs

/-- The dispatcher finds a user's session closed, and the user opens another before the first is
removed. -/
theorem lookup_follows_record_reopened :
    ∃ u v e ns, Reaches Config.standard
        [.refreshNow, .friendsAnswered 0 (.ok (.ofList [(v, [u])])), .openStatus u, .dispatch,
          .dispatch, .dropSession 1, .offer ⟨v, .heartbeat⟩, .dispatch, .dispatch, .dispatch,
          .openStatus u] e ns ∧
      e.dispatcher = .notifying ⟨⟨v, .heartbeat⟩, [], .removing u 1, ⟨1, 0, 0, 1⟩⟩ ∧
      standing u ns = some 2 ∧ e.board.lookup u = some ⟨2, 1⟩ ∧
      (e.step .dispatch).1.board.lookup u = some ⟨2, 1⟩ := by
  have reached (u v : User) : Reaches Config.standard
      [.refreshNow, .friendsAnswered 0 (.ok (.ofList [(v, [u])])), .openStatus u, .dispatch,
        .dispatch, .dropSession 1, .offer ⟨v, .heartbeat⟩, .dispatch, .dispatch, .dispatch,
        .openStatus u] _ _ := .of_start rfl _
  have hr := reached ⟨"ann", by decide, "ann", rfl⟩ ⟨"bob", by decide, "bob", rfl⟩
  obtain ⟨-, stays, -, late⟩ := lookup_follows_record hr ⟨"ann", by decide, "ann", rfl⟩
  have now := stays (by simp) (by simp) 2 (by decide +kernel)
    (fun ⟨how, hn⟩ => by cases how <;> revert hn <;> decide +kernel) (by decide +kernel)
  refine ⟨_, _, _, _, hr, ?removing, ?_, now, late now (by decide) ?removing⟩
  all_goals decide +kernel

end

end Presence.Engine
