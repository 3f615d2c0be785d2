import Presence.Proofs.Engine.Moves
import Presence.Proofs.Naming

/-!
Online flags over a run. Only a processed event sets a flag, which holds for the TTL. So the
processed events determine who is online at every later moment and, with the member lists, the
snapshots of parties. The statements assume that the store evicts no flag.
-/

namespace Presence.Engine

/-! ### Processed events of a user -/

/-- The moments at which events of a user were processed, oldest first. -/
def signs (u : User) : List Note → List Instant
  | [] => []
  | .processed ev t :: ns => if ev.user = u then t :: signs u ns else signs u ns
  | _ :: ns => signs u ns

/-- An event of the user was processed within the last `ttl` nanoseconds before `T`. -/
def Alive (ttl : Nat) (ns : List Note) (u : User) (T : Instant) : Prop :=
  ∃ ev t, .processed ev t ∈ ns ∧ ev.user = u ∧ t ≤ T ∧ T < t + ttl

section
variable {u : User} {ns ms : List Note} {t : Instant}

@[simp] theorem signs_append : signs u (ns ++ ms) = signs u ns ++ signs u ms := by
  induction ns with
  | nil => rfl
  | cons n ns ih =>
    cases n with
    | processed ev t =>
      simp only [List.cons_append, signs, ih]
      split <;> rfl
    | _ => exact ih

theorem mem_signs : t ∈ signs u ns ↔ ∃ ev, .processed ev t ∈ ns ∧ ev.user = u := by
  induction ns with
  | nil => simp [signs]
  | cons n ns ih =>
    cases n with
    | processed ev s =>
      by_cases hu : ev.user = u
      · simp [signs, hu, ih, or_and_right, exists_or, and_assoc]
      · simp [signs, hu, ih, or_and_right, exists_or, and_assoc]
    | _ => simp [signs, ih]

theorem alive_iff {ttl : Nat} {T : Instant} :
    Alive ttl ns u T ↔ ∃ t ∈ signs u ns, t ≤ T ∧ T < t + ttl := by
  constructor
  · rintro ⟨ev, t, hn, hu, h⟩
    exact ⟨t, mem_signs.2 ⟨ev, hn, hu⟩, h⟩
  · rintro ⟨t, ht, h⟩
    obtain ⟨ev, hn, hu⟩ := mem_signs.1 ht
    exact ⟨ev, t, hn, hu, h⟩

theorem signs_eq_nil (h : ∀ ev t, .processed ev t ∉ ns) : signs u ns = [] := by
  rw [List.eq_nil_iff_forall_not_mem]
  intro t ht
  obtain ⟨ev, hn, -⟩ := mem_signs.1 ht
  exact h ev t hn

/-- The last element of an ascending list is its maximum. -/
theorem le_getLast? {ts : List Instant} {last : Instant} (h : ts.Pairwise (· ≤ ·))
    (hl : ts.getLast? = some last) : ∀ t ∈ ts, t ≤ last := by
  obtain ⟨init, rfl⟩ := List.getLast?_eq_some_iff.1 hl
  intro t ht
  rcases List.mem_append.1 ht with ht | ht
  · exact (List.pairwise_append.1 h).2.2 t ht last List.mem_cons_self
  · exact Nat.le_of_eq (List.mem_singleton.1 ht)

end

/-! ### Moves -/

section
variable {a : Action} {e e' : Engine} {out ns : List Note}

/-- A move keeps all flags, or processes one event and sets the flag of its user. -/
inductive Flagging (e e' : Engine) (out : List Note) : Prop
  | kept (hn : ∀ u, signs u out = []) (hs : e'.status = e.status) (ht : e.now ≤ e'.now)
  | set (ev : Event) (hn : ∀ u, signs u out = if ev.user = u then [e.now] else [])
      (hs : e'.status = e.status.markOnline ev.user e.now) (ht : e'.now = e.now)

theorem Resumed.flags {p : Producer} {b : Bool} (h : Resumed e p b out e') :
    (∀ u, signs u out = []) ∧ e'.status = e.status ∧ e'.now = e.now := by
  cases h with
  | @party _ _ _ _ board _ hb => exact ⟨fun _ => rfl, rfl, rfl⟩
  | _ => exact ⟨fun _ => rfl, rfl, rfl⟩

theorem Move.flagging (hm : Move a e out e') : Flagging e e' out := by
  cases hm with
  | entered _ _ hr =>
    obtain ⟨hn, hs, ht⟩ := hr.flags
    exact .kept hn hs (Nat.le_of_eq ht.symm)
  | refused _ hr =>
    obtain ⟨hn, hs, ht⟩ := hr.flags
    exact .kept hn hs (Nat.le_of_eq ht.symm)
  | timedOut _ hr =>
    obtain ⟨hn, hs, ht⟩ := hr.flags
    exact .kept hn hs (Nat.le_of_eq ht.symm)
  | @began ev => exact .set ev (fun _ => rfl) rfl rfl
  | @promoted ev _ _ _ _ _ _ _ _ hr =>
    obtain ⟨hn, hs, ht⟩ := hr.flags
    exact .set ev (fun u => by simp [signs, hn u]) hs ht
  | elapsed d => exact .kept (fun _ => rfl) rfl (Nat.le_add_right ..)
  | _ => exact .kept (fun _ => rfl) rfl (Nat.le_refl _)

/-! ### The invariant -/

/-- Every flag is marked with the moment of its user's last processed event. -/
structure Flagged (ttl : Nat) (e : Engine) (ns : List Note) : Prop where
  ttl : e.status.ttl = ttl
  marks : ∀ u, e.status.marks.get? u = (signs u ns).getLast?
  order : ∀ u, (signs u ns).Pairwise (· ≤ ·)
  past : ∀ u, ∀ t ∈ signs u ns, t ≤ e.now

theorem Flagged.move {ttl : Nat} (hm : Move a e out e') (h : Flagged ttl e ns) :
    Flagged ttl e' (ns ++ out) := by
  rcases hm.flagging with ⟨hn, hs, ht⟩ | ⟨ev, hn, hs, ht⟩
  · constructor
    · rw [hs, h.ttl]
    · intro u
      rw [hs, signs_append, hn, List.append_nil, h.marks]
    · intro u
      rw [signs_append, hn, List.append_nil]
      exact h.order u
    · intro u t hu
      rw [signs_append, hn, List.append_nil] at hu
      exact Nat.le_trans (h.past u t hu) ht
  · constructor
    · rw [hs]
      exact h.ttl
    · intro u
      rw [hs, StatusStore.markOnline, Table.get?_insert, signs_append, hn]
      by_cases hu : ev.user = u
      · simp [hu]
      · rw [if_neg (fun hu' => hu hu'.symm), if_neg hu, List.append_nil, h.marks]
    · intro u
      rw [signs_append, hn]
      split
      · refine List.pairwise_append.2 ⟨h.order u, List.pairwise_singleton .., fun t hu s hs => ?_⟩
        rw [List.mem_singleton.1 hs]
        exact h.past u t hu
      · simpa using h.order u
    · intro u t hu
      rw [signs_append, hn, List.mem_append] at hu
      rw [ht]
      rcases hu with hu | hu
      · exact h.past u t hu
      · split at hu
        · exact Nat.le_of_eq (List.mem_singleton.1 hu)
        · cases hu

theorem Flagged.isOnline {ttl : Nat} {u : User} {T : Instant} (h : Flagged ttl e ns)
    (hT : e.now ≤ T) : e.status.isOnline u T = true ↔ Alive ttl ns u T := by
  rw [alive_iff]
  unfold StatusStore.isOnline
  rw [h.marks, h.ttl]
  cases hl : (signs u ns).getLast? with
  | none =>
    rw [List.getLast?_eq_none_iff] at hl
    simp [hl]
  | some last =>
    have greatest := le_getLast? (h.order u) hl
    have there : last ∈ signs u ns := List.mem_of_getLast? hl
    constructor
    · intro hlive
      exact ⟨last, there, Nat.le_trans (h.past u last there) hT, by simpa using hlive⟩
    · rintro ⟨t, ht, -, hlive⟩
      have := Nat.lt_of_lt_of_le hlive (Nat.add_le_add_right (greatest t ht) ttl)
      simpa using this

/-- A step that processes no event keeps all flags. -/
theorem Moves.status (h : Moves a e out e') (hn : ∀ u, signs u out = []) :
    e'.status = e.status := by
  induction h with
  | none => rfl
  | @more e₁ e₂ _ now rest hm _ ih =>
    have each (u : User) : signs u now = [] ∧ signs u rest = [] := by
      simpa using hn u
    rw [ih fun u => (each u).2]
    rcases hm.flagging with ⟨-, hs, -⟩ | ⟨ev, hs, -, -⟩
    · exact hs
    · have := (hs ev.user).symm.trans (each ev.user).1
      simp at this

end

/-! ### The main statement -/

section
variable {config : Config} {as : List Action} {e : Engine} {ns : List Note}

theorem Reaches.flagged (h : Reaches config as e ns) :
    Flagged config.statusTtl.nanos e ns := by
  refine h.keeps (fun status hst => ?_) fun _ _ _ _ _ _ hm hP => hP.move hm
  unfold StatusStore.create? at hst
  split at hst
  · cases hst
    exact ⟨rfl, fun _ => rfl, fun _ => List.Pairwise.nil, by simp [signs]⟩
  · cases hst

/-- A user is online at a moment exactly if `Alive` holds of the user's processed events; the
snapshot of a party holds exactly the members who are online, strictly ascending, and depends on
nothing else. -/
theorem online_follows_events (h : Reaches config as e ns) :
    (∀ a, (∀ ev t, .processed ev t ∉ (e.step a).2) → (e.step a).1.status = e.status) ∧
    ∀ T, e.now ≤ T →
      (∀ u, e.status.isOnline u T = true ↔ Alive config.statusTtl.nanos ns u T) ∧
      ∀ p, ∃ shown : List User,
        partySnapshot e.status e.relations p T = ⟨shown⟩ ∧
        (∀ u, u ∈ shown ↔
          u ∈ e.relations.membersOf p ∧ Alive config.statusTtl.nanos ns u T) ∧
        shown.Pairwise (· < ·) ∧
        (Message.snapshot (partySnapshot e.status e.relations p T)).text =
          "\x7b" ++ String.intercalate "," (shown.map fun u => Json.literal u.text ++ ":true") ++
            "\x7d" ∧
        ∀ status relations, relations.membersOf p = e.relations.membersOf p →
          (∀ u ∈ e.relations.membersOf p, status.isOnline u T = e.status.isOnline u T) →
          partySnapshot status relations p T = partySnapshot e.status e.relations p T := by
  refine ⟨fun a ha => (step_moves a e).status fun u => signs_eq_nil ha, fun T hT => ?_⟩
  have online (u : User) := h.flagged.isOnline (u := u) hT
  refine ⟨online, fun p => ⟨_, rfl, fun u => ?_, Name.pairwise_sortedSet _, rfl, ?_⟩⟩
  · rw [Name.mem_sortedSet, List.mem_filter, online]
  · intro status relations hp hs
    unfold partySnapshot
    rw [hp, List.filter_congr hs]

/-- A member, whose event was processed first, and another user are online up to the last nanosecond
of ten seconds; a member without an event is not. -/
theorem online_follows_events_until_expiry :
    ∃ ann bob cid : User, ∃ p e ns, Reaches Config.standard
        [.offer ⟨ann, .heartbeat⟩, .dispatch, .dispatch, .offer ⟨cid, .connected⟩, .dispatch,
          .refreshNow, .friendsAnswered 0 (.ok .empty),
          .partiesAnswered 0 (.ok (.ofList [(p, [bob, ann])])), .elapse (.ofMillis 9999)] e ns ∧
      Alive Config.standard.statusTtl.nanos ns ann 9999999999 ∧
      partySnapshot e.status e.relations p 9999999999 = ⟨[ann]⟩ ∧
      e.status.isOnline cid 9999999999 = true ∧
      ¬ Alive Config.standard.statusTtl.nanos ns ann 10000000000 ∧
      partySnapshot e.status e.relations p 10000000000 = ⟨[]⟩ := by
  have reached (ann bob cid : User) (p : Party) : Reaches Config.standard
      [.offer ⟨ann, .heartbeat⟩, .dispatch, .dispatch, .offer ⟨cid, .connected⟩, .dispatch,
        .refreshNow, .friendsAnswered 0 (.ok .empty),
        .partiesAnswered 0 (.ok (.ofList [(p, [bob, ann])])), .elapse (.ofMillis 9999)] _ _ :=
    .of_start rfl _
  have hr := reached ⟨"ann", by decide, "ann", rfl⟩ ⟨"bob", by decide, "bob", rfl⟩
    ⟨"cid", by decide, "cid", rfl⟩ ⟨"duo", by decide, "duo", rfl⟩
  obtain ⟨-, moments⟩ := online_follows_events hr
  have before := (moments 9999999999 (by decide +kernel)).1 ⟨"ann", by decide, "ann", rfl⟩
  have after := (moments 10000000000 (by decide +kernel)).1 ⟨"ann", by decide, "ann", rfl⟩
  refine ⟨_, _, _, _, _, _, hr, before.1 ?_, ?_, ?_, mt after.2 ?_, ?_⟩
  all_goals decide +kernel

end

end Presence.Engine
