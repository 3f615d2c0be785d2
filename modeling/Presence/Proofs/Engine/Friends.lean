import Presence.Proofs.Engine.Dispatching
import Presence.Proofs.Relationships
import Presence.Proofs.Store.Friendships

/-!
From the store to the clients' lines. After a refresh over a store that was filled by calls, the
friends of a user are those whose friendship was confirmed last; an event of the user puts one notice
into the line of each of them who is registered with an open line that has room, and into no other.
-/

namespace Presence

namespace Engine

/-! ### The main statement -/

open FriendshipCall

/-- The actions by which an engine absorbs the friend lists that it fetched: in the loop, or on
demand. -/
inductive TakesIn (e : Engine) (answer : Answer (Graph .friends)) : Action → Prop
  | loop (hs : e.shutdown = false) (hf : e.friendsLoop.phase = .fetching) :
      TakesIn e answer (.loopAnswered .friends answer)
  | call {t : Nat} (hc : e.calls.get? t = some .refreshFriends) :
      TakesIn e answer (.friendsAnswered t answer)

theorem relations_takesIn {e : Engine} {g : Graph .friends} {a : Action}
    (h : TakesIn e (.ok g) a) : (e.step a).1.relations = e.relations.refresh .friends g := by
  cases h with
  | loop hs hf =>
    simp [step, loopAnswered, hs, loop, RefreshLoop.answer?, hf, Relationships.absorb]
    rfl
  | call hc =>
    simp [step, friendsAnswered, hc, Relationships.absorb]
    rfl

theorem loopAnswered_workers (e : Engine) (kind : RefreshKind) (g : Answer (Graph kind)) :
    (e.loopAnswered kind g).dispatcher = e.dispatcher ∧
      (e.loopAnswered kind g).shutdown = e.shutdown := by
  unfold loopAnswered
  split
  · exact ⟨rfl, rfl⟩
  · split <;> exact ⟨rfl, rfl⟩

/-- After any list of calls on the store its friend lists can be fetched; in an engine that has
absorbed them, `friendsOf` holds the users whose last call with the given one confirmed the
friendship, and is symmetric and irreflexive. Processing an event pushes one notice to each line by
which a friend of its user is reached and leaves every other line unchanged. The last part says so of
`process`, of any dispatcher with these lists, and of the dispatcher steps of any engine with these
lists, from the step that takes the event to the next idle state. -/
theorem confirmed_friends_notified (cs : List FriendshipCall) {e : Engine} {a : Action}
    (ha : e.TakesIn (Store.after cs).fetchFriendLists a) :
    (∃ g, (Store.after cs).fetchFriendLists = .ok g) ∧
    (∀ u v, v ∈ (e.step a).1.relations.friendsOf u ↔ v ≠ u ∧ Confirmed u v cs) ∧
    (∀ u v, v ∈ (e.step a).1.relations.friendsOf u ↔ u ∈ (e.step a).1.relations.friendsOf v) ∧
    (∀ u, u ∉ (e.step a).1.relations.friendsOf u) ∧
    (∀ d : Dispatch, d.relations = (e.step a).1.relations → d.board.Distinct → ∀ ev now n,
      ((∃ v ∈ d.relations.friendsOf ev.user, d.board.Reaches v n) →
        (d.process ev now).2.board.line? n =
          (d.board.line? n).map (Line.push (.friendOnline ev.user))) ∧
      ((∀ v ∈ d.relations.friendsOf ev.user, ¬ d.board.Reaches v n) →
        (d.process ev now).2.board.line? n = d.board.line? n)) ∧
    ∀ e' : Engine, e'.relations = (e.step a).1.relations → e'.board.Distinct →
      e'.dispatcher = .idle → e'.shutdown = false →
      ∀ ev w q, e'.queue.take? = some (ev, w, q) → ∃ k,
        let e'' := (e'.run (List.replicate k .dispatch)).1
        e''.dispatcher = .idle ∧ ∀ n < e'.board.lines.length,
          ((∃ v ∈ e'.relations.friendsOf ev.user, e'.board.Reaches v n) →
            e''.board.line? n = (e'.board.line? n).map (Line.push (.friendOnline ev.user))) ∧
          ((∀ v ∈ e'.relations.friendsOf ev.user, ¬ e'.board.Reaches v n) →
            e''.board.line? n = e'.board.line? n) := by
  obtain ⟨g, hg, mem⟩ := (Store.mirrors_after cs).friendLists_ok
  have fetched : (Store.after cs).fetchFriendLists = .ok g := by
    unfold Store.fetchFriendLists
    rw [hg]
    rfl
  rw [fetched] at ha
  have relations := relations_takesIn ha
  have friends (u v : User) :
      v ∈ (e.step a).1.relations.friendsOf u ↔ v ≠ u ∧ Confirmed u v cs := by
    rw [relations, Relationships.mem_friendsOf_refresh, mem]
  have processed (d : Dispatch) (hd : d.relations = (e.step a).1.relations) (hb : d.board.Distinct)
      (ev : Event) (now : Instant) (n : Nat) :
      ((∃ v ∈ d.relations.friendsOf ev.user, d.board.Reaches v n) →
        (d.process ev now).2.board.line? n =
          (d.board.line? n).map (Line.push (.friendOnline ev.user))) ∧
      ((∀ v ∈ d.relations.friendsOf ev.user, ¬ d.board.Reaches v n) →
        (d.process ev now).2.board.line? n = d.board.line? n) := by
    have nodup : (d.relations.friendsOf ev.user).Nodup := by
      rw [hd, relations]
      exact Relationships.ascending_refresh.nodup ev.user
    exact Switchboard.line?_notifyAll hb nodup _ n
  refine ⟨⟨g, fetched⟩, friends, fun u v => ?symmetric, fun u hu => ((friends u u).1 hu).1 rfl,
    processed, fun e' hr hb hd hs ev w q hq => ?stepped⟩
  case symmetric =>
    rw [friends, friends, confirmed_comm]
    exact and_congr_left fun _ => ne_comm
  case stepped =>
    -- the step that takes the event changes neither the registry nor the lines that exist
    have taken := step_taken hd hs hq
    obtain ⟨k, hk⟩ := run_dispatch_eq_process hd hs hq
    refine ⟨k, by rw [hk], fun n hn => ?_⟩
    obtain ⟨reached, unreached⟩ := processed { e'.dispatch with board := (e'.step .dispatch).1.board }
      hr (taken.distinct hb) ev e'.now n
    rw [hk, ← taken.line? n hn]
    constructor
    · rintro ⟨v, hv, hvn⟩
      exact reached ⟨v, hv, (taken.reaches_iff hn).2 hvn⟩
    · intro none
      exact unreached fun v hv hvn => none v hv ((taken.reaches_iff hn).1 hvn)

/-- Two friendships are confirmed and one of them is taken back; the friend who is left gets the
notice, by `process` and by dispatcher steps. -/
theorem confirmed_friends_notified_once :
    ∃ (u v w : User) (e : Engine),
      let store := Store.after [.put v u .confirmed, .put u w .confirmed, .delete w u]
      let a := .loopAnswered .friends store.fetchFriendLists
      let board := ⟨[⟨⟨1, [], true⟩, false⟩], Table.empty.insert v ⟨1, 0⟩⟩
      e.TakesIn store.fetchFriendLists a ∧
      v ∈ (e.step a).1.relations.friendsOf u ∧ w ∉ (e.step a).1.relations.friendsOf u ∧
      ({ (e.step a).1.dispatch with board }.process ⟨u, .heartbeat⟩ 0).2.board.line? 0 =
        some ⟨⟨1, [.friendOnline u], true⟩, false⟩ ∧
      let queue := ⟨⟨1, [⟨u, .heartbeat⟩], true⟩, [], 0, 0, 0⟩
      ∃ k, (({ (e.step a).1.withBoard board with queue }).run
        (List.replicate k .dispatch)).1.board.line? 0 =
          some ⟨⟨1, [.friendOnline u], true⟩, false⟩ := by
  obtain ⟨u, v, w, huv, huw, hvw⟩ : ∃ u v w : User, u ≠ v ∧ u ≠ w ∧ v ≠ w :=
    ⟨⟨"ann", by decide, "ann", rfl⟩, ⟨"bob", by decide, "bob", rfl⟩, ⟨"cy", by decide, "cy", rfl⟩,
      by decide, by decide, by decide⟩
  let cs : List FriendshipCall := [.put v u .confirmed, .put u w .confirmed, .delete w u]
  let e : Engine := ((initial Config.standard ⟨0, .empty⟩ ⟨⟨1, [], true⟩, [], 0, 0, 0⟩).step
    (.wakeLoop .friends)).1
  have ha : e.TakesIn (Store.after cs).fetchFriendLists
      (.loopAnswered .friends (Store.after cs).fetchFriendLists) := .loop rfl rfl
  obtain ⟨-, friends, -, -, processed, stepped⟩ := confirmed_friends_notified cs ha
  have hv : lastOn u v cs = some (.put v u .confirmed) := by
    simp [cs, lastOn, isOn, users, huv.symm, huw.symm, hvw.symm]
  have hw : lastOn u w cs = some (.delete w u) := by
    simp [cs, lastOn, isOn, users]
  have friend : v ∈ (e.step _).1.relations.friendsOf u := (friends u v).2 ⟨huv.symm, v, u, hv⟩
  let board : Switchboard := ⟨[⟨⟨1, [], true⟩, false⟩], Table.empty.insert v ⟨1, 0⟩⟩
  have lookup (x : User) : board.lookup x = if x = v then some ⟨1, 0⟩ else none :=
    Table.get?_insert ..
  have distinct : board.Distinct := by
    intro x y h k hx hy _
    rw [lookup] at hx hy
    split at hx <;> split at hy <;> simp_all
  have reached : board.Reaches v 0 :=
    ⟨⟨1, 0⟩, _, by rw [lookup, if_pos rfl], rfl, rfl, rfl, rfl⟩
  refine ⟨u, v, w, e, ha, friend, fun h => ?_, ?_, ?_⟩
  · obtain ⟨-, _, _, hc⟩ := (friends u w).1 h
    simp [hw] at hc
  · exact (processed { (e.step _).1.dispatch with board } rfl distinct ⟨u, .heartbeat⟩ 0 0).1
      ⟨v, friend, reached⟩
  · obtain ⟨idle, running⟩ := loopAnswered_workers e .friends (Store.after cs).fetchFriendLists
    let e' : Engine := (e.step (.loopAnswered .friends (Store.after cs).fetchFriendLists)).1
    obtain ⟨k, -, lines⟩ := stepped
      { e'.withBoard board with queue := ⟨⟨1, [⟨u, .heartbeat⟩], true⟩, [], 0, 0, 0⟩ }
      rfl distinct idle running ⟨u, .heartbeat⟩ none _ rfl
    exact ⟨k, (lines 0 Nat.zero_lt_one).1 ⟨v, friend, reached⟩⟩

end Engine

end Presence
