import Presence.Proofs.Engine.Dispatching
import Presence.Proofs.Relationships

/-!
The result of an event for each friend. `fateOf` is the fate of a friend by its own registration and
line. `process_isolates_friends`: every friend of the event's user gets this fate, independently of
the others; report and totals count the fates, a line changes exactly if its notice is delivered,
and the registry loses the friends whose line is closed.
-/

namespace Presence

/-! ### Reports -/

namespace FanoutReport

/-- The report after a list of fates counts each of them. -/
theorem foldl_add (fates : List Fate) (r : FanoutReport) :
    fates.foldl add r = ⟨r.recipients, r.delivered + fates.count .delivered,
      r.offline + fates.count .offline, r.failed + fates.count .failed⟩ := by
  induction fates generalizing r with
  | nil => rfl
  | cons f rest ih =>
    rw [List.foldl_cons, ih]
    cases f <;> simp [add, Nat.add_assoc, Nat.add_comm 1]

end FanoutReport

/-- The three fates are exhaustive. -/
theorem Fate.count_total (fates : List Fate) :
    fates.count .delivered + fates.count .offline + fates.count .failed = fates.length := by
  induction fates with
  | nil => rfl
  | cons f rest ih =>
    rw [List.length_cons, ← ih]
    cases f <;> simp <;> omega

namespace Switchboard

/-! ### Fates -/

/-- The fate of a notice to a user, by the user's registration and line. -/
def fateOf (b : Switchboard) (u : User) : Fate :=
  match b.lookup u with
  | none => .offline
  | some h =>
    match b.line? h.line with
    | some l => if l.frames.isOpen && l.frames.hasRoom then .delivered else .failed
    | none => .failed

/-- The user is registered with a closed line. -/
def isStale (b : Switchboard) (u : User) : Bool :=
  match b.lookup u with
  | some h => b.isClosed h.line
  | none => false

/-- The fates of notices sent in order. -/
def fates (b : Switchboard) (notice : Message) : List User → List (User × Fate)
  | [] => []
  | v :: rest => (v, (b.notify notice v).1) :: (b.notify notice v).2.fates notice rest

section
variable {b b' : Switchboard} {notice : Message} {u v : User} {friends : List User}

/-- The fate of a notice is `fateOf`. -/
theorem notify_fate (b : Switchboard) (notice : Message) (v : User) :
    (b.notify notice v).1 = b.fateOf v := by
  unfold notify fateOf
  cases hv : b.lookup v with
  | none => rfl
  | some h =>
    dsimp only [sendNotice]
    unfold deliver
    cases hl : b.line? h.line with
    | none => rfl
    | some l =>
      unfold Channel.trySend
      cases ho : l.frames.isOpen <;> cases hr : l.frames.hasRoom <;> simp [ho, hr]

/-- A line is closed exactly if deliveries to it fail with `closed`. -/
theorem isClosed_iff {n : Nat} : b.isClosed n = true ↔ b.deliver n notice = .error .closed := by
  refine ⟨fun h => ?_, isClosed_of_deliver_eq⟩
  unfold isClosed at h
  unfold deliver
  cases hl : b.line? n with
  | none => rfl
  | some l =>
    have shut : l.frames.isOpen = false := by simpa [hl] using h
    simp [Channel.trySend_eq_closed_iff.2 shut]

/-- A notice deregisters its friend if the friend's line is closed, and no other user. -/
theorem lookup_notify (b : Switchboard) (notice : Message) (v u : User) :
    (b.notify notice v).2.lookup u = if u = v ∧ b.isStale v = true then none else b.lookup u := by
  unfold notify isStale
  cases hv : b.lookup v with
  | none => simp
  | some h =>
    dsimp only [sendNotice]
    have gone : b.isClosed h.line = true ↔ b.deliver h.line notice = .error .closed := isClosed_iff
    cases hb : b.deliver h.line notice with
    | ok b' =>
      obtain ⟨l, -, -, -, rfl⟩ := deliver_eq_ok hb
      simp [gone, hb, lookup, updateFrames, updateLine]
    | error d =>
      cases d with
      | full => simp [gone, hb]
      | closed => simp [gone, hb, lookup_deregisterSession, hv]

/-- A notice to one user preserves fate and staleness of every other. -/
theorem Notified.apart (h : Notified b notice v b') (hd : b.Distinct) (hu : u ≠ v) :
    b'.fateOf u = b.fateOf u ∧ b'.isStale u = b.isStale u := by
  unfold fateOf isStale isClosed
  rw [h.lookup_of_ne hu]
  cases hk : b.lookup u with
  | none => exact ⟨rfl, rfl⟩
  | some k =>
    dsimp only
    rw [h.line?_of_other hd hu hk]
    exact ⟨rfl, rfl⟩

/-- Notices sent in order have the fates determined before the first of them. -/
theorem fates_eq_map (notice : Message) (hd : b.Distinct) (hn : friends.Nodup) :
    b.fates notice friends = friends.map fun v => (v, b.fateOf v) := by
  induction friends generalizing b with
  | nil => rfl
  | cons v rest ih =>
    obtain ⟨hv, hrest⟩ := List.nodup_cons.1 hn
    have hnv := notify_notified b notice v
    have others : ∀ u ∈ rest, (b.notify notice v).2.fateOf u = b.fateOf u :=
      fun u hu => (hnv.apart hd fun he => hv (he ▸ hu)).1
    rw [fates, notify_fate, ih (hnv.distinct hd) hrest, List.map_cons]
    refine congrArg _ (List.map_congr_left fun u hu => ?_)
    rw [others u hu]

theorem mem_fates {f : Fate} (hd : b.Distinct) (hn : friends.Nodup) :
    (v, f) ∈ b.fates notice friends ↔ v ∈ friends ∧ b.fateOf v = f := by
  rw [fates_eq_map notice hd hn, List.mem_map]
  constructor
  · rintro ⟨u, hu, he⟩
    cases he
    exact ⟨hu, rfl⟩
  · rintro ⟨hv, rfl⟩
    exact ⟨v, hv, rfl⟩

/-- The report of `notifyAll` counts the fates. -/
theorem report_notifyAll (b : Switchboard) (notice : Message) (r : FanoutReport)
    (friends : List User) : (b.notifyAll notice r friends).1 =
      ((b.fates notice friends).map Prod.snd).foldl FanoutReport.add r := by
  induction friends generalizing b r with
  | nil => rfl
  | cons v rest ih => exact ih (b.notify notice v).2 (r.add (b.notify notice v).1)

/-- The registry after `notifyAll`: without the friends whose line is closed. -/
theorem lookup_notifyAll (hd : b.Distinct) (hn : friends.Nodup) (r : FanoutReport) (u : User) :
    (b.notifyAll notice r friends).2.lookup u =
      if u ∈ friends ∧ b.isStale u = true then none else b.lookup u := by
  induction friends generalizing b r with
  | nil => simp [notifyAll]
  | cons v rest ih =>
    obtain ⟨hv, hrest⟩ := List.nodup_cons.1 hn
    have hnv := notify_notified b notice v
    refine (ih (hnv.distinct hd) hrest (r.add (b.notify notice v).1)).trans ?_
    rw [lookup_notify]
    by_cases hu : u = v
    · subst hu
      simp [hv]
    · simp [hu, (hnv.apart hd hu).2]

/-- The result of `notifyAll` does not depend on the order of the friends. -/
theorem notifyAll_perm {friends' : List User} (hd : b.Distinct) (hn : friends.Nodup)
    (hp : friends'.Perm friends) (r : FanoutReport) :
    (b.notifyAll notice r friends').1 = (b.notifyAll notice r friends).1 ∧
    (b.notifyAll notice r friends').2.lines = (b.notifyAll notice r friends).2.lines ∧
    ∀ u, (b.notifyAll notice r friends').2.lookup u = (b.notifyAll notice r friends).2.lookup u := by
  have hn' : friends'.Nodup := hp.nodup_iff.2 hn
  refine ⟨?_, ?_, fun u => ?_⟩
  · have counts (f : Fate) : (friends'.map b.fateOf).count f = (friends.map b.fateOf).count f :=
      (hp.map b.fateOf).count_eq f
    simp only [report_notifyAll, fates_eq_map notice hd hn, fates_eq_map notice hd hn', List.map_map,
      Function.comp_def, FanoutReport.foldl_add, counts]
  · apply List.ext_getElem?
    intro n
    obtain ⟨reached', unreached'⟩ := @line?_notifyAll b notice friends' hd hn' r n
    obtain ⟨reached, unreached⟩ := @line?_notifyAll b notice friends hd hn r n
    by_cases hr : ∃ v ∈ friends, b.Reaches v n
    · obtain ⟨v, hv, hr⟩ := hr
      exact (reached' ⟨v, hp.mem_iff.2 hv, hr⟩).trans (reached ⟨v, hv, hr⟩).symm
    · have none : ∀ v ∈ friends, ¬ b.Reaches v n := fun v hv h => hr ⟨v, hv, h⟩
      exact (unreached' fun v hv => none v (hp.mem_iff.1 hv)).trans (unreached none).symm
  · rw [lookup_notifyAll hd hn', lookup_notifyAll hd hn]
    simp only [hp.mem_iff]

/-- The fate of a friend does not depend on the other friends, nor on the rest of the board. -/
theorem mem_fates_congr {b₂ : Switchboard} {notice₂ : Message} {friends₂ : List User}
    (hd : b.Distinct) (hn : friends.Nodup) (hd₂ : b₂.Distinct) (hn₂ : friends₂.Nodup)
    (hv : v ∈ friends) (hv₂ : v ∈ friends₂) (hl : b₂.lookup v = b.lookup v)
    (hf : ∀ h, b.lookup v = some h → b₂.line? h.line = b.line? h.line) (f : Fate) :
    (v, f) ∈ b₂.fates notice₂ friends₂ ↔ (v, f) ∈ b.fates notice friends := by
  have same : b₂.fateOf v = b.fateOf v := by
    unfold fateOf
    rw [hl]
    cases hk : b.lookup v with
    | none => rfl
    | some h =>
      dsimp only
      rw [hf h hk]
  rw [mem_fates hd₂ hn₂, mem_fates hd hn, same]
  simp [hv, hv₂]

end

end Switchboard

namespace Dispatch

/-- Specification of `process` for event `ev`, with report `r` and state `d'` afterwards. -/
structure Processed (d : Dispatch) (ev : Event) (now : Instant) (r : FanoutReport)
    (d' : Dispatch) : Prop where
  recipients : r.recipients = (d.relations.friendsOf ev.user).length
  total : r.recipients = r.delivered + r.offline + r.failed
  /-- Every friend has the fate determined before the first notice. -/
  classified : d.board.fates (.friendOnline ev.user) (d.relations.friendsOf ev.user) =
    (d.relations.friendsOf ev.user).map fun v => (v, d.board.fateOf v)
  delivered : r.delivered = ((d.relations.friendsOf ev.user).map d.board.fateOf).count .delivered
  offline : r.offline = ((d.relations.friendsOf ev.user).map d.board.fateOf).count .offline
  failed : r.failed = ((d.relations.friendsOf ev.user).map d.board.fateOf).count .failed
  /-- A friend with an open line that has room receives one frame. -/
  noticed : ∀ v ∈ d.relations.friendsOf ev.user, ∀ n, d.board.Reaches v n →
    d'.board.line? n = (d.board.line? n).map (Line.push (.friendOnline ev.user))
  /-- Every other line is unchanged. -/
  spared : ∀ n, (∀ v ∈ d.relations.friendsOf ev.user, ¬ d.board.Reaches v n) →
    d'.board.line? n = d.board.line? n
  /-- The registry is without the friends whose line was closed. -/
  registry : ∀ u, d'.board.lookup u =
    if u ∈ d.relations.friendsOf ev.user ∧ d.board.isStale u = true then none
    else d.board.lookup u
  flags : ∀ u t, d'.status.isOnline u t =
    if u = ev.user then decide (t < now + d.status.ttl) else d.status.isOnline u t
  relations : d'.relations = d.relations
  events : d'.processed = d.processed + 1
  deliveries : d'.delivered = d.delivered + r.delivered
  failures : d'.failed = d.failed + r.failed

theorem process_processed {d : Dispatch} {ev : Event} (hb : d.board.Distinct)
    (hn : (d.relations.friendsOf ev.user).Nodup) (now : Instant) :
    Processed d ev now (d.process ev now).1 (d.process ev now).2 := by
  have classified := Switchboard.fates_eq_map (.friendOnline ev.user) hb hn
  -- the report is that of the fates, and these are known before
  have report : (d.process ev now).1 = ((d.relations.friendsOf ev.user).map d.board.fateOf).foldl
      FanoutReport.add ⟨(d.relations.friendsOf ev.user).length, 0, 0, 0⟩ := by
    have added := Switchboard.report_notifyAll d.board (.friendOnline ev.user)
      ⟨(d.relations.friendsOf ev.user).length, 0, 0, 0⟩ (d.relations.friendsOf ev.user)
    rw [classified, List.map_map] at added
    exact added
  rw [FanoutReport.foldl_add] at report
  simp only [Nat.zero_add] at report
  have lines (n : Nat) := @Switchboard.line?_notifyAll d.board (.friendOnline ev.user) _ hb hn
    ⟨(d.relations.friendsOf ev.user).length, 0, 0, 0⟩ n
  exact {
    recipients := by rw [report]
    total := by
      have total := Fate.count_total ((d.relations.friendsOf ev.user).map d.board.fateOf)
      rw [List.length_map] at total
      rw [report]
      exact total.symm
    classified
    delivered := by rw [report]
    offline := by rw [report]
    failed := by rw [report]
    noticed := fun v hv n hr => (lines n).1 ⟨v, hv, hr⟩
    spared := fun n => (lines n).2
    registry := Switchboard.lookup_notifyAll hb hn _
    flags := fun u t => d.status.isOnline_markOnline ev.user u now t
    relations := rfl
    events := rfl
    deliveries := rfl
    failures := rfl }

/-- Over any friend lists, registry and lines with `Distinct`: the report of `process` and the state
after it are those of `Processed`, where each friend's fate is a function of its own registration and
line. In any other dispatcher a friend with the same registration and line has the same fate, and the
result does not depend on the order of the friends. The last part carries `Processed` over to the
engine: its dispatcher steps alone, from the one that takes the event to the next idle state, change
the dispatcher's state as `process` does, on the board after the first of them; that board has the
registry of `d` and all its lines. -/
theorem process_isolates_friends {d : Dispatch} (hr : d.relations.Filled) (hb : d.board.Distinct)
    (ev : Event) (now : Instant) :
    Processed d ev now (d.process ev now).1 (d.process ev now).2 ∧
    (∀ (d₂ : Dispatch) (ev₂ : Event), d₂.relations.Filled → d₂.board.Distinct →
      ∀ v ∈ d.relations.friendsOf ev.user, v ∈ d₂.relations.friendsOf ev₂.user →
      d₂.board.lookup v = d.board.lookup v →
      (∀ h, d.board.lookup v = some h → d₂.board.line? h.line = d.board.line? h.line) →
      ∀ f, (v, f) ∈ d₂.board.fates (.friendOnline ev₂.user) (d₂.relations.friendsOf ev₂.user) ↔
        (v, f) ∈ d.board.fates (.friendOnline ev.user) (d.relations.friendsOf ev.user)) ∧
    (∀ friends, friends.Perm (d.relations.friendsOf ev.user) → ∀ r,
      let one := d.board.notifyAll (.friendOnline ev.user) r friends
      let other := d.board.notifyAll (.friendOnline ev.user) r (d.relations.friendsOf ev.user)
      one.1 = other.1 ∧ one.2.lines = other.2.lines ∧ ∀ u, one.2.lookup u = other.2.lookup u) ∧
    ∀ (e : Engine) (w : Option (Waiter Producer)) (q : Queue Producer), e.dispatch = d →
      e.now = now → e.dispatcher = .idle → e.shutdown = false →
      e.queue.take? = some (ev, w, q) →
      let taken := (e.step .dispatch).1
      (∀ u, taken.board.lookup u = d.board.lookup u) ∧
      (∀ n < d.board.lines.length, taken.board.line? n = d.board.line? n) ∧
      ∃ k r d', (e.run (List.replicate k .dispatch)).1 =
          { taken with dispatcher := .idle, dispatch := d' } ∧
        Processed { d with board := taken.board } ev now r d' := by
  have hn : (d.relations.friendsOf ev.user).Nodup := hr.ascending.nodup ev.user
  refine ⟨process_processed hb hn now, ?others, fun friends hp r => ?ordered, ?stepped⟩
  case others =>
    intro d₂ ev₂ hr₂ hb₂ v hv hv₂ hl hf f
    have hn₂ : (d₂.relations.friendsOf ev₂.user).Nodup := hr₂.ascending.nodup ev₂.user
    exact Switchboard.mem_fates_congr hb hn hb₂ hn₂ hv hv₂ hl hf f
  case ordered => exact Switchboard.notifyAll_perm hb hn hp r
  case stepped =>
    rintro e w q rfl rfl hd hs hq
    have taken := Engine.step_taken hd hs hq
    obtain ⟨k, hk⟩ := Engine.run_dispatch_eq_process hd hs hq
    have processed := process_processed
      (d := { e.dispatch with board := (e.step .dispatch).1.board }) (taken.distinct hb) hn e.now
    exact ⟨taken.lookup, taken.line?, k, _, _, hk, processed⟩

/-- Of four friends one is away, one has a full line, one a closed line, and one gets the notice, by
`process` and by dispatcher steps. -/
theorem process_isolates_friends_of_four :
    ∃ (u away full gone open' : User) (d : Dispatch), d.relations.Filled ∧ d.board.Distinct ∧
      d.relations.friendsOf u = [away, full, gone, open'] ∧
      Processed d ⟨u, .heartbeat⟩ 0 ⟨4, 1, 1, 2⟩ (d.process ⟨u, .heartbeat⟩ 0).2 ∧
      (d.process ⟨u, .heartbeat⟩ 0).2.board.lookup gone = none ∧
      (d.process ⟨u, .heartbeat⟩ 0).2.board.lookup full = some ⟨1, 0⟩ ∧
      ∃ (e e' : Engine) (k : Nat), e.dispatch = d ∧
        e' = (e.run (List.replicate k .dispatch)).1 ∧ e'.dispatcher = .idle ∧
        e'.board.lookup gone = none := by
  let u : User := ⟨"ann", by decide, "ann", rfl⟩
  let away : User := ⟨"away", by decide, "away", rfl⟩
  let full : User := ⟨"full", by decide, "full", rfl⟩
  let gone : User := ⟨"gone", by decide, "gone", rfl⟩
  let open' : User := ⟨"open", by decide, "open", rfl⟩
  let lines : List Line := [⟨⟨1, [.pong], true⟩, false⟩, ⟨⟨1, [], false⟩, false⟩,
    ⟨⟨1, [], true⟩, false⟩]
  let board : Switchboard :=
    (((Switchboard.mk lines .empty).register full ⟨1, 0⟩).register gone ⟨2, 1⟩).register open' ⟨3, 2⟩
  let d : Dispatch := ⟨⟨10, .empty⟩,
    Relationships.empty.replaceFriends u [gone, away, open', full], board, 0, 0, 0⟩
  have filled : d.relations.Filled := .friends .empty u _
  have lookup (x : User) : board.lookup x = if x = open' then some ⟨3, 2⟩
      else if x = gone then some ⟨2, 1⟩ else if x = full then some ⟨1, 0⟩ else none := by
    simp only [board, Switchboard.lookup_register]
    rfl
  have distinct : d.board.Distinct := by
    intro x y h k hx hy hl
    rw [show d.board = board from rfl, lookup] at hx hy
    grind
  obtain ⟨processed, -, -, stepped⟩ := process_isolates_friends filled distinct ⟨u, .heartbeat⟩ 0
  let e : Engine := { Engine.initial Config.standard d.status
    ⟨⟨1, [⟨u, .heartbeat⟩], true⟩, [], 0, 0, 0⟩ with dispatch := d }
  obtain ⟨-, -, k, _, d', run, processed'⟩ := stepped e none _ rfl rfl rfl rfl rfl
  rw [show (d.process ⟨u, .heartbeat⟩ 0).1 = ⟨4, 1, 1, 2⟩ by decide +kernel] at processed
  refine ⟨u, away, full, gone, open', d, filled, distinct, by decide +kernel, processed,
    by decide +kernel, by decide +kernel, e, _, k, rfl, rfl, by rw [run], ?_⟩
  rw [run]
  exact (processed'.registry gone).trans (by decide +kernel)

end Dispatch

end Presence
