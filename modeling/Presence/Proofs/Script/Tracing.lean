import Presence.Proofs.Clock
import Presence.Script.Polling

/-!
A poller with a record of its ticks and of the frames taken by its channel. The record is computed
beside the run from each move: the tick due before it and the channel after it. It does not affect
the run (`following_fst`). A property of states and records that is preserved by moves, by time up
to the next tick and by all other steps is preserved by every step (`Kept.following`); after a step
no move is enabled (`move?_settle`).
-/

namespace Presence.Script.Polling

/-- A tick: when it was due and taken, and the flags and lists then. -/
structure Tick where
  due : Nat
  moment : Nat
  status : StatusStore
  relations : Relationships

/-- The ticks and frames of a poller. -/
structure Record where
  ticks : List Tick
  /-- The frames taken by the channel, with their moments. -/
  frames : List (Nat × Message)

namespace State

/-- The state after a list of steps. -/
def after (s : State) (as : List Step) : State := as.foldl (fun s a => (step s a).2) s

/-- The tick taken by a move. -/
def ticked (s s' : State) : List Tick :=
  match s.poller.bind Poller.due?, s'.poller.map Poller.phase with
  | some due, some (.sending _ _) => [⟨due, s.now, s.status, s.relations⟩]
  | _, _ => []

/-- The frames taken by the channel in a move. -/
def framed (s s' : State) : List (Nat × Message) :=
  (s'.channel.items.drop s.channel.items.length).map fun m => (s.now, m)

end State

/-- Adds a move to the record. -/
def Record.note (r : Record) (s s' : State) : Record :=
  ⟨r.ticks ++ s.ticked s', r.frames ++ s.framed s'⟩

/-- Settling, with the record. -/
def settling : (fuel : Nat) → State × Record → State × Record
  | 0, x => x
  | fuel + 1, x =>
    match x.1.move? with
    | some s => settling fuel (s, x.2.note x.1 s)
    | none => x

/-- Arrival at a moment, with the record. -/
def arriving (t : Instant) : State × Record → State × Record
  | (s, r) => settling State.bound ({ s with now := max t s.now }, r)

/-- Advancing the clock, with the record. -/
def advancing (x : State × Record) (stop : Instant) : State × Record :=
  Clock.runUntil (fun x => x.1.poller.bind Poller.due?) arriving stop (stop - x.1.now + 1) x

/-- One step, with the record. -/
def following (x : State × Record) (a : Step) : State × Record :=
  settling State.bound (match a with
    | .advance d => advancing x (x.1.now + d.nanos)
    | a => ((act x.1 a).2, x.2))

section
variable {s s' : State} {x : State × Record} {r : Record} {p : Poller} {t : Nat}

/-! ### The record does not affect the run -/

/-- The next move of a poller, and its entry on the record. -/
inductive Moves (s : State) (r : Record) : State → Record → Prop
  | finishes (p : Poller) (hp : s.poller = some p) (hf : p.isFinished = false)
      (hc : s.cancelled = true ∨ p.interval = 0) :
      Moves s r { s with poller := some p.finish } r
  | ticks (p : Poller) (due : Nat) (hp : s.poller = some p) (hd : p.phase = .waiting due)
      (hc : s.cancelled = false) (hi : 0 < p.interval) (hle : due ≤ s.now) :
      Moves s r
        { s with
          poller := some { p with
            phase := .sending (partySnapshot s.status s.relations p.party s.now)
              (Poller.nextDue p.interval due s.now) } }
        ⟨r.ticks ++ [⟨due, s.now, s.status, s.relations⟩], r.frames⟩
  | sends (p : Poller) (held : Snapshot) (next : Nat) (hp : s.poller = some p)
      (hd : p.phase = .sending held next) (hc : s.cancelled = false) (hi : 0 < p.interval)
      (ho : s.channel.isOpen = true) (hr : s.channel.hasRoom = true) :
      Moves s r
        { s with
          poller := some { p with phase := .waiting next }
          channel := s.channel.push (.snapshot held)
          sent := s.sent + 1 }
        ⟨r.ticks, r.frames ++ [(s.now, .snapshot held)]⟩
  | deserted (p : Poller) (held : Snapshot) (next : Nat) (hp : s.poller = some p)
      (hd : p.phase = .sending held next) (hc : s.cancelled = false) (hi : 0 < p.interval)
      (ho : s.channel.isOpen = false) :
      Moves s r { s with poller := some p.finish } r

theorem note_finish (hp : s.poller = some p) :
    r.note s { s with poller := some p.finish } = r := by
  simp [Record.note, State.ticked, State.framed, hp, Poller.finish]

theorem moves_of_move? (h : s.move? = some s') : Moves s r s' (r.note s s') := by
  unfold State.move? at h
  split at h
  · cases h
  · rename_i p hp
    split at h
    · cases h
    · rename_i hf
      split at h
      · rename_i hc
        cases h
        rw [note_finish hp]
        exact .finishes p hp (by simpa using hf) (by simpa using hc)
      · rename_i hc
        obtain ⟨hc, hi⟩ : s.cancelled = false ∧ p.interval ≠ 0 := by simpa using hc
        have hi := Nat.pos_of_ne_zero hi
        split at h
        · rename_i q hq
          cases h
          obtain ⟨due, hd, hle, rfl⟩ := Poller.tick?_eq_some hq
          have noted := Moves.ticks (r := r) p due hp hd hc hi hle
          simpa [Record.note, State.ticked, State.framed, hp, Poller.due?, hd] using noted
        · split at h
          · rename_i q c hq
            cases h
            obtain ⟨held, next, hd, ho, hr, rfl, rfl⟩ := Poller.emit_eq_sent hq
            have noted := Moves.sends (r := r) p held next hp hd hc hi ho hr
            simpa [Record.note, State.ticked, State.framed, hp, Poller.due?, hd] using noted
          · rename_i q hq
            cases h
            obtain ⟨ho, rfl⟩ := Poller.emit_eq_noReceiver hq
            obtain ⟨held, next, hd⟩ : ∃ held next, p.phase = .sending held next := by
              unfold Poller.emit at hq
              split at hq
              · exact ⟨_, _, ‹_›⟩
              · cases hq
            rw [note_finish hp]
            exact .deserted p held next hp hd hc hi ho
          · cases h

/-! ### After a step no move is enabled -/

/-- The number of further ticks that can be taken at a moment. -/
def behind (now due : Nat) : Nat :=
  if now < due then 0 else if due + Poller.tolerance < now then 1 else now - due + 1

theorem behind_le (now due : Nat) : behind now due ≤ Poller.tolerance + 1 := by
  unfold behind
  split
  · exact Nat.zero_le _
  · split
    · exact Nat.le_add_left ..
    · omega

theorem behind_nextDue {now due i : Nat} (hi : 0 < i) (hle : due ≤ now) :
    behind now (Poller.nextDue i due now) < behind now due := by
  unfold Poller.nextDue
  split
  · rename_i intime
    have intime : now ≤ due + Poller.tolerance := intime
    unfold behind
    rw [if_neg (Nat.not_lt_of_le hle), if_neg (Nat.not_lt_of_le intime)]
    split
    · omega
    · rw [if_neg (by omega)]
      omega
  · rename_i late
    unfold behind
    rw [if_pos (Nat.lt_add_of_pos_right hi), if_neg (Nat.not_lt_of_le hle),
      if_pos (Nat.lt_of_not_le late)]
    exact Nat.one_pos

/-- A bound on the number of moves of a poller at a moment. -/
def State.weight (s : State) : Nat :=
  match s.poller.map Poller.phase with
  | some (.waiting due) => 2 * behind s.now due + 1
  | some (.sending _ next) => 2 * behind s.now next + 2
  | _ => 0

theorem weight_le (s : State) : s.weight ≤ State.bound := by
  unfold State.weight State.bound
  split
  · rename_i due _
    have few := behind_le s.now due
    omega
  · rename_i next _
    have few := behind_le s.now next
    omega
  · exact Nat.zero_le _

theorem Moves.now_eq {r' : Record} (h : Moves s r s' r') : s'.now = s.now := by
  cases h <;> rfl

theorem Moves.weight_lt {r' : Record} (h : Moves s r s' r') : s'.weight < s.weight := by
  cases h with
  | finishes p hp hf =>
    cases hd : p.phase with
    | finished => simp [Poller.isFinished, hd] at hf
    | waiting due =>
      simp only [State.weight, hp, hd, Option.map_some, Poller.finish]
      omega
    | sending held next =>
      simp only [State.weight, hp, hd, Option.map_some, Poller.finish]
      omega
  | ticks p due hp hd hc hi hle =>
    have fewer := behind_nextDue hi hle
    simp only [State.weight, hp, hd, Option.map_some]
    omega
  | sends p held next hp hd =>
    simp only [State.weight, hp, hd, Option.map_some]
    omega
  | deserted p held next hp hd =>
    simp only [State.weight, hp, hd, Option.map_some, Poller.finish]
    omega

theorem move?_settling {fuel : Nat} (h : x.1.weight ≤ fuel) :
    (settling fuel x).1.move? = none := by
  induction fuel generalizing x with
  | zero =>
    cases hm : x.1.move? with
    | none => exact hm
    | some s =>
      have less := (moves_of_move? (r := x.2) hm).weight_lt
      omega
  | succ fuel ih =>
    unfold settling
    cases hm : x.1.move? with
    | none => exact hm
    | some s =>
      have less := (moves_of_move? (r := x.2) hm).weight_lt
      exact ih (Nat.le_of_lt_succ (Nat.lt_of_lt_of_le less h))

/-! ### Preserved properties -/

/-- The steps of others on a state with a poller. -/
structure Around (s s' : State) : Prop where
  now : s'.now = s.now
  sent : s'.sent = s.sent
  poller : s.poller.isSome = true → s'.poller = s.poller
  cancelled : s.cancelled = true → s'.cancelled = true
  items : s'.channel.items <:+ s.channel.items
  shut : s.channel.isOpen = false → s'.channel.isOpen = false

theorem Around.refl (s : State) : Around s s :=
  ⟨rfl, rfl, fun _ => rfl, id, List.suffix_refl _, id⟩

theorem around_act {a : Step} (ha : ∀ d, a ≠ .advance d) : Around s (act s a).2 := by
  cases a with
  | start =>
    unfold act
    dsimp only
    split
    · exact .refl s
    · rename_i none
      exact { Around.refl s with poller := fun some => absurd some none }
  | receive =>
    unfold act
    dsimp only
    split
    · split
      · rename_i m c hc
        obtain ⟨items, -, isOpen⟩ := Channel.take?_eq_some_iff.1 hc
        exact { Around.refl s with
          items := items ▸ List.suffix_cons m c.items
          shut := isOpen.trans }
      · exact .refl s
    · exact .refl s
  | dropReceiver =>
    exact { Around.refl s with items := List.nil_suffix .., shut := fun _ => rfl }
  | cancel => exact { Around.refl s with cancelled := fun _ => rfl }
  | advance d => exact absurd rfl (ha d)
  | _ => exact { Around.refl s with }

/-- A property of states and records that every kind of step preserves. -/
structure Kept (P : State → Record → Prop) : Prop where
  move : ∀ {s s' r r'}, P s r → Moves s r s' r' → P s' r'
  /-- Time advances at most to the next tick. -/
  time : ∀ {s r t}, P s r → s.move? = none → s.now ≤ t →
    (∀ due, s.poller.bind Poller.due? = some due → t ≤ due) → P { s with now := t } r
  around : ∀ {s s' r}, P s r → Around s s' → P s' r

section
variable {P : State → Record → Prop}

theorem Kept.settling (h : Kept P) (hx : P x.1 x.2) (fuel : Nat) :
    P (settling fuel x).1 (settling fuel x).2 ∧ (Polling.settling fuel x).1.now = x.1.now := by
  induction fuel generalizing x with
  | zero => exact ⟨hx, rfl⟩
  | succ fuel ih =>
    unfold Polling.settling
    cases hm : x.1.move? with
    | none => exact ⟨hx, rfl⟩
    | some s =>
      have moves := moves_of_move? (r := x.2) hm
      obtain ⟨kept, same⟩ := ih (x := (s, x.2.note x.1 s)) (h.move hx moves)
      exact ⟨kept, same.trans moves.now_eq⟩

/-- Settling preserves the property, after which time can advance. -/
theorem Kept.settle (h : Kept P) (hx : P x.1 x.2) :
    P (Polling.settling State.bound x).1 (Polling.settling State.bound x).2 ∧
      (Polling.settling State.bound x).1.move? = none :=
  ⟨(h.settling hx _).1, move?_settling (weight_le x.1)⟩

theorem Kept.arriving (h : Kept P) (hx : P x.1 x.2) (rests : x.1.move? = none)
    (hn : x.1.now ≤ t) (hd : ∀ due, x.1.poller.bind Poller.due? = some due → t ≤ due) :
    P (Polling.arriving t x).1 (Polling.arriving t x).2 ∧
      (Polling.arriving t x).1.move? = none ∧ (Polling.arriving t x).1.now = t := by
  obtain ⟨s, r⟩ := x
  have later := h.time hx rests hn hd
  unfold Polling.arriving
  dsimp only at hn later ⊢
  rw [show max t s.now = t from Nat.max_eq_left hn]
  obtain ⟨kept, now⟩ := h.settling (x := ({ s with now := t }, r)) later State.bound
  exact ⟨kept, move?_settling (weight_le _), now⟩

/-- If no move is enabled, the next tick is in the future. -/
theorem lt_due_of_move? (rests : s.move? = none) {due : Nat}
    (hd : s.poller.bind Poller.due? = some due) : s.now < due := by
  refine Nat.lt_of_not_le fun hle => ?_
  obtain ⟨p, hp, hd⟩ := Option.bind_eq_some_iff.1 hd
  obtain ⟨party, interval, phase⟩ := p
  obtain rfl : phase = .waiting due := by
    cases phase with
    | waiting d => exact congrArg _ (Option.some.inj hd)
    | _ => cases hd
  unfold State.move? at rests
  rw [hp] at rests
  by_cases stop : (s.cancelled || decide (interval = 0)) = true
  · simp [Poller.isFinished, stop] at rests
  · simp [Poller.isFinished, stop, Poller.tick?, hle] at rests

theorem Kept.advancing (h : Kept P) (hx : P x.1 x.2) (rests : x.1.move? = none)
    (hn : x.1.now ≤ t) :
    P (Polling.advancing x t).1 (Polling.advancing x t).2 ∧
      (Polling.advancing x t).1.move? = none ∧ (Polling.advancing x t).1.now = t := by
  unfold Polling.advancing
  refine Clock.runUntil_of_arrivals
    (P := fun y : State × Record => (P y.1 y.2 ∧ y.1.move? = none) ∧ y.1.now ≤ t)
    (Q := fun y : State × Record => P y.1 y.2 ∧ y.1.move? = none ∧ y.1.now = t)
    (m := fun y : State × Record => t - y.1.now) ?_ ?_ ⟨⟨hx, rests⟩, hn⟩ (Nat.lt_succ_self _)
  · rintro y u ⟨⟨hy, rests⟩, -⟩ hu hle
    have later := lt_due_of_move? rests hu
    obtain ⟨kept, rests', now⟩ := h.arriving hy rests (Nat.le_of_lt later) fun due hd =>
      Nat.le_of_eq (Option.some.inj (hu.symm.trans hd))
    refine ⟨⟨⟨kept, rests'⟩, Nat.le_trans (Nat.le_of_eq now) hle⟩, ?_⟩
    rw [now]
    exact Nat.sub_lt_sub_left (Nat.lt_of_lt_of_le later hle) later
  · rintro y ⟨⟨hy, rests⟩, hn⟩ after
    exact h.arriving hy rests hn fun due hd => Nat.le_of_lt (after due hd)

/-- A step from a settled state. -/
theorem Kept.following (h : Kept P) (hx : P x.1 x.2) (rests : x.1.move? = none) (a : Step) :
    P (Polling.following x a).1 (Polling.following x a).2 ∧
      (Polling.following x a).1.move? = none := by
  unfold Polling.following
  refine h.settle ?_
  split
  · exact (h.advancing hx rests (Nat.le_add_right ..)).1
  · rename_i other
    exact h.around hx (around_act other)

/-- A list of steps from a settled state. -/
theorem Kept.run (h : Kept P) (hx : P x.1 x.2) (rests : x.1.move? = none) (as : List Step) :
    P (as.foldl Polling.following x).1 (as.foldl Polling.following x).2 ∧
      (as.foldl Polling.following x).1.move? = none := by
  induction as generalizing x with
  | nil => exact ⟨hx, rests⟩
  | cons a as ih =>
    obtain ⟨kept, rests'⟩ := h.following hx rests a
    exact ih kept rests'

end

end

end Presence.Script.Polling
