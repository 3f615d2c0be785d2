import Mathlib.Data.List.Perm.Subperm
import Presence.Proofs.Engine.Pollers

/-!
Counters of sessions. Every session is counted as opened, and as closed once its driver has
returned. The registry has at most one entry for each status session whose driver has not returned.
-/

namespace Presence

namespace Roster

variable {r : Roster} {s : SessionId} {x : Session}

/-- The number of sessions with a property after the update of one session. -/
theorem countP_update (h : r.get? s = some x) (y : Session) (p : Session → Bool) :
    (r.update s fun _ => y).countP p + (p x).toNat = r.countP p + (p y).toNat := by
  unfold get? at h
  split at h
  · cases h
  · rename_i hs
    obtain ⟨hlt, hx⟩ := List.getElem?_eq_some_iff.1 h
    have there : (p x).toNat ≤ r.countP p := by
      cases hp : p x with
      | false => exact Nat.zero_le _
      | true => exact List.countP_pos_iff.2 ⟨x, hx ▸ List.getElem_mem hlt, hp⟩
    rw [update, if_neg hs, ← List.set_eq_modify, List.countP_set hlt, hx]
    cases hp : p x <;> cases hq : p y <;>
      simp only [hp, Bool.toNat_true, Bool.toNat_false, if_true, Bool.false_eq_true, if_false]
        at there ⊢ <;> omega

theorem mem_of_get? (h : r.get? s = some x) : x ∈ r := by
  unfold get? at h
  split at h
  · cases h
  · exact List.mem_of_getElem? h

end Roster

/-- The note of a driver's return. -/
def Note.isEnding : Note → Bool
  | .ended .. => true
  | _ => false

namespace Engine

/-- The counters agree with the roster and with the record. -/
structure Census (e : Engine) (ns : List Note) : Prop where
  opened : e.opened = e.sessions.length
  closed : e.closed = e.sessions.countP Session.hasEnded
  noted : e.closed = ns.countP Note.isEnding

section
variable {a : Action} {e e' : Engine} {out ns : List Note}

theorem NoneEnds.uncounted (h : NoneEnds e e' out) : out.countP Note.isEnding = 0 := by
  refine List.countP_eq_zero.2 fun n hn he => ?_
  cases n with
  | ended t how => exact h.noted t how hn
  | _ => cases he

theorem Census.shift (hs : Shift e e' out) (h : Census e ns) : Census e' (ns ++ out) := by
  have noted (hn : NoneEnds e e' out) : e'.closed = (ns ++ out).countP Note.isEnding := by
    rw [hn.counted, h.noted, List.countP_append, hn.uncounted, Nat.add_zero]
  cases hs with
  | still hs ho hn =>
    exact ⟨by rw [ho, hs, h.opened], by rw [hn.counted, hs, h.closed], noted hn⟩
  | @one _ _ y hx hp hs ho hn =>
    have same := Roster.countP_update hx y Session.hasEnded
    refine ⟨by rw [ho, hs, Roster.length_update, h.opened], ?_, noted hn⟩
    rw [hn.counted, hs, h.closed]
    rw [hp.hasEnded] at same
    omega
  | @ended s x how hx hr _ hs ho hc hn =>
    have more := Roster.countP_update hx { x with stage := .ended how } Session.hasEnded
    have going : x.hasEnded = false := hasEnded_of_ne (by simp [hr])
    refine ⟨by rw [ho, hs, Roster.length_update, h.opened], ?_, ?_⟩
    · rw [going] at more
      rw [hc, hs, h.closed]
      exact more.symm
    · rw [hc, hn, h.noted, List.countP_append]
      rfl
  | added hs hy ho hn =>
    refine ⟨by rw [ho, hs, Roster.length_add, h.opened], ?_, noted hn⟩
    rw [hn.counted, hs, h.closed, Roster.add, List.countP_append]
    simp [hy.hasEnded]

section
variable {config : Config} {as : List Action}

theorem Reaches.census (h : Reaches config as e ns) : Census e ns :=
  (h.keeps_sound (P := Census) (fun _ _ => ⟨rfl, rfl, rfl⟩)
    fun _ _ _ _ _ _ _ hi hm hc => hc.shift (hm.shift hi)).2

/-- The registry holds only users of status sessions whose drivers have not returned. -/
theorem Reaches.registered (h : Reaches config as e ns) {u : User}
    (hu : u ∈ e.board.registry.keys) :
    ∃ x ∈ e.sessions, x.isParty = false ∧ x.hasEnded = false ∧ x.user = u := by
  obtain ⟨link, hl⟩ := Table.get?_of_mem_keys hu
  obtain ⟨x, hx, hxu, hp⟩ := (h.wired.entry hl).session
  have going : x.hasEnded = false := by
    cases he : x.hasEnded with
    | false => rfl
    | true => exact absurd ((h.returned_iff hx).2 he) (h.enrolled.entry hl).2
  exact ⟨x, Roster.mem_of_get? hx, by rw [x.isParty_eq, hp, Option.isSome_none], going, hxu⟩

/-- The size of the registry is bounded by the number of these sessions. -/
theorem Reaches.registry_size_le (h : Reaches config as e ns) :
    e.board.registry.size ≤ e.sessions.countP fun x => !x.isParty && !x.hasEnded := by
  have users : e.board.registry.keys ⊆
      (e.sessions.filter fun x => !x.isParty && !x.hasEnded).map Session.user := by
    intro u hu
    obtain ⟨x, hx, hp, he, hxu⟩ := h.registered hu
    exact List.mem_map.2 ⟨x, List.mem_filter.2 ⟨hx, by simp [hp, he]⟩, hxu⟩
  have fewer := (List.subperm_of_subset e.board.registry.nodup users).length_le
  rw [List.length_map, List.length_map, ← List.countP_eq_length_filter] at fewer
  exact fewer

/-- The counter `opened` is the number of sessions. The counter `closed` is the number of sessions
with stage `ended`, each of which has exactly one `.ended` note; the difference counts all others,
those included that were never driven or were dropped. A driver that is `leaving` returns in the run
of its cleanup and is counted then. The registry is bounded by the status sessions that are not
`ended`. -/
theorem sessions_counted (h : Reaches config as e ns) :
    e.metrics.sessionsOpened = e.sessions.length ∧
    e.metrics.sessionsOpened =
      e.metrics.sessionsClosed + e.sessions.countP (fun x => !x.hasEnded) ∧
    e.metrics.sessionsClosed ≤ e.metrics.sessionsOpened ∧
    e.metrics.sessionsClosed = ns.countP Note.isEnding ∧
    (∀ s, endings s ns = ((e.session? s).any Session.hasEnded).toNat) ∧
    (∀ {s x how}, e.session? s = some x → x.stage = .leaving how →
      (e.run [.finishPoller s, .finishDriver s]).2 = [.ended s how] ∧
      (e.run [.finishPoller s, .finishDriver s]).1.metrics.sessionsClosed =
        e.metrics.sessionsClosed + 1) ∧
    e.board.registry.size ≤ e.sessions.countP fun x => !x.isParty && !x.hasEnded := by
  obtain ⟨opened, closed, noted⟩ := h.census
  have rest : e.opened = e.closed + e.sessions.countP (fun x => !x.hasEnded) := by
    rw [opened, closed, List.length_eq_countP_add_countP Session.hasEnded]
    simp
  have fewer : e.closed ≤ e.opened := by omega
  exact ⟨opened, rest, fewer, noted, h.endings, h.finish, h.registry_size_le⟩

/-- A session is replaced and left by its client, its successor is closed for the user, and a party
session is dropped; a third status session is left. -/
theorem sessions_counted_of_four :
    ∃ u p e ns, Reaches Config.standard
        [.openStatus u, .openStatus u, .drive 1, .drive 2, .read 1 .close, .finishDriver 1,
          .closeSession u, .cancel 2, .openParty p u, .lookupAnswered 2 (.ok (some ⟨p, u, .invited⟩)),
          .dropSession 3, .finishPoller 3, .finishDriver 2, .finishDriver 2, .openStatus u] e ns ∧
      e.metrics.sessionsOpened = 4 ∧ e.metrics.sessionsClosed = 2 ∧
      endings 2 ns = 1 ∧ endings 3 ns = 0 ∧
      e.board.registry.size ≤ e.sessions.countP fun x => !x.isParty && !x.hasEnded := by
  have reached (u : User) (p : Party) : Reaches Config.standard
      [.openStatus u, .openStatus u, .drive 1, .drive 2, .read 1 .close, .finishDriver 1,
        .closeSession u, .cancel 2, .openParty p u, .lookupAnswered 2 (.ok (some ⟨p, u, .invited⟩)),
        .dropSession 3, .finishPoller 3, .finishDriver 2, .finishDriver 2, .openStatus u] _ _ :=
    .of_start rfl _
  have hr := reached ⟨"ann", by decide, "ann", rfl⟩ ⟨"p", by decide, "p", rfl⟩
  obtain ⟨opened, -, -, -, each, -, registry⟩ := sessions_counted hr
  have second := each 2
  have third := each 3
  refine ⟨_, _, _, _, hr, opened.trans ?_, ?_, second.trans ?_, third.trans ?_, registry⟩
  all_goals decide +kernel

end

end

end Engine

end Presence
