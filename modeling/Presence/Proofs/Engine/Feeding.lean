import Presence.Proofs.Engine.Kinds
import Presence.Proofs.Engine.Reading

/-!
Drivers fed with a fixed list of frames. A client sends the frames and then ends its stream. In a
`course` the reader takes the next frame at its turns, if it is reading, and between them any action
happens that neither cancels the session nor fails its writer. Invariant: the driver has read a
prefix of the frames, and none after the first that ends the session.
-/

namespace Presence

/-! ### Client frames -/

/-- The frame at a position of a stream that ends after the given frames. -/
def frameAt (fs : List Inflow) (k : Nat) : Inflow := fs[k]?.getD .finished

/-- The frames up to the first that ends a session, with the end of the stream as the last. -/
def upToEnd : List Inflow → List Inflow
  | [] => [.finished]
  | f :: fs => if f.ending?.isSome then [f] else f :: upToEnd fs

/-- The result of a driver with these frames. -/
def endOf (fs : List Inflow) : SessionEnd := (fs.findSome? Inflow.ending?).getD .clientClosed

/-- No frame before the first that ends a session ends it. -/
theorem upToEnd_eq (fs : List Inflow) :
    ∃ before f, upToEnd fs = before ++ [f] ∧ (∀ g ∈ before, g.ending? = none) ∧
      f.ending? = some (endOf fs) ∧
      ∀ k, ∃ after, (List.range k).map (frameAt fs) <+: before ++ f :: after := by
  induction fs with
  | nil =>
    refine ⟨[], .finished, rfl, by simp, rfl, fun k => ?_⟩
    refine ⟨(List.range k).map (frameAt []), ?_⟩
    -- an empty stream reads `finished` at every position
    have silent (k : Nat) : (List.range k).map (frameAt []) = List.replicate k .finished := by
      rw [List.eq_replicate_iff]
      refine ⟨by simp, fun f hf => ?_⟩
      obtain ⟨i, -, rfl⟩ := List.mem_map.1 hf
      rfl
    rw [silent, List.nil_append, ← List.replicate_succ, List.replicate_succ']
    exact List.prefix_append ..
  | cons g fs ih =>
    have shift (k : Nat) : (List.range (k + 1)).map (frameAt (g :: fs)) =
        g :: (List.range k).map (frameAt fs) := by
      rw [List.range_succ_eq_map, List.map_cons, List.map_map]
      rfl
    cases hg : g.ending? with
    | some how =>
      refine ⟨[], g, by simp [upToEnd, hg], by simp, by simp [endOf, hg], fun k => ?_⟩
      cases k with
      | zero => exact ⟨[], List.nil_prefix⟩
      | succ k => exact ⟨(List.range k).map (frameAt fs), by rw [shift]; exact List.prefix_refl _⟩
    | none =>
      obtain ⟨before, f, upTo, quiet, ending, stream⟩ := ih
      refine ⟨g :: before, f, by simp [upToEnd, hg, upTo], ?_, by simpa [endOf, hg] using ending,
        fun k => ?_⟩
      · intro b hb
        rcases List.mem_cons.1 hb with rfl | hb
        · exact hg
        · exact quiet b hb
      · cases k with
        | zero => exact ⟨[], List.nil_prefix⟩
        | succ k =>
          obtain ⟨after, fed⟩ := stream k
          exact ⟨after, by rw [shift]; exact List.cons_prefix_cons.2 ⟨rfl, fed⟩⟩

namespace Engine

/-! ### Courses -/

/-- One turn of a course: the reader's, or another action. -/
inductive Cue
  | reads
  | other (a : Action)

/-- The action of a turn: at the reader's turn, the next frame. -/
def Cue.action (s : SessionId) (fs : List Inflow) (out : List Note) : Cue → Action
  | .reads => .read s (frameAt fs (heardBy s out).length)
  | .other a => a

/-- The other action of a turn, if any. -/
def Cue.other? : Cue → Option Action
  | .reads => none
  | .other a => some a

/-- The engine after a number of turns, with all notes. -/
def course (s : SessionId) (fs : List Inflow) (e : Engine) (cues : Nat → Cue) : Nat → Effect
  | 0 => (e, [])
  | n + 1 => andThen (course s fs e cues n)
      (·.step ((cues n).action s fs (course s fs e cues n).2))

/-- No other action of the course ends the driver of session `s` or reads in its place. -/
def Aloof (s : SessionId) (cues : Nat → Cue) : Prop :=
  ∀ n a, cues n = .other a → a.isAside s = true

section
variable {config : Config} {as : List Action} {e : Engine} {ns : List Note} {s : SessionId}
  {u : User} {role : Role} {w : Writer} {fs : List Inflow} {cues : Nat → Cue}

theorem course_succ (n : Nat) : course s fs e cues (n + 1) =
    (((course s fs e cues n).1.step ((cues n).action s fs (course s fs e cues n).2)).1,
      (course s fs e cues n).2 ++
        ((course s fs e cues n).1.step ((cues n).action s fs (course s fs e cues n).2)).2) :=
  rfl

theorem Cue.spares (ha : Aloof s cues) (n : Nat) (out : List Note) :
    ((cues n).action s fs out).spares s = true := by
  cases ht : cues n with
  | reads => rfl
  | other a =>
    have aside := ha n a ht
    unfold Cue.action Action.spares
    dsimp only
    split
    · rfl
    · exact aside

/-- A course is a run. -/
theorem course_eq_run (e : Engine) (fs : List Inflow) (ha : Aloof s cues) (n : Nat) :
    ∃ bs, course s fs e cues n = e.run bs ∧ (∀ b ∈ bs, b.spares s = true) ∧
      bs.filter (Action.isAside s) = ((List.range n).map cues).filterMap Cue.other? := by
  induction n with
  | zero => exact ⟨[], rfl, by simp, rfl⟩
  | succ n ih =>
    obtain ⟨bs, run, spared, others⟩ := ih
    refine ⟨bs ++ [(cues n).action s fs (course s fs e cues n).2], ?_, ?_, ?_⟩
    · rw [run_append, ← run]
      show _ = ((Engine.run _ [_]).1, _ ++ (Engine.run _ [_]).2)
      simp [course, Engine.run, andThen]
    · intro b hb
      rcases List.mem_append.1 hb with hb | hb
      · exact spared b hb
      · rw [List.mem_singleton.1 hb]
        exact Cue.spares ha n _
    · rw [List.filter_append, others, List.range_succ, List.map_append, List.filterMap_append]
      congr 1
      cases ht : cues n with
      | reads => simp [ht, Cue.action, Cue.other?, Action.isAside]
      | other a => simp [ht, Cue.action, Cue.other?, ha n a ht]

theorem course_reaches (h : Reaches config as e ns) (ha : Aloof s cues) (fs : List Inflow) (n : Nat) :
    ∃ bs, Reaches config bs (course s fs e cues n).1 (ns ++ (course s fs e cues n).2) := by
  obtain ⟨bs, run, -⟩ := course_eq_run e fs ha n
  rw [run]
  exact ⟨as ++ bs, h.append bs⟩

/-- A driver that is reading and has read nothing. -/
theorem Progress.start (h : Reaches config as e ns)
    (hx : e.session? s = some ⟨u, role, .driven .reading w⟩) : Progress s u e [] :=
  ⟨⟨_, hx, rfl, .driven (by simp [heardBy]) _ _⟩, by
    have idle : waitsOf s e.queue = 0 := (attends_iff hx).1 (h.attends s)
    rw [idle]
    rfl⟩

theorem course_progress (h : Reaches config as e ns)
    (hx : e.session? s = some ⟨u, role, .driven .reading w⟩) (ha : Aloof s cues) (n : Nat) :
    Progress s u (course s fs e cues n).1 (course s fs e cues n).2 := by
  obtain ⟨bs, run, spared, -⟩ := course_eq_run e fs ha n
  rw [run]
  simpa using run_progress h (Progress.start h hx) spared

/-- One turn of a course. -/
inductive Turned (s : SessionId) (fs : List Inflow) (c c' : Effect) : Prop
  | beside {out : List Note} (hb : Beside s c.1 c'.1 out) (hn : c'.2 = c.2 ++ out)
  | read {u : User} {role : Role} {w : Writer} {f : Inflow}
      (hf : f = frameAt fs (heardBy s c.2).length)
      (hx : c.1.session? s = some ⟨u, role, .driven .reading w⟩)
      (he : c'.1 = (c.1.step (.read s f)).1) (hn : c'.2 = c.2 ++ (c.1.step (.read s f)).2)

theorem course_turned (h : Reaches config as e ns) (ha : Aloof s cues) (fs : List Inflow) (n : Nat) :
    Turned s fs (course s fs e cues n) (course s fs e cues (n + 1)) := by
  obtain ⟨bs, reached⟩ := course_reaches h ha fs n
  rw [course_succ]
  cases ht : cues n with
  | other a => exact .beside (step_beside (ha n a ht) reached.inStage (reached.attends s)) rfl
  | reads =>
    rcases reading_or_busy s (course s fs e cues n).1 with ⟨u, role, w, hr⟩ | busy
    · exact .read rfl hr rfl rfl
    · have still : (course s fs e cues n).1.step
          (Cue.action s fs (course s fs e cues n).2 .reads) = ((course s fs e cues n).1, []) :=
        busy _
      rw [still]
      exact .beside (.still rfl rfl ⟨rfl, rfl⟩) rfl

/-- The frames read are a prefix of the stream. -/
theorem course_heard (h : Reaches config as e ns) (ha : Aloof s cues) (n : Nat) :
    heardBy s (course s fs e cues n).2 =
      (List.range (heardBy s (course s fs e cues n).2).length).map (frameAt fs) := by
  induction n with
  | zero => rfl
  | succ n ih =>
    cases course_turned h ha fs n with
    | beside hb hn =>
      rw [hn, heardBy_append, hb.heard, List.append_nil]
      exact ih
    | read hf hx he hn =>
      rw [hn, heardBy_append, heardBy_read hx, List.length_append, List.length_singleton,
        List.range_succ, List.map_append, ← ih, hf]
      rfl

/-- The state of a driver that has read `k` frames: in its loop, or left after the frame that ended
the session. -/
def Stands (fs read : List Inflow) (stage : Stage) : Prop :=
  ((∃ r w, stage = .driven r w) ∧ read <+: upToEnd fs ∧ read ≠ upToEnd fs) ∨
    (stage = .leaving (endOf fs) ∨ stage = .ended (endOf fs)) ∧ read = upToEnd fs

theorem Heeds.stands {read : List Inflow} {stage : Stage} (h : Heeds read stage)
    (fed : read = (List.range read.length).map (frameAt fs)) : Stands fs read stage := by
  obtain ⟨before, f, upTo, quiet, ending, stream⟩ := upToEnd_eq fs
  obtain ⟨after, first⟩ := stream read.length
  rw [← fed] at first
  have come {first : List Inflow} {g : Inflow} {how : SessionEnd} (hr : read = first ++ [g])
      (quiet' : ∀ b ∈ first, b.ending? = none) (hg : g.ending? = some how) :
      how = endOf fs ∧ read = upToEnd fs := by
    subst hr
    obtain ⟨rfl, rfl⟩ := eq_of_ending ending hg quiet quiet' first
    exact ⟨Option.some.inj (hg.symm.trans ending), upTo.symm⟩
  cases h with
  | driven quiet' r w =>
    have short := prefix_of_quiet ending first quiet'
    refine .inl ⟨⟨r, w, rfl⟩, ?_, fun h => ?_⟩
    · rw [upTo]
      exact short.trans (List.prefix_append ..)
    · rw [h, upTo] at short
      have longer := short.length_le
      rw [List.length_append] at longer
      exact Nat.not_succ_le_self _ longer
  | leaving hr quiet' hg =>
    obtain ⟨rfl, all⟩ := come hr quiet' hg
    exact .inr ⟨.inl rfl, all⟩
  | ended hr quiet' hg =>
    obtain ⟨rfl, all⟩ := come hr quiet' hg
    exact .inr ⟨.inr rfl, all⟩

/-- Courses commute with `plain`. -/
theorem course_plain (hb : ∀ n a, cues n = .other a → a.isBlind = true) (hs : s < e.nextSession)
    (n : Nat) : course s fs (e.plain s) cues n = (course s fs e cues n).plain s := by
  have there (n : Nat) : s < (course s fs e cues n).1.nextSession := by
    induction n with
    | zero => exact hs
    | succ n ih => exact lt_nextSession_step ih _
  induction n with
  | zero => rfl
  | succ n ih =>
    have blind : ((cues n).action s fs (course s fs e cues n).2).isBlind = true := by
      cases ht : cues n with
      | reads => rfl
      | other a => exact hb n a ht
    rw [course_succ, course_succ, ih]
    have stepped := step_plain blind (Nat.ne_of_lt (there n))
    have same : ((course s fs e cues n).plain s).1.step
        ((cues n).action s fs ((course s fs e cues n).plain s).2) = _ := stepped
    rw [same]
    rfl

theorem course_recast (fs : List Inflow) (hb : ∀ n a, cues n = .other a → a.isBlind = true)
    (hs : s < e.nextSession) (role : Role) (n : Nat) :
    Effect.plain (course s fs (e.recast s role) cues n) s = (course s fs e cues n).plain s := by
  rw [← course_plain hb (by rwa [nextSession_recast]), plain_recast, course_plain hb hs]

end

end Engine

end Presence
