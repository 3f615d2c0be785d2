import Presence.CommandLine
import Presence.Proofs.Store.Ties

/-!
The `db` commands as updates of a map. `Ties.perform` is the specification of a command on the maps
behind a store, with names in normal form; `matches_perform` shows that a command on a store refines it,
and `commands_follow_ties` lifts this to separate runs at one path.
-/

namespace Presence

open CommandLine (DatabaseAction DatabaseError DatabaseResult)

namespace CommandLine

/-- The outcome of a command. -/
inductive Outcome
  | done
  /-- No row to remove. -/
  | missing
  | failed (message : String)
deriving DecidableEq

/-- The run of a program that prints some lines and ends with an outcome. -/
def Outcome.run (lines : List String) : Outcome → Run
  | .done => ⟨lines.map .line ++ [.line "ok"], .exit 0⟩
  | .missing => ⟨lines.map .line, .exit 3⟩
  | .failed message => .failure (lines.map .line) message

/-- The error of a text that is not a name. -/
def unnamed : NameKind → String → DatabaseError
  | .user => .invalidUser
  | .party => .invalidParty

end CommandLine

namespace Ties

open CommandLine (Outcome unnamed)

/-- A command on two names: both are parsed, from left to right, before any effect. -/
def onNames {k l : NameKind} (t : Ties) (first second : String)
    (command : Name k → Name l → Outcome × Ties) : Outcome × Ties :=
  match (Name.parse? first : Option (Name k)), (Name.parse? second : Option (Name l)) with
  | .none, _ => (.failed (unnamed k first).message, t)
  | .some _, .none => (.failed (unnamed l second).message, t)
  | .some a, .some b => command a b

/-- Specification of a command: its outcome, and the ties after it. -/
def perform (t : Ties) : DatabaseAction → Outcome × Ties
  | .init => (.done, t)
  | .addFriend user friend pending => t.onNames user friend fun u f =>
    if h : u = f then (.failed (StoreError.selfFriendship u).message, t)
    else (.done, t.tie u f (some (if pending then .sent else .confirmed)) fun he => absurd he h)
  | .removeFriend user friend => t.onNames user friend fun u f =>
    if (t.friends u f).isSome then (.done, t.tie u f .none fun _ => rfl) else (.missing, t)
  | .addMember party user invited => t.onNames party user fun p u =>
    (.done, t.place p u (some (if invited then .invited else .active)))
  | .removeMember party user => t.onNames party user fun p u =>
    if (t.members p u).isSome then (.done, t.place p u .none) else (.missing, t)
  | .dump => (.done, t)

/-- The ties after a list of commands. -/
def after (t : Ties) (cs : List DatabaseAction) : Ties := cs.foldl (fun t a => (t.perform a).2) t

/-- The lines of `dump`: every pair of users with a status once, ascending, and then every
membership once, ascending. -/
def Told (t : Ties) (lines : List String) : Prop :=
  ∃ (fs : List Friendship) (ms : List Membership),
    lines = fs.map CommandLine.friendshipLine ++ ms.map CommandLine.membershipLine ∧
    (fs.Pairwise fun f g => f.user1 < g.user1 ∨ f.user1 = g.user1 ∧ f.user2 < g.user2) ∧
    (∀ f, f ∈ fs ↔ f.user1 < f.user2 ∧ t.friends f.user1 f.user2 = some f.status) ∧
    (ms.Pairwise fun x y => x.party < y.party ∨ x.party = y.party ∧ x.user < y.user) ∧
    ∀ x, x ∈ ms ↔ t.members x.party x.user = some x.status

/-- The lines that a command prints. -/
def Prints (t : Ties) : DatabaseAction → List String → Prop
  | .dump, lines => t.Told lines
  | _, lines => lines = []

/-- The ties at a location after separate runs of commands; a temporary database keeps none. -/
def leftAt (t : Ties) (location : Location) (cs : List DatabaseAction) : Ties :=
  match location with
  | .temporary => t
  | _ => t.after cs

end Ties

namespace CommandLine

/-! ### Refinement -/

/-- The outcome of a result. -/
def DatabaseResult.outcome : DatabaseResult → Outcome
  | .done _ => .done
  | .missing => .missing
  | .failed e => .failed e.message

/-- The store after a result. -/
def DatabaseResult.left (s : Store) : DatabaseResult → Store
  | .done s' => s'
  | .missing => s
  | .failed _ => s

/-- A parsed name, or the error of a text that is none. -/
def named (k : NameKind) (raw : String) : Except DatabaseError (Name k) :=
  match (Name.parse? raw : Option (Name k)) with
  | some n => .ok n
  | none => .error (unnamed k raw)

theorem userNamed_eq : userNamed = named .user := by
  funext raw
  rw [userNamed, named]
  cases (Name.parse? raw : Option User) <;> rfl

theorem partyNamed_eq : partyNamed = named .party := by
  funext raw
  rw [partyNamed, named]
  cases (Name.parse? raw : Option Party) <;> rfl

section
variable {s : Store} {t : Ties}

/-- A result refines the specification: its outcome, and a store that holds the ties. -/
structure Matches (s : Store) (r : DatabaseResult) (told : Outcome × Ties) : Prop where
  outcome : r.outcome = told.1
  left : (r.left s).Holds told.2

theorem matches_onNames {k l : NameKind} {first second : String}
    {command : Name k → Name l → Except DatabaseError DatabaseResult}
    {told : Name k → Name l → Outcome × Ties} (h : s.Holds t)
    (each : ∀ a b, Matches s (.ofExcept (command a b)) (told a b)) :
    Matches s (.ofExcept do
      let a ← named k first
      let b ← named l second
      command a b) (t.onNames first second told) := by
  rw [Ties.onNames, named, named]
  cases (Name.parse? first : Option (Name k)) with
  | none => exact ⟨rfl, h⟩
  | some a =>
    cases (Name.parse? second : Option (Name l)) with
    | none => exact ⟨rfl, h⟩
    | some b => exact each a b

theorem matches_removal {removal : Bool × Store} {was : Bool} {t' : Ties} (h : s.Holds t)
    (same : removal.1 = was) (left : removal.2.Holds t') :
    Matches s (.ofRemoval removal) (if was then (.done, t') else (.missing, t)) := by
  obtain ⟨had, s'⟩ := removal
  cases same
  cases had with
  | true => exact ⟨rfl, left⟩
  | false => exact ⟨rfl, h⟩

theorem matches_putFriendship (h : s.Holds t) (u f : User) (status : FriendshipStatus) :
    Matches s (.ofExcept (match s.putFriendship u f status with
      | .ok s' => return .done s'
      | .error e => .error (.store e)))
      (if hu : u = f then (.failed (StoreError.selfFriendship u).message, t)
        else (.done, t.tie u f (some status) fun he => absurd he hu)) := by
  by_cases hu : u = f
  · have refused : s.putFriendship u f status = .error (.selfFriendship u) := if_pos hu
    rw [refused, dif_pos hu]
    exact ⟨rfl, h⟩
  · obtain ⟨s', put, left⟩ := h.putFriendship hu status
    rw [put, dif_neg hu]
    exact ⟨rfl, left⟩

/-- The lines of the rows are those of the ties. -/
theorem told_of_reads {fs : List Friendship} {ms : List Membership} (h : s.Reads t)
    (hf : s.listFriendships = .ok fs) (hm : s.listMemberships = .ok ms) :
    t.Told (fs.map friendshipLine ++ ms.map membershipLine) := by
  obtain ⟨fs', hf', sorted, mem⟩ := h.friendships
  obtain ⟨ms', hm', sorted', mem'⟩ := h.memberships
  obtain rfl : fs = fs' := by simpa [hf] using hf'
  obtain rfl : ms = ms' := by simpa [hm] using hm'
  exact ⟨fs, ms, rfl, sorted, mem, sorted', mem'⟩

/-- A command on a store refines the command on its ties, and prints what they hold. -/
theorem matches_perform (h : s.Holds t) (a : DatabaseAction) :
    Matches s (a.perform s).2 (t.perform a) ∧ t.Prints a (a.perform s).1 := by
  cases a with
  | init => exact ⟨⟨rfl, h⟩, rfl⟩
  | addFriend user friend pending =>
    simp only [DatabaseAction.perform, Ties.perform, userNamed_eq]
    exact ⟨matches_onNames h fun u f => matches_putFriendship h u f _, rfl⟩
  | removeFriend user friend =>
    simp only [DatabaseAction.perform, Ties.perform, userNamed_eq]
    refine ⟨matches_onNames h fun u f => ?_, rfl⟩
    obtain ⟨was, left⟩ := h.deleteFriendship u f
    exact matches_removal h was left
  | addMember party user invited =>
    simp only [DatabaseAction.perform, Ties.perform, partyNamed_eq, userNamed_eq]
    exact ⟨matches_onNames h fun p u => ⟨rfl, h.putMembership p u _⟩, rfl⟩
  | removeMember party user =>
    simp only [DatabaseAction.perform, Ties.perform, partyNamed_eq, userNamed_eq]
    refine ⟨matches_onNames h fun p u => ?_, rfl⟩
    obtain ⟨was, left⟩ := h.deleteMembership p u
    exact matches_removal h was left
  | dump =>
    obtain ⟨fs, hf, -⟩ := h.reads.friendships
    obtain ⟨ms, hm, -⟩ := h.reads.memberships
    have performed : DatabaseAction.dump.perform s =
        (fs.map friendshipLine ++ ms.map membershipLine, .done s) := by
      simp only [DatabaseAction.perform, hf, hm]
    rw [performed]
    exact ⟨⟨rfl, h⟩, told_of_reads h.reads hf hm⟩

end

/-! ### Runs on a disk -/

/-- The result of opening the database of a path. -/
def stored (locator : Locator) (path : String) (d : Disk) : Except StoreError Store :=
  ((openStore (Disk.files locator) path).run d).1

/-- The run of a command on the database of a path, and the disk after it. -/
def ran (locator : Locator) (path : String) (d : Disk) (a : DatabaseAction) : Run × Disk :=
  (runDatabase (Disk.files locator) path a).run d

/-- The disk after separate runs of some commands. -/
def diskAfter (locator : Locator) (path : String) (d : Disk) (cs : List DatabaseAction) : Disk :=
  cs.foldl (fun d a => (ran locator path d a).2) d

section
variable {locator : Locator} {path name : String} {d d' : Disk} {s : Store} {e : StoreError}

theorem open_of_stored (h : stored locator path d = .ok s) :
    ∃ d', (openStore (Disk.files locator) path).run d = (.ok s, d') :=
  ⟨((openStore (Disk.files locator) path).run d).2, Prod.ext h rfl⟩

theorem ran_of_open (h : (openStore (Disk.files locator) path).run d = (.ok s, d'))
    (a : DatabaseAction) :
    ran locator path d a = ((a.perform s).2.outcome.run (a.perform s).1,
      match (a.perform s).2 with
      | .done s' => ((keepStore (Disk.files locator) path s').run d').2
      | .missing => d'
      | .failed _ => d') := by
  rw [ran, runDatabase, StateT.run_bind, h]
  cases performed : a.perform s with
  | mk lines result =>
    simp only [performed, pure, bind]
    cases result <;> rfl

/-- Step lemma for databases in files: what a command leaves is found by the next. -/
theorem stored_ran_file (hp : locator.locate path = .file name) (h : stored locator path d = .ok s)
    (a : DatabaseAction) :
    stored locator path (ran locator path d a).2 = .ok ((a.perform s).2.left s) := by
  obtain ⟨d', opened⟩ := open_of_stored h
  have keeps : Keeps path name s d' := .of_open hp opened
  have found {s' : Store} {d' : Disk} (hk : Keeps path name s' d') :
      stored locator path d' = .ok s' := by
    obtain ⟨d'', again, -⟩ := hk.reopen hp
    rw [stored, again]
  rw [ran_of_open opened]
  cases (a.perform s).2 with
  | done s' => exact found (keeps.keep hp s')
  | missing => exact found keeps
  | failed e => exact found keeps

/-- Step lemma for temporary databases: every command starts from an empty one. -/
theorem stored_ran_temporary (hp : locator.locate path = .temporary)
    (h : stored locator path d = .ok s) (a : DatabaseAction) :
    stored locator path (ran locator path d a).2 = .ok s := by
  obtain ⟨d', opened⟩ := open_of_stored h
  have unkept (s' : Store) : ((keepStore (Disk.files locator) path s').run d').2 = d' := by
    simp only [keepStore, Disk.files, hp]
    rfl
  have disk : (ran locator path d a).2 = d' := by
    rw [ran_of_open opened]
    cases (a.perform s).2 with
    | done s' => exact unkept s'
    | missing => rfl
    | failed e => rfl
  rw [disk, stored, (openStore_temporary hp opened).2]

/-- A command that does not succeed changes no row. -/
theorem stored_ran_of_undone (hp : locator.locate path ≠ .other) (h : stored locator path d = .ok s)
    {a : DatabaseAction} (undone : (a.perform s).2.outcome ≠ .done) :
    stored locator path (ran locator path d a).2 = .ok s := by
  cases located : locator.locate path with
  | other => exact absurd located hp
  | temporary => exact stored_ran_temporary located h a
  | file name =>
    rw [stored_ran_file located h]
    cases result : (a.perform s).2 with
    | done s' => exact absurd (congrArg DatabaseResult.outcome result) undone
    | missing => rfl
    | failed e => rfl

/-- A command whose database cannot be opened fails with that error, and so does the next. -/
theorem ran_of_error (h : stored locator path d = .error e) (a : DatabaseAction) :
    (ran locator path d a).1 = .failure [] e.message ∧
      stored locator path (ran locator path d a).2 = .error e := by
  have opened : (openStore (Disk.files locator) path).run d =
      (.error e, ((openStore (Disk.files locator) path).run d).2) := Prod.ext h rfl
  have failed : ran locator path d a =
      (.failure [] e.message, ((openStore (Disk.files locator) path).run d).2) := by
    rw [ran, runDatabase, StateT.run_bind, opened]
    rfl
  rw [failed, stored, openStore_error_again opened]
  exact ⟨rfl, rfl⟩

end

section
variable {locator : Locator} {path : String} {d : Disk} {s : Store} {t : Ties} {e : StoreError}

theorem stored_after_error (h : stored locator path d = .error e) (cs : List DatabaseAction) :
    stored locator path (diskAfter locator path d cs) = .error e := by
  induction cs generalizing d with
  | nil => exact h
  | cons a cs ih => exact ih (ran_of_error h a).2

theorem stored_after (hp : locator.locate path ≠ .other) (h : stored locator path d = .ok s)
    (ht : s.Holds t) (cs : List DatabaseAction) :
    ∃ s', stored locator path (diskAfter locator path d cs) = .ok s' ∧
      s'.Holds (t.leftAt (locator.locate path) cs) := by
  cases located : locator.locate path with
  | other => exact absurd located hp
  | temporary =>
    induction cs generalizing d with
    | nil => exact ⟨s, h, ht⟩
    | cons a cs ih => exact ih (stored_ran_temporary located h a)
  | file name =>
    induction cs generalizing d s t with
    | nil => exact ⟨s, h, ht⟩
    | cons a cs ih => exact ih (stored_ran_file located h a) (matches_perform ht a).1.left

/-- Separate runs of commands at a path act on the rows found there as on the ties that these hold:
outcome, printed lines and rows afterwards are those of `Ties.perform`, and a command that does not
succeed changes no row. In a temporary database every command starts from the empty ties. Where the
database cannot be opened every command fails with the error. -/
theorem commands_follow_ties (locator : Locator) {path : String}
    (hp : locator.locate path ≠ .other) (d : Disk) (t : Ties) (before : List DatabaseAction)
    (a : DatabaseAction) :
    (∀ e, stored locator path d = .error e →
      (ran locator path (diskAfter locator path d before) a).1 = .failure [] e.message ∧
      stored locator path (diskAfter locator path d (before ++ [a])) = .error e) ∧
    (∀ s, stored locator path d = .ok s → s.Holds t →
      ∃ lines s s', (ran locator path (diskAfter locator path d before) a).1 =
          ((t.leftAt (locator.locate path) before).perform a).1.run lines ∧
        (t.leftAt (locator.locate path) before).Prints a lines ∧
        stored locator path (diskAfter locator path d before) = .ok s ∧
        s.Reads (t.leftAt (locator.locate path) before) ∧
        stored locator path (diskAfter locator path d (before ++ [a])) = .ok s' ∧
        s'.Reads (t.leftAt (locator.locate path) (before ++ [a])) ∧
        (((t.leftAt (locator.locate path) before).perform a).1 ≠ .done → s' = s)) := by
  refine ⟨?_, ?_⟩
  · intro e he
    exact ⟨(ran_of_error (stored_after_error he before) a).1, stored_after_error he _⟩
  · intro s hs ht
    obtain ⟨now, found, holds⟩ := stored_after hp hs ht before
    obtain ⟨next, left, holds'⟩ := stored_after hp hs ht (before ++ [a])
    obtain ⟨told, prints⟩ := matches_perform holds a
    obtain ⟨d', opened⟩ := open_of_stored found
    refine ⟨(a.perform now).1, now, next, ?_, prints, found, holds.reads, left, holds'.reads, ?_⟩
    · rw [ran_of_open opened, told.outcome]
    · intro undone
      have kept := stored_ran_of_undone hp found (a := a) (by rwa [told.outcome])
      rw [diskAfter, List.foldl_append] at left
      exact Except.ok.inj (left.symm.trans kept)

/-- Removing a friendship twice, with its names in another case and order: the second removal finds no
row. -/
theorem commands_follow_ties_removed :
    Locator.standard.locate "t" ≠ .other ∧
    ∃ s, stored .standard "t" ⟨.empty⟩ = .ok s ∧ s.Holds .none ∧
      ∃ lines, (ran .standard "t" (diskAfter .standard "t" ⟨.empty⟩
          [.addFriend "Ann" "bob" false, .removeFriend "BOB " "ann"]) (.removeFriend "ann" "bob")).1 =
        Outcome.missing.run lines ∧ lines = [] := by
  have located : Locator.standard.locate "t" = .file "t" := by decide
  have modelled : Locator.standard.locate "t" ≠ .other := by
    rw [located]
    exact fun h => nomatch h
  obtain ⟨d, made⟩ := openStore_fresh .standard
  have found : stored .standard "t" ⟨.empty⟩ = .ok .empty := by rw [stored, made]
  obtain ⟨lines, s, s', ends, prints, -⟩ := (commands_follow_ties .standard modelled ⟨.empty⟩ .none
    [.addFriend "Ann" "bob" false, .removeFriend "BOB " "ann"] (.removeFriend "ann" "bob")).2 _ found
    Store.holds_empty
  rw [located] at ends prints
  refine ⟨modelled, _, found, Store.holds_empty, lines, ?_, prints⟩
  have missing : ((Ties.none.leftAt (.file "t") [.addFriend "Ann" "bob" false,
      .removeFriend "BOB " "ann"]).perform (.removeFriend "ann" "bob")).1 = .missing := by
    decide +kernel
  rw [ends, missing]

/-- In a temporary database the second of two commands does not find the row that the first put. -/
theorem not_follows_ties_in_memory :
    (ran .standard ":memory:" ⟨.empty⟩ (.addFriend "ann" "bob" false)).1 = Outcome.done.run [] ∧
    (ran .standard ":memory:"
        (diskAfter .standard ":memory:" ⟨.empty⟩ [.addFriend "ann" "bob" false])
        (.removeFriend "ann" "bob")).1 = Outcome.missing.run [] ∧
    ((Ties.none.after [.addFriend "ann" "bob" false]).perform (.removeFriend "ann" "bob")).1 =
      .done := by
  have opened (d : Disk) : (openStore (Disk.files .standard) ":memory:").run d = (.ok .empty, d) :=
    openStore_memory .standard d
  have added : ((DatabaseAction.addFriend "ann" "bob" false).perform .empty).2.outcome = .done := by
    decide +kernel
  have missed : ((DatabaseAction.removeFriend "ann" "bob").perform .empty).2.outcome = .missing := by
    decide +kernel
  refine ⟨?_, ?_, ?_⟩
  · rw [ran_of_open (opened _), added]
    rfl
  · rw [ran_of_open (opened _), missed]
    rfl
  · decide +kernel

end

end CommandLine

end Presence
