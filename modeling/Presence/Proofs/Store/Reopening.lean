import Presence.CommandLine.Database
import Presence.Proofs.Paths

/-!
Databases in files. `Keeps` is the invariant of a disk on which a path's database was opened: its file
holds the store, and the directories of the path and of the file exist. It is established by opening
the database, preserved by commits, and makes opening it again return the same store.
-/

namespace Presence

namespace Disk

variable {d d' : Disk} {way w : List String} {ways : List (List String)} {e : Entry}

/-- The components at which `find?` returns a directory on every disk. -/
def isFixed (way : List String) : Bool := way = [] || way = ["/"]

theorem find?_insert : (d.insert way e).find? w =
    if isFixed w then some .directory else if w = way then some e else d.find? w := by
  unfold find? insert isFixed
  split
  · rfl
  · rw [Table.get?_insert]

/-- `makeAll` preserves directories. -/
theorem find?_of_makeAll (h : d.makeAll ways = .ok d') (hw : d.find? w = some .directory) :
    d'.find? w = some .directory := by
  induction ways generalizing d with
  | nil =>
    cases h
    exact hw
  | cons way rest ih =>
    unfold makeAll at h
    split at h
    · exact ih h hw
    · cases h
    · refine ih h ?_
      rw [find?_insert]
      split
      · rfl
      · split
        · rfl
        · exact hw

/-- After `makeAll` all its directories exist. -/
theorem find?_makeAll (h : d.makeAll ways = .ok d') (hw : w ∈ ways) :
    d'.find? w = some .directory := by
  induction ways generalizing d with
  | nil => cases hw
  | cons way rest ih =>
    unfold makeAll at h
    split at h
    · rename_i there
      rcases List.mem_cons.1 hw with rfl | hw
      · exact find?_of_makeAll h there
      · exact ih h hw
    · cases h
    · rcases List.mem_cons.1 hw with rfl | hw
      · refine find?_of_makeAll h ?_
        simp [find?_insert]
      · exact ih h hw

/-- `makeAll` is the identity where all its directories exist. -/
theorem makeAll_of_find? (h : ∀ way ∈ ways, d.find? way = some .directory) :
    d.makeAll ways = .ok d := by
  induction ways with
  | nil => rfl
  | cons way rest ih =>
    unfold makeAll
    rw [h way (by simp)]
    exact ih fun w hw => h w (by simp [hw])

theorem entry?_eq_find? {path : String} (h : Path.leadsToDirectory path = false) :
    d.entry? path = d.find? (Path.names path) := by
  unfold entry?
  cases d.find? (Path.names path) <;> simp [h]

theorem any_isDirectory_entry?_iff {path : String} :
    (d.entry? path).any Entry.isDirectory = true ↔
      d.find? (Path.names path) = some .directory := by
  unfold entry?
  cases d.find? (Path.names path) with
  | none => simp
  | some e => cases e <;> simp [Option.filter, Entry.isDirectory, apply_ite]

end Disk

namespace CommandLine

variable {locator : Locator} {path name : String} {d d' : Disk} {s s' : Store} {e : StoreError}

/-- The directories that `openStore` creates. -/
def directories (path : String) : List (List String) :=
  Path.stations (Path.names ((Path.parent? path).getD ""))

theorem openFile_run : (openFile (Disk.files locator) path name).run d =
    match storeIn path ((d.entry? ((Path.parent? name).getD "")).any Entry.isDirectory &&
      !Path.leadsToDirectory name) (d.entry? name) with
    | .error e => (.error e, d)
    | .ok s => (.ok s, d.insert (Path.names name) (.database s)) := by
  unfold openFile Disk.files
  simp only [StateT.run_bind, StateT.run_get, StateT.run_pure, pure_bind]
  cases storeIn path ((d.entry? ((Path.parent? name).getD "")).any Entry.isDirectory &&
    !Path.leadsToDirectory name) (d.entry? name) <;> rfl

theorem openStore_run : (openStore (Disk.files locator) path).run d =
    match d.makeAll (directories path) with
    | .error e => (.error (.cannotCreate ((Path.parent? path).getD "") e.message), d)
    | .ok d' =>
      match locator.locate path with
      | .file name => (openFile (Disk.files locator) path name).run d'
      | .temporary => (.ok .empty, d')
      | .other => (.error (.cannotOpen path), d') := by
  unfold openStore directories
  rw [StateT.run_bind]
  simp only [Disk.files, StateT.run_bind, StateT.run_get, pure_bind]
  cases d.makeAll (Path.stations (Path.names ((Path.parent? path).getD ""))) with
  | error e => rfl
  | ok d' => cases locator.locate path <;> rfl

theorem storeIn_eq_ok {hasDirectory : Bool} {entry : Option Entry}
    (h : storeIn path hasDirectory entry = .ok s) :
    hasDirectory = true ∧ entry ≠ some .directory := by
  unfold storeIn at h
  split at h
  · rename_i there
    refine ⟨there, ?_⟩
    rintro rfl
    cases h
  · cases h

/-- The database of a path is in the file `name` and holds the store `s`. -/
structure Keeps (path name : String) (s : Store) (d : Disk) : Prop where
  directories : ∀ way ∈ directories path, d.find? way = some .directory
  above : d.find? (Path.names ((Path.parent? name).getD "")) = some .directory
  file : Path.leadsToDirectory name = false
  found : d.find? (Path.names name) = some (.database s)

theorem Keeps.of_insert (hd : ∀ way ∈ CommandLine.directories path, d.find? way = some .directory)
    (ha : d.find? (Path.names ((Path.parent? name).getD "")) = some .directory)
    (hl : Path.leadsToDirectory name = false)
    (hn : d.find? (Path.names name) ≠ some .directory) (s : Store) :
    Keeps path name s (d.insert (Path.names name) (.database s)) := by
  have kept {way : List String} (hw : d.find? way = some .directory) :
      (d.insert (Path.names name) (.database s)).find? way = some .directory := by
    have other : way ≠ Path.names name := by
      rintro rfl
      exact hn hw
    rw [Disk.find?_insert, if_neg other, hw, ite_self]
  have free : Disk.isFixed (Path.names name) = false := by
    cases hf : Disk.isFixed (Path.names name) with
    | false => rfl
    | true => exact absurd (if_pos hf) hn
  refine ⟨fun way hw => kept (hd way hw), kept ha, hl, ?_⟩
  simp [Disk.find?_insert, free]

/-- Opening the database of a file establishes `Keeps`. -/
theorem Keeps.of_open (hp : locator.locate path = .file name)
    (h : (openStore (Disk.files locator) path).run d = (.ok s, d')) : Keeps path name s d' := by
  rw [openStore_run] at h
  cases made : d.makeAll (CommandLine.directories path) with
  | error e =>
    rw [made] at h
    cases h
  | ok d₁ =>
    rw [made] at h
    simp only [hp, openFile_run] at h
    split at h
    · cases h
    · rename_i s hs
      cases h
      obtain ⟨there, nodir⟩ := storeIn_eq_ok hs
      rw [Bool.and_eq_true, Disk.any_isDirectory_entry?_iff, Bool.not_eq_true'] at there
      rw [Disk.entry?_eq_find? there.2] at nodir
      exact .of_insert (fun way hw => Disk.find?_makeAll made hw) there.1 there.2 nodir s

/-- Commits preserve `Keeps`. -/
theorem Keeps.keep (h : Keeps path name s d) (hp : locator.locate path = .file name) (s' : Store) :
    Keeps path name s' ((keepStore (Disk.files locator) path s').run d).2 := by
  have committed : (keepStore (Disk.files locator) path s').run d =
      ((), d.insert (Path.names name) (.database s')) := by
    simp only [keepStore, Disk.files, hp]
    rfl
  rw [committed]
  exact .of_insert h.directories h.above h.file (by simp [h.found]) s'

/-- Under `Keeps` opening returns the store. -/
theorem Keeps.reopen (h : Keeps path name s d) (hp : locator.locate path = .file name) :
    ∃ d', (openStore (Disk.files locator) path).run d = (.ok s, d') ∧ Keeps path name s d' := by
  have opened : (openStore (Disk.files locator) path).run d =
      (.ok s, d.insert (Path.names name) (.database s)) := by
    rw [openStore_run, Disk.makeAll_of_find? h.directories]
    simp only [hp, openFile_run]
    rw [Disk.any_isDirectory_entry?_iff.2 h.above, h.file, Disk.entry?_eq_find? h.file, h.found]
    rfl
  exact ⟨_, opened, .of_open hp opened⟩

/-- Opening again gives the same, unless the file of the database was written. -/
theorem openStore_again {r : Except StoreError Store}
    (h : (openStore (Disk.files locator) path).run d = (r, d'))
    (unwritten : ∀ d₁, d.makeAll (directories path) = .ok d₁ → d' = d₁) :
    (openStore (Disk.files locator) path).run d' = (r, d') := by
  rw [openStore_run] at h ⊢
  cases made : d.makeAll (directories path) with
  | error cause =>
    simp only [made] at h
    cases h
    simp only [made]
  | ok d₁ =>
    obtain rfl := unwritten d₁ made
    have again : d'.makeAll (directories path) = .ok d' :=
      Disk.makeAll_of_find? fun way hw => Disk.find?_makeAll made hw
    simp only [made] at h
    simp only [again]
    exact h

/-- Opening that failed fails again with the same error. -/
theorem openStore_error_again (h : (openStore (Disk.files locator) path).run d = (.error e, d')) :
    (openStore (Disk.files locator) path).run d' = (.error e, d') := by
  refine openStore_again h ?_
  intro d₁ made
  rw [openStore_run, made] at h
  simp only at h
  split at h
  · rw [openFile_run] at h
    split at h
    · exact (Prod.mk.inj h).2.symm
    · cases h
  · cases h
  · exact (Prod.mk.inj h).2.symm

/-- A temporary database is empty whenever it is opened. -/
theorem openStore_temporary (hp : locator.locate path = .temporary)
    (h : (openStore (Disk.files locator) path).run d = (.ok s, d')) :
    s = .empty ∧ (openStore (Disk.files locator) path).run d' = (.ok s, d') := by
  have opened := h
  rw [openStore_run] at opened
  cases made : d.makeAll (directories path) with
  | error cause =>
    rw [made] at opened
    cases opened
  | ok d₁ =>
    rw [made] at opened
    simp only [hp] at opened
    cases opened
    refine ⟨rfl, openStore_again h ?_⟩
    intro d₂ made'
    exact Except.ok.inj (made.symm.trans made')

/-! ### Paths of one component -/

theorem names_empty : Path.names "" = [] := by
  have parts : "".splitOn "/" = [""] := by
    rw [Path.splitOn_slash]
    decide +kernel
  have relative : "".startsWith "/" = false := by
    rw [String.startsWith_string_eq_false_iff]
    decide
  simp [Path.names, parts, relative]

/-- Opening a path without parent directories creates none. -/
theorem makeAll_directories (h : (Path.parent? path).getD "" = "") (d : Disk) :
    d.makeAll (directories path) = .ok d := by
  rw [directories, h, names_empty]
  rfl

theorem parent_memoryPath : (Path.parent? Location.memoryPath).getD "" = "" := by
  have relative : Location.memoryPath.startsWith "/" = false := by
    rw [String.startsWith_string_eq_false_iff]
    decide
  simp only [Path.parent?, relative]
  decide

theorem openStore_memory (locator : Locator) (d : Disk) :
    (openStore (Disk.files locator) Location.memoryPath).run d = (.ok .empty, d) := by
  rw [openStore_run, makeAll_directories parent_memoryPath]
  simp only [locator.memory]

/-- Opening `t` on an empty disk creates an empty store. -/
theorem openStore_fresh (locator : Locator) :
    ∃ d, (openStore (Disk.files locator) "t").run ⟨.empty⟩ = (.ok .empty, d) := by
  have one : "t".splitOn "/" = ["t"] := by
    rw [Path.splitOn_slash]
    decide +kernel
  have relative : "t".startsWith "/" = false := by
    rw [String.startsWith_string_eq_false_iff]
    decide
  have names : Path.names "t" = ["t"] := by
    simp [Path.names, one, relative]
  have parent : (Path.parent? "t").getD "" = "" := by
    simp [Path.parent?, relative]
  have file : Path.leadsToDirectory "t" = false := by
    simp [Path.leadsToDirectory, one]
  have located : locator.locate "t" = .file "t" :=
    locator.plain (by decide) (by decide) (by decide) (by decide)
  have there : (Disk.entry? ⟨.empty⟩ "").any Entry.isDirectory = true :=
    Disk.any_isDirectory_entry?_iff.2 (by rw [names_empty]; rfl)
  rw [openStore_run, makeAll_directories parent]
  simp only [located, openFile_run]
  rw [parent, there, file, Disk.entry?_eq_find? file, names]
  exact ⟨_, rfl⟩

end CommandLine

end Presence
