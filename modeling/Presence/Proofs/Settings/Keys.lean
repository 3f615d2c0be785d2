import Presence.Proofs.Paths
import Presence.Proofs.Settings.Dotenv
import Presence.Proofs.Settings.Variables

/-!
Settings by key. The value under a key is that of the uppermost layer with the key, in any case:
environment, then file, then defaults. A file of environment variables is not a layer of its own but
adds to the environment.
-/

namespace Presence.Settings

open Dotenv (Environment)

section
variable {env : Environment} {path : Option String} {files : String → Option String}

/-- The environment that settings are loaded from, extended by a file of variables. -/
def surroundings (env : Environment) (path : Option String) (files : String → Option String) :
    Environment :=
  match path with
  | none => env
  | some path =>
    if extension? path = some "env" then (Dotenv.extend env ((files path).getD "")).2 else env

/-- The layer of a file, unless the file adds to the environment. -/
def fileSettings (path : Option String) (files : String → Option String) :
    Except LoadError (List (String × Setting)) :=
  match path with
  | none => .ok []
  | some path => if extension? path = some "env" then .ok [] else readFile files path

/-- The settings of an environment above the layer of a file. -/
def settle (env : Environment) (file : List (String × Setting)) : Except LoadError Settings :=
  match ofLayer ((Layer.overlay standard file).overlay (ofEnvironment env)) with
  | some s => .ok s
  | none => .error ⟨[]⟩

theorem result_load (env : Environment) (path : Option String) (files : String → Option String) :
    (load env path files).result = (fileSettings path files).bind (settle (surroundings env path files)) := by
  cases path with
  | none => rfl
  | some path =>
    by_cases he : extension? path = some "env"
    · simp only [load, fileSettings, surroundings, if_pos he]
      cases files path with
      | none => rfl
      | some text => rfl
    · simp only [load, fileSettings, surroundings, if_neg he]
      cases readFile files path with
      | error e => rfl
      | ok said => rfl

/-- The value of a file under a name, if the environment has none. -/
def fileSays? (path : Option String) (files : String → Option String) (name : String) :
    Option Setting :=
  (fileSettings path files).toOption.bind fun said => lastSaid said name

/-- The value under a name: of the environment, else of the file, else the default. -/
def found? (env : Environment) (path : Option String) (files : String → Option String)
    (name : String) : Option Setting :=
  (environmentSays? (surroundings env path files) name).or
    ((fileSays? path files name).or (standard.get? name))

/-- Every field holds the conversion of the value found under its name. -/
theorem worth_of_load {s : Settings} (h : (load env path files).result = .ok s) :
    ∀ f ∈ fields, (found? env path files f.name).bind f.worth? = some (f.of s) := by
  intro f hf
  rw [result_load] at h
  unfold found? fileSays?
  cases read : fileSettings path files with
  | error e =>
    rw [read] at h
    cases h
  | ok said =>
    rw [read, Except.bind, settle] at h
    cases laid : ofLayer ((Layer.overlay standard said).overlay
        (ofEnvironment (surroundings env path files))) with
    | none =>
      rw [laid] at h
      cases h
    | some s' =>
      rw [laid] at h
      cases h
      have upper := lastSaid_of_overlay (worth_of_ofLayer laid f hf)
      rw [lastSaid_ofEnvironment _ f.plain] at upper
      cases spoken : environmentSays? (surroundings env path files) f.name with
      | some setting =>
        rw [spoken] at upper
        exact upper
      | none =>
        rw [spoken, Option.none_or] at upper
        exact lastSaid_of_overlay upper

end

theorem exists_of_toOption {ε α β : Type} {r : Except ε α} {g : α → β} {v : β}
    (h : r.toOption.map g = some v) : ∃ a, r = .ok a ∧ g a = v := by
  cases r with
  | error e => cases h
  | ok a => exact ⟨a, rfl, Option.some.inj h⟩

end Presence.Settings
