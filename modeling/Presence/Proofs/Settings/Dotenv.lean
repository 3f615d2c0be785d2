import Presence.Settings.Dotenv

/-!
Files of environment variables. A file adds its definitions to an environment, in order, where their
names are missing; a file with a faulty line is equivalent to the lines before that line.
-/

namespace Presence.Dotenv

/-! ### Definitions of a file -/

/-- The value substituted for a name while a file is read. -/
def lookup (env said : Environment) (name : List Char) : List Char :=
  ((env.get? (String.ofList name)).or (said.get? (String.ofList name))).elim [] String.toList

/-- Adds a variable to an environment, unless it exists. -/
def Environment.add (env : Environment) (e : String × String) : Environment :=
  if (env.get? e.1).isSome then env else env ++ [e]

section
variable {env said : Environment} {line : List Char} {rest : List (Except Fault (List Char))}

theorem Environment.get?_append (env defs : Environment) (name : String) :
    Environment.get? (env ++ defs) name = (env.get? name).or (defs.get? name) := by
  rw [get?, List.find?_append, Option.map_or]
  rfl

theorem Environment.get?_singleton (e : String × String) (name : String) :
    Environment.get? [e] name = if e.1 = name then some e.2 else none := by
  by_cases he : e.1 = name <;> simp [get?, he]

theorem Environment.get?_add (env : Environment) (e : String × String) (name : String) :
    (env.add e).get? name = (env.get? name).or (Environment.get? [e] name) := by
  rw [add]
  split
  · rename_i known
    obtain ⟨v, hv⟩ := Option.isSome_iff_exists.1 known
    by_cases he : e.1 = name
    · rw [← he, hv, Option.some_or]
    · rw [get?_singleton, if_neg he, Option.or_none]
  · exact get?_append env [e] name

end

/-! ### Raw lines -/

section
variable {env said : Environment} {s : Scan} {held raw : List Char} {raws : List (List Char)}

end

/-! ### Whole files -/

end Presence.Dotenv
