import Mathlib.Data.List.Forall2
import Presence.Proofs.Settings.Layers
import Presence.Proofs.Spelling

/-!
Settings in environment variables. A variable is a setting if its name is the mark followed by the
setting's name, up to case. The code cuts names after the mark before it compares case; this is
equivalent, as a lowercase ASCII character is never a part of the lowercase of another character.
-/

namespace Presence

namespace Text

/-- The first text is the second in some case, character by character; without capital sigmas, whose
lowercase depends on the position. -/
def Spells (cs ds : List Char) : Prop := List.Forall₂ (fun c d => c ≠ 'Σ' ∧ lowerChar c = [d]) cs ds

/-- A text of ASCII characters. -/
def IsAscii (ds : List Char) : Prop := ∀ d ∈ ds, d.toNat < 0x80

theorem isAscii_cons {d : Char} {ds : List Char} :
    IsAscii (d :: ds) ↔ d.toNat < 0x80 ∧ IsAscii ds := by
  simp [IsAscii]

/-- The lowercase of a character begins with an ASCII character only if it is that character in some
case, or `İ`. -/
theorem lowerAt_ascii {before rest : List Char} {c d : Char} {ds : List Char} (hd : d.toNat < 0x80)
    (h : lowerAt before c rest = d :: ds) :
    (c ≠ 'Σ' ∧ lowerChar c = [d]) ∧ ds = [] ∨ d = 'i' ∧ ds = ['\u0307'] := by
  rw [lowerAt] at h
  split at h
  · split at h
    · cases h
      exact absurd hd (by decide)
    · cases h
      exact absurd hd (by decide)
  · rename_i hc
    rcases lowerChar_cases c with rfl | ⟨x, hx, -⟩
    · cases h
      exact .inr ⟨rfl, rfl⟩
    · rw [hx] at h
      cases h
      exact .inl ⟨⟨hc, hx⟩, rfl⟩

theorem lowerFrom_append_of_spells (before : List Char) {cs ds : List Char} (h : Spells cs ds)
    (rest : List Char) :
    lowerFrom before (cs ++ rest) = ds ++ lowerFrom (cs.reverse ++ before) rest := by
  induction h generalizing before with
  | nil => rfl
  | cons hcd _ ih =>
    rw [List.cons_append, lowerFrom_cons, ih, lowerAt, if_neg hcd.1, hcd.2]
    simp

/-- An ASCII prefix of the lowercase of a text is spelled by a prefix of the text, unless it ends in
`i` before a combining dot. -/
theorem spells_of_lowerFrom {before cs ds es : List Char} (ha : IsAscii ds)
    (hi : ds.getLast? = some 'i' → es.head? ≠ some '\u0307') (h : lowerFrom before cs = ds ++ es) :
    ∃ cs₁ cs₂, cs = cs₁ ++ cs₂ ∧ Spells cs₁ ds := by
  induction ds generalizing before cs with
  | nil => exact ⟨[], cs, rfl, .nil⟩
  | cons d ds ih =>
    obtain ⟨hd, htl⟩ := isAscii_cons.1 ha
    cases cs with
    | nil => cases h
    | cons c rest =>
      rw [lowerFrom_cons] at h
      cases hl : lowerAt before c rest with
      | nil => exact absurd hl (lowerAt_ne_nil _ _ _)
      | cons x xs =>
        rw [hl, List.cons_append, List.cons_append, List.cons.injEq] at h
        obtain ⟨rfl, h⟩ := h
        rcases lowerAt_ascii hd hl with ⟨spelled, rfl⟩ | ⟨rfl, rfl⟩
        · have hi' : ds.getLast? = some 'i' → es.head? ≠ some '\u0307' := by
            intro last
            exact hi (by rw [List.getLast?_cons, last]; rfl)
          obtain ⟨cs₁, cs₂, rfl, tail⟩ := ih htl hi' h
          exact ⟨c :: cs₁, cs₂, rfl, .cons spelled tail⟩
        · cases ds with
          | nil =>
            obtain rfl : _ = es := h
            exact absurd rfl (hi rfl)
          | cons e ds =>
            obtain ⟨rfl, -⟩ := List.cons.inj h
            exact absurd (isAscii_cons.1 htl).1 (by decide)

theorem lowerFrom_eq_iff_spells {before cs ds : List Char} (ha : IsAscii ds) :
    lowerFrom before cs = ds ↔ Spells cs ds := by
  refine ⟨?_, ?_⟩
  · intro h
    have whole : lowerFrom before cs = ds ++ [] := by rw [h, List.append_nil]
    obtain ⟨cs₁, cs₂, rfl, spells⟩ := spells_of_lowerFrom ha (by simp) whole
    rw [lowerFrom_append_of_spells before spells, List.append_right_eq_self] at h
    cases cs₂ with
    | nil => simpa using spells
    | cons c rest =>
      rw [lowerFrom_cons, List.append_eq_nil_iff] at h
      exact absurd h.1 (lowerAt_ne_nil _ _ _)
  · intro h
    simpa [lowerFrom] using lowerFrom_append_of_spells before h []

/-- The lowercase of a text is `ds ++ es` exactly if it begins with `ds` and the lowercase of the
rest of the text is `es`. -/
theorem lower_eq_append_iff {cs ds es : List Char} (hd : IsAscii ds) (hi : ds.getLast? ≠ some 'i')
    (he : IsAscii es) :
    lower cs = ds ++ es ↔ (lower cs).take ds.length = ds ∧ lower (cs.drop ds.length) = es := by
  have split (rest : List Char) (h : lower cs = ds ++ rest) :
      ∃ cs₁, cs = cs₁ ++ cs.drop ds.length ∧ Spells cs₁ ds := by
    obtain ⟨cs₁, cs₂, rfl, spells⟩ := spells_of_lowerFrom hd (fun hl => absurd hl hi) h
    refine ⟨cs₁, ?_, spells⟩
    rw [← spells.length_eq, List.drop_left]
  refine ⟨?_, ?_⟩
  · intro h
    obtain ⟨cs₁, hcs, spells⟩ := split es h
    rw [hcs, lower, lowerFrom_append_of_spells [] spells, List.append_cancel_left_eq,
      lowerFrom_eq_iff_spells he] at h
    refine ⟨?_, (lowerFrom_eq_iff_spells he).2 h⟩
    rw [hcs, lower, lowerFrom_append_of_spells [] spells, List.take_left]
  · rintro ⟨mark, rest⟩
    have whole := (List.take_append_drop ds.length (lower cs)).symm
    rw [mark] at whole
    obtain ⟨cs₁, hcs, spells⟩ := split _ whole
    rw [hcs, lower, lowerFrom_append_of_spells [] spells, List.append_cancel_left_eq,
      lowerFrom_eq_iff_spells he]
    exact (lowerFrom_eq_iff_spells he).1 rest

end Text

namespace Settings

open Dotenv (Environment)

/-- The value of the environment under a name: the last variable with this name after the mark, in
any case. -/
def environmentSays? (env : Environment) (name : String) : Option Setting :=
  (env.reverse.find? fun e => Setting.lowered e.1 = environmentMark ++ name).map fun e =>
    Setting.ofEnvironment e.2

/-- The variable's name begins with the mark. -/
def IsMarked (name : String) : Prop :=
  (Setting.lowered name).toList.take environmentMark.toList.length = environmentMark.toList

/-- The variable's name after the mark. -/
def unmarked (name : String) : String :=
  String.ofList (name.toList.drop environmentMark.toList.length)

theorem isAscii_of_plain {cs : List Char} (h : cs.all isNameChar = true) : Text.IsAscii cs :=
  fun _ hc => toNat_of_isNameChar (List.all_eq_true.1 h _ hc)

theorem lowered_eq_mark_append_iff {name key : String} (hk : key.toList.all isNameChar = true) :
    Setting.lowered name = environmentMark ++ key ↔
      IsMarked name ∧ Setting.lowered (unmarked name) = key := by
  have hm : Text.IsAscii environmentMark.toList := isAscii_of_plain (by decide)
  rw [IsMarked, unmarked, Setting.lowered, Setting.lowered, ← String.toList_inj, ← String.toList_inj]
  have parts : Text.lower name.toList = _ ↔ _ :=
    Text.lower_eq_append_iff hm (by decide) (isAscii_of_plain hk)
  simpa using parts

theorem ofEnvironment_cons_of_marked {e : String × String} {rest : Environment} (h : IsMarked e.1) :
    ofEnvironment (e :: rest) =
      (unmarked e.1, Setting.ofEnvironment e.2) :: ofEnvironment rest :=
  List.filterMap_cons_some (if_pos h)

theorem ofEnvironment_cons_of_not_marked {e : String × String} {rest : Environment}
    (h : ¬ IsMarked e.1) : ofEnvironment (e :: rest) = ofEnvironment rest :=
  List.filterMap_cons_none (if_neg h)

/-- The layer of an environment has the values of its variables. -/
theorem lastSaid_ofEnvironment (env : Environment) {name : String}
    (hn : name.toList.all isNameChar = true) :
    lastSaid (ofEnvironment env) name = environmentSays? env name := by
  have reversed : (ofEnvironment env).reverse = ofEnvironment env.reverse := List.filterMap_reverse.symm
  rw [lastSaid, reversed, environmentSays?]
  induction env.reverse with
  | nil => rfl
  | cons e rest ih =>
    have named : Setting.lowered e.1 = _ ↔ _ := lowered_eq_mark_append_iff hn
    by_cases mark : IsMarked e.1
    · rw [ofEnvironment_cons_of_marked mark, List.find?_cons, List.find?_cons]
      by_cases key : Setting.lowered (unmarked e.1) = name
      · simp only [key, named.2 ⟨mark, key⟩, decide_true, Option.map_some]
      · have other : ¬ Setting.lowered e.1 = environmentMark ++ name := fun h => key (named.1 h).2
        simp only [key, other, decide_false, ih]
    · have other : ¬ Setting.lowered e.1 = environmentMark ++ name := fun h => mark (named.1 h).1
      rw [ofEnvironment_cons_of_not_marked mark, ih, List.find?_cons]
      simp only [other, decide_false]

end Settings

end Presence
