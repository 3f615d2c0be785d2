import Presence.Store

/-!
The order of rows. Cells are totally ordered, so the rows of a table are strictly ascending by
names; `put` preserves this and replaces the row with the same names, and `delete` removes it.
-/

namespace Presence

namespace Cell

variable {a b c : Cell}

theorem before_irrefl (a : Cell) : a.before a = false := by
  cases a <;> simp [before]

theorem before_trans (h : a.before b = true) (h' : b.before c = true) : a.before c = true := by
  cases a <;> cases b <;> cases c
  case text.text.text =>
    exact decide_eq_true (String.lt_trans (of_decide_eq_true h) (of_decide_eq_true h'))
  case blob.blob.blob =>
    exact decide_eq_true (List.lt_trans (of_decide_eq_true h) (of_decide_eq_true h'))
  all_goals first
    | rfl
    | exact absurd h Bool.false_ne_true
    | exact absurd h' Bool.false_ne_true

theorem before_of_not_before (h : a.before b = false) (hne : a ≠ b) : b.before a = true := by
  cases a <;> cases b
  case text.text s t =>
    by_cases hts : t < s
    · exact decide_eq_true hts
    · have hst := of_decide_eq_false h
      exact absurd (congrArg text (String.le_antisymm (String.not_lt.1 hts) (String.not_lt.1 hst))) hne
  case blob.blob s t =>
    by_cases hts : t < s
    · exact decide_eq_true hts
    · have hst := of_decide_eq_false h
      exact absurd (congrArg blob (List.le_antisymm (List.not_lt.1 hts) (List.not_lt.1 hst))) hne
  all_goals first
    | rfl
    | exact absurd h.symm Bool.false_ne_true

end Cell

namespace Row

variable {a b c : Row}

theorem sameKey_iff : a.sameKey b = true ↔ a.first = b.first ∧ a.second = b.second := by
  simp [sameKey]

theorem before_iff : a.before b = true ↔
    a.first.before b.first = true ∨ a.first = b.first ∧ a.second.before b.second = true := by
  simp [before]

theorem before_trans (h : a.before b = true) (h' : b.before c = true) : a.before c = true := by
  rw [before_iff] at h h' ⊢
  rcases h with h | ⟨he, h⟩ <;> rcases h' with h' | ⟨he', h'⟩
  · exact .inl (Cell.before_trans h h')
  · exact .inl (he' ▸ h)
  · exact .inl (he ▸ h')
  · exact .inr ⟨he.trans he', Cell.before_trans h h'⟩

/-- Rows with the same names are not before each other. -/
theorem before_of_sameKey (h : a.sameKey b = true) : a.before b = false := by
  obtain ⟨h1, h2⟩ := sameKey_iff.1 h
  simp [before, h1, h2, Cell.before_irrefl]

theorem before_of_not_before (h : a.before b = false) (hk : a.sameKey b = false) :
    b.before a = true := by
  rw [before_iff]
  by_cases h1 : a.first = b.first
  · have h2 : a.second ≠ b.second := fun h2 => by simp [sameKey, h1, h2] at hk
    refine .inr ⟨h1.symm, Cell.before_of_not_before ?_ h2⟩
    simpa [before, h1, Cell.before_irrefl] using h
  · refine .inl (Cell.before_of_not_before ?_ h1)
    simpa [before, h1] using h

theorem not_sameKey_of_before (h : a.before b = true) : a.sameKey b = false := by
  cases hk : a.sameKey b with
  | false => rfl
  | true => simp [before_of_sameKey hk] at h

end Row

namespace Rows

/-- Strictly ascending by names. -/
def Ascending (rows : Rows) : Prop := rows.Pairwise fun a b => a.before b = true

variable {rows : Rows} {row r : Row}

theorem mem_put (h : Ascending rows) :
    r ∈ put row rows ↔ r = row ∨ (r ∈ rows ∧ row.sameKey r = false) := by
  induction rows with
  | nil => simp [put]
  | cons s rest ih =>
    obtain ⟨hs, hr⟩ := List.pairwise_cons.1 h
    unfold put
    split
    · rename_i hk
      -- every later row has other names than the one replaced
      have others (hm : r ∈ rest) : row.sameKey r = false := by
        have := Row.not_sameKey_of_before (hs r hm)
        obtain ⟨h1, h2⟩ := Row.sameKey_iff.1 hk
        simpa [Row.sameKey, h1, h2] using this
      grind
    · rename_i hk
      split
      · rename_i hb
        have others (hm : r ∈ rest) : row.sameKey r = false :=
          Row.not_sameKey_of_before (Row.before_trans hb (hs r hm))
        have := Row.not_sameKey_of_before hb
        grind
      · rw [List.mem_cons, ih hr]
        grind

theorem ascending_put (h : Ascending rows) : Ascending (put row rows) := by
  induction rows with
  | nil => simp [put, Ascending]
  | cons s rest ih =>
    obtain ⟨hs, hr⟩ := List.pairwise_cons.1 h
    unfold put
    split
    · rename_i hk
      refine List.pairwise_cons.2 ⟨fun r hm => ?_, hr⟩
      obtain ⟨h1, h2⟩ := Row.sameKey_iff.1 hk
      have := hs r hm
      rw [Row.before_iff] at this ⊢
      rwa [h1, h2]
    · rename_i hk
      split
      · rename_i hb
        refine List.pairwise_cons.2 ⟨fun r hm => ?_, h⟩
        rcases List.mem_cons.1 hm with rfl | hm
        · exact hb
        · exact Row.before_trans hb (hs r hm)
      · rename_i hb
        refine List.pairwise_cons.2 ⟨fun r hm => ?_, ih hr⟩
        rcases (mem_put hr).1 hm with rfl | ⟨hm, -⟩
        · exact Row.before_of_not_before (by simpa using hb) (by simpa using hk)
        · exact hs r hm

theorem mem_delete {first second : String} :
    r ∈ delete rows first second ↔ r ∈ rows ∧ r.isFor first second = false := by
  simp [delete]

theorem ascending_delete (h : Ascending rows) (first second : String) :
    Ascending (delete rows first second) :=
  List.Pairwise.filter _ h

end Rows

end Presence
