import Mathlib.Data.String.Basic
import Presence.Disk

/-!
Paths on lists of characters. `String.splitOn` works on positions; here it is related to splitting
the list of characters, on which facts about paths are decided.
-/

namespace Presence.Path

open String in
/-- The parts of a text, with the parts already found and the one begun. -/
theorem splitOnAux_slash (l m r : List Char) (parts : List String) :
    splitOnAux (ofList (l ++ m ++ r)) "/" ⟨utf8Len l⟩ ⟨utf8Len (l ++ m)⟩ 0 parts =
      parts.reverse ++ (List.splitOnPPrepend (· == '/') r m.reverse).map ofList := by
  -- induction on the characters still unread; `m` is the part begun
  induction r generalizing l m parts with
  | nil =>
    have cut := extract_of_valid l m []
    rw [splitOnAux, if_pos ((atEnd_of_valid (l ++ m) []).2 rfl), utf8Len_append, cut]
    simp
  | cons c r ih =>
    have more : ¬ Pos.Raw.atEnd (ofList (l ++ m ++ c :: r)) ⟨utf8Len (l ++ m)⟩ = true :=
      mt (atEnd_of_valid (l ++ m) (c :: r)).1 (List.cons_ne_nil c r)
    have here : Pos.Raw.get (ofList (l ++ m ++ c :: r)) ⟨utf8Len (l ++ m)⟩ = c :=
      get_of_valid (l ++ m) (c :: r)
    have next : Pos.Raw.next (ofList (l ++ m ++ c :: r)) ⟨utf8Len (l ++ m)⟩ =
        ⟨utf8Len (l ++ m ++ [c])⟩ := by
      rw [next_of_valid, utf8Len_append (l ++ m), utf8Len_cons, utf8Len_nil, Nat.zero_add]
    rw [splitOnAux, if_neg more, here, show Pos.Raw.get "/" 0 = '/' by decide, next]
    by_cases hc : c = '/'
    · subst hc
      have ended : (Pos.Raw.next "/" 0).atEnd "/" = true := by decide
      have back : Pos.Raw.unoffsetBy ⟨utf8Len (l ++ m ++ ['/'])⟩ (Pos.Raw.next "/" 0) =
          ⟨utf8Len l + utf8Len m⟩ := by
        rw [utf8Len_append (l ++ m), utf8Len_append]
        rfl
      have later := ih (l ++ m ++ ['/']) [] (ofList m :: parts)
      rw [List.append_nil, List.append_assoc, List.singleton_append] at later
      rw [if_pos (beq_self_eq_true '/'), if_pos ended, back, extract_of_valid l m, later,
        List.splitOnPPrepend_cons_pos (p := (· == '/')) (beq_self_eq_true '/')]
      simp
    · have other : (c == '/') = false := by simpa using hc
      have later := ih l (m ++ [c]) parts
      rw [← List.append_assoc, List.append_assoc _ [c], List.singleton_append] at later
      have back : Pos.Raw.unoffsetBy ⟨utf8Len (l ++ m)⟩ 0 = ⟨utf8Len (l ++ m)⟩ := rfl
      rw [if_neg (by simp [other]), back, next, later, List.splitOnPPrepend_cons_neg (p := (· == '/')) other]
      simp

/-- The parts of a path. -/
theorem splitOn_slash (path : String) :
    path.splitOn "/" = (path.toList.splitOn '/').map String.ofList := by
  have all := splitOnAux_slash [] [] path.toList []
  rw [List.nil_append, List.nil_append, String.ofList_toList] at all
  rw [String.splitOn, if_neg (by decide)]
  exact all

end Presence.Path
