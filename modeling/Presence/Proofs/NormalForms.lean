import Presence.Proofs.Store.Listing

/-!
Normal forms of raw texts. A text denotes a name exactly if it is not blank, and blanks around it
have no effect. The text of a name neither begins nor ends with a blank, each of its characters is
preserved by lowercasing, and it denotes the same name wherever it is read, as in a row of the
store.
-/

namespace Presence.Text

variable {before cs after : List Char}

theorem trimEnd_append (h : ∀ c ∈ after, isBlank c = true) : trimEnd (cs ++ after) = trimEnd cs := by
  have blank : ∀ c ∈ after.reverse, isBlank c = true := by simpa using h
  rw [trimEnd, List.reverse_append, List.dropWhile_append_of_pos blank, ← trimEnd]

/-- Trimming removes blanks around a text together with those at its ends. -/
theorem trim_append (hb : ∀ c ∈ before, isBlank c = true) (ha : ∀ c ∈ after, isBlank c = true) :
    trim (before ++ cs ++ after) = trim cs := by
  rw [trim, List.append_assoc, List.dropWhile_append_of_pos hb, List.dropWhile_append]
  split
  · rename_i none
    rw [(dropWhile_isBlank_eq_nil_iff after).2 ha, trim, List.isEmpty_iff.1 none]
  · rw [trimEnd_append ha, ← trim]

theorem trim_eq_nil_iff : trim cs = [] ↔ ∀ c ∈ cs, isBlank c = true := by
  have once : (cs.dropWhile isBlank).dropWhile isBlank = cs.dropWhile isBlank :=
    dropWhile_of_head head_dropWhile
  rw [trim, trimEnd_eq_nil_iff, ← dropWhile_isBlank_eq_nil_iff (cs.dropWhile isBlank), once,
    dropWhile_isBlank_eq_nil_iff]

theorem lower_eq_nil_iff : lower cs = [] ↔ cs = [] := by
  cases cs with
  | nil => exact iff_of_true rfl rfl
  | cons c rest => simp [lower, lowerFrom_cons, lowerAt_ne_nil]

end Presence.Text

namespace Presence

open Text (isBlank)

theorem toList_normalize (raw : String) :
    (normalize raw).toList = Text.lower (Text.trim raw.toList) :=
  String.toList_ofList

theorem normalize_eq_empty_iff {raw : String} :
    normalize raw = "" ↔ ∀ c ∈ raw.toList, isBlank c = true := by
  rw [← Text.trim_eq_nil_iff, ← Text.lower_eq_nil_iff, ← toList_normalize, String.toList_eq_nil_iff]

theorem normalize_append {before raw after : String} (hb : ∀ c ∈ before.toList, isBlank c = true)
    (ha : ∀ c ∈ after.toList, isBlank c = true) :
    normalize (before ++ raw ++ after) = normalize raw := by
  rw [normalize, String.toList_append, String.toList_append, Text.trim_append hb ha, ← normalize]

namespace Name

variable {kind : NameKind}

theorem trimmed_text (n : Name kind) : Text.Trimmed n.text.toList := by
  rw [← n.normalize_text, toList_normalize]
  exact Text.trimmed_lower (Text.trimmed_trim _)

theorem settled_of_mem_text {n : Name kind} {c : Char} (h : c ∈ n.text.toList) : Text.Settled c := by
  rw [← n.normalize_text, toList_normalize] at h
  exact Text.settled_of_mem_lowerFrom h

theorem toList_text_ne_nil (n : Name kind) : n.text.toList ≠ [] := by
  rw [ne_eq, String.toList_eq_nil_iff]
  exact n.nonempty

theorem exists_head (n : Name kind) :
    ∃ c, n.text.toList.head? = some c ∧ isBlank c = false := by
  obtain ⟨c, rest, hc⟩ := List.exists_cons_of_ne_nil n.toList_text_ne_nil
  have first : n.text.toList.head? = some c := by rw [hc]; rfl
  exact ⟨c, first, n.trimmed_text.head first⟩

theorem exists_last (n : Name kind) :
    ∃ c, n.text.toList.getLast? = some c ∧ isBlank c = false := by
  have last := List.getLast?_eq_some_getLast n.toList_text_ne_nil
  exact ⟨_, last, n.trimmed_text.last last⟩

/-- A raw text denotes no name exactly if it is blank, and blanks around it have no effect. The text
of the name that it denotes neither begins nor ends with a blank, is preserved by lowercasing
character by character, and denotes that name and no other; two names that the store writes into a
row are read back. -/
theorem parse?_normal_form (kind : NameKind) (raw : String) :
    (∀ n : Name kind, parse? raw = some n → n.text ≠ "" ∧
      (∃ c, n.text.toList.head? = some c ∧ isBlank c = false) ∧
      (∃ c, n.text.toList.getLast? = some c ∧ isBlank c = false) ∧
      Text.lower n.text.toList = n.text.toList ∧ (∀ c ∈ n.text.toList, Text.Settled c) ∧
      parse? n.text = some n ∧ ∀ m : Name kind, m.text = n.text ↔ m = n) ∧
    ((parse? raw : Option (Name kind)) = none ↔ ∀ c ∈ raw.toList, isBlank c = true) ∧
    (∀ before after : String, (∀ c ∈ before.toList, isBlank c = true) →
      (∀ c ∈ after.toList, isBlank c = true) →
      (parse? (before ++ raw ++ after) : Option (Name kind)) = parse? raw) ∧
    (∀ (a b : User) status,
      Store.friendshipOf (.of a b (FriendshipStatus.text status)) = .ok (some ⟨a, b, status⟩)) ∧
    ∀ (p : Party) (u : User) status,
      Store.membershipOf (.of p u (MembershipStatus.text status)) = .ok (some ⟨p, u, status⟩) := by
  refine ⟨fun n _ => ?_, ?_, fun before after hb ha => ?_, Store.friendshipOf_of,
    Store.membershipOf_of⟩
  · have settled : ∀ c ∈ n.text.toList, Text.Settled c := fun c hc => settled_of_mem_text hc
    exact ⟨n.nonempty, n.exists_head, n.exists_last, Text.lowerFrom_of_settled settled, settled,
      n.parse?_text, fun m => text_inj⟩
  · rw [parse?_eq_none_iff, normalize_eq_empty_iff]
  · simp only [parse?, normalize_append hb ha]

/-- A capital whose lowercase is two characters, and a capital sigma before blanks. -/
theorem parse?_normal_form_of_padded :
    ∃ n : User, parse? "İΑΣ" = some n ∧ n.text = "i\u0307ας" ∧ parse? n.text = some n ∧
      (parse? "\u3000\tİΑΣ\u2028" : Option User) = some n ∧
      (parse? "\u3000\t" : Option User) = none := by
  obtain ⟨n, hn⟩ : ∃ n : User, parse? "İΑΣ" = some n := exists_parse? (by decide +kernel)
  obtain ⟨named, -, padded, -⟩ := parse?_normal_form .user "İΑΣ"
  obtain ⟨-, -, -, -, -, again, -⟩ := named n hn
  have blank (s : String) (h : s.toList.all isBlank = true) : ∀ c ∈ s.toList, isBlank c = true :=
    List.all_eq_true.1 h
  refine ⟨n, hn, ?_, again, ?_, ?_⟩
  · rw [text_of_parse? hn]
    decide +kernel
  · rw [← hn]
    exact padded "\u3000\t" "\u2028" (blank _ (by decide)) (blank _ (by decide))
  · exact (parse?_normal_form .user "\u3000\t").2.1.2 (blank _ (by decide))

end Name

end Presence
