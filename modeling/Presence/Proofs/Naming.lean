import Presence.Name

/-!
Stability of names. Lowercasing yields only characters that it maps to themselves, and no new
blanks, so normalization is idempotent and the text of a name denotes that name. Sorted lists of
names are strictly ascending.
-/

namespace Presence.Text

/-! ### The table of letters -/

/-- No image of the run is between the two code points. -/
def CaseRun.avoids (r : CaseRun) (a b : Nat) : Bool :=
  Nat.blt (r.image + (r.last - r.first)) a || Nat.blt b r.image

/-- No image of the run is on the other run. -/
def CaseRun.misses (r s : CaseRun) : Bool :=
  r.avoids s.first s.last ||
    ((r.first == r.last || r.stride % 2 == 0) && s.stride % 2 == 0 && (r.image + s.first) % 2 == 1)

/-- Code points that are no image: `İ`, surrogates, and all blanks. -/
def neverImages : List (Nat × Nat) :=
  [(0x130, 0x130), (0xd800, 0xdfff), (0x9, 0xd), (0x20, 0x20), (0x85, 0x85), (0xa0, 0xa0),
   (0x1680, 0x1680), (0x2000, 0x200a), (0x2028, 0x2029), (0x202f, 0x202f), (0x205f, 0x205f),
   (0x3000, 0x3000)]

/-- The images of a run are characters, not blank and not mapped further. -/
def CaseRun.isFinal (r : CaseRun) : Bool :=
  caseRuns.all r.misses && neverImages.all (fun p => r.avoids p.1 p.2) &&
    Nat.blt (r.image + (r.last - r.first)) 0x110000

theorem caseRuns_isFinal : ∀ r ∈ caseRuns, r.isFinal = true := by
  decide +kernel

theorem CaseRun.avoids_image {r : CaseRun} {a b n m : Nat} (h : r.avoids a b = true)
    (hm : r.lower? n = some m) : m < a ∨ b < m := by
  unfold lower? at hm
  split at hm
  · rename_i hn
    obtain rfl : r.image + (n - r.first) = m := by simpa using hm
    simp [avoids] at h
    omega
  · cases hm

theorem CaseRun.misses_image {r s : CaseRun} {n m : Nat} (h : r.misses s = true)
    (hm : r.lower? n = some m) : s.lower? m = none := by
  unfold misses at h
  rcases Bool.or_eq_true _ _ ▸ h with h | h
  · have := avoids_image h hm
    unfold lower?
    rw [if_neg]
    omega
  · -- between the letters: the image is an odd number of places away from the first of them
    simp only [Bool.and_eq_true, Bool.or_eq_true, beq_iff_eq] at h
    obtain ⟨⟨hr, hs⟩, hp⟩ := h
    unfold lower? at hm ⊢
    split at hm
    · rename_i hn
      obtain ⟨h1, h2, h3⟩ := hn
      obtain rfl : r.image + (n - r.first) = m := by simpa using hm
      have even : (n - r.first) % 2 = 0 := by
        rcases hr with hr | hr
        · omega
        · have := Nat.dvd_trans (Nat.dvd_of_mod_eq_zero hr) (Nat.dvd_of_mod_eq_zero h3)
          omega
      rw [if_neg]
      rintro ⟨h4, h5, h6⟩
      have := Nat.dvd_trans (Nat.dvd_of_mod_eq_zero hs) (Nat.dvd_of_mod_eq_zero h6)
      omega
    · cases hm

/-! ### Characters -/

/-- A character that lowercasing preserves at every position. -/
def Settled (c : Char) : Prop := c ≠ 'Σ' ∧ lowerChar c = [c]

theorem never_of_isBlank {c : Char} (h : isBlank c = true) :
    ∃ p ∈ neverImages, p.1 ≤ c.toNat ∧ c.toNat ≤ p.2 := by
  simp [isBlank] at h
  simp [neverImages]
  omega

/-- No image is in `neverImages`. -/
theorem image_apart {n m a b : Nat} (h : caseRuns.findSome? (·.lower? n) = some m)
    (hk : (a, b) ∈ neverImages) : m < a ∨ b < m := by
  obtain ⟨r, hr, hm⟩ := List.exists_of_findSome?_eq_some h
  have hf := caseRuns_isFinal r hr
  simp only [CaseRun.isFinal, Bool.and_eq_true, List.all_eq_true] at hf
  exact CaseRun.avoids_image (hf.1.2 (a, b) hk) hm

/-- Every image is a character. -/
theorem toNat_image {n m : Nat} (h : caseRuns.findSome? (·.lower? n) = some m) :
    (Char.ofNat m).toNat = m := by
  obtain ⟨r, hr, hm⟩ := List.exists_of_findSome?_eq_some h
  have hf := caseRuns_isFinal r hr
  simp only [CaseRun.isFinal, Bool.and_eq_true] at hf
  have top : m < 0x110000 := by
    have := hf.2
    unfold CaseRun.lower? at hm
    split at hm <;> simp at hm this
    omega
  have surrogates := image_apart (a := 0xd800) (b := 0xdfff) h (by simp [neverImages])
  have valid : m.isValidChar := by
    unfold Nat.isValidChar
    omega
  unfold Char.ofNat
  rw [dif_pos valid]
  rfl

/-- Every image is settled and not blank. -/
theorem image_settled {n m : Nat} (h : caseRuns.findSome? (·.lower? n) = some m) :
    Settled (Char.ofNat m) ∧ isBlank (Char.ofNat m) = false := by
  have toNat := toNat_image h
  have fixed : caseRuns.findSome? (·.lower? m) = none := by
    obtain ⟨r, hr, hm⟩ := List.exists_of_findSome?_eq_some h
    have hf := caseRuns_isFinal r hr
    simp only [CaseRun.isFinal, Bool.and_eq_true, List.all_eq_true] at hf
    exact List.findSome?_eq_none_iff.2 fun s hs => CaseRun.misses_image (hf.1.1 s hs) hm
  refine ⟨⟨fun hs => ?_, ?_⟩, ?_⟩
  · -- a capital sigma would be mapped further
    have hm : m = 0x3a3 := by simpa [toNat] using congrArg Char.toNat hs
    rw [hm] at fixed
    exact absurd fixed (by decide +kernel)
  · have hi : Char.ofNat m ≠ 'İ' := fun hi => by
      have hm : m = 0x130 := by simpa [toNat] using congrArg Char.toNat hi
      have := image_apart (a := 0x130) (b := 0x130) h (by simp [neverImages])
      omega
    unfold lowerChar
    rw [if_neg hi, toNat, fixed]
  · cases hb : isBlank (Char.ofNat m) with
    | false => rfl
    | true =>
      obtain ⟨p, hp, hl, hr⟩ := never_of_isBlank hb
      have := image_apart h hp
      omega

/-- A character is unchanged, or its lowercase is settled and not blank. -/
theorem mem_lowerChar {c d : Char} (hd : d ∈ lowerChar c) :
    (d = c ∧ lowerChar c = [c]) ∨ (Settled d ∧ isBlank d = false) := by
  by_cases hi : c = 'İ'
  · subst hi
    have : d = 'i' ∨ d = '\u0307' := by simpa [lowerChar] using hd
    rcases this with rfl | rfl
    · exact .inr ⟨⟨by decide, by decide +kernel⟩, by decide⟩
    · exact .inr ⟨⟨by decide, by decide +kernel⟩, by decide⟩
  · cases hf : caseRuns.findSome? (·.lower? c.toNat) with
    | none =>
      have hl : lowerChar c = [c] := by simp [lowerChar, hi, hf]
      exact .inl ⟨by simpa [hl] using hd, hl⟩
    | some m =>
      obtain rfl : d = Char.ofNat m := by simpa [lowerChar, hi, hf] using hd
      exact .inr (image_settled hf)

theorem lowerChar_ne_nil (c : Char) : lowerChar c ≠ [] := by
  unfold lowerChar
  split
  · simp
  · split <;> simp

/-! ### Texts -/

/-- The lowercase of a character at its position. -/
def lowerAt (before : List Char) (c : Char) (rest : List Char) : List Char :=
  if c = 'Σ' then [if endsWord before rest then 'ς' else 'σ'] else lowerChar c

theorem lowerAt_ne_nil (before : List Char) (c : Char) (rest : List Char) :
    lowerAt before c rest ≠ [] := by
  unfold lowerAt
  split
  · simp
  · exact lowerChar_ne_nil c

theorem settled_of_mem_lowerAt {before rest : List Char} {c d : Char}
    (hd : d ∈ lowerAt before c rest) : Settled d := by
  unfold lowerAt at hd
  split at hd
  · split at hd <;> obtain rfl := List.mem_singleton.1 hd
    · exact ⟨by decide, by decide +kernel⟩
    · exact ⟨by decide, by decide +kernel⟩
  · rcases mem_lowerChar hd with ⟨rfl, hl⟩ | ⟨hs, -⟩
    · exact ⟨‹_›, hl⟩
    · exact hs

theorem not_blank_of_mem_lowerAt {before rest : List Char} {c d : Char} (hc : isBlank c = false)
    (hd : d ∈ lowerAt before c rest) : isBlank d = false := by
  unfold lowerAt at hd
  split at hd
  · split at hd <;> obtain rfl := List.mem_singleton.1 hd <;> decide
  · rcases mem_lowerChar hd with ⟨rfl, -⟩ | ⟨-, hb⟩
    · exact hc
    · exact hb

theorem lowerFrom_cons (before : List Char) (c : Char) (rest : List Char) :
    lowerFrom before (c :: rest) = lowerAt before c rest ++ lowerFrom (c :: before) rest := rfl

theorem settled_of_mem_lowerFrom {before cs : List Char} {d : Char} (hd : d ∈ lowerFrom before cs) :
    Settled d := by
  induction cs generalizing before with
  | nil => cases hd
  | cons c rest ih =>
    rw [lowerFrom_cons, List.mem_append] at hd
    exact hd.elim settled_of_mem_lowerAt ih

theorem lowerFrom_of_settled {before cs : List Char} (h : ∀ c ∈ cs, Settled c) :
    lowerFrom before cs = cs := by
  induction cs generalizing before with
  | nil => rfl
  | cons c rest ih =>
    obtain ⟨hc, hl⟩ := h c (by simp)
    rw [lowerFrom_cons, ih fun d hd => h d (by simp [hd])]
    simp [lowerAt, hc, hl]

theorem lower_lower (cs : List Char) : lower (lower cs) = lower cs :=
  lowerFrom_of_settled fun _ hd => settled_of_mem_lowerFrom hd

/-! ### Trimming -/

/-- Neither end is blank. -/
structure Trimmed (cs : List Char) : Prop where
  head : ∀ {c}, cs.head? = some c → isBlank c = false
  last : ∀ {c}, cs.getLast? = some c → isBlank c = false

theorem head_dropWhile {cs : List Char} {c : Char} (h : (cs.dropWhile isBlank).head? = some c) :
    isBlank c = false := by
  have := List.head?_dropWhile_not isBlank cs
  rwa [h] at this

theorem dropWhile_of_head {cs : List Char} (h : ∀ {c}, cs.head? = some c → isBlank c = false) :
    cs.dropWhile isBlank = cs := by
  cases cs with
  | nil => rfl
  | cons c rest => simp [h rfl]

theorem trimmed_trim (cs : List Char) : Trimmed (trim cs) where
  head {c} hc := by
    have pre : trim cs <+: cs.dropWhile isBlank := by
      rw [← List.reverse_suffix]
      simpa [trim, trimEnd] using List.dropWhile_suffix isBlank
    cases ht : trim cs with
    | nil => simp [ht] at hc
    | cons d rest =>
      obtain ⟨post, hp⟩ := pre
      obtain rfl : d = c := by simpa [ht] using hc
      have first : (cs.dropWhile isBlank).head? = some d := by simp [← hp, ht]
      exact head_dropWhile first
  last {c} hc := by
    unfold trim trimEnd at hc
    rw [List.getLast?_reverse] at hc
    exact head_dropWhile hc

theorem trim_of_trimmed {cs : List Char} (h : Trimmed cs) : trim cs = cs := by
  unfold trim trimEnd
  rw [dropWhile_of_head h.head, dropWhile_of_head, List.reverse_reverse]
  intro c hc
  rw [List.head?_reverse] at hc
  exact h.last hc

theorem mem_of_mem_trim {cs : List Char} {c : Char} (h : c ∈ trim cs) : c ∈ cs := by
  unfold trim trimEnd at h
  have inner := (List.dropWhile_sublist isBlank).subset (List.mem_reverse.1 h)
  exact (List.dropWhile_sublist isBlank).subset (List.mem_reverse.1 inner)

/-- The last character of a text determines the end of its lowercase. -/
theorem lowerFrom_concat (before cs : List Char) (c : Char) :
    ∃ pre b, lowerFrom before (cs ++ [c]) = pre ++ lowerAt b c [] := by
  induction cs generalizing before with
  | nil => exact ⟨[], before, by simp [lowerFrom_cons, lowerFrom]⟩
  | cons d cs ih =>
    obtain ⟨pre, b, hb⟩ := ih (d :: before)
    exact ⟨lowerAt before d (cs ++ [c]) ++ pre, b, by simp [lowerFrom_cons, hb]⟩

theorem trimmed_lower {cs : List Char} (h : Trimmed cs) : Trimmed (lower cs) where
  head {d} hd := by
    cases cs with
    | nil => cases hd
    | cons c rest =>
      unfold lower at hd
      rw [lowerFrom_cons] at hd
      obtain ⟨a, as, ha⟩ := List.exists_cons_of_ne_nil (lowerAt_ne_nil [] c rest)
      obtain rfl : a = d := by simpa [ha] using hd
      exact not_blank_of_mem_lowerAt (h.head rfl) (by rw [ha]; exact List.mem_cons_self)
  last {d} hd := by
    rcases List.eq_nil_or_concat cs with rfl | ⟨init, c, rfl⟩
    · cases hd
    · rw [List.concat_eq_append] at h hd
      obtain ⟨pre, b, hb⟩ := lowerFrom_concat [] init c
      unfold lower at hd
      rw [hb] at hd
      rcases List.eq_nil_or_concat (lowerAt b c []) with hn | ⟨as, a, ha⟩
      · exact absurd hn (lowerAt_ne_nil b c [])
      · rw [List.concat_eq_append] at ha
        obtain rfl : a = d := by simpa [ha, ← List.append_assoc] using hd
        have hc : isBlank c = false := h.last (by simp)
        exact not_blank_of_mem_lowerAt hc (ha ▸ List.mem_concat_self)

end Presence.Text

namespace Presence

/-! ### Names -/

/-- Normalization is idempotent. -/
theorem normalize_normalize (raw : String) : normalize (normalize raw) = normalize raw := by
  have ht := Text.trimmed_lower (Text.trimmed_trim raw.toList)
  unfold normalize
  rw [String.toList_ofList, Text.trim_of_trimmed ht, Text.lower_lower]

namespace Name

variable {kind : NameKind}

theorem text_inj {a b : Name kind} : a.text = b.text ↔ a = b :=
  ⟨ext_text, congrArg text⟩

theorem normalize_text (n : Name kind) : normalize n.text = n.text := by
  obtain ⟨raw, hr⟩ := n.normal
  rw [← hr, normalize_normalize]

theorem parse?_eq_none_iff {raw : String} :
    (parse? raw : Option (Name kind)) = none ↔ normalize raw = "" := by
  unfold parse?
  split <;> simp [*]

theorem parse?_eq_some_iff {raw : String} {n : Name kind} :
    parse? raw = some n ↔ n.text = normalize raw := by
  refine ⟨text_of_parse?, fun h => ?_⟩
  rw [parse?, dif_neg (h ▸ n.nonempty)]
  exact congrArg some (ext_text h.symm)

theorem exists_parse? {raw : String} (h : normalize raw ≠ "") :
    ∃ n : Name kind, parse? raw = some n :=
  ⟨⟨_, h, raw, rfl⟩, parse?_eq_some_iff.2 rfl⟩

/-- The text of a name denotes that name. -/
@[simp] theorem parse?_text (n : Name kind) : parse? n.text = some n :=
  parse?_eq_some_iff.2 n.normalize_text.symm

/-! ### Order -/

theorem lt_irrefl (a : Name kind) : ¬ a < a := String.lt_irrefl a.text

theorem lt_trans {a b c : Name kind} (h : a < b) (h' : b < c) : a < c :=
  String.lt_trans (a := a.text) h h'

theorem lt_of_not_lt {a b : Name kind} (h : ¬ a < b) (hne : a ≠ b) : b < a := by
  by_cases hb : b < a
  · exact hb
  · exact absurd (ext_text (String.le_antisymm (a := a.text) hb h)) hne

theorem pairwise_insertSorted {n : Name kind} {names : List (Name kind)}
    (h : names.Pairwise (· < ·)) : (insertSorted n names).Pairwise (· < ·) := by
  induction names with
  | nil => simp [insertSorted]
  | cons m rest ih =>
    obtain ⟨hm, hr⟩ := List.pairwise_cons.1 h
    unfold insertSorted
    split
    · rename_i hn
      refine List.pairwise_cons.2 ⟨fun k hk => ?_, h⟩
      rcases List.mem_cons.1 hk with rfl | hk
      · exact hn
      · exact lt_trans hn (hm k hk)
    · split
      · exact h
      · rename_i hn hne
        refine List.pairwise_cons.2 ⟨fun k hk => ?_, ih hr⟩
        rcases mem_insertSorted.1 hk with rfl | hk
        · exact lt_of_not_lt hn hne
        · exact hm k hk

/-- A sorted set is strictly ascending. -/
theorem pairwise_sortedSet (names : List (Name kind)) : (sortedSet names).Pairwise (· < ·) := by
  induction names with
  | nil => exact List.Pairwise.nil
  | cons n rest ih => exact pairwise_insertSorted ih

theorem nodup_of_pairwise {names : List (Name kind)} (h : names.Pairwise (· < ·)) :
    names.Nodup := by
  refine h.imp ?_
  rintro a _ hlt rfl
  exact lt_irrefl a hlt

/-- Strictly ascending lists with the same elements are equal. -/
theorem eq_of_mem_iff {l l' : List (Name kind)} (h : l.Pairwise (· < ·)) (h' : l'.Pairwise (· < ·))
    (same : ∀ n, n ∈ l ↔ n ∈ l') : l = l' := by
  have perm := (List.perm_ext_iff_of_nodup (nodup_of_pairwise h) (nodup_of_pairwise h')).2 same
  refine perm.eq_of_pairwise (fun a b _ _ hab hba => ?_) h h'
  exact absurd (lt_trans hab hba) (lt_irrefl a)

end Name

end Presence
