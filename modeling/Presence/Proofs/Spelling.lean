import Presence.Proofs.Naming

/-!
Spellings of names. Two texts are spelled alike if they agree character by character up to the
lowercase of single characters. They denote the same identity exactly if, wherever a word ends, both
have a capital sigma or neither has one; in particular without capital sigmas.
-/

namespace Presence.Text

/-! ### The table of letters -/

namespace Ranges

/-- The ranges are in order. -/
def ascend : Ranges → Bool
  | p :: q :: rest => Nat.ble p.1 q.1 && ascend (q :: rest)
  | _ => true

/-- No code point from `lo` to `hi` is in the set; stops at the first range beyond `hi`. -/
def clear : Ranges → Nat → Nat → Bool
  | [], _, _ => true
  | p :: rest, lo, hi => Nat.blt hi p.1 || (Nat.blt p.2 lo && clear rest lo hi)

/-- All code points from `lo` to `hi` are in one range of the set. -/
def covers : Ranges → Nat → Nat → Bool
  | [], _, _ => false
  | p :: rest, lo, hi => (Nat.ble p.1 lo && Nat.ble hi p.2) || covers rest lo hi

theorem le_of_ascend {p q : Nat × Nat} {set : Ranges} (h : ascend (p :: set) = true)
    (hq : q ∈ set) : p.1 ≤ q.1 := by
  induction set generalizing p with
  | nil => cases hq
  | cons r rest ih =>
    simp only [ascend, Bool.and_eq_true, Nat.ble_eq] at h
    rcases List.mem_cons.1 hq with rfl | hq
    · exact h.1
    · exact Nat.le_trans h.1 (ih h.2 hq)

theorem ascend_tail {p : Nat × Nat} {set : Ranges} (h : ascend (p :: set) = true) :
    ascend set = true := by
  cases set with
  | nil => rfl
  | cons q rest =>
    simp only [ascend, Bool.and_eq_true] at h
    exact h.2

theorem not_holds_of_clear {set : Ranges} {lo hi : Nat} {c : Char} (ha : ascend set = true)
    (h : clear set lo hi = true) (hl : lo ≤ c.toNat) (hh : c.toNat ≤ hi) :
    set.holds c = false := by
  induction set with
  | nil => rfl
  | cons p rest ih =>
    rw [← Bool.not_eq_true, holds_iff]
    rintro ⟨q, hq, hql, hqh⟩
    have first : p.1 ≤ q.1 := by
      rcases List.mem_cons.1 hq with rfl | hq
      · exact Nat.le_refl _
      · exact le_of_ascend ha hq
    simp only [clear, Bool.or_eq_true, Bool.and_eq_true, Nat.blt_eq] at h
    rcases h with h | ⟨h, hrest⟩
    · omega
    · rcases List.mem_cons.1 hq with rfl | hq
      · omega
      · have none := ih (ascend_tail ha) hrest
        rw [← Bool.not_eq_true, holds_iff] at none
        exact none ⟨q, hq, hql, hqh⟩

theorem holds_of_covers {set : Ranges} {lo hi : Nat} {c : Char} (h : covers set lo hi = true)
    (hl : lo ≤ c.toNat) (hh : c.toNat ≤ hi) : set.holds c = true := by
  rw [holds_iff]
  induction set with
  | nil => cases h
  | cons p rest ih =>
    simp only [covers, Bool.or_eq_true, Bool.and_eq_true, Nat.ble_eq] at h
    rcases h with ⟨h1, h2⟩ | h
    · exact ⟨p, List.mem_cons_self, by omega, by omega⟩
    · obtain ⟨q, hq, hin⟩ := ih h
      exact ⟨q, List.mem_cons_of_mem _ hq, hin⟩

end Ranges

/-- From `n` on the letters of the run are cased: in one range, or one by one. -/
def CaseRun.casedFrom (r : CaseRun) (n : Nat) : Bool :=
  casedRanges.covers n (n + (r.last - r.first)) ||
    (List.range ((r.last - r.first) / r.stride + 1)).all fun k =>
      casedRanges.covers (n + r.stride * k) (n + r.stride * k)

/-- Letters and images of the run are cased and not case-ignorable; no letter is blank. -/
def CaseRun.isPlain (r : CaseRun) : Bool :=
  r.casedFrom r.first && r.casedFrom r.image &&
    caseIgnorableRanges.clear r.first r.last &&
    caseIgnorableRanges.clear r.image (r.image + (r.last - r.first)) &&
    neverImages.all fun p => Nat.blt r.last p.1 || Nat.blt p.2 r.first

theorem caseRuns_isPlain : ∀ r ∈ caseRuns, r.isPlain = true := by
  decide +kernel

theorem caseIgnorable_ascend : caseIgnorableRanges.ascend = true := by
  decide +kernel

theorem CaseRun.cased_of_casedFrom {r : CaseRun} {n k : Nat} {c : Char}
    (h : r.casedFrom n = true) (hk : k ≤ r.last - r.first) (hs : k % r.stride = 0)
    (hc : c.toNat = n + k) : isCased c = true := by
  unfold casedFrom at h
  rcases Bool.or_eq_true _ _ ▸ h with h | h
  · exact Ranges.holds_of_covers h (by omega) (by omega)
  · rw [List.all_eq_true] at h
    have steps : k / r.stride < (r.last - r.first) / r.stride + 1 :=
      Nat.lt_succ_of_le (Nat.div_le_div_right hk)
    have whole : r.stride * (k / r.stride) = k := Nat.mul_div_cancel' (Nat.dvd_of_mod_eq_zero hs)
    have one := h (k / r.stride) (List.mem_range.2 steps)
    rw [whole] at one
    exact Ranges.holds_of_covers one (by omega) (by omega)

/-! ### Letters spelled alike -/

/-- Two characters are the same to the final sigma rule and to trimming. -/
structure Alike (c d : Char) : Prop where
  cased : isCased c = isCased d
  ignorable : isCaseIgnorable c = isCaseIgnorable d
  blank : isBlank c = isBlank d

/-- A letter of the table and its image are alike. -/
theorem alike_image {c : Char} {m : Nat} (h : caseRuns.findSome? (·.lower? c.toNat) = some m) :
    Alike c (Char.ofNat m) := by
  have toNat := toNat_image h
  have image := (image_settled h).2
  obtain ⟨r, hr, hm⟩ := List.exists_of_findSome?_eq_some h
  have plain := caseRuns_isPlain r hr
  simp only [CaseRun.isPlain, Bool.and_eq_true, List.all_eq_true, Bool.or_eq_true,
    Nat.blt_eq] at plain
  obtain ⟨⟨⟨⟨letters, images⟩, clear⟩, clear'⟩, never⟩ := plain
  unfold CaseRun.lower? at hm
  split at hm
  · rename_i hn
    obtain ⟨h1, h2, h3⟩ := hn
    obtain rfl : r.image + (c.toNat - r.first) = m := by simpa using hm
    have within : c.toNat - r.first ≤ r.last - r.first := by omega
    -- the classes are constant on a run, and no blank lies in one
    refine ⟨?_, ?_, ?_⟩
    · rw [CaseRun.cased_of_casedFrom letters within h3 (by omega),
        CaseRun.cased_of_casedFrom images within h3 toNat]
    · have here : isCaseIgnorable c = false :=
        Ranges.not_holds_of_clear caseIgnorable_ascend clear h1 h2
      have there : isCaseIgnorable (Char.ofNat (r.image + (c.toNat - r.first))) = false :=
        Ranges.not_holds_of_clear caseIgnorable_ascend clear' (by rw [toNat]; omega)
          (by rw [toNat]; omega)
      rw [here, there]
    · rw [image]
      cases hb : isBlank c with
      | false => rfl
      | true =>
        obtain ⟨p, hp, hl, hh⟩ := never_of_isBlank hb
        have := never p hp
        omega
  · cases hm

/-- The lowercase of a character is two characters, or one that is alike. -/
theorem lowerChar_cases (c : Char) : c = 'İ' ∨ ∃ d, lowerChar c = [d] ∧ Alike c d := by
  by_cases hi : c = 'İ'
  · exact .inl hi
  · refine .inr ?_
    unfold lowerChar
    rw [if_neg hi]
    cases hf : caseRuns.findSome? (·.lower? c.toNat) with
    | none => exact ⟨c, rfl, rfl, rfl, rfl⟩
    | some m => exact ⟨Char.ofNat m, rfl, alike_image hf⟩

theorem alike_of_lowerChar {c d : Char} (h : lowerChar c = lowerChar d) : Alike c d := by
  have two : lowerChar 'İ' = ['i', '\u0307'] := rfl
  rcases lowerChar_cases c with rfl | ⟨x, hx, hc⟩ <;> rcases lowerChar_cases d with rfl | ⟨y, hy, hd⟩
  · exact ⟨rfl, rfl, rfl⟩
  · simp [two, hy] at h
  · simp [two, hx] at h
  · obtain rfl : x = y := by simpa [hx, hy] using h
    exact ⟨hc.cased.trans hd.cased.symm, hc.ignorable.trans hd.ignorable.symm,
      hc.blank.trans hd.blank.symm⟩

/-- Agreement character by character up to case. -/
def SpelledAlike (cs ds : List Char) : Prop := cs.map lowerChar = ds.map lowerChar

instance (cs ds : List Char) : Decidable (SpelledAlike cs ds) :=
  inferInstanceAs (Decidable (cs.map lowerChar = ds.map lowerChar))

namespace SpelledAlike

theorem cons_iff {c d : Char} {cs ds : List Char} :
    SpelledAlike (c :: cs) (d :: ds) ↔ lowerChar c = lowerChar d ∧ SpelledAlike cs ds := by
  simp [SpelledAlike]

theorem eq_nil {ds : List Char} (h : SpelledAlike [] ds) : ds = [] := by
  simpa [SpelledAlike, eq_comm] using h

theorem exists_cons {c : Char} {cs ds : List Char} (h : SpelledAlike (c :: cs) ds) :
    ∃ d ds', ds = d :: ds' ∧ lowerChar c = lowerChar d ∧ SpelledAlike cs ds' := by
  cases ds with
  | nil => simp [SpelledAlike] at h
  | cons d ds' => exact ⟨d, ds', rfl, cons_iff.1 h⟩

theorem reverse {cs ds : List Char} (h : SpelledAlike cs ds) :
    SpelledAlike cs.reverse ds.reverse := by
  simpa [SpelledAlike] using h

/-- Dropping by a property of alike characters preserves `SpelledAlike`. -/
theorem dropWhile {p : Char → Bool} (hp : ∀ {c d}, Alike c d → p c = p d) {cs ds : List Char}
    (h : SpelledAlike cs ds) : SpelledAlike (cs.dropWhile p) (ds.dropWhile p) := by
  induction cs generalizing ds with
  | nil => rw [h.eq_nil]; rfl
  | cons c cs ih =>
    obtain ⟨d, ds, rfl, hc, htail⟩ := h.exists_cons
    have same := hp (alike_of_lowerChar hc)
    cases hd : p d with
    | true => simpa [List.dropWhile_cons, same, hd] using ih htail
    | false => simpa [List.dropWhile_cons, same, hd] using h

theorem trim {cs ds : List Char} (h : SpelledAlike cs ds) :
    SpelledAlike (Text.trim cs) (Text.trim ds) :=
  ((h.dropWhile Alike.blank).reverse.dropWhile Alike.blank).reverse

theorem meetsCased {cs ds : List Char} (h : SpelledAlike cs ds) :
    Text.meetsCased cs = Text.meetsCased ds := by
  have rest := h.dropWhile Alike.ignorable
  unfold Text.meetsCased
  cases hc : cs.dropWhile isCaseIgnorable with
  | nil =>
    rw [hc] at rest
    rw [rest.eq_nil]
  | cons c cs' =>
    rw [hc] at rest
    obtain ⟨d, ds', hd, same, -⟩ := rest.exists_cons
    rw [hd]
    exact (alike_of_lowerChar same).cased

theorem endsWord {before before' after after' : List Char} (hb : SpelledAlike before before')
    (ha : SpelledAlike after after') : Text.endsWord before after = Text.endsWord before' after' := by
  unfold Text.endsWord
  rw [hb.meetsCased, ha.meetsCased]

end SpelledAlike

/-! ### Sigmas -/

theorem lowerChar_sigma : lowerChar 'Σ' = ['σ'] := by
  decide +kernel

/-- Only a capital sigma at the end of a word has a lowercase that depends on its position. -/
theorem lowerAt_eq (before : List Char) (c : Char) (rest : List Char) :
    lowerAt before c rest =
      if c = 'Σ' ∧ endsWord before rest = true then ['ς'] else lowerChar c := by
  unfold lowerAt
  by_cases hc : c = 'Σ'
  · subst hc
    cases endsWord before rest <;> simp [lowerChar_sigma]
  · simp [hc]

theorem length_lowerAt (before : List Char) (c : Char) (rest : List Char) :
    (lowerAt before c rest).length = (lowerChar c).length := by
  rw [lowerAt_eq]
  split
  · rename_i h
    rw [h.1, lowerChar_sigma]
    rfl
  · rfl

/-- Wherever a word of the first text ends, both texts have a capital sigma or neither has one;
`before` is the text before the first one, nearest character first. -/
def SigmasMatch (before : List Char) : List Char → List Char → Prop
  | c :: cs, d :: ds =>
    (endsWord before cs = true → (c = 'Σ' ↔ d = 'Σ')) ∧ SigmasMatch (c :: before) cs ds
  | _, _ => True

instance decidableSigmasMatch :
    (before cs ds : List Char) → Decidable (SigmasMatch before cs ds)
  | before, c :: cs, d :: ds =>
    have := decidableSigmasMatch (c :: before) cs ds
    inferInstanceAs (Decidable
      ((endsWord before cs = true → (c = 'Σ' ↔ d = 'Σ')) ∧ SigmasMatch (c :: before) cs ds))
  | _, _ :: _, [] => isTrue trivial
  | _, [], _ => isTrue trivial

theorem sigmasMatch_of_none {before cs ds : List Char} (hc : 'Σ' ∉ cs) (hd : 'Σ' ∉ ds) :
    SigmasMatch before cs ds := by
  induction cs generalizing before ds with
  | nil => trivial
  | cons c cs ih =>
    cases ds with
    | nil => trivial
    | cons d ds =>
      rw [List.mem_cons, not_or] at hc hd
      exact ⟨fun _ => iff_of_false (Ne.symm hc.1) (Ne.symm hd.1), ih hc.2 hd.2⟩

theorem lowerAt_eq_iff {before before' rest rest' : List Char} {c d : Char}
    (hb : SpelledAlike before before') (hc : lowerChar c = lowerChar d)
    (hr : SpelledAlike rest rest') :
    lowerAt before c rest = lowerAt before' d rest' ↔
      (endsWord before rest = true → (c = 'Σ' ↔ d = 'Σ')) := by
  rw [lowerAt_eq, lowerAt_eq, ← hb.endsWord hr]
  cases endsWord before rest with
  | false => simp [hc]
  | true =>
    have differ : ['ς'] ≠ lowerChar 'Σ' := by
      rw [lowerChar_sigma]
      decide
    by_cases h1 : c = 'Σ' <;> by_cases h2 : d = 'Σ'
    · simp [h1, h2]
    · subst h1
      simpa [h2, ← hc] using differ
    · subst h2
      simpa [h1, hc] using differ.symm
    · simp [h1, h2, hc]

/-- Texts spelled alike have the same lowercase exactly if their sigmas match. -/
theorem lowerFrom_eq_iff {before before' cs ds : List Char} (hb : SpelledAlike before before')
    (h : SpelledAlike cs ds) :
    lowerFrom before cs = lowerFrom before' ds ↔ SigmasMatch before cs ds := by
  induction cs generalizing before before' ds with
  | nil => rw [h.eq_nil]; exact iff_of_true rfl trivial
  | cons c cs ih =>
    obtain ⟨d, ds, rfl, hc, htail⟩ := h.exists_cons
    have tails := ih (SpelledAlike.cons_iff.2 ⟨hc, hb⟩) htail
    have heads := lowerAt_eq_iff hb hc htail
    rw [lowerFrom_cons, lowerFrom_cons]
    constructor
    · intro same
      have len : (lowerAt before c cs).length = (lowerAt before' d ds).length := by
        rw [length_lowerAt, length_lowerAt, hc]
      obtain ⟨first, others⟩ := List.append_inj same len
      exact ⟨heads.1 first, tails.1 others⟩
    · rintro ⟨first, others⟩
      rw [heads.2 first, tails.2 others]

end Presence.Text

namespace Presence.Name

open Text (SpelledAlike SigmasMatch)

variable {kind : NameKind}

/-- Raw texts denote the same name, or both none, exactly if their normal forms agree. -/
theorem parse?_eq_iff {raw raw' : String} :
    (parse? raw : Option (Name kind)) = parse? raw' ↔ normalize raw = normalize raw' := by
  unfold parse?
  constructor
  · intro same
    by_cases h : normalize raw = "" <;> by_cases h' : normalize raw' = ""
    · rw [h, h']
    · simp [h, h'] at same
    · simp [h, h'] at same
    · simpa [h, h'] using same
  · intro same
    simp only [same]

/-- Texts that differ only in case denote the same identity exactly if, wherever a word ends, both
have a capital sigma or neither has one: at the end of a word the lowercase of a capital sigma is
`ς`, while `σ` is preserved. Without capital sigmas they always do. -/
theorem parse?_eq_iff_sigmasMatch (kind : NameKind) {raw raw' : String}
    (h : SpelledAlike raw.toList raw'.toList) :
    ((parse? raw : Option (Name kind)) = parse? raw' ↔
        SigmasMatch [] (Text.trim raw.toList) (Text.trim raw'.toList)) ∧
      ('Σ' ∉ raw.toList → 'Σ' ∉ raw'.toList →
        (parse? raw : Option (Name kind)) = parse? raw') := by
  have same : (parse? raw : Option (Name kind)) = parse? raw' ↔
      SigmasMatch [] (Text.trim raw.toList) (Text.trim raw'.toList) := by
    rw [parse?_eq_iff, ← Text.lowerFrom_eq_iff (rfl : SpelledAlike [] []) h.trim]
    unfold normalize Text.lower
    exact String.ofList_inj
  refine ⟨same, fun hn hn' => same.2 (Text.sigmasMatch_of_none ?_ ?_)⟩
  · exact fun hm => hn (Text.mem_of_mem_trim hm)
  · exact fun hm => hn' (Text.mem_of_mem_trim hm)

theorem parse?_eq_of_word_final_capitals :
    SpelledAlike "ΟΔΟΣ ΣΑΣ".toList "οδοΣ σαΣ".toList ∧
      (parse? "ΟΔΟΣ ΣΑΣ" : Option User) = parse? "οδοΣ σαΣ" :=
  have alike : SpelledAlike "ΟΔΟΣ ΣΑΣ".toList "οδοΣ σαΣ".toList := by decide +kernel
  ⟨alike, (parse?_eq_iff_sigmasMatch .user alike).1.2 (by decide +kernel)⟩

/-- A name in capitals and in small letters, which denotes two users and two parties. -/
theorem parse?_splits_word_final_sigma :
    SpelledAlike "ΑΣ".toList "ασ".toList ∧
      (parse? "ΑΣ" : Option User).map text = some "ας" ∧
      (parse? "ασ" : Option User).map text = some "ασ" ∧
      (parse? "ΑΣ" : Option User) ≠ parse? "ασ" ∧ (parse? "ΑΣ" : Option Party) ≠ parse? "ασ" := by
  decide +kernel

end Presence.Name
