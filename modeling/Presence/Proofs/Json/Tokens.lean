import Presence.Proofs.Json.Grammar

/-!
Readers of blanks, numbers and strings against the grammar, in both directions: soundness for every
text, completeness if the rest of the text does not continue the token (`Clear`).
-/

namespace Presence.Json

theorem bind_eq_ok {ε α β : Type} {x : Except ε α} {f : α → Except ε β} {b : β} :
    (x >>= f) = .ok b ↔ ∃ a, x = .ok a ∧ f a = .ok b := by
  cases x with
  | error e => simp [bind, Except.bind]
  | ok a => simp [bind, Except.bind]

/-- The rest of the text does not begin with such a character. -/
def Clear (p : Char → Bool) (rest : List Char) : Prop := ∀ c, rest.head? = some c → p c = false

theorem clear_cons {p : Char → Bool} {c : Char} {rest : List Char} :
    Clear p (c :: rest) ↔ p c = false := by
  simp [Clear]

theorem clear_nil {p : Char → Bool} : Clear p [] := by
  simp [Clear]

/-! ### Characters of one class -/

section
variable {p : Char → Bool} {cs rest : List Char}

theorem of_mem_takeWhile {c : Char} (h : c ∈ cs.takeWhile p) : p c = true :=
  List.all_eq_true.1 List.all_takeWhile c h

theorem clear_dropWhile : Clear p (cs.dropWhile p) := by
  intro c hc
  have := List.head?_dropWhile_not p cs
  rw [hc] at this
  simpa using this

theorem takeWhile_append (h : ∀ c ∈ cs, p c = true) (hr : Clear p rest) :
    (cs ++ rest).takeWhile p = cs := by
  rw [List.takeWhile_append_of_pos h]
  cases rest with
  | nil => simp
  | cons c rest => simp [clear_cons.1 hr]

theorem dropWhile_append (h : ∀ c ∈ cs, p c = true) (hr : Clear p rest) :
    (cs ++ rest).dropWhile p = rest := by
  rw [List.dropWhile_append_of_pos h]
  cases rest with
  | nil => rfl
  | cons c rest => simp [clear_cons.1 hr]

end

/-! ### Blanks -/

section
variable {w cs rest : List Char} {c : Char}

theorem Blank.nil : Blank [] := by simp [Blank]

theorem exists_blank (cs : List Char) : ∃ w, Blank w ∧ cs = w ++ skipSpaces cs := by
  exact ⟨cs.takeWhile isSpace, fun _ => of_mem_takeWhile, List.takeWhile_append_dropWhile.symm⟩

theorem skipSpaces_append (h : Blank w) (hc : Clear isSpace cs) : skipSpaces (w ++ cs) = cs :=
  dropWhile_append h hc

theorem skipSpaces_eq_nil_iff : skipSpaces cs = [] ↔ Blank cs := by
  constructor
  · intro h
    obtain ⟨w, hw, hcs⟩ := exists_blank cs
    rw [h, List.append_nil] at hcs
    exact hcs ▸ hw
  · intro h
    have := skipSpaces_append h (clear_nil (p := isSpace))
    rwa [List.append_nil] at this

/-- Blanks and the first character after them. -/
theorem skipSpaces_eq_cons (h : skipSpaces cs = c :: rest) :
    ∃ w, Blank w ∧ cs = w ++ c :: rest ∧ isSpace c = false := by
  obtain ⟨w, hw, hcs⟩ := exists_blank cs
  have clear : Clear isSpace (skipSpaces cs) := clear_dropWhile
  rw [h] at clear
  exact ⟨w, hw, h ▸ hcs, clear_cons.1 clear⟩

end

/-! ### Words -/

theorem word_eq_ok_iff {ws cs rest : List Char} : word ws cs = .ok rest ↔ cs = ws ++ rest := by
  induction ws generalizing cs with
  | nil => simp [word]
  | cons w ws ih =>
    cases cs with
    | nil => simp [word]
    | cons c cs =>
      unfold word
      split
      · subst_vars
        simp [ih]
      · rename_i h
        simp [Ne.symm h]

/-! ### Numbers -/

section
variable {cs ds rest t : List Char}

theorem digits_eq_ok_iff :
    digits cs = .ok (ds, rest) ↔ cs = ds ++ rest ∧ Digits ds ∧ Clear isDigit rest := by
  constructor
  · intro h
    unfold digits at h
    split at h
    · cases h
    · rename_i c cs
      split at h
      · rename_i hc
        cases h
        exact ⟨List.takeWhile_append_dropWhile.symm, ⟨by simp [hc], fun _ => of_mem_takeWhile⟩,
          clear_dropWhile⟩
      · cases h
  · rintro ⟨rfl, ⟨hne, hds⟩, hr⟩
    obtain ⟨d, ds, rfl⟩ := List.exists_cons_of_ne_nil hne
    have hd : isDigit d = true := hds d List.mem_cons_self
    unfold digits
    rw [List.cons_append]
    simp only [hd, if_true]
    rw [← List.cons_append, takeWhile_append hds hr, dropWhile_append hds hr]

theorem wholePart_eq_ok_iff :
    wholePart cs = .ok (ds, rest) ↔ cs = ds ++ rest ∧ WholeText ds ∧ Clear isDigit rest := by
  unfold wholePart
  rw [bind_eq_ok]
  constructor
  · rintro ⟨⟨ds', rest'⟩, hd, h⟩
    obtain ⟨hcs, hds, hr⟩ := digits_eq_ok_iff.1 hd
    dsimp only at h
    split at h
    · cases h
    · rename_i lone
      cases h
      refine ⟨hcs, ?_, hr⟩
      obtain ⟨d, ds, rfl⟩ := List.exists_cons_of_ne_nil hds.1
      by_cases hz : d = '0'
      · subst hz
        cases ds with
        | nil => exact .zero
        | cons d ds => exact absurd rfl (lone d ds)
      · exact .digits hds hz
  · rintro ⟨hcs, hw, hr⟩
    cases hw with
    | zero =>
      exact ⟨_, digits_eq_ok_iff.2 ⟨hcs, ⟨by simp, by simp; decide⟩, hr⟩, rfl⟩
    | @digits d ds hds hz =>
      refine ⟨_, digits_eq_ok_iff.2 ⟨hcs, hds, hr⟩, ?_⟩
      dsimp only
      split
      · rename_i h
        cases h
        exact absurd rfl hz
      · rfl

/-- Characters that continue a number before its power of ten. -/
def isDigitOrPoint (c : Char) : Bool := isDigit c || c = '.'

/-- Characters that continue a number. -/
def isNumeric (c : Char) : Bool := isDigitOrPoint c || c = 'e' || c = 'E'

theorem Clear.digitOrPoint (h : Clear isNumeric rest) : Clear isDigitOrPoint rest := fun c hc => by
  have := h c hc
  simp only [isNumeric, Bool.or_eq_false_iff] at this
  exact this.1.1

theorem Clear.digit (h : Clear isDigitOrPoint rest) : Clear isDigit rest := fun c hc => by
  have := h c hc
  simp only [isDigitOrPoint, Bool.or_eq_false_iff] at this
  exact this.1

theorem fractionPart_sound {fraction : Option (List Char)}
    (h : fractionPart cs = .ok (fraction, rest)) :
    ∃ t, cs = t ++ rest ∧ FractionText t fraction := by
  unfold fractionPart at h
  split at h
  · obtain ⟨⟨ds, rest'⟩, hd, h⟩ := bind_eq_ok.1 h
    cases h
    obtain ⟨rfl, hds, -⟩ := digits_eq_ok_iff.1 hd
    exact ⟨'.' :: ds, rfl, .present hds⟩
  · cases h
    exact ⟨[], rfl, .absent⟩

theorem fractionPart_complete {fraction : Option (List Char)} (h : FractionText t fraction)
    (hr : Clear isDigitOrPoint rest) : fractionPart (t ++ rest) = .ok (fraction, rest) := by
  cases h with
  | absent =>
    unfold fractionPart
    rw [List.nil_append]
    split
    · have := clear_cons.1 hr
      exact absurd this (by decide)
    · rfl
  | @present ds hds =>
    show (digits (ds ++ rest) >>= fun x => Except.ok (some x.1, x.2)) = _
    exact bind_eq_ok.2 ⟨_, digits_eq_ok_iff.2 ⟨rfl, hds, hr.digit⟩, rfl⟩

theorem exponentPart_sound {exponent : Option Int}
    (h : exponentPart cs = .ok (exponent, rest)) :
    ∃ t, cs = t ++ rest ∧ ExponentText t exponent := by
  unfold exponentPart at h
  split at h
  · rename_i c cs
    split at h
    · rename_i he
      have he : c = 'e' ∨ c = 'E' := by simpa using he
      split at h
      · obtain ⟨⟨ds, rest'⟩, hd, h⟩ := bind_eq_ok.1 h
        cases h
        obtain ⟨rfl, hds, -⟩ := digits_eq_ok_iff.1 hd
        exact ⟨c :: '-' :: ds, rfl, .minus he hds⟩
      · obtain ⟨⟨ds, rest'⟩, hd, h⟩ := bind_eq_ok.1 h
        cases h
        obtain ⟨rfl, hds, -⟩ := digits_eq_ok_iff.1 hd
        exact ⟨c :: '+' :: ds, rfl, .plus he hds⟩
      · obtain ⟨⟨ds, rest'⟩, hd, h⟩ := bind_eq_ok.1 h
        cases h
        obtain ⟨rfl, hds, -⟩ := digits_eq_ok_iff.1 hd
        exact ⟨c :: ds, rfl, .plain he hds⟩
    · cases h
      exact ⟨[], rfl, .absent⟩
  · cases h
    exact ⟨[], rfl, .absent⟩

theorem exponentPart_complete {exponent : Option Int} (h : ExponentText t exponent)
    (hr : Clear isNumeric rest) : exponentPart (t ++ rest) = .ok (exponent, rest) := by
  have follow {ds : List Char} (hds : Digits ds) : digits (ds ++ rest) = .ok (ds, rest) :=
    digits_eq_ok_iff.2 ⟨rfl, hds, hr.digitOrPoint.digit⟩
  cases h with
  | absent =>
    cases rest with
    | nil => rfl
    | cons c rest =>
      have := clear_cons.1 hr
      simp only [isNumeric, Bool.or_eq_false_iff] at this
      simp [exponentPart, this.1.2, this.2]
  | @plain e ds he hds =>
    have he : (decide (e = 'e') || decide (e = 'E')) = true := by simpa using he
    obtain ⟨d, ds, rfl⟩ := List.exists_cons_of_ne_nil hds.1
    have hd : isDigit d = true := hds.2 d List.mem_cons_self
    unfold exponentPart
    simp only [List.cons_append, he, if_true]
    split
    · rename_i h
      cases h
      exact absurd hd (by decide)
    · rename_i h
      cases h
      exact absurd hd (by decide)
    · exact bind_eq_ok.2 ⟨_, follow hds, rfl⟩
  | @plus e ds he hds =>
    have he : (decide (e = 'e') || decide (e = 'E')) = true := by simpa using he
    unfold exponentPart
    simp only [List.cons_append, he, if_true]
    exact bind_eq_ok.2 ⟨_, follow hds, rfl⟩
  | @minus e ds he hds =>
    have he : (decide (e = 'e') || decide (e = 'E')) = true := by simpa using he
    unfold exponentPart
    simp only [List.cons_append, he, if_true]
    exact bind_eq_ok.2 ⟨_, follow hds, rfl⟩

theorem ExponentText.clear {exponent : Option Int} (h : ExponentText t exponent)
    (hr : Clear isNumeric rest) : Clear isDigitOrPoint (t ++ rest) := by
  have mark {e : Char} {cs : List Char} (he : e = 'e' ∨ e = 'E') :
      Clear isDigitOrPoint (e :: cs) := by
    rcases he with rfl | rfl <;> exact clear_cons.2 (by decide)
  cases h with
  | absent => exact hr.digitOrPoint
  | plain he => exact mark he
  | plus he => exact mark he
  | minus he => exact mark he

theorem FractionText.clear {fraction : Option (List Char)} (h : FractionText t fraction)
    (hr : Clear isDigitOrPoint rest) : Clear isDigit (t ++ rest) := by
  cases h with
  | absent => exact hr.digit
  | present => exact clear_cons.2 (by decide)

theorem unsigned_sound {negative : Bool} {n : Number} (h : unsigned negative cs = .ok (n, rest)) :
    (∃ t, cs = t ++ rest ∧ UnsignedText negative t n) ∧ n.isFinite = true := by
  obtain ⟨⟨ws, rest₁⟩, hw, h₁⟩ := bind_eq_ok.1 h
  obtain ⟨⟨fraction, rest₂⟩, hf, h₂⟩ := bind_eq_ok.1 h₁
  obtain ⟨⟨exponent, rest₃⟩, he, h₃⟩ := bind_eq_ok.1 h₂
  obtain ⟨rfl, whole, -⟩ := wholePart_eq_ok_iff.1 hw
  obtain ⟨fs, rfl, places⟩ := fractionPart_sound hf
  obtain ⟨es, rfl, power⟩ := exponentPart_sound he
  dsimp only at h₃
  split at h₃
  · rename_i finite
    cases h₃
    exact ⟨⟨ws ++ fs ++ es, by simp, .parts whole places power⟩, finite⟩
  · cases h₃

theorem unsigned_complete {negative : Bool} {n : Number} (h : UnsignedText negative t n)
    (finite : n.isFinite = true) (hr : Clear isNumeric rest) :
    unsigned negative (t ++ rest) = .ok (n, rest) := by
  cases h with
  | @parts ws fs es fraction exponent hw hf he =>
    have hr₁ := he.clear hr
    have hr₂ := hf.clear hr₁
    have first : wholePart (ws ++ fs ++ es ++ rest) = .ok (ws, fs ++ (es ++ rest)) :=
      wholePart_eq_ok_iff.2 ⟨by simp, hw, hr₂⟩
    refine bind_eq_ok.2 ⟨_, first, ?_⟩
    refine bind_eq_ok.2 ⟨_, fractionPart_complete hf hr₁, ?_⟩
    refine bind_eq_ok.2 ⟨_, exponentPart_complete he hr, ?_⟩
    dsimp only
    rw [if_pos finite]

theorem number_sound {n : Number} (h : number cs = .ok (n, rest)) :
    (∃ t, cs = t ++ rest ∧ NumberText t n) ∧ n.isFinite = true := by
  unfold number at h
  split at h
  · obtain ⟨⟨t, rfl, ht⟩, finite⟩ := unsigned_sound h
    exact ⟨⟨'-' :: t, rfl, .negative ht⟩, finite⟩
  · obtain ⟨⟨t, rfl, ht⟩, finite⟩ := unsigned_sound h
    exact ⟨⟨t, rfl, .positive ht⟩, finite⟩

theorem UnsignedText.begins {negative : Bool} {n : Number} (h : UnsignedText negative t n) :
    ∃ d t', t = d :: t' ∧ isDigit d = true := by
  cases h with
  | parts hw _ _ =>
    cases hw with
    | zero => exact ⟨'0', _, rfl, by decide⟩
    | @digits d ds h hz => exact ⟨d, _, rfl, h.2 d List.mem_cons_self⟩

theorem number_complete {n : Number} (h : NumberText t n) (finite : n.isFinite = true)
    (hr : Clear isNumeric rest) : number (t ++ rest) = .ok (n, rest) := by
  cases h with
  | positive h =>
    obtain ⟨d, t', rfl, hd⟩ := h.begins
    unfold number
    split
    · rename_i hm
      cases hm
      exact absurd hd (by decide)
    · exact unsigned_complete h finite hr
  | negative h => exact unsigned_complete h finite hr

/-- A number begins with its sign or a digit. -/
theorem NumberText.begins {n : Number} (h : NumberText t n) :
    ∃ c t', t = c :: t' ∧ (c = '-' ∨ isDigit c = true) := by
  cases h with
  | positive h =>
    obtain ⟨d, t', ht, hd⟩ := h.begins
    exact ⟨d, t', ht, .inr hd⟩
  | negative => exact ⟨'-', _, rfl, .inl rfl⟩

end

/-! ### Strings -/

section
variable {cs rest t body : List Char} {c : Char}

theorem hexDigit_of_lt : ∀ k < 0x80, ∀ n ∈ hexValue? (Char.ofNat k),
    n < 16 ∧ (Char.ofNat k = Nat.digitChar n ∨ Char.ofNat k = (Nat.digitChar n).toUpper) := by
  decide +kernel

theorem hexValue?_of_lt : ∀ n < 16, hexValue? (Nat.digitChar n) = some n ∧
    hexValue? (Nat.digitChar n).toUpper = some n := by
  decide +kernel

theorem hexValue?_eq_some_iff {n : Nat} : hexValue? c = some n ↔ HexDigit c n := by
  constructor
  · intro h
    have small : c.toNat < 0x80 := by
      unfold hexValue? at h
      have top {d : Char} (hd : d.toNat < 0x80) (hc : c ≤ d) : c.toNat < 0x80 :=
        Nat.lt_of_le_of_lt hc hd
      split at h
      · exact top (by decide) ‹_ ∧ c ≤ '9'›.2
      · split at h
        · exact top (by decide) ‹_ ∧ c ≤ 'f'›.2
        · split at h
          · exact top (by decide) ‹_ ∧ c ≤ 'F'›.2
          · cases h
    have digit := hexDigit_of_lt c.toNat small
    rw [Char.ofNat_toNat] at digit
    exact digit n h
  · rintro ⟨hn, rfl | rfl⟩
    · exact (hexValue?_of_lt n hn).1
    · exact (hexValue?_of_lt n hn).2

theorem hexUnit_eq_ok_iff {n : Nat} :
    hexUnit cs = .ok (n, rest) ↔ ∃ ds, cs = ds ++ rest ∧ UnitText ds n := by
  constructor
  · intro h
    unfold hexUnit at h
    split at h
    · split at h
      · rename_i ha hb hc hd
        cases h
        exact ⟨[_, _, _, _], rfl, .digits (hexValue?_eq_some_iff.1 ha) (hexValue?_eq_some_iff.1 hb)
          (hexValue?_eq_some_iff.1 hc) (hexValue?_eq_some_iff.1 hd)⟩
      · cases h
    · split at h <;> cases h
  · rintro ⟨_, rfl, ha, hb, hc, hd⟩
    simp only [List.cons_append, List.nil_append, hexUnit, hexValue?_eq_some_iff.2 ha,
      hexValue?_eq_some_iff.2 hb, hexValue?_eq_some_iff.2 hc, hexValue?_eq_some_iff.2 hd]

theorem lowSurrogate_eq_ok_iff {high : Nat} : lowSurrogate high cs = .ok (c, rest) ↔
    ∃ ds low, cs = '\\' :: 'u' :: ds ++ rest ∧ UnitText ds low ∧ (0xdc00 ≤ low ∧ low ≤ 0xdfff) ∧
      c = Char.ofNat (0x10000 + (high - 0xd800) * 0x400 + (low - 0xdc00)) := by
  constructor
  · intro h
    unfold lowSurrogate at h
    split at h
    · cases h
    · cases h
    · obtain ⟨⟨low, rest'⟩, hu, h'⟩ := bind_eq_ok.1 h
      obtain ⟨ds, rfl, hds⟩ := hexUnit_eq_ok_iff.1 hu
      dsimp only at h'
      split at h'
      · rename_i hl
        obtain ⟨hc, hrest⟩ := Prod.mk.inj (Except.ok.inj h')
        exact ⟨ds, low, by rw [hrest]; rfl, hds, hl, hc.symm⟩
      · cases h'
    · cases h
  · rintro ⟨ds, low, rfl, hds, hl, hc⟩
    refine bind_eq_ok.2 ⟨_, hexUnit_eq_ok_iff.2 ⟨ds, rfl, hds⟩, ?_⟩
    dsimp only
    rw [if_pos hl, hc]

theorem escaped_sound (h : escaped cs = .ok (c, rest)) :
    ∃ t, cs = t ++ rest ∧ CharText ('\\' :: t) c := by
  unfold escaped at h
  split at h
  · cases h
  all_goals first
    | (cases h; exact ⟨[_], rfl, .short (by decide)⟩)
    | skip
  · obtain ⟨⟨n, rest'⟩, hu, h'⟩ := bind_eq_ok.1 h
    obtain ⟨ds, rfl, hds⟩ := hexUnit_eq_ok_iff.1 hu
    dsimp only at h'
    split at h'
    · cases h'
    · rename_i notLow
      split at h'
      · rename_i high
        obtain ⟨ds', low, rfl, hds', hl, hc⟩ := lowSurrogate_eq_ok_iff.1 h'
        rw [hc]
        exact ⟨'u' :: ds ++ '\\' :: 'u' :: ds', by simp, .pair hds high hds' hl⟩
      · cases h'
        exact ⟨'u' :: ds, rfl, .unit hds (by omega)⟩
  · cases h

theorem escaped_complete (h : CharText ('\\' :: t) c) : escaped (t ++ rest) = .ok (c, rest) := by
  cases h with
  | plain _ hb => exact absurd rfl hb
  | short hs =>
    simp only [shortEscapes, List.mem_cons, Prod.mk.injEq, List.not_mem_nil, or_false] at hs
    rcases hs with ⟨rfl, rfl⟩ | ⟨rfl, rfl⟩ | ⟨rfl, rfl⟩ | ⟨rfl, rfl⟩ | ⟨rfl, rfl⟩ | ⟨rfl, rfl⟩ |
      ⟨rfl, rfl⟩ | ⟨rfl, rfl⟩ <;> rfl
  | @unit ds n hds hn =>
    refine bind_eq_ok.2 ⟨_, hexUnit_eq_ok_iff.2 ⟨ds, rfl, hds⟩, ?_⟩
    dsimp only
    rw [if_neg (by omega), if_neg (by omega)]
  | @pair ds ds' high low hds hh hds' hl =>
    rw [show ('u' :: ds).append ('\\' :: 'u' :: ds') ++ rest =
      'u' :: (ds ++ ('\\' :: 'u' :: ds' ++ rest)) by simp]
    refine bind_eq_ok.2 ⟨_, hexUnit_eq_ok_iff.2 ⟨ds, rfl, hds⟩, ?_⟩
    dsimp only
    rw [if_neg (by omega), if_pos hh]
    exact lowSurrogate_eq_ok_iff.2 ⟨ds', low, rfl, hds', hl, rfl⟩

/-- A character is written unescaped or as an escape. -/
theorem CharText.cases (h : CharText t c) :
    (t = [c] ∧ c ≠ '"' ∧ c ≠ '\\' ∧ 0x20 ≤ c.toNat) ∨ ∃ t', t = '\\' :: t' := by
  cases h with
  | plain hq hb hc => exact .inl ⟨rfl, hq, hb, hc⟩
  | short => exact .inr ⟨_, rfl⟩
  | unit => exact .inr ⟨_, rfl⟩
  | pair => exact .inr ⟨_, rfl⟩

theorem stringChars_sound {fuel : Nat} {s : List Char}
    (h : stringChars fuel cs = .ok (s, rest)) :
    ∃ body, cs = body ++ '"' :: rest ∧ CharsText body s := by
  induction fuel generalizing cs s with
  | zero => cases h
  | succ fuel ih =>
    cases cs with
    | nil => cases h
    | cons c cs =>
      unfold stringChars at h
      split at h
      · subst_vars
        cases h
        exact ⟨[], rfl, .nil⟩
      · rename_i hq
        split at h
        · subst_vars
          obtain ⟨⟨d, rest₁⟩, he, h⟩ := bind_eq_ok.1 h
          obtain ⟨⟨ds, rest₂⟩, hs, h⟩ := bind_eq_ok.1 h
          cases h
          obtain ⟨t, rfl, ht⟩ := escaped_sound he
          obtain ⟨body, rfl, hb⟩ := ih hs
          exact ⟨'\\' :: t ++ body, by simp, .cons ht hb⟩
        · rename_i hb
          split at h
          · cases h
          · rename_i hc
            obtain ⟨⟨ds, rest₁⟩, hs, h⟩ := bind_eq_ok.1 h
            cases h
            obtain ⟨body, rfl, hbody⟩ := ih hs
            exact ⟨[c] ++ body, rfl, .cons (.plain hq hb (Nat.le_of_not_lt hc)) hbody⟩

theorem stringChars_complete {s : List Char} (h : CharsText body s) {fuel : Nat}
    (hf : body.length < fuel) : stringChars fuel (body ++ '"' :: rest) = .ok (s, rest) := by
  induction h generalizing fuel with
  | nil =>
    obtain ⟨fuel, rfl⟩ := Nat.exists_eq_add_one.2 hf
    rfl
  | @cons t ts c cs ht hs ih =>
    obtain ⟨fuel, rfl⟩ := Nat.exists_eq_add_one.2 (Nat.zero_lt_of_lt hf)
    rw [List.length_append] at hf
    rcases ht.cases with ⟨rfl, hq, hb, hc⟩ | ⟨t, rfl⟩
    · rw [List.length_singleton] at hf
      have later := ih (show ts.length < fuel by omega)
      rw [List.append_assoc, List.singleton_append]
      unfold stringChars
      rw [if_neg hq, if_neg hb, if_neg (Nat.not_lt_of_le hc)]
      exact bind_eq_ok.2 ⟨_, later, rfl⟩
    · rw [List.length_cons] at hf
      have later := ih (show ts.length < fuel by omega)
      rw [List.append_assoc, List.cons_append]
      unfold stringChars
      rw [if_neg (by decide), if_pos rfl]
      exact bind_eq_ok.2 ⟨_, escaped_complete ht, bind_eq_ok.2 ⟨_, later, rfl⟩⟩

theorem stringTail_eq_ok_iff {s : String} :
    stringTail cs = .ok (s, rest) ↔ ∃ t, '"' :: cs = t ++ rest ∧ StringText t s := by
  unfold stringTail
  rw [bind_eq_ok]
  constructor
  · rintro ⟨⟨chars, rest'⟩, hs, h⟩
    cases h
    obtain ⟨body, rfl, hb⟩ := stringChars_sound hs
    exact ⟨'"' :: body ++ ['"'], by simp, .quoted hb⟩
  · rintro ⟨_, ht, @⟨body, chars, hb⟩⟩
    -- the fuel is the length of all that is left, the closing quote among it
    obtain rfl : cs = body ++ '"' :: rest := by simpa using ht
    refine ⟨_, stringChars_complete hb ?_, rfl⟩
    rw [List.length_append]
    omega

/-- A string begins with its quote. -/
theorem StringText.begins {s : String} (h : StringText t s) : ∃ t', t = '"' :: t' := by
  cases h with
  | quoted => exact ⟨_, rfl⟩

end

end Presence.Json
