import Presence.Proofs.Json.Tokens

/-!
The JSON reader against the grammar: it reads a text as a value exactly if the text spells that
value and every number in it is finite. Each reader takes from a text what the grammar writes and
leaves the rest; this is proved by induction on values and on the nesting depth.
-/

namespace Presence.Json

/-- The condition on numbers. -/
def Finite (n : Number) : Prop := n.isFinite = true

/-- A reader takes from a text exactly what the grammar writes, and this begins neither with a blank
nor with a closing bracket. -/
structure Reads {α : Type} (item : List Char → Except Fault (α × List Char))
    (writes : List Char → α → Prop) : Prop where
  sound {cs : List Char} {a : α} {rest : List Char} :
    item cs = .ok (a, rest) → ∃ t, cs = t ++ rest ∧ writes t a
  complete {t : List Char} {a : α} {rest : List Char} :
    writes t a → Clear isNumeric rest → item (t ++ rest) = .ok (a, rest)
  begins {t : List Char} {a : α} :
    writes t a → ∃ c t', t = c :: t' ∧ isSpace c = false ∧ c ≠ ']' ∧ c ≠ '}'

/-! ### Values without parts -/

section
variable {cs rest t : List Char} {v : Value}

theorem ne_of_isDigit {c d : Char} (h : isDigit c = true) (hd : isDigit d = false) : c ≠ d := by
  rintro rfl
  rw [h] at hd
  cases hd

theorem isSpace_of_isDigit {c : Char} (h : isDigit c = true) : isSpace c = false := by
  simp [isSpace, ne_of_isDigit h (d := ' ') (by decide), ne_of_isDigit h (d := '\t') (by decide),
    ne_of_isDigit h (d := '\n') (by decide), ne_of_isDigit h (d := '\r') (by decide)]

theorem scalar_sound (h : scalar cs = .ok (v, rest)) :
    ∃ t, cs = t ++ rest ∧ ScalarText Finite t v := by
  have named {w cs : List Char} {u : Value}
      (h : (word w cs >>= fun rest => Except.ok (u, rest)) = .ok (v, rest)) :
      cs = w ++ rest ∧ u = v := by
    obtain ⟨_, hw, h⟩ := bind_eq_ok.1 h
    cases h
    exact ⟨word_eq_ok_iff.1 hw, rfl⟩
  unfold scalar at h
  split at h
  · cases h
  · obtain ⟨rfl, rfl⟩ := named h
    exact ⟨['n', 'u', 'l', 'l'], rfl, .null⟩
  · obtain ⟨rfl, rfl⟩ := named h
    exact ⟨['t', 'r', 'u', 'e'], rfl, .yes⟩
  · obtain ⟨rfl, rfl⟩ := named h
    exact ⟨['f', 'a', 'l', 's', 'e'], rfl, .no⟩
  · obtain ⟨⟨s, rest'⟩, hs, h'⟩ := bind_eq_ok.1 h
    cases h'
    obtain ⟨t, ht, hst⟩ := stringTail_eq_ok_iff.1 hs
    exact ⟨t, ht, .string hst⟩
  · split at h
    · obtain ⟨⟨n, rest'⟩, hn, h'⟩ := bind_eq_ok.1 h
      cases h'
      obtain ⟨⟨t, ht, hnt⟩, finite⟩ := number_sound hn
      exact ⟨t, ht, .number hnt finite⟩
    · cases h

theorem scalar_complete (h : ScalarText Finite t v) (hr : Clear isNumeric rest) :
    scalar (t ++ rest) = .ok (v, rest) := by
  cases h with
  | null => exact bind_eq_ok.2 ⟨_, word_eq_ok_iff.2 rfl, rfl⟩
  | yes => exact bind_eq_ok.2 ⟨_, word_eq_ok_iff.2 rfl, rfl⟩
  | no => exact bind_eq_ok.2 ⟨_, word_eq_ok_iff.2 rfl, rfl⟩
  | string hs =>
    obtain ⟨t', rfl⟩ := hs.begins
    exact bind_eq_ok.2 ⟨_, stringTail_eq_ok_iff.2 ⟨_, rfl, hs⟩, rfl⟩
  | @number _ n hn finite =>
    have whole := number_complete hn finite hr
    obtain ⟨c, t', rfl, hc⟩ := hn.begins
    have other {d : Char} (hm : d ≠ '-') (hd : isDigit d = false) : c ≠ d := by
      rintro rfl
      rcases hc with rfl | hc
      · exact hm rfl
      · rw [hd] at hc
        cases hc
    have numeric : (decide (c = '-') || isDigit c) = true := by simpa using hc
    rw [List.cons_append] at whole ⊢
    unfold scalar
    split
    · rename_i h
      cases h
    · rename_i h
      exact absurd (List.cons.inj h).1 (other (by decide) (by decide))
    · rename_i h
      exact absurd (List.cons.inj h).1 (other (by decide) (by decide))
    · rename_i h
      exact absurd (List.cons.inj h).1 (other (by decide) (by decide))
    · rename_i h
      exact absurd (List.cons.inj h).1 (other (by decide) (by decide))
    · rename_i h
      cases h
      rw [if_pos numeric, whole]
      rfl

theorem ScalarText.begins {fits : Number → Prop} (h : ScalarText fits t v) :
    ∃ c t', t = c :: t' ∧ isSpace c = false ∧ c ≠ ']' ∧ c ≠ '}' := by
  cases h with
  | null => exact ⟨'n', _, rfl, by decide⟩
  | yes => exact ⟨'t', _, rfl, by decide⟩
  | no => exact ⟨'f', _, rfl, by decide⟩
  | string hs =>
    obtain ⟨t', rfl⟩ := hs.begins
    exact ⟨'"', t', rfl, by decide⟩
  | number hn =>
    obtain ⟨c, t', rfl, rfl | hc⟩ := hn.begins
    · exact ⟨'-', t', rfl, by decide⟩
    · exact ⟨c, t', rfl, isSpace_of_isDigit hc, ne_of_isDigit hc (by decide),
        ne_of_isDigit hc (by decide)⟩

theorem scalar_reads : Reads scalar (ScalarText Finite) where
  sound := scalar_sound
  complete := scalar_complete
  begins := ScalarText.begins

end

/-! ### Lists -/

section
variable {α : Type} {item : List Char → Except Fault (α × List Char)}
  {writes : List Char → α → Prop} {cs rest t ts w : List Char} {a : α} {as : List α} {close : Char}

/-- A closing bracket. -/
def Closes (close : Char) : Prop := close = ']' ∨ close = '}'

theorem Closes.clear_space (h : Closes close) : Clear isSpace (close :: rest) := by
  rcases h with rfl | rfl <;> exact clear_cons.2 (by decide)

theorem Closes.clear_numeric (h : Closes close) : Clear isNumeric (close :: rest) := by
  rcases h with rfl | rfl <;> exact clear_cons.2 (by decide)

theorem Closes.ne_comma (h : Closes close) : ',' ≠ close := by
  rcases h with rfl | rfl <;> decide

/-- The text after an item, up to the closing bracket. -/
inductive MoreText (writes : List Char → α → Prop) : List Char → List α → Prop
  | closed {w : List Char} (hw : Blank w) : MoreText writes w []
  | more {w ts : List Char} {as : List α} (hw : Blank w) (hs : ItemsText writes ts as) :
      MoreText writes (w ++ ',' :: ts) as

/-- A nonempty list: its first item and the text after it. -/
theorem itemsText_iff : ItemsText writes ts as ↔
    ∃ w t a ts' as', ts = w ++ t ++ ts' ∧ as = a :: as' ∧ Blank w ∧ writes t a ∧
      MoreText writes ts' as' := by
  constructor
  · intro h
    cases h with
    | @last w t w' a hw ht hw' => exact ⟨w, t, a, w', [], rfl, rfl, hw, ht, .closed hw'⟩
    | @more w t w' ts a as hw ht hw' hs =>
      exact ⟨w, t, a, w' ++ ',' :: ts, as, by simp, rfl, hw, ht, .more hw' hs⟩
  · rintro ⟨w, t, a, ts', as', rfl, rfl, hw, ht, hm⟩
    cases hm with
    | closed hw' => exact .last hw ht hw'
    | @more w' ts as hw' hs =>
      rw [← List.append_assoc]
      exact .more hw ht hw' hs

theorem Blank.clear_numeric (h : Blank w) (hr : Clear isNumeric rest) :
    Clear isNumeric (w ++ rest) := by
  cases w with
  | nil => exact hr
  | cons c w =>
    have hc : isSpace c = true := h c List.mem_cons_self
    simp only [isSpace, Bool.or_eq_true, decide_eq_true_eq] at hc
    rcases hc with ((rfl | rfl) | rfl) | rfl <;> exact clear_cons.2 (by decide)

theorem MoreText.clear_numeric (h : MoreText writes t as) (hc : Closes close) :
    Clear isNumeric (t ++ close :: rest) := by
  cases h with
  | closed hw => exact hw.clear_numeric hc.clear_numeric
  | more hw hs =>
    rw [List.append_assoc]
    exact hw.clear_numeric (clear_cons.2 (by decide))

theorem Reads.clear_space (hi : Reads item writes) (h : writes t a) :
    Clear isSpace (t ++ rest) := by
  obtain ⟨c, t', rfl, hc, -⟩ := hi.begins h
  exact clear_cons.2 hc

theorem moreItems_sound (hi : Reads item writes) {fuel : Nat}
    (h : moreItems close item fuel cs = .ok (as, rest)) :
    ∃ t, cs = t ++ close :: rest ∧ MoreText writes t as := by
  induction fuel generalizing cs as with
  | zero => cases h
  | succ fuel ih =>
    unfold moreItems at h
    split at h
    · cases h
    · rename_i c rest' hs
      obtain ⟨w, hw, rfl, -⟩ := skipSpaces_eq_cons hs
      split at h
      · subst_vars
        cases h
        exact ⟨w, rfl, .closed hw⟩
      · split at h
        · subst_vars
          obtain ⟨⟨a, rest₁⟩, ha, h₁⟩ := bind_eq_ok.1 h
          obtain ⟨⟨as, rest₂⟩, has, h₂⟩ := bind_eq_ok.1 h₁
          cases h₂
          obtain ⟨w', hw', hrest⟩ := exists_blank rest'
          obtain ⟨t, ht, hta⟩ := hi.sound ha
          obtain ⟨ts, rfl, hts⟩ := ih has
          refine ⟨w ++ ',' :: (w' ++ t ++ ts), ?_, .more hw ?_⟩
          · rw [hrest, ht]
            simp
          · exact itemsText_iff.2 ⟨w', t, a, ts, as, rfl, rfl, hw', hta, hts⟩
        · cases h

theorem moreItems_complete (hi : Reads item writes) (hc : Closes close) {fuel : Nat}
    (h : MoreText writes t as) (hf : t.length < fuel) :
    moreItems close item fuel (t ++ close :: rest) = .ok (as, rest) := by
  induction fuel generalizing t as with
  | zero => exact absurd hf (Nat.not_lt_zero _)
  | succ fuel ih =>
    unfold moreItems
    cases h with
    | closed hw =>
      rw [skipSpaces_append hw hc.clear_space]
      simp only [if_true]
    | @more w ts _ hw hs =>
      obtain ⟨w', t, a, ts', as', rfl, rfl, hw', ht, hm⟩ := itemsText_iff.1 hs
      simp only [List.length_append, List.length_cons] at hf
      have later := ih hm (by omega)
      rw [List.append_assoc, List.cons_append, skipSpaces_append hw (clear_cons.2 (by decide))]
      dsimp only
      rw [if_neg hc.ne_comma, if_pos rfl, List.append_assoc, List.append_assoc,
        skipSpaces_append hw' (hi.clear_space ht)]
      exact bind_eq_ok.2 ⟨_, hi.complete ht (hm.clear_numeric hc), bind_eq_ok.2 ⟨_, later, rfl⟩⟩

theorem items_eq_ok_iff (hi : Reads item writes) (hc : Closes close) :
    items close item cs = .ok (as, rest) ↔
      ∃ body, cs = body ++ close :: rest ∧ ListText writes body as := by
  constructor
  · intro h
    unfold items at h
    split at h
    · cases h
    · rename_i c rest' hs
      obtain ⟨w, hw, rfl, -⟩ := skipSpaces_eq_cons hs
      split at h
      · subst_vars
        cases h
        exact ⟨w, rfl, .empty hw⟩
      · obtain ⟨⟨a, rest₁⟩, ha, h₁⟩ := bind_eq_ok.1 h
        obtain ⟨⟨as, rest₂⟩, has, h₂⟩ := bind_eq_ok.1 h₁
        cases h₂
        obtain ⟨t, ht, hta⟩ := hi.sound ha
        obtain ⟨ts, rfl, hts⟩ := moreItems_sound hi has
        refine ⟨w ++ t ++ ts, ?_, .items ?_⟩
        · rw [ht]
          simp
        · exact itemsText_iff.2 ⟨w, t, a, ts, as, rfl, rfl, hw, hta, hts⟩
  · rintro ⟨body, rfl, hb⟩
    unfold items
    cases hb with
    | empty hw =>
      rw [skipSpaces_append hw hc.clear_space]
      simp only [if_true]
    | items hs =>
      obtain ⟨w, t, a, ts, as, rfl, rfl, hw, ht, hm⟩ := itemsText_iff.1 hs
      obtain ⟨c, t', rfl, hspace, hsquare, hcurly⟩ := hi.begins ht
      -- no item begins with the closing bracket
      have open_ : c ≠ close := by
        rcases hc with rfl | rfl
        · exact hsquare
        · exact hcurly
      have first : item (c :: t' ++ (ts ++ close :: rest)) = .ok (a, ts ++ close :: rest) :=
        hi.complete ht (hm.clear_numeric hc)
      rw [List.append_assoc, List.append_assoc, skipSpaces_append hw (hi.clear_space ht)]
      rw [List.cons_append] at first ⊢
      dsimp only
      rw [if_neg open_]
      refine bind_eq_ok.2 ⟨_, first, bind_eq_ok.2 ⟨_, moreItems_complete hi hc hm ?_, rfl⟩⟩
      rw [List.length_append]
      omega

/-! ### Members -/

theorem key_eq_ok_iff {k : String} :
    key cs = .ok (k, rest) ↔ ∃ t, cs = t ++ rest ∧ StringText t k := by
  constructor
  · intro h
    unfold key at h
    split at h
    · cases h
    · exact stringTail_eq_ok_iff.1 h
    · cases h
  · rintro ⟨t, rfl, ht⟩
    obtain ⟨t', rfl⟩ := ht.begins
    exact stringTail_eq_ok_iff.2 ⟨_, rfl, ht⟩

theorem colon_sound (h : colon cs = .ok rest) :
    ∃ w w', cs = w ++ ':' :: w' ++ rest ∧ Blank w ∧ Blank w' := by
  unfold colon at h
  split at h
  · cases h
  · rename_i rest' hs
    cases h
    obtain ⟨w, hw, rfl, -⟩ := skipSpaces_eq_cons hs
    obtain ⟨w', hw', hrest⟩ := exists_blank rest'
    refine ⟨w, w', ?_, hw, hw'⟩
    rw [List.append_assoc, List.cons_append, ← hrest]
  · cases h

theorem colon_complete {w w' : List Char} (hw : Blank w) (hw' : Blank w')
    (hr : Clear isSpace rest) : colon (w ++ ':' :: w' ++ rest) = .ok rest := by
  unfold colon
  rw [List.append_assoc, List.cons_append, skipSpaces_append hw (clear_cons.2 (by decide))]
  show Except.ok (skipSpaces (w' ++ rest)) = _
  rw [skipSpaces_append hw' hr]

theorem member_reads (hi : Reads item writes) : Reads (member item) (MemberText writes) where
  sound {cs a rest} h := by
    obtain ⟨⟨k, rest₁⟩, hk, h₁⟩ := bind_eq_ok.1 h
    obtain ⟨rest₂, hm, h₂⟩ := bind_eq_ok.1 h₁
    obtain ⟨⟨a, rest₃⟩, ha, h₃⟩ := bind_eq_ok.1 h₂
    cases h₃
    obtain ⟨kt, rfl, hkt⟩ := key_eq_ok_iff.1 hk
    obtain ⟨w, w', hr, hw, hw'⟩ := colon_sound hm
    obtain ⟨t, rfl, ht⟩ := hi.sound ha
    exact ⟨kt ++ w ++ ':' :: w' ++ t, by simp [hr], .member hkt hw hw' ht⟩
  complete {t a rest} h hr := by
    obtain @⟨kt, w, w', t, k, a, hk, hw, hw', ht⟩ := h
    have whole : kt ++ w ++ ':' :: w' ++ t ++ rest = kt ++ (w ++ ':' :: w' ++ (t ++ rest)) := by
      simp
    rw [whole]
    refine bind_eq_ok.2 ⟨_, key_eq_ok_iff.2 ⟨kt, rfl, hk⟩, ?_⟩
    refine bind_eq_ok.2 ⟨_, colon_complete hw hw' (hi.clear_space ht), ?_⟩
    exact bind_eq_ok.2 ⟨_, hi.complete ht hr, rfl⟩
  begins h := by
    obtain ⟨hk, -, -, -⟩ := h
    obtain ⟨t', rfl⟩ := hk.begins
    exact ⟨'"', _, rfl, by decide⟩

end

/-! ### Whole texts -/

theorem value_zero (cs : List Char) : value 0 cs = scalar cs := by
  unfold value
  split
  · rfl
  · rfl
  · rfl

theorem ScalarText.value {fits : Number → Prop} {t rest : List Char} {v : Value} {depth : Nat}
    (h : ScalarText fits t v) : value (depth + 1) (t ++ rest) = scalar (t ++ rest) := by
  have other : ∀ c t', t = c :: t' → c ≠ '[' ∧ c ≠ '{' := by
    intro c t' ht
    cases h with
    | null => cases ht; decide
    | yes => cases ht; decide
    | no => cases ht; decide
    | string hs =>
      obtain ⟨_, hq⟩ := hs.begins
      cases hq.symm.trans ht
      decide
    | number hn =>
      obtain ⟨_, _, hq, hc⟩ := hn.begins
      cases hq.symm.trans ht
      rcases hc with rfl | hc
      · decide
      · exact ⟨ne_of_isDigit hc (by decide), ne_of_isDigit hc (by decide)⟩
  obtain ⟨c, t', rfl, -⟩ := h.begins
  obtain ⟨hsquare, hcurly⟩ := other c t' rfl
  rw [List.cons_append]
  unfold Json.value
  split
  · rename_i h
    exact absurd (List.cons.inj h).1 hsquare
  · rename_i h
    exact absurd (List.cons.inj h).1 hcurly
  · rfl

/-- An array is read up to its closing bracket, before any rest. -/
theorem value_array {depth : Nat} {body rest : List Char} {vs : List Value}
    (hi : Reads (value depth) (Writes Finite depth)) (h : ListText (Writes Finite depth) body vs) :
    value (depth + 1) ('[' :: body ++ [']'] ++ rest) = .ok (.array vs, rest) := by
  rw [List.append_assoc]
  exact bind_eq_ok.2 ⟨_, (items_eq_ok_iff hi (.inl rfl)).2 ⟨body, rfl, h⟩, rfl⟩

/-- An object is read up to its closing brace, before any rest. -/
theorem value_object {depth : Nat} {body rest : List Char} {ms : List (String × Value)}
    (hi : Reads (value depth) (Writes Finite depth))
    (h : ListText (MemberText (Writes Finite depth)) body ms) :
    value (depth + 1) ('{' :: body ++ ['}'] ++ rest) = .ok (.object ms, rest) := by
  rw [List.append_assoc]
  exact bind_eq_ok.2 ⟨_, (items_eq_ok_iff (member_reads hi) (.inr rfl)).2 ⟨body, rfl, h⟩, rfl⟩

theorem value_reads (depth : Nat) : Reads (value depth) (Writes Finite depth) := by
  -- on how many brackets may be open: what stands between brackets is read one level below
  induction depth with
  | zero =>
    rw [show value 0 = scalar from funext value_zero]
    exact scalar_reads
  | succ depth ih =>
    constructor
    case sound =>
      intro cs v rest h
      unfold value at h
      split at h
      · obtain ⟨⟨as, rest'⟩, has, h'⟩ := bind_eq_ok.1 h
        cases h'
        obtain ⟨body, rfl, hb⟩ := (items_eq_ok_iff ih (.inl rfl)).1 has
        exact ⟨'[' :: body ++ [']'], by simp, .array hb⟩
      · obtain ⟨⟨ms, rest'⟩, hms, h'⟩ := bind_eq_ok.1 h
        cases h'
        obtain ⟨body, rfl, hb⟩ := (items_eq_ok_iff (member_reads ih) (.inr rfl)).1 hms
        exact ⟨'{' :: body ++ ['}'], by simp, .object hb⟩
      · obtain ⟨t, ht, hs⟩ := scalar_sound h
        exact ⟨t, ht, .scalar hs⟩
    case complete =>
      intro t v rest h hr
      cases h with
      | scalar hs => rw [hs.value, scalar_complete hs hr]
      | array hb => exact value_array ih hb
      | object hb => exact value_object ih hb
    case begins =>
      intro t v h
      cases h with
      | scalar hs => exact hs.begins
      | array => exact ⟨'[', _, rfl, by decide⟩
      | object => exact ⟨'{', _, rfl, by decide⟩

theorem finish_eq_ok_iff {cs : List Char} : finish cs = .ok () ↔ Blank cs := by
  unfold finish
  rw [← skipSpaces_eq_nil_iff]
  cases skipSpaces cs <;> simp

/-- Soundness and completeness of `read`. -/
theorem read_eq_ok_iff {text : String} {v : Value} : read text = .ok v ↔ Spells Finite text v := by
  constructor
  · intro h
    obtain ⟨⟨v, rest⟩, hv, h₁⟩ := bind_eq_ok.1 h
    obtain ⟨_, hf, h₂⟩ := bind_eq_ok.1 h₁
    cases h₂
    obtain ⟨w, hw, htext⟩ := exists_blank text.toList
    obtain ⟨t, ht, hb⟩ := (value_reads maxDepth).sound hv
    refine ⟨w, t, rest, ?_, hw, hb, finish_eq_ok_iff.1 hf⟩
    rw [List.append_assoc, ← ht, ← htext]
  · rintro ⟨before, body, after, parts, hw, hb, hw'⟩
    have clear : Clear isNumeric after := by
      have := hw'.clear_numeric clear_nil
      rwa [List.append_nil] at this
    have reads := value_reads maxDepth
    unfold read
    rw [parts, List.append_assoc, skipSpaces_append hw (reads.clear_space hb)]
    refine bind_eq_ok.2 ⟨_, reads.complete hb clear, ?_⟩
    exact bind_eq_ok.2 ⟨_, finish_eq_ok_iff.2 hw', rfl⟩

/-- A text spells at most one value. -/
theorem Spells.unique {text : String} {v v' : Value} (h : Spells Finite text v)
    (h' : Spells Finite text v') : v = v' := by
  have := (read_eq_ok_iff.2 h).symm.trans (read_eq_ok_iff.2 h')
  cases this
  rfl

end Presence.Json
