import Mathlib.Tactic.SplitIfs
import Presence.Double.Scaled

/-!
Large whole numbers as doubles. A double has 53 bits of mantissa, so a whole number of 64 bits is
rounded by the conversion to a double and back, a larger one becomes the largest word, and a
negative one zero. Scaling keeps a large number large.
-/

namespace Presence.Double

/-! ### Rounding -/

section
variable {num den c k : Nat}

theorem divRound_mul (hc : 0 < c) (num den : Nat) : divRound (num * c) (c * den) = divRound num den := by
  unfold divRound
  rw [Nat.mul_comm num c, Nat.mul_div_mul_left _ _ hc, Nat.mul_mod_mul_left]
  have left : (2 * (c * (num % den)) < c * den) ↔ (2 * (num % den) < den) := by
    rw [Nat.mul_left_comm]
    exact Nat.mul_lt_mul_left hc
  have right : (c * den < 2 * (c * (num % den))) ↔ (den < 2 * (num % den)) := by
    rw [Nat.mul_left_comm]
    exact Nat.mul_lt_mul_left hc
  simp only [left, right]

theorem divRound_mul_self (hd : 0 < den) (n : Nat) : divRound (n * den) den = n := by
  simp [divRound, Nat.mul_div_cancel _ hd, hd]

theorem le_divRound (hd : 0 < den) (h : k * den ≤ num) : k ≤ divRound num den := by
  have whole : k ≤ num / den := (Nat.le_div_iff_mul_le hd).2 h
  unfold divRound
  simp only
  split
  · exact whole
  · split
    · omega
    · split <;> omega

theorem divRound_le (hd : 0 < den) (h : num ≤ k * den) : divRound num den ≤ k := by
  have split := Nat.div_add_mod num den
  have whole : num / den ≤ k := Nat.div_le_of_le_mul (by rwa [Nat.mul_comm])
  unfold divRound
  simp only
  by_cases hk : num / den = k
  · rw [hk, Nat.mul_comm] at split
    rw [if_pos (by omega)]
    exact whole
  · split_ifs <;> omega

end

/-! ### Doubles of large ratios -/

/-- A significand at a power of two, within the bounds of doubles. -/
def bounded (negative : Bool) (m k : Nat) : Double :=
  if 971 < k then .infinite negative else .finite negative m k

/-- A rounded significand at a power of two, with its carry. -/
def carried (negative : Bool) (m k : Nat) : Double :=
  if m = Nat.pow 2 53 then bounded negative (Nat.pow 2 52) (k + 1) else bounded negative m k

/-- The power of two at which a ratio of `g` more bits above than below is rounded. -/
def power (num den g : Nat) : Nat :=
  if divRound num (den * Nat.pow 2 (g - 53)) < Nat.pow 2 53 then g - 53 else g - 52

theorem ofRatio_eq {num den g : Nat} (hn : num ≠ 0) (hg : num.log2 = den.log2 + g) (h53 : 53 ≤ g)
    (negative : Bool) : ofRatio negative num den =
      carried negative (divRound num (den * Nat.pow 2 (power num den g))) (power num den g) := by
  have guess : (num.log2 : Int) - den.log2 = (g : Int) := by omega
  have low : (g : Int) - 53 = (g - 53 : Nat) := by omega
  have high : (g : Int) - 52 = (g - 52 : Nat) := by omega
  have scaled_nat (k : Nat) : scaled num den (k : Int) = divRound num (den * Nat.pow 2 k) := by
    rw [scaled, if_neg (by omega), Int.natAbs_natCast]
  have chosen : (if divRound num (den * Nat.pow 2 (g - 53)) < Nat.pow 2 53 then ((g - 53 : Nat) : Int)
      else ((g - 52 : Nat) : Int)) = (power num den g : Nat) := by
    rw [power]
    split <;> rfl
  have raised : max ((power num den g : Nat) : Int) (-1074) = (power num den g : Nat) := by omega
  simp only [ofRatio, if_neg hn, guess, low, high, chosen, raised, scaled_nat, carried]
  have size (k : Nat) : (971 : Int) < (k : Int) ↔ 971 < k := by omega
  by_cases carry : divRound num (den * Nat.pow 2 (power num den g)) = Nat.pow 2 53
  · simp only [if_pos carry, bounded, ← size]
    rfl
  · simp only [if_neg carry, bounded, size]

/-- Whole numbers of at least 61 bits. -/
def IsLarge (x : Double) : Prop :=
  x = .infinite false ∨ ∃ m k : Nat, x = .finite false m k ∧ 0x1000000000000000 ≤ m * Nat.pow 2 k

theorem isLarge_carried {m k : Nat} (h : 0x1000000000000000 ≤ m * Nat.pow 2 k) :
    IsLarge (carried false m k) := by
  have large {m k : Nat} (h : 0x1000000000000000 ≤ m * Nat.pow 2 k) : IsLarge (bounded false m k) := by
    unfold bounded
    split
    · exact .inl rfl
    · exact .inr ⟨m, k, rfl, h⟩
  unfold carried
  split
  · rename_i hm
    refine large ?_
    rw [hm] at h
    have : Nat.pow 2 (k + 1) = 2 * Nat.pow 2 k := Nat.pow_succ'
    rw [this]
    have e : Nat.pow 2 53 = Nat.pow 2 52 * 2 := rfl
    rw [e, Nat.mul_assoc] at h
    exact h
  · exact large h

theorem power_le (num den g : Nat) : power num den g ≤ g - 52 := by
  unfold power
  split <;> omega

/-- A ratio of 61 bits or more is rounded to a double of as many. -/
theorem isLarge_ofRatio {num den : Nat} (hd : 0 < den) (h : 0x1000000000000000 * den ≤ num) :
    IsLarge (ofRatio false num den) := by
  have hn : num ≠ 0 := by omega
  have low : 2 ^ den.log2 ≤ den := Nat.log2_self_le (by omega)
  have high : den ≤ 2 ^ (den.log2 + 1) := Nat.le_of_lt Nat.lt_log2_self
  have bits : den.log2 + 60 ≤ num.log2 := by
    rw [Nat.le_log2 hn, Nat.pow_add, Nat.mul_comm]
    exact Nat.le_trans (Nat.mul_le_mul_left _ low) h
  obtain ⟨g, hg⟩ : ∃ g, num.log2 = den.log2 + g := ⟨num.log2 - den.log2, by omega⟩
  rw [ofRatio_eq hn hg (by omega)]
  have hk := power_le num den g
  generalize power num den g = k at hk
  have unit : 0 < den * 2 ^ k := Nat.mul_pos hd (Nat.two_pow_pos k)
  refine isLarge_carried ?_
  -- below 60 the quotient keeps the missing bits, from 60 on the unit alone is large enough
  rcases Nat.le_total k 60 with small | big
  · have sixty : 2 ^ (60 - k) * 2 ^ k = 0x1000000000000000 := by
      rw [← Nat.pow_add, Nat.sub_add_cancel small]
    have quotient : 2 ^ (60 - k) ≤ divRound num (den * 2 ^ k) := by
      refine le_divRound unit ?_
      rwa [Nat.mul_left_comm, sixty, Nat.mul_comm]
    rw [← sixty]
    exact Nat.mul_le_mul_right _ quotient
  · have one : 1 ≤ divRound num (den * 2 ^ k) := by
      refine le_divRound unit ?_
      calc 1 * (den * 2 ^ k) ≤ 2 ^ (den.log2 + 1) * 2 ^ k := by
            rw [Nat.one_mul]
            exact Nat.mul_le_mul_right _ high
        _ = 2 ^ (den.log2 + 1 + k) := (Nat.pow_add ..).symm
        _ ≤ 2 ^ num.log2 := Nat.pow_le_pow_right (by omega) (by omega)
        _ ≤ num := Nat.log2_self_le hn
    calc 0x1000000000000000 = 2 ^ 60 := rfl
      _ ≤ 2 ^ k := Nat.pow_le_pow_right (by omega) big
      _ ≤ divRound num (den * 2 ^ k) * 2 ^ k := Nat.le_mul_of_pos_left _ one

/-- A whole number of 64 bits is rounded to a multiple of `2 ^ 11`. -/
theorem ofRatio_word {n : Nat} (low : 0x8000000000000000 ≤ n) (high : n < 0x10000000000000000)
    (c : Nat) (negative : Bool) :
    ofRatio negative (n * Nat.pow 2 c) (Nat.pow 2 c) = carried negative (divRound n 2048) 11 := by
  have unit : 0 < Nat.pow 2 c := Nat.two_pow_pos c
  have hn : n * Nat.pow 2 c ≠ 0 := Nat.ne_of_gt (Nat.mul_pos (by omega) unit)
  have bits : (n * Nat.pow 2 c).log2 = (Nat.pow 2 c).log2 + 63 := by
    have den : (Nat.pow 2 c).log2 = c := Nat.log2_two_pow
    have least : c + 63 ≤ (n * Nat.pow 2 c).log2 := by
      rw [Nat.le_log2 hn, Nat.pow_add, Nat.mul_comm]
      exact Nat.mul_le_mul_right _ low
    have most : (n * Nat.pow 2 c).log2 < c + 64 := by
      rw [Nat.log2_lt hn, Nat.pow_add, Nat.mul_comm]
      exact Nat.mul_lt_mul_of_pos_left high unit
    omega
  have scale (k : Nat) : divRound (n * Nat.pow 2 c) (Nat.pow 2 c * Nat.pow 2 k) =
      divRound n (Nat.pow 2 k) := divRound_mul unit n _
  have eleven : power (n * Nat.pow 2 c) (Nat.pow 2 c) 63 = 11 := by
    rw [power, scale, if_neg]
    exact Nat.not_lt.2 (le_divRound (Nat.two_pow_pos _) low)
  rw [ofRatio_eq hn bits (by omega), eleven, scale]

/-! ### Scaling -/

/-- The double is at least one. -/
def atLeastOne : Double → Bool
  | .finite _ m e => (size m e).2 ≤ (size m e).1
  | _ => true

theorem size_pos (m : Nat) (e : Int) : 0 < (size m e).2 := by
  unfold size
  split
  · exact Nat.two_pow_pos _
  · exact Nat.one_pos

theorem size_natCast (m j : Nat) : size m (j : Int) = (m * Nat.pow 2 j, 1) := by
  rw [size, if_neg (by omega), Int.natAbs_natCast]

theorem roundToWord_natCast (m j : Nat) : (finite false m (j : Int)).roundToWord =
    if m * Nat.pow 2 j < Nat.pow 2 64 then m * Nat.pow 2 j else Nat.pow 2 64 - 1 := by
  have whole : ¬ (j : Int) < 0 := by omega
  simp only [Double.roundToWord, if_neg whole, Int.natAbs_natCast]
  split <;> omega

theorem IsLarge.atLeastOne {x : Double} (h : IsLarge x) : x.atLeastOne = true := by
  rcases h with rfl | ⟨m, j, rfl, large⟩
  · rfl
  · rw [Double.atLeastOne, size_natCast, decide_eq_true_eq]
    exact Nat.le_trans (by omega) large

theorem atLeastOne_tenToThe (k : Nat) : atLeastOne (tenToThe k) = true := by
  rcases Nat.lt_or_ge k 19 with small | big
  · have all : ((List.range 19).all fun k => atLeastOne (tenToThe k)) = true := by decide +kernel
    exact List.all_eq_true.1 all k (List.mem_range.2 small)
  · have large : Nat.pow 10 19 ≤ Nat.pow 10 k := Nat.pow_le_pow_right (by omega) big
    refine (isLarge_ofRatio Nat.one_pos ?_).atLeastOne
    exact Nat.le_trans (by decide) large

theorem timesTenTo_finite {k : Nat} {negative negative' : Bool} {m m' : Nat} {e e' : Int}
    (h : tenToThe k = .finite negative' m' e') : (finite negative m e).timesTenTo k =
      ofRatio negative ((size m e).1 * (size m' e').1) ((size m e).2 * (size m' e').2) := by
  simp only [Double.timesTenTo, h]

/-- Scaling up preserves `IsLarge`. -/
theorem IsLarge.timesTenTo {x : Double} (h : IsLarge x) (k : Nat) : IsLarge (x.timesTenTo k) := by
  have one := atLeastOne_tenToThe k
  rcases h with rfl | ⟨m, j, rfl, large⟩
  · unfold Double.timesTenTo
    split
    · cases ‹Double.infinite false = _›
    · exact .inl rfl
  · cases ten : tenToThe k with
    | finite negative m' e' =>
      rw [ten] at one
      have one : (size m' e').2 ≤ (size m' e').1 := by simpa [Double.atLeastOne] using one
      rw [timesTenTo_finite ten, size_natCast]
      refine isLarge_ofRatio (by simpa using size_pos m' e') ?_
      rw [Nat.one_mul]
      exact Nat.mul_le_mul large one
    | infinite negative =>
      simp only [Double.timesTenTo, ten]
      exact .inr ⟨m, j, rfl, large⟩
    | undefined =>
      simp only [Double.timesTenTo, ten]
      exact .inr ⟨m, j, rfl, large⟩

/-- A large double is not converted to a port. -/
theorem IsLarge.roundToWord {x : Double} (h : IsLarge x) : 0x10000 ≤ x.roundToWord := by
  rcases h with rfl | ⟨m, j, rfl, large⟩
  · decide
  · rw [roundToWord_natCast]
    split
    · omega
    · decide

/-! ### Whole numbers of 64 bits -/

section
variable {n : Nat} (low : 0x8000000000000000 ≤ n) (high : n < 0x10000000000000000)
include low high

theorem ofRatio_one_word (negative : Bool) :
    ofRatio negative n 1 = carried negative (divRound n 2048) 11 := by
  simpa using ofRatio_word low high 0 negative

/-- Multiplication by `10 ^ 0` is the identity. -/
theorem timesTenTo_zero_word : (ofRatio false n 1).timesTenTo 0 = ofRatio false n 1 := by
  rw [ofRatio_one_word low high]
  have least : 0x10000000000000 ≤ divRound n 2048 := le_divRound (by omega) (by omega)
  have most : divRound n 2048 ≤ 0x20000000000000 := divRound_le (by omega) (by omega)
  generalize divRound n 2048 = m at least most
  by_cases carry : m = 0x20000000000000
  · subst carry
    decide +kernel
  · have plain : carried false m 11 = finite false m (11 : Nat) := if_neg carry
    have one : tenToThe 0 = finite false 0x10000000000000 (-52) := by decide +kernel
    have again := ofRatio_word (n := m * 2048) (by omega) (by omega) 52 false
    rw [divRound_mul_self (by omega), plain] at again
    have unit : size 0x10000000000000 (-52) = (Nat.pow 2 52, Nat.pow 2 52) := by decide +kernel
    have eleven : Nat.pow 2 11 = 2048 := rfl
    rw [plain, timesTenTo_finite one, size_natCast, unit, eleven]
    simp only [Nat.one_mul, again]

/-- The conversion of a whole number of 64 bits to a double and back rounds to a multiple of `2 ^
11`, and saturates at the largest word. -/
theorem roundToWord_word : (ofRatio false n 1).roundToWord =
    if divRound n 2048 * 2048 < 0x10000000000000000 then divRound n 2048 * 2048
    else 0xffffffffffffffff := by
  rw [ofRatio_one_word low high]
  have most : divRound n 2048 ≤ 0x20000000000000 := divRound_le (by omega) (by omega)
  generalize divRound n 2048 = m at most
  by_cases carry : m = 0x20000000000000
  · subst carry
    decide +kernel
  · have plain : carried false m 11 = finite false m (11 : Nat) := if_neg carry
    rw [plain, roundToWord_natCast]

/-- The conversion is the identity exactly on the multiples of `2 ^ 11` and the largest word. -/
theorem roundToWord_word_eq_iff :
    (ofRatio false n 1).roundToWord = n ↔ 2048 ∣ n ∨ n = 0xffffffffffffffff := by
  rw [roundToWord_word low high]
  refine ⟨?_, ?_⟩
  · intro h
    split at h
    · exact .inl ⟨divRound n 2048, by omega⟩
    · exact .inr h.symm
  · rintro (⟨t, rfl⟩ | rfl)
    · rw [Nat.mul_comm 2048 t, divRound_mul_self (by omega), if_pos (by omega)]
    · decide +kernel

end

/-! ### Negative doubles -/

/-- Negative, or the negative zero. -/
def IsNegative : Double → Prop
  | .finite negative _ _ => negative = true
  | .infinite negative => negative = true
  | .undefined => False

theorem isNegative_ite {p : Prop} [Decidable p] {m : Nat} {e : Int} :
    IsNegative (if p then .infinite true else .finite true m e) := by
  split <;> exact rfl

theorem isNegative_ofRatio (num den : Nat) : IsNegative (ofRatio true num den) := by
  unfold ofRatio
  split
  · exact rfl
  · exact isNegative_ite

theorem IsNegative.roundToWord {x : Double} (h : IsNegative x) : x.roundToWord = 0 := by
  cases x with
  | finite negative m e =>
    cases h
    rfl
  | infinite negative =>
    cases h
    rfl
  | undefined => rfl

theorem IsNegative.timesTenTo {x : Double} (h : IsNegative x) (k : Nat) :
    IsNegative (x.timesTenTo k) := by
  unfold Double.timesTenTo
  split
  · cases h
    exact isNegative_ofRatio _ _
  · exact h

theorem isNegative_ofDecimal {d : Decimal} (h : d.negative = true) : IsNegative (ofDecimal d) := by
  unfold ofDecimal
  simp only [h]
  split_ifs
  · exact rfl
  · exact rfl
  · exact rfl
  · exact isNegative_ofRatio _ _
  · exact isNegative_ofRatio _ _

/-! ### Whole numbers in texts -/

/-- The doubles that a whole number can be read as: with its sign if it is negative, large from 61
bits on, and the nearest one for 64 bits. -/
structure ReadsWhole (negative : Bool) (n : Nat) (x : Double) : Prop where
  below : negative = true → IsNegative x
  large : negative = false → 0x1000000000000000 ≤ n → IsLarge x
  word : negative = false → 0x8000000000000000 ≤ n → n < 0x10000000000000000 → x = ofRatio false n 1

theorem isLarge_one {n : Nat} (h : 0x1000000000000000 ≤ n) : IsLarge (ofRatio false n 1) :=
  isLarge_ofRatio Nat.one_pos (by omega)

/-- A decimal without point and exponent. -/
theorem readsWhole_ofDecimal (negative : Bool) (n : Nat) :
    ReadsWhole negative n (ofDecimal ⟨negative, n, 0⟩) where
  below h := isNegative_ofDecimal h
  large h hn := by
    subst h
    unfold ofDecimal
    simp only
    split_ifs
    · omega
    · exact .inl rfl
    · omega
    · omega
    · simpa using isLarge_one hn
  word h low high := by
    subst h
    have bits : n.log2 = 63 := by
      have := (Nat.le_log2 (n := n) (k := 63) (by omega)).2 low
      have := (Nat.log2_lt (n := n) (k := 64) (by omega)).2 high
      omega
    simp [ofDecimal, bits]
    omega

/-- A significand scaled up is large if its leading digits are. -/
theorem isLarge_scale {n : Nat} (h : 0x1000000000000000 ≤ n) (k : Nat) : IsLarge (scale false n k) := by
  unfold scale
  rw [if_neg (by omega), if_pos (by omega), Int.natAbs_natCast]
  split
  · exact (isLarge_one h).timesTenTo k
  · exact .inl rfl

theorem isNegative_scale (n k : Nat) : IsNegative (scale true n k) := by
  unfold scale
  simp only
  split
  · exact isNegative_ofRatio n 1
  · rw [if_pos (by omega), Int.natAbs_natCast]
    split
    · exact (isNegative_ofRatio n 1).timesTenTo k
    · exact rfl

theorem scale_word {n : Nat} (low : 0x8000000000000000 ≤ n) (high : n < 0x10000000000000000) :
    scale false n (0 : Nat) = ofRatio false n 1 := by
  unfold scale
  rw [if_neg (by omega), if_pos (by omega), Int.natAbs_natCast, if_pos (Nat.zero_le _),
    timesTenTo_zero_word low high]

theorem roundToWord_lt (x : Double) : x.roundToWord < 0x10000000000000000 := by
  unfold roundToWord
  split
  · have top : Nat.pow 2 64 = 0x10000000000000000 := rfl
    simp only [top]
    omega
  · decide
  · decide

end Presence.Double
