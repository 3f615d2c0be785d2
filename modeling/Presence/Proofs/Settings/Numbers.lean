import Presence.Proofs.Double
import Presence.Proofs.Json.Tokens
import Presence.Proofs.Settings.Keys

/-!
Whole numbers in settings. A whole number within signed 64 bits is found exactly. A TOML file has no
other; in the environment and in JSON any other is found as a double, so a number field gets it
rounded or saturated, and zero for a negative one.
-/

namespace Presence

namespace Json

open Double (ReadsWhole)

theorem le_shift (n : Nat) (d : Char) : n ≤ shift n d := by
  unfold shift
  omega

theorem le_foldl_shift (n : Nat) (ds : List Char) : n ≤ ds.foldl shift n := by
  induction ds generalizing n with
  | nil => exact Nat.le_refl n
  | cons d ds ih => exact Nat.le_trans (le_shift n d) (ih (shift n d))

theorem digit_le {d : Char} (h : isDigit d = true) : d.toNat - '0'.toNat ≤ 9 := by
  have le : d.toNat ≤ 57 := by
    rw [isDigit, Bool.and_eq_true, decide_eq_true_eq, decide_eq_true_eq] at h
    exact h.2
  have zero : '0'.toNat = 48 := rfl
  omega

/-- All digits of a number within 64 bits are kept; of any other, the digits kept form a number of
at least 61 bits. -/
theorem keepDigits_cases {n : Nat} {ds : List Char} (hn : n < 0x10000000000000000)
    (hd : ds.all isDigit = true) :
    ds.foldl shift n < 0x10000000000000000 ∧ keepDigits n ds = (ds.foldl shift n, 0) ∨
      0x10000000000000000 ≤ ds.foldl shift n ∧ 0x1000000000000000 ≤ (keepDigits n ds).1 := by
  induction ds generalizing n with
  | nil => exact .inl ⟨hn, rfl⟩
  | cons d ds ih =>
    rw [List.all_cons, Bool.and_eq_true] at hd
    rw [List.foldl_cons, keepDigits]
    by_cases fits : shift n d < Nat.pow 2 64
    · rw [if_pos fits]
      exact ih fits hd.2
    · rw [if_neg fits]
      refine .inr ⟨Nat.le_trans (Nat.not_lt.1 fits) (le_foldl_shift _ ds), ?_⟩
      have digit := digit_le hd.1
      have top : Nat.pow 2 64 = 0x10000000000000000 := rfl
      unfold shift at fits
      simp only
      omega

/-- The double of a number without point and exponent. -/
theorem readsWhole_readDouble (negative : Bool) {ds : List Char} (hd : ds.all isDigit = true) :
    ReadsWhole negative (digitsValue ds) (readDouble negative ds [] 0) := by
  have scaled : readDouble negative ds [] 0 =
      Double.scale negative (keepDigits 0 ds).1 (keepDigits 0 ds).2 := by
    simp [readDouble, keepDigits]
  rw [scaled]
  refine ⟨?_, ?_, ?_⟩
  · rintro rfl
    exact Double.isNegative_scale _ _
  · rintro rfl hn
    refine Double.isLarge_scale ?_ _
    rcases keepDigits_cases (n := 0) (by decide) hd with ⟨-, kept⟩ | ⟨-, large⟩
    · rw [kept]
      exact hn
    · exact large
  · rintro rfl low high
    rcases keepDigits_cases (n := 0) (by decide) hd with ⟨-, kept⟩ | ⟨out, -⟩
    · rw [kept]
      exact Double.scale_word low high
    · exact absurd high (Nat.not_lt.2 out)

end Json

namespace Setting

open Double (ReadsWhole)

/-- The whole number denoted by a sign and digits. -/
def signed (negative : Bool) (n : Nat) : Int := if negative then -(n : Int) else n

/-- Whole numbers within signed 64 bits. -/
def Fits (n : Int) : Prop := -0x8000000000000000 ≤ n ∧ n < 0x8000000000000000

/-- The setting as which a whole number is found: exact if it fits, otherwise a double. -/
inductive FoundAs (n : Int) : Setting → Prop
  | whole (h : Fits n) : FoundAs n (.whole n)
  | below {k : Nat} {x : Double} (hn : n = -(k : Int)) (h : k = 0 ∨ 0x8000000000000000 < k)
      (reads : ReadsWhole true k x) : FoundAs n (.real x)
  | above {k : Nat} {x : Double} (hn : n = k) (h : 0x8000000000000000 ≤ k)
      (reads : ReadsWhole false k x) : FoundAs n (.real x)

theorem foundAs_real {negative : Bool} {k : Nat} {x : Double}
    (out : ¬ Fits (signed negative k) ∨ negative = true ∧ k = 0) (reads : ReadsWhole negative k x) :
    FoundAs (signed negative k) (.real x) := by
  unfold Fits signed at out
  cases negative with
  | true => exact .below rfl (by simp at out; omega) reads
  | false => exact .above rfl (by simp at out; omega) reads

theorem foundAs_ofNumber (negative : Bool) {ds : List Char} (hd : ds.all Json.isDigit = true) :
    FoundAs (signed negative (Json.digitsValue ds))
      (ofNumber (.ofParts negative ds none none)) := by
  have reads := Json.readsWhole_readDouble negative hd
  simp only [ofNumber, Json.Number.ofParts, Option.getD_none, List.append_nil, Option.isNone_none,
    Bool.true_and]
  generalize Json.digitsValue ds = k at reads
  by_cases inside : Fits (signed negative k) ∧ ¬ (negative = true ∧ k = 0)
  · rw [if_pos]
    · exact .whole inside.1
    · cases negative <;> simpa [Fits, signed, and_assoc] using inside
  · rw [if_neg]
    · exact foundAs_real (by tauto) reads
    · cases negative <;> simpa [Fits, signed, and_assoc] using inside

/-! ### Texts of whole numbers -/

/-- Lowercasing preserves the characters below the letters. -/
theorem settled_of_lt {c : Char} (h : c.toNat < 0x41) : Text.Settled c := by
  have all : (Text.caseRuns.all fun r => 0x41 ≤ r.first) = true := by decide +kernel
  have none : Text.caseRuns.findSome? (fun r => r.lower? c.toNat) = none := by
    rw [List.findSome?_eq_none_iff]
    intro r hr
    have first : 0x41 ≤ r.first := by simpa using List.all_eq_true.1 all r hr
    exact if_neg fun inside => by omega
  have dotted : c ≠ 'İ' := by
    rintro rfl
    exact absurd h (by decide)
  refine ⟨?_, by simp [Text.lowerChar, dotted, none]⟩
  rintro rfl
  exact absurd h (by decide)

theorem toLower_of_lt {c : Char} (h : c.toNat < 0x41) : c.toLower = c := by
  have small : ¬ 0x41 ≤ c.val.toNat := Nat.not_le.2 h
  exact dif_neg fun upper => small (by simpa [UInt32.le_iff_toNat_le] using upper.1)

theorem digit_lt {d : Char} (h : Json.isDigit d = true) : d.toNat < 0x41 := by
  have := Json.digit_le h
  have zero : '0'.toNat = 48 := rfl
  omega

/-- A text without its sign, and whether that is a minus. -/
def unsign : List Char → Bool × List Char
  | '-' :: ds => (true, ds)
  | '+' :: ds => (false, ds)
  | ds => (false, ds)

theorem mem_of_unsign {cs : List Char} {c : Char} (hc : c ∈ cs) :
    c = '-' ∨ c = '+' ∨ c ∈ (unsign cs).2 := by
  unfold unsign
  split
  · exact (List.mem_cons.1 hc).imp_right .inr
  · exact .inr (List.mem_cons.1 hc)
  · exact .inr (.inr hc)

section
variable {s : String} {negative : Bool} {ds : List Char}

/-- Specification of `signedDigits?`. -/
theorem signedDigits?_eq_some_iff : signedDigits? s = some (negative, ds) ↔
    unsign s.toList = (negative, ds) ∧ ds ≠ [] ∧ ds.all Json.isDigit = true := by
  have unfolded : signedDigits? s =
      if (!(unsign s.toList).2.isEmpty && (unsign s.toList).2.all Json.isDigit) = true then
        some (unsign s.toList) else none := rfl
  rw [unfolded]
  generalize unsign s.toList = parts
  refine ⟨?_, ?_⟩
  · intro h
    split at h
    · rename_i digits
      cases h
      simpa using digits
    · cases h
  · rintro ⟨rfl, nonempty, digits⟩
    simp [nonempty, digits]

theorem lowered_of_signedDigits (h : signedDigits? s = some (negative, ds)) : lowered s = s := by
  obtain ⟨parts, -, digits⟩ := signedDigits?_eq_some_iff.1 h
  rw [lowered, Text.lower, Text.lowerFrom_of_settled, String.ofList_toList]
  intro c hc
  refine settled_of_lt ?_
  rcases mem_of_unsign hc with rfl | rfl | hc
  · decide
  · decide
  · rw [parts] at hc
    exact digit_lt (List.all_eq_true.1 digits c hc)

theorem lowered_ne_of_signedDigits (h : signedDigits? s = some (negative, ds)) {word : String}
    (hw : signedDigits? word = none) : lowered s ≠ word := by
  rw [lowered_of_signedDigits h]
  rintro rfl
  rw [hw] at h
  cases h

/-- A sign and digits denote the same number as a decimal. -/
theorem parseReal?_of_signedDigits (h : signedDigits? s = some (negative, ds)) :
    parseReal? s = some (.ofDecimal ⟨negative, Json.digitsValue ds, 0⟩) := by
  obtain ⟨parts, nonempty, digits⟩ := signedDigits?_eq_some_iff.1 h
  have each := List.all_eq_true.1 digits
  have word : ds.map Char.toLower = ds := by
    conv_rhs => rw [← List.map_id ds]
    exact List.map_congr_left fun d hd => toLower_of_lt (digit_lt (each d hd))
  have other {w : String} (hw : w.toList.all Json.isDigit = false) : String.ofList ds ≠ w := by
    rintro rfl
    rw [String.toList_ofList, digits] at hw
    cases hw
  have inf := other (w := "inf") (by decide)
  have infinity := other (w := "infinity") (by decide)
  have nan := other (w := "nan") (by decide)
  have kept : ds.takeWhile Json.isDigit = ds := List.takeWhile_eq_self_iff.2 each
  have dropped : ds.dropWhile Json.isDigit = [] := List.dropWhile_eq_nil_iff.2 each
  unfold parseReal?
  split
  rename_i split
  cases split.symm.trans parts
  simp [word, inf, infinity, nan, kept, dropped, nonempty]

/-- A variable with a sign and digits is found as the number that they denote. -/
theorem foundAs_ofEnvironment (h : signedDigits? s = some (negative, ds)) :
    FoundAs (signed negative (Json.digitsValue ds)) (ofEnvironment s) := by
  have yes : lowered s ≠ "true" := lowered_ne_of_signedDigits h (by decide +kernel)
  have no : lowered s ≠ "false" := lowered_ne_of_signedDigits h (by decide +kernel)
  simp only [ofEnvironment, if_neg yes, if_neg no]
  by_cases fits : Fits (signed negative (Json.digitsValue ds))
  · have whole : parseWhole? s = some (signed negative (Json.digitsValue ds)) := by
      simp only [parseWhole?, h]
      exact if_pos fits
    rw [whole]
    exact .whole fits
  · have whole : parseWhole? s = none := by
      simp only [parseWhole?, h]
      exact if_neg fits
    rw [whole, parseReal?_of_signedDigits h]
    exact foundAs_real (.inl fits) (Double.readsWhole_ofDecimal _ _)

end

/-! ### Whole numbers in files -/

/-- A whole number in a JSON file is found as the number that its digits denote. -/
theorem foundAs_of_numberText {t : List Char} {v : Json.Number} (h : Json.NumberText t v)
    (hw : v.whole = true) : FoundAs (signed v.decimal.negative v.decimal.digits) (ofNumber v) := by
  have unsigned {negative : Bool} {t : List Char} (h : Json.UnsignedText negative t v) :
      FoundAs (signed v.decimal.negative v.decimal.digits) (ofNumber v) := by
    cases h with
    | @parts ws fs es fraction exponent whole _ _ =>
      simp only [Json.Number.ofParts, Bool.and_eq_true, Option.isNone_iff_eq_none] at hw
      obtain ⟨rfl, rfl⟩ := hw
      have digits : ws.all Json.isDigit = true := by
        cases whole with
        | zero => decide
        | digits all _ => exact List.all_eq_true.2 all.2
      simpa [Json.Number.ofParts] using foundAs_ofNumber negative digits
  cases h with
  | positive h => exact unsigned h
  | negative h => exact unsigned h

/-- A whole number in a TOML file fits, or the file is rejected. -/
theorem fits_of_integer {cs rest : List Char} {n : Int} (h : Toml.integer cs = .ok (n, rest)) :
    Fits n := by
  have within {start rest' : List Char} {k : Int}
      (h : Toml.withinRange start k rest' = .ok (n, rest)) : Fits n := by
    unfold Toml.withinRange Toml.insist Toml.refuse at h
    split at h
    · cases h
    · split at h
      · cases h
      · cases h
        unfold Fits
        omega
  have based {label : String} {base : Nat} {isDigit : Char → Bool} {start cs' : List Char}
      (h : Toml.based label base isDigit start cs' = .ok (n, rest)) : Fits n := by
    obtain ⟨⟨ds, rest'⟩, -, h⟩ := Json.bind_eq_ok.1 h
    exact within h
  unfold Toml.integer at h
  split at h
  · exact based h
  · exact based h
  · exact based h
  · obtain ⟨⟨⟨negative, ds⟩, rest'⟩, -, h⟩ := Json.bind_eq_ok.1 h
    exact within h

/-- A source has a whole number, which is found as `setting`. -/
inductive Supplies : Int → Setting → Prop
  /-- An environment variable, with or without a sign. -/
  | environment {text : String} {negative : Bool} {ds : List Char}
      (h : signedDigits? text = some (negative, ds)) :
      Supplies (signed negative (Json.digitsValue ds)) (ofEnvironment text)
  /-- A number of a JSON file without point and exponent. -/
  | member {t : List Char} {v : Json.Number} (h : Json.NumberText t v) (hw : v.whole = true) :
      Supplies (signed v.decimal.negative v.decimal.digits) (ofNumber v)
  /-- An integer of a TOML file. -/
  | entry {cs rest : List Char} {n : Int} (h : Toml.integer cs = .ok (n, rest)) :
      Supplies n (.whole n)

theorem Supplies.foundAs {n : Int} {s : Setting} (h : Supplies n s) : FoundAs n s := by
  cases h with
  | environment h => exact foundAs_ofEnvironment h
  | member h hw => exact foundAs_of_numberText h hw
  | entry h => exact .whole (fits_of_integer h)

/-! ### Conversion of whole numbers -/

/-- The whole numbers that a number field holds exactly: those within signed 64 bits and, among the
larger ones, the doubles and the largest word. -/
def KeptExactly (n : Int) : Prop :=
  0 ≤ n ∧ n < 0x8000000000000000 ∨
    0x8000000000000000 ≤ n ∧ n < 0x10000000000000000 ∧ 2048 ∣ n ∨ n = 0xffffffffffffffff

theorem asWord?_of_foundAs {n : Int} {s : Setting} {m : Nat} (h : FoundAs n s)
    (hm : s.asWord? = some m) :
    ((m : Int) = n ↔ KeptExactly n) ∧ (n < 0 → m = 0) ∧ (m < 0x10000 → 0 ≤ n → (m : Int) = n) := by
  unfold KeptExactly
  cases h with
  | whole fits =>
    rw [asWord?] at hm
    split at hm
    · cases hm
      unfold Fits at fits
      omega
    · cases hm
  | @below k x hn hk reads =>
    obtain rfl : x.roundToWord = m := Option.some.inj hm
    rw [(reads.below rfl).roundToWord]
    omega
  | @above k x hn hk reads =>
    obtain rfl : x.roundToWord = m := Option.some.inj hm
    have large := (reads.large rfl (by omega)).roundToWord
    have bound := x.roundToWord_lt
    refine ⟨?_, by omega, by omega⟩
    by_cases high : k < 0x10000000000000000
    · rw [reads.word rfl hk high]
      have exact_iff := Double.roundToWord_word_eq_iff hk high
      omega
    · omega

end Setting

namespace Settings

/-- The fields that hold numbers. -/
def numberFields : List Field :=
  [.port, .statusCapacity, .queueCapacity, .sessionOutboundCapacity]

theorem numberFields_subset : numberFields ⊆ fields := by
  simp [numberFields, fields]

theorem asWord?_of_worth {f : Field} (hf : f ∈ numberFields) {setting : Setting} {w : Worth}
    (h : f.worth? setting = some w) :
    ∃ m, w = .number m ∧ setting.asWord? = some m ∧ (f.name = "port" → m < 0x10000) := by
  have word {name : String} {of : Settings → Nat} {plain : name.toList.all isNameChar = true}
      (hn : name ≠ "port") (h : (Field.word name of plain).worth? setting = some w) :
      ∃ m, w = .number m ∧ setting.asWord? = some m ∧ (name = "port" → m < 0x10000) := by
    obtain ⟨m, hm, rfl⟩ := Option.map_eq_some_iff.1 h
    exact ⟨m, rfl, hm, fun he => absurd he hn⟩
  simp only [numberFields, List.mem_cons, List.not_mem_nil, or_false] at hf
  rcases hf with rfl | rfl | rfl | rfl
  · obtain ⟨m, hm, rfl⟩ := Option.map_eq_some_iff.1 h
    obtain ⟨k, hk, small⟩ := Option.bind_eq_some_iff.1 hm
    split at small
    · cases small
      exact ⟨m, rfl, hk, fun _ => ‹_›⟩
    · cases small
  · exact word (by decide) h
  · exact word (by decide) h
  · exact word (by decide) h

/-- If settings load, a number field with a whole number of a source holds it exactly if it is
`KeptExactly`. A negative number is held as zero, which is the only wrong value of a port. -/
theorem whole_number_in_field {env : Dotenv.Environment} {path : Option String}
    {files : String → Option String} {s : Settings} {f : Field} {n : Int} {setting : Setting}
    (h : (load env path files).result = .ok s) (hf : f ∈ numberFields)
    (found : found? env path files f.name = some setting) (supplied : setting.Supplies n) :
    ∃ m : Nat, f.of s = .number m ∧ ((m : Int) = n ↔ Setting.KeptExactly n) ∧ (n < 0 → m = 0) ∧
      (f.name = "port" → 0 ≤ n → (m : Int) = n) := by
  have worth := worth_of_load h f (numberFields_subset hf)
  rw [found] at worth
  obtain ⟨m, hm, word, small⟩ := asWord?_of_worth hf worth
  obtain ⟨kept, below, exact_⟩ := Setting.asWord?_of_foundAs supplied.foundAs word
  exact ⟨m, hm, kept, below, fun hp => exact_ (small hp)⟩

/-- A capacity beyond signed 64 bits that is a double is held exactly. -/
theorem whole_number_in_field_of_large : ∃ s,
    (load [("SOCIALITE_QUEUE_CAPACITY", "9223372036854777856")] none fun _ => none).result = .ok s ∧
      s.presence.queueCapacity = 9223372036854777856 := by
  have settled : ((load [("SOCIALITE_QUEUE_CAPACITY", "9223372036854777856")] none
      fun _ => none).result.toOption.map fun _ => ()) = some () := by decide +kernel
  obtain ⟨s, result, -⟩ := exists_of_toOption settled
  have digits : Setting.signedDigits? "9223372036854777856" =
      some (false, "9223372036854777856".toList) := by decide +kernel
  have found : found? [("SOCIALITE_QUEUE_CAPACITY", "9223372036854777856")] none (fun _ => none)
      "queue_capacity" = some (.ofEnvironment "9223372036854777856") := by decide +kernel
  obtain ⟨m, hm, exact_iff, -⟩ := whole_number_in_field
    (f := .queueCapacity) result (by simp [numberFields]) found (.environment digits)
  have written : Setting.signed false (Json.digitsValue "9223372036854777856".toList) =
      9223372036854777856 := by decide +kernel
  rw [written] at exact_iff
  have kept : (m : Int) = 9223372036854777856 := exact_iff.2 (.inr (.inl (by decide)))
  have held : s.presence.queueCapacity = m := Worth.number.inj hm
  exact ⟨s, result, by omega⟩

/-- A port far below zero loads as port zero, and a capacity as a different one. -/
theorem whole_numbers_lost :
    Setting.signedDigits? "-9223372036854775809" = some (true, "9223372036854775809".toList) ∧
    Json.digitsValue "9223372036854775809".toList = 9223372036854775809 ∧
    ((load [("SOCIALITE_PORT", "-9223372036854775809")] none fun _ => none).result.toOption.map
      fun s => s.port) = some 0 ∧
    ((load [("SOCIALITE_STATUS_CAPACITY", "9223372036854775809")] none
      fun _ => none).result.toOption.map fun s => s.presence.statusCapacity) =
        some 9223372036854775808 := by
  decide +kernel

end Settings

end Presence
