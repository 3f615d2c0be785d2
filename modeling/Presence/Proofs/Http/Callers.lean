import Presence.Http.Server
import Presence.Proofs.Naming

/-!
Users that a header can name. A header is read only if it is visible ASCII, which lowercasing
preserves, so exactly the users with visible ASCII names are named by some header, and for these
`Bearer ` and the name itself is one. All others are refused at every route that requires a caller.
-/

namespace Presence.Http

/-- Characters of a header that is read as text. -/
def isLegible (c : Char) : Bool :=
  c = '\t' || (0x20 ≤ c.toNat && c.toNat < 0x7f)

theorem isReadable_iff {header : String} :
    isReadable header = true ↔ ∀ c ∈ header.toList, isLegible c = true := by
  unfold isReadable
  exact List.all_eq_true

theorem isReadable_append {s t : String} :
    isReadable (s ++ t) = (isReadable s && isReadable t) := by
  simp [isReadable, String.toList_append]

/-! ### Names in ASCII -/

theorem legible_lowerChar_of_lt : ∀ n < 0x80, isLegible (Char.ofNat n) = true →
    (Text.lowerChar (Char.ofNat n)).all isLegible = true := by
  decide +kernel

theorem legible_lowerChar {c d : Char} (h : isLegible c = true) (hd : d ∈ Text.lowerChar c) :
    isLegible d = true := by
  have small : c.toNat < 0x80 := by
    unfold isLegible at h
    rcases Bool.or_eq_true _ _ ▸ h with h | h
    · obtain rfl := of_decide_eq_true h
      decide
    · simp only [Bool.and_eq_true, decide_eq_true_eq] at h
      omega
  have all := legible_lowerChar_of_lt c.toNat small
  rw [Char.ofNat_toNat] at all
  exact List.all_eq_true.1 (all h) d hd

/-- A legible character is not a sigma, so its lowercase does not depend on its position. -/
theorem legible_lowerAt {before rest : List Char} {c d : Char} (h : isLegible c = true)
    (hd : d ∈ Text.lowerAt before c rest) : isLegible d = true := by
  unfold Text.lowerAt at hd
  split at hd
  · subst_vars
    exact absurd h (by decide)
  · exact legible_lowerChar h hd

theorem legible_lowerFrom {before cs : List Char} (h : ∀ c ∈ cs, isLegible c = true) :
    ∀ d ∈ Text.lowerFrom before cs, isLegible d = true := by
  induction cs generalizing before with
  | nil => simp [Text.lowerFrom]
  | cons c rest ih =>
    intro d hd
    rw [Text.lowerFrom_cons, List.mem_append] at hd
    rcases hd with hd | hd
    · exact legible_lowerAt (h c List.mem_cons_self) hd
    · exact ih (fun e he => h e (List.mem_cons_of_mem _ he)) d hd

/-! ### Callers -/

/-- The header without the mark, if it begins with it. -/
def tokenOf (header : String) : String :=
  let cs := header.toList
  let mark := bearerMark.toList
  String.ofList (if cs.take mark.length = mark then cs.drop mark.length else cs)

theorem caller?_some (header : String) : caller? (some header) =
    if isReadable header then Name.parse? (tokenOf header) else none := rfl

theorem tokenOf_marked (token : String) : tokenOf (bearerMark ++ token) = token := by
  unfold tokenOf
  dsimp only
  rw [String.toList_append, List.take_left, if_pos rfl, List.drop_left, String.ofList_toList]

theorem mem_of_mem_tokenOf {header : String} {c : Char} (h : c ∈ (tokenOf header).toList) :
    c ∈ header.toList := by
  unfold tokenOf at h
  dsimp only at h
  rw [String.toList_ofList] at h
  split at h
  · exact List.mem_of_mem_drop h
  · exact h

/-- The mark and a legible name are a header that names the user, also if the name begins with the
mark. -/
theorem caller?_bearer {u : User} (h : isReadable u.text = true) :
    caller? (some (bearerMark ++ u.text)) = some u := by
  have readable : isReadable (bearerMark ++ u.text) = true := by
    rw [isReadable_append, h, Bool.and_true]
    decide +kernel
  rw [caller?_some, if_pos readable, tokenOf_marked, Name.parse?_text]

/-- A user named by some header has a legible name. -/
theorem readable_of_caller? {header : Option String} {u : User} (h : caller? header = some u) :
    isReadable u.text = true := by
  cases header with
  | none => cases h
  | some text =>
    rw [caller?_some] at h
    split at h
    · rename_i readable
      have legible := isReadable_iff.1 readable
      rw [isReadable_iff, Name.text_of_parse? h]
      unfold normalize
      rw [String.toList_ofList]
      exact legible_lowerFrom fun c hc => legible c (mem_of_mem_tokenOf (Text.mem_of_mem_trim hc))
    · cases h

theorem caller?_of_not_readable {header : String} (h : isReadable header = false) :
    caller? (some header) = none := by
  simp [caller?, h]

theorem routeOutcome_of_no_caller {service : String} {w : World} {r : Request}
    (h : caller? r.authorization = none) :
    routeOutcome service w r .status = (unauthorized, w) ∧
      ∀ segment, routeOutcome service w r (.party segment) = (unauthorized, w) := by
  constructor
  · simp [routeOutcome, statusOutcome, h]
  · intro segment
    simp [routeOutcome, partyOutcome, h]

/-! ### Names that a header can hold -/

/-- ASCII control characters, which are not allowed in headers. -/
def isControl (c : Char) : Bool := c.toNat < 0x20 || c.toNat = 0x7f

def hasControl (text : String) : Bool := text.toList.any isControl

def isAscii (text : String) : Bool := text.toList.all (·.toNat < 0x80)

theorem isReadable_eq_isAscii {text : String} (h : hasControl text = false) :
    isReadable text = isAscii text := by
  unfold isReadable isAscii
  rw [Bool.eq_iff_iff, List.all_eq_true, List.all_eq_true]
  refine forall_congr' fun c => forall_congr' fun hc => ?_
  have plain : ¬ isControl c = true := List.any_eq_false.1 h c hc
  simp only [isControl, Bool.or_eq_true, decide_eq_true_eq, not_or] at plain
  simp only [Bool.or_eq_true, Bool.and_eq_true, decide_eq_true_eq]
  constructor
  · rintro (rfl | h)
    · decide
    · omega
  · intro h
    right
    omega

/-- A user whose name contains no control character is named by `Bearer ` and the name if the name
is ASCII, and the session routes then grant a session; otherwise no header names the user, and the
session routes refuse the request. -/
theorem bearer_authenticates_iff {u : User} (h : hasControl u.text = false) :
    (isAscii u.text = true →
      caller? (some (bearerMark ++ u.text)) = some u ∧
        ∀ service w r, r.authorization = some (bearerMark ++ u.text) → r.upgrade = true →
          routeOutcome service w r .status = (.statusSession u, w) ∧
            ∀ segment raw p m w', decodeSegment segment = some raw → Name.parse? raw = some p →
              w.ask (.authorize p u) = (some (.authorized m), w') →
              routeOutcome service w r (.party segment) = (.partySession m, w')) ∧
      (isAscii u.text = false →
        (∀ header, caller? header ≠ some u) ∧
          ∀ service w r, r.authorization = some (bearerMark ++ u.text) →
            routeOutcome service w r .status = (unauthorized, w) ∧
              ∀ segment, routeOutcome service w r (.party segment) = (unauthorized, w)) := by
  rw [← isReadable_eq_isAscii h]
  constructor
  · intro readable
    have named := caller?_bearer readable
    refine ⟨named, fun service w r hr hu => ⟨?_, ?_⟩⟩
    · simp [routeOutcome, statusOutcome, hr, named, hu]
    · intro segment raw p m w' hs hp ha
      simp [routeOutcome, partyOutcome, hr, named, hs, hp, ha, hu]
  · intro unreadable
    refine ⟨fun header hc => ?_, fun service w r hr => routeOutcome_of_no_caller ?_⟩
    · rw [readable_of_caller? hc] at unreadable
      cases unreadable
    · rw [hr]
      refine caller?_of_not_readable ?_
      rw [isReadable_append, unreadable, Bool.and_false]

/-- A name that begins with the scheme's word. -/
theorem bearer_authenticates_scheme_word :
    ∃ u : User, u.text = "bearer ann" ∧ hasControl u.text = false ∧ isAscii u.text = true ∧
      caller? (some "Bearer bearer ann") = some u := by
  let u : User := ⟨"bearer ann", by decide, "Bearer Ann", by decide +kernel⟩
  have plain : hasControl u.text = false := by decide +kernel
  have ascii : isAscii u.text = true := by decide +kernel
  exact ⟨u, rfl, plain, ascii, ((bearer_authenticates_iff plain).1 ascii).1⟩

/-- A user with a name that is not ASCII is refused. -/
theorem bearer_refuses_accented :
    ∃ u : User, Name.parse? "é" = some u ∧ u.text = "é" ∧ hasControl u.text = false ∧
      caller? (some (bearerMark ++ u.text)) = none ∧
      statusOutcome ⟨"GET", "/ws/status", some (bearerMark ++ u.text), true⟩ = unauthorized := by
  let u : User := ⟨"é", by decide, "é", by decide +kernel⟩
  have refused : caller? (some (bearerMark ++ u.text)) = none := by decide +kernel
  refine ⟨u, by decide +kernel, rfl, by decide +kernel, refused, ?_⟩
  unfold statusOutcome
  rw [refused]

end Presence.Http
