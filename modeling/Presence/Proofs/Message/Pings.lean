import Presence.Message.Inbound
import Presence.Proofs.Json.Reading

/-!
Texts of pings. The reader of messages checks tags while it reads and stops at the first error; it
accepts exactly the texts whose value is a ping, which depends only on the tags of the value.
-/

namespace Presence.Inbound

open Json

/-! ### Pings -/

/-- The values of the members with the tag's key. -/
def tags (ms : List (String × Value)) : List (String × Value) :=
  ms.filter fun m => m.1 = tagKey

/-- The tag of a ping. -/
def pingTag : String × Value := (tagKey, .string "ping")

/-- The values that are pings: an array of just the tag, and an object whose only tag is the
ping's. -/
inductive IsPing : Value → Prop
  | array : IsPing (.array [.string "ping"])
  | object {ms : List (String × Value)} (h : tags ms = [pingTag]) : IsPing (.object ms)

/-! ### The message reader and the value reader -/

section
variable {α : Type} {m : Inbound} {cs rest : List Char} {found found' : Option Inbound}

theorem lift_eq_ok_iff {r : Except Fault α} {a : α} : lift r = .ok a ↔ r = .ok a := by
  cases r <;> simp [lift]

/-- Reading a string does not depend on the depth. -/
theorem value_string_iff {depth : Nat} {s : String} :
    value depth cs = .ok (.string s, rest) ↔ scalar cs = .ok (.string s, rest) := by
  cases depth with
  | zero => rw [value_zero]
  | succ depth =>
    unfold value
    split
    · constructor
      · intro h
        obtain ⟨_, _, h⟩ := bind_eq_ok.1 h
        cases h
      · intro h
        cases h
    · constructor
      · intro h
        obtain ⟨_, _, h⟩ := bind_eq_ok.1 h
        cases h
      · intro h
        cases h
    · rfl

theorem tag_eq_ok_iff :
    tag cs = .ok (m, rest) ↔ value innerDepth cs = .ok (.string "ping", rest) := by
  rw [value_string_iff]
  unfold tag
  split
  · constructor <;> intro h <;> cases h
  · constructor <;> intro h <;> cases h
  · constructor
    · intro h
      obtain ⟨⟨v, rest'⟩, hs, h'⟩ := bind_eq_ok.1 h
      split at h'
      · rename_i hv
        cases h'
        cases hv
        exact lift_eq_ok_iff.1 hs
      · cases h'
      · cases h'
    · intro h
      cases m
      exact bind_eq_ok.2 ⟨_, lift_eq_ok_iff.2 h, rfl⟩

/-- The tags that may follow. -/
def pending : Option Inbound → List (String × Value)
  | none => [pingTag]
  | some _ => []

theorem member_eq_ok_iff {item : List Char → Except Fault (α × List Char)} {k : String} {a : α} :
    member item cs = .ok ((k, a), rest) ↔
      ∃ r₁ r₂, key cs = .ok (k, r₁) ∧ colon r₁ = .ok r₂ ∧ item r₂ = .ok (a, rest) := by
  constructor
  · intro h
    obtain ⟨⟨k, r₁⟩, hk, h₁⟩ := bind_eq_ok.1 h
    obtain ⟨r₂, hc, h₂⟩ := bind_eq_ok.1 h₁
    obtain ⟨⟨a, r₃⟩, ha, h₃⟩ := bind_eq_ok.1 h₂
    cases h₃
    exact ⟨r₁, r₂, hk, hc, ha⟩
  · rintro ⟨r₁, r₂, hk, hc, ha⟩
    exact bind_eq_ok.2 ⟨_, hk, bind_eq_ok.2 ⟨_, hc, bind_eq_ok.2 ⟨_, ha, rfl⟩⟩⟩

/-- A member is the pending tag, or has another key. -/
theorem taggedMember_eq_ok_iff :
    taggedMember found cs = .ok (found', rest) ↔
      ∃ entry, member (value innerDepth) cs = .ok (entry, rest) ∧
        pending found = tags [entry] ++ pending found' := by
  constructor
  · intro h
    obtain ⟨⟨k, r₁⟩, hk, h₁⟩ := bind_eq_ok.1 h
    have hk := lift_eq_ok_iff.1 hk
    dsimp only at h₁
    split at h₁
    · rename_i named
      split at h₁
      · cases h₁
      · rename_i fresh
        obtain ⟨r₂, hc, h₂⟩ := bind_eq_ok.1 h₁
        obtain ⟨⟨m, r₃⟩, ht, h₃⟩ := bind_eq_ok.1 h₂
        cases h₃
        refine ⟨(k, .string "ping"), member_eq_ok_iff.2
          ⟨r₁, r₂, hk, lift_eq_ok_iff.1 hc, tag_eq_ok_iff.1 ht⟩, ?_⟩
        cases found with
        | none => simp [pending, tags, pingTag, named]
        | some m => exact absurd rfl fresh
    · rename_i other
      obtain ⟨r₂, hc, h₂⟩ := bind_eq_ok.1 h₁
      obtain ⟨⟨v, r₃⟩, hv, h₃⟩ := bind_eq_ok.1 h₂
      cases h₃
      refine ⟨(k, v), member_eq_ok_iff.2 ⟨r₁, r₂, hk, lift_eq_ok_iff.1 hc, lift_eq_ok_iff.1 hv⟩, ?_⟩
      simp [tags, other]
  · rintro ⟨⟨k, v⟩, hm, hp⟩
    obtain ⟨r₁, r₂, hk, hc, hv⟩ := member_eq_ok_iff.1 hm
    refine bind_eq_ok.2 ⟨_, lift_eq_ok_iff.2 hk, ?_⟩
    dsimp only
    by_cases named : k = tagKey
    · rw [if_pos named]
      cases found with
      | some m => simp [pending, tags, named] at hp
      | none =>
        cases found' with
        | none => simp [pending, tags, pingTag, named] at hp
        | some m =>
          obtain rfl : v = .string "ping" := by simpa [pending, tags, pingTag, named] using hp.symm
          refine bind_eq_ok.2 ⟨_, lift_eq_ok_iff.2 hc, ?_⟩
          exact bind_eq_ok.2 ⟨_, tag_eq_ok_iff.2 hv, rfl⟩
    · rw [if_neg named]
      obtain rfl : found = found' := by
        cases found <;> cases found' <;> simp_all [pending, tags]
      refine bind_eq_ok.2 ⟨_, lift_eq_ok_iff.2 hc, ?_⟩
      exact bind_eq_ok.2 ⟨_, lift_eq_ok_iff.2 hv, rfl⟩

theorem closeObject_eq_ok_iff :
    closeObject found cs = .ok (m, rest) ↔ cs = rest ∧ pending found = [] := by
  cases found with
  | none => simp [closeObject, pending]
  | some m' => cases m; cases m'; simp [closeObject, pending]

theorem tags_cons (entry : String × Value) (ms : List (String × Value)) :
    tags (entry :: ms) = tags [entry] ++ tags ms := by
  simp only [tags, ← List.filter_append, List.singleton_append]

/-- After a member the remaining tags are the pending ones. -/
theorem exists_pending {entry : String × Value} {ms : List (String × Value)}
    (h : tags (entry :: ms) = pending found) :
    ∃ found', pending found = tags [entry] ++ pending found' ∧ tags ms = pending found' := by
  rw [tags_cons] at h
  cases found with
  | some m =>
    obtain ⟨hentry, hms⟩ := List.append_eq_nil_iff.1 h
    exact ⟨some m, by rw [hentry]; rfl, hms⟩
  | none =>
    rcases List.append_eq_singleton_iff.1 h with ⟨hentry, hms⟩ | ⟨hentry, hms⟩
    · exact ⟨none, by rw [hentry]; rfl, hms⟩
    · exact ⟨some .ping, by rw [hentry]; rfl, hms⟩

/-- A member and those after it. -/
theorem memberThen_eq_ok_iff
    {tagged : Option Inbound → List Char → Except InboundError (Inbound × List Char)}
    {plain : List Char → Except Fault (List (String × Value) × List Char)}
    (later : ∀ found' cs', tagged found' cs' = .ok (m, rest) ↔
      ∃ ms, plain cs' = .ok (ms, rest) ∧ tags ms = pending found') :
    (taggedMember found cs >>= fun x => tagged x.1 x.2) = .ok (m, rest) ↔
      ∃ ms, (member (value innerDepth) cs >>= fun x => plain x.2 >>= fun y =>
        .ok (x.1 :: y.1, y.2)) = .ok (ms, rest) ∧ tags ms = pending found := by
  constructor
  · intro h
    obtain ⟨⟨found', r⟩, ht, h₁⟩ := bind_eq_ok.1 h
    obtain ⟨entry, hm, hp⟩ := taggedMember_eq_ok_iff.1 ht
    obtain ⟨ms, hms, hrest⟩ := (later found' r).1 h₁
    refine ⟨entry :: ms, bind_eq_ok.2 ⟨_, hm, bind_eq_ok.2 ⟨_, hms, rfl⟩⟩, ?_⟩
    rw [tags_cons, hp, hrest]
  · rintro ⟨ms', h, hp⟩
    obtain ⟨⟨entry, r⟩, hm, h₁⟩ := bind_eq_ok.1 h
    obtain ⟨⟨ms, r'⟩, hms, h₂⟩ := bind_eq_ok.1 h₁
    cases h₂
    obtain ⟨found', hfound, hleft⟩ := exists_pending hp
    exact bind_eq_ok.2 ⟨_, taggedMember_eq_ok_iff.2 ⟨entry, hm, hfound⟩,
      (later found' r).2 ⟨ms, hms, hleft⟩⟩

theorem moreTagged_eq_ok_iff {fuel : Nat} :
    moreTagged fuel found cs = .ok (m, rest) ↔
      ∃ ms, moreItems '}' (member (value innerDepth)) fuel cs = .ok (ms, rest) ∧
        tags ms = pending found := by
  -- both readers take the same branches, so the tags found are those of the members read
  induction fuel generalizing found cs with
  | zero => constructor <;> simp [moreTagged, moreItems]
  | succ fuel ih =>
    unfold moreTagged moreItems
    cases skipSpaces cs with
    | nil => simp
    | cons c rest' =>
      dsimp only
      split
      · rename_i h
        cases h
      · rename_i h
        cases h
        rw [if_pos rfl, closeObject_eq_ok_iff]
        constructor
        · rintro ⟨rfl, hp⟩
          exact ⟨[], rfl, hp.symm⟩
        · rintro ⟨ms, h, hp⟩
          cases h
          exact ⟨rfl, hp.symm⟩
      · rename_i h
        cases h
        rw [if_neg (by decide), if_pos rfl]
        exact memberThen_eq_ok_iff fun _ _ => ih
      · rename_i notClose notComma
        rw [if_neg (by rintro rfl; exact notClose _ rfl),
          if_neg (by rintro rfl; exact notComma _ rfl)]
        simp

/-- The members of an object are read as by the value reader, which keeps all of them. -/
theorem object_eq_ok_iff :
    object cs = .ok (m, rest) ↔
      ∃ ms, items '}' (member (value innerDepth)) cs = .ok (ms, rest) ∧ tags ms = [pingTag] := by
  unfold object items
  cases skipSpaces cs with
  | nil => simp
  | cons c rest' =>
    dsimp only
    split
    · rename_i h
      cases h
    · rename_i h
      cases h
      rw [if_pos rfl, closeObject_eq_ok_iff]
      constructor
      · rintro ⟨-, hp⟩
        cases hp
      · rintro ⟨ms, h, hp⟩
        cases h
        cases hp
    · rename_i notEnd notClose
      rw [if_neg (by rintro rfl; exact notClose _ rfl)]
      have later (found : Option Inbound) (cs : List Char) :
          moreTagged (cs.length + 1) found cs = .ok (m, rest) ↔
            ∃ ms, moreItems '}' (member (value innerDepth)) (cs.length + 1) cs = .ok (ms, rest) ∧
              tags ms = pending found :=
        moreTagged_eq_ok_iff
      exact memberThen_eq_ok_iff later

theorem array_eq_ok_iff :
    array cs = .ok (m, rest) ↔ items ']' (value innerDepth) cs = .ok ([.string "ping"], rest) := by
  unfold array items
  cases skipSpaces cs with
  | nil => simp
  | cons c rest' =>
    dsimp only
    split
    · rename_i h
      cases h
    · rename_i h
      cases h
      simp
    · rename_i notEnd notClose
      rw [if_neg (by rintro rfl; exact notClose _ rfl)]
      constructor
      · intro h
        obtain ⟨⟨m', r₁⟩, ht, h₁⟩ := bind_eq_ok.1 h
        obtain ⟨⟨more, r₂⟩, hm, h₂⟩ := bind_eq_ok.1 h₁
        dsimp only at h₂
        split at h₂
        · rename_i alone
          cases h₂
          obtain rfl : more = [] := List.isEmpty_iff.1 alone
          exact bind_eq_ok.2 ⟨_, tag_eq_ok_iff.1 ht, bind_eq_ok.2 ⟨_, lift_eq_ok_iff.1 hm, rfl⟩⟩
        · cases h₂
      · intro h
        obtain ⟨⟨v, r₁⟩, hv, h₁⟩ := bind_eq_ok.1 h
        obtain ⟨⟨more, r₂⟩, hm, h₂⟩ := bind_eq_ok.1 h₁
        cases h₂
        refine bind_eq_ok.2 ⟨(m, _), tag_eq_ok_iff.2 hv, ?_⟩
        exact bind_eq_ok.2 ⟨_, lift_eq_ok_iff.2 hm, rfl⟩

end

/-! ### Whole texts -/

section
variable {m : Inbound} {cs rest : List Char}

theorem object_isPing_iff :
    object cs = .ok (m, rest) ↔ ∃ v, value maxDepth ('{' :: cs) = .ok (v, rest) ∧ IsPing v := by
  have braced : value maxDepth ('{' :: cs) =
      (items '}' (member (value innerDepth)) cs >>= fun x => .ok (.object x.1, x.2)) := rfl
  rw [object_eq_ok_iff, braced]
  constructor
  · rintro ⟨ms, hms, ht⟩
    exact ⟨.object ms, bind_eq_ok.2 ⟨_, hms, rfl⟩, .object ht⟩
  · rintro ⟨v, h, hv⟩
    obtain ⟨⟨ms, r⟩, hms, h₁⟩ := bind_eq_ok.1 h
    cases h₁
    cases hv with
    | object ht => exact ⟨ms, hms, ht⟩

theorem array_isPing_iff :
    array cs = .ok (m, rest) ↔ ∃ v, value maxDepth ('[' :: cs) = .ok (v, rest) ∧ IsPing v := by
  have bracketed : value maxDepth ('[' :: cs) =
      (items ']' (value innerDepth) cs >>= fun x => .ok (.array x.1, x.2)) := rfl
  rw [array_eq_ok_iff, bracketed]
  constructor
  · intro h
    exact ⟨.array [.string "ping"], bind_eq_ok.2 ⟨_, h, rfl⟩, .array⟩
  · rintro ⟨v, h, hv⟩
    obtain ⟨⟨vs, r⟩, hvs, h₁⟩ := bind_eq_ok.1 h
    cases h₁
    cases hv with
    | array => exact hvs

/-- A value without brackets is not a ping. -/
theorem not_isPing_of_value {v : Value} (notBrace : ∀ cs', cs = '{' :: cs' → False)
    (notBracket : ∀ cs', cs = '[' :: cs' → False) (h : value maxDepth cs = .ok (v, rest)) :
    ¬ IsPing v := by
  unfold value at h
  split at h
  · exact (notBracket _ rfl).elim
  · exact (notBrace _ rfl).elim
  · obtain ⟨t, -, hs⟩ := scalar_sound h
    rintro (_ | _) <;> cases hs

/-- Both readers accept only blanks at the end. -/
theorem finished_iff {shape : Except InboundError (Inbound × List Char)}
    (h : ∀ m rest, shape = .ok (m, rest) ↔ ∃ v, value maxDepth cs = .ok (v, rest) ∧ IsPing v) :
    (shape >>= fun x => lift (finish x.2) >>= fun _ => .ok x.1) = .ok m ↔
      ∃ v, (value maxDepth cs >>= fun x => finish x.2 >>= fun _ => .ok x.1) = .ok v ∧
        IsPing v := by
  constructor
  · intro hm
    obtain ⟨⟨m, r⟩, hs, h₁⟩ := bind_eq_ok.1 hm
    obtain ⟨_, hf, -⟩ := bind_eq_ok.1 h₁
    obtain ⟨v, hv, hp⟩ := (h m r).1 hs
    exact ⟨v, bind_eq_ok.2 ⟨_, hv, bind_eq_ok.2 ⟨_, lift_eq_ok_iff.1 hf, rfl⟩⟩, hp⟩
  · rintro ⟨v, hv, hp⟩
    obtain ⟨⟨v, r⟩, hr, h₁⟩ := bind_eq_ok.1 hv
    obtain ⟨_, hf, h₂⟩ := bind_eq_ok.1 h₁
    cases h₂
    exact bind_eq_ok.2 ⟨_, (h m r).2 ⟨v, hr, hp⟩, bind_eq_ok.2 ⟨_, lift_eq_ok_iff.2 hf, rfl⟩⟩

end

/-- A text parses as a message exactly if it is read as the value of a ping. -/
theorem parse_eq_ok_iff {text : String} {m : Inbound} :
    parse text = .ok m ↔ ∃ v, Json.read text = .ok v ∧ IsPing v := by
  unfold parse Json.read
  generalize skipSpaces text.toList = cs
  split
  · exact finished_iff fun _ _ => object_isPing_iff
  · exact finished_iff fun _ _ => array_isPing_iff
  · rename_i notBrace notBracket
    constructor
    · intro h
      obtain ⟨_, _, h⟩ := bind_eq_ok.1 h
      cases h
    · rintro ⟨v, h, hv⟩
      obtain ⟨⟨v, r⟩, hr, h₁⟩ := bind_eq_ok.1 h
      obtain ⟨_, _, h₂⟩ := bind_eq_ok.1 h₁
      cases h₂
      exact absurd hv (not_isPing_of_value notBrace notBracket hr)

/-- A text that is not a ping is an error. -/
theorem exists_error {text : String} (h : parse text ≠ .ok .ping) : ∃ e, parse text = .error e := by
  cases hp : parse text with
  | error e => exact ⟨e, rfl⟩
  | ok m =>
    cases m
    exact absurd hp h

/-- The value of a ping ends at its closing bracket, before any rest. -/
theorem value_of_isPing {body : List Char} {v : Value} (h : Writes Finite maxDepth body v)
    (hv : IsPing v) (rest : List Char) : value maxDepth (body ++ rest) = .ok (v, rest) := by
  have h : ValueText Finite (Writes Finite innerDepth) body v := h
  have inner := value_reads innerDepth
  cases hv with
  | array =>
    cases h with
    | scalar hs => cases hs
    | array hb => exact value_array inner hb
  | object =>
    cases h with
    | scalar hs => cases hs
    | object hb => exact value_object inner hb

/-- A ping that is a prefix of another document contains the whole of its value. -/
theorem body_le_of_prefix {text text' : String} {before body after : List Char} {v v' : Value}
    (h : Document Finite text before body after v) (hv : IsPing v)
    (h' : Spells Finite text' v') (hv' : IsPing v') (hp : text'.toList <+: text.toList) :
    (before ++ body).length ≤ text'.toList.length := by
  obtain ⟨before', body', after', d⟩ := h'
  obtain ⟨more, hmore⟩ := hp
  -- one reader meets both values at the same place, and stops where either of them ends
  have reads := value_reads maxDepth
  have first : skipSpaces text.toList = body ++ after := by
    rw [h.parts, List.append_assoc, skipSpaces_append h.before (reads.clear_space h.body)]
  have second : skipSpaces text.toList = body' ++ (after' ++ more) := by
    rw [← hmore, d.parts, List.append_assoc, List.append_assoc,
      skipSpaces_append d.before (reads.clear_space d.body)]
  have whole := value_of_isPing h.body hv after
  rw [← first, second, value_of_isPing d.body hv'] at whole
  have left : after' ++ more = after := congrArg Prod.snd (Except.ok.inj whole)
  have long := congrArg List.length hmore
  simp only [h.parts, ← left, List.length_append] at long ⊢
  omega

/-- A text parses as a ping exactly if, between blanks, it spells an array of just the tag or an
object whose only tag is the ping's, with every number finite. So the spelling of a value, the other
members of an object and the order of its members have no effect; every other text is an error,
including every proper prefix of a ping that ends before its value. -/
theorem parse_ping :
    (∀ text, parse text = .ok .ping ↔ ∃ v, Spells Finite text v ∧ IsPing v) ∧
    (∀ text text' v, Spells Finite text v → Spells Finite text' v →
      (parse text = .ok .ping ↔ parse text' = .ok .ping)) ∧
    (∀ text text' ms ms', Spells Finite text (.object ms) → Spells Finite text' (.object ms') →
      (tags ms).Perm (tags ms') → (parse text = .ok .ping ↔ parse text' = .ok .ping)) ∧
    (∀ text, (¬ ∃ v, Spells Finite text v ∧ IsPing v) → ∃ e, parse text = .error e) ∧
    ∀ text before body after v (cut : List Char), Document Finite text before body after v →
      IsPing v → cut <+: text.toList → cut.length < (before ++ body).length →
      ∃ e, parse (String.ofList cut) = .error e := by
  have accepts (text : String) :
      parse text = .ok .ping ↔ ∃ v, Spells Finite text v ∧ IsPing v := by
    simp only [parse_eq_ok_iff, read_eq_ok_iff]
  have decides {text : String} {v : Value} (h : Spells Finite text v) :
      parse text = .ok .ping ↔ IsPing v := by
    rw [accepts]
    constructor
    · rintro ⟨v', h', hv⟩
      exact h.unique h' ▸ hv
    · exact fun hv => ⟨v, h, hv⟩
  have tagged {ms : List (String × Value)} : IsPing (.object ms) ↔ tags ms = [pingTag] := by
    constructor
    · rintro (_ | h)
      exact h
    · exact .object
  refine ⟨accepts, fun text text' v h h' => (decides h).trans (decides h').symm, ?_, ?_, ?_⟩
  · intro text text' ms ms' h h' same
    rw [decides h, decides h', tagged, tagged]
    constructor
    · intro ht
      exact (List.singleton_perm.1 (ht ▸ same)).symm
    · intro ht
      exact List.perm_singleton.1 (ht ▸ same)
  · intro text h
    exact exists_error (mt (accepts text).1 h)
  · intro text before body after v cut h hv hp short
    refine exists_error fun ping => ?_
    obtain ⟨v', h', hv'⟩ := (accepts _).1 ping
    rw [← String.toList_ofList (l := cut)] at hp
    have := body_le_of_prefix h hv h' hv' hp
    rw [String.toList_ofList] at this
    omega

/-- Blanks and an escape, additional members, a text that is not a ping, and a prefix of a ping. -/
theorem parse_ping_each :
    (parse "[\"ping\"]" = .ok .ping ↔ parse " [ \"\\u0070ing\" ] " = .ok .ping) ∧
    (parse "\x7b\"msg_type\":\"ping\"\x7d" = .ok .ping ↔
      parse "\x7b\"a\":[1],\"a\":null,\"msg_type\":\"ping\"\x7d" = .ok .ping) ∧
    (∃ e, parse "[\"ping\",\"ping\"]" = .error e) ∧
    ∃ e, parse (String.ofList "[\"ping\"".toList) = .error e := by
  have spells {text : String} {v : Value} (h : Json.read text = .ok v) : Spells Finite text v :=
    read_eq_ok_iff.1 h
  refine ⟨?_, ?_, ?_, ?_⟩
  · exact parse_ping.2.1 _ _ (.array [.string "ping"]) (spells rfl) (spells rfl)
  · exact parse_ping.2.2.1 _ _ [pingTag] [("a", .array [.number (.ofParts false ['1'] none none)]),
      ("a", .null), pingTag] (spells rfl) (spells rfl) (.refl _)
  · refine parse_ping.2.2.2.1 _ ?_
    rintro ⟨v, h, hv⟩
    have two : Spells Finite "[\"ping\",\"ping\"]" (.array [.string "ping", .string "ping"]) :=
      spells rfl
    cases h.unique two
    cases hv
  · obtain ⟨t, ht, hw⟩ := (value_reads maxDepth).sound
      (show value maxDepth "[\"ping\"]".toList = .ok (.array [.string "ping"], []) from rfl)
    rw [List.append_nil] at ht
    refine parse_ping.2.2.2.2 "[\"ping\"]" [] t [] (.array [.string "ping"]) _
      ⟨by rw [ht]; simp, Blank.nil, hw, Blank.nil⟩ .array ?_ ?_
    · exact ⟨[']'], rfl⟩
    · rw [List.nil_append, ← ht]
      decide

/-! ### Numbers at the edge -/

/-- The double nearest to the number is finite. -/
def NearestFinite (n : Number) : Prop := (Double.ofDecimal n.decimal).isFinite = true

/-- A number, beside the tag, just above the largest double: scaled by its power of ten it is
infinite, so the text is rejected, although the double nearest to the number is finite. -/
theorem parse_ping_near_edge :
    ¬ (parse "\x7b\"msg_type\":\"ping\",\"x\":1.7976931348623158e308\x7d" = .ok .ping ↔
      ∃ v, Spells NearestFinite
        "\x7b\"msg_type\":\"ping\",\"x\":1.7976931348623158e308\x7d" v ∧ IsPing v) := by
  intro h
  have refused : (parse
      "\x7b\"msg_type\":\"ping\",\"x\":1.7976931348623158e308\x7d").isOk = false := by
    decide +kernel
  have quoted {cs : List Char} {s : String} (h : stringTail cs = .ok (s, [])) :
      StringText ('"' :: cs) s := by
    obtain ⟨t, ht, hs⟩ := stringTail_eq_ok_iff.1 h
    rw [List.append_nil] at ht
    exact ht ▸ hs
  have tag : MemberText (Writes NearestFinite innerDepth)
      ('"' :: "msg_type\"".toList ++ [] ++ ':' :: [] ++ '"' :: "ping\"".toList) pingTag :=
    .member (quoted rfl) .nil .nil (.scalar (.string (quoted rfl)))
  have number : NumberText (['1'] ++ '.' :: "7976931348623158".toList ++ 'e' :: "308".toList)
      (.ofParts false ['1'] (some "7976931348623158".toList) (some (digitsValue "308".toList))) :=
    .positive (.parts (.digits ⟨by decide, List.all_eq_true.1 (by decide)⟩ (by decide))
      (.present ⟨by decide, List.all_eq_true.1 (by decide)⟩)
      (.plain (.inl rfl) ⟨by decide, List.all_eq_true.1 (by decide)⟩))
  have near : NearestFinite (.ofParts false ['1'] (some "7976931348623158".toList)
      (some (digitsValue "308".toList))) := by
    unfold NearestFinite
    decide +kernel
  have name : StringText ('"' :: "x\"".toList) "x" := quoted rfl
  have edge := MemberText.member name .nil .nil
    (show Writes NearestFinite innerDepth _ _ from .scalar (.number number near))
  have object : Writes NearestFinite maxDepth _ _ :=
    .object (.items (.more .nil tag .nil (.last .nil edge .nil)))
  have ping := h.2 ⟨_, ⟨[], _, [], ⟨rfl, .nil, object, .nil⟩⟩, .object rfl⟩
  rw [ping] at refused
  cases refused

end Presence.Inbound
