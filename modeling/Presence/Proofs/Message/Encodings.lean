import Presence.Proofs.Engine.Moments
import Presence.Proofs.Message.Pings

/-!
Encodings of messages to clients and their decoding. A literal encodes its string character by
character, and an object of literals its members in order; so the text of a message spells what the
message says (`Says`), and no such text is a ping.
-/

namespace Presence

namespace Json

/-! ### Literals -/

theorem hexDigit_eq : ∀ n < 16, hexDigit n = Nat.digitChar n := by
  decide +kernel

theorem hexDigit_visible : ∀ n < 16, 0x20 ≤ (hexDigit n).toNat := by
  decide +kernel

/-- A control character is escaped by its number. -/
theorem charText_control {c : Char} (h : c.toNat < 0x20) :
    CharText ['\\', 'u', '0', '0', hexDigit (c.toNat / 16), hexDigit (c.toNat % 16)] c := by
  have digit {n : Nat} (hn : n < 16) : HexDigit (hexDigit n) n := ⟨hn, .inl (hexDigit_eq n hn)⟩
  have zero : HexDigit '0' 0 := digit (by decide)
  have value : ((0 * 16 + 0) * 16 + c.toNat / 16) * 16 + c.toNat % 16 = c.toNat := by omega
  have unit := UnitText.digits zero zero (digit (n := c.toNat / 16) (by omega))
    (digit (n := c.toNat % 16) (by omega))
  rw [value] at unit
  have text := CharText.unit unit (by omega)
  rwa [Char.ofNat_toNat] at text

/-- The encoding of a character: a short escape, its number, or the character itself. -/
theorem escape_cases (c : Char) :
    (∃ e, (e, c) ∈ shortEscapes ∧ escape c = ['\\', e]) ∨
    (c.toNat < 0x20 ∧
      escape c = ['\\', 'u', '0', '0', hexDigit (c.toNat / 16), hexDigit (c.toNat % 16)]) ∨
    (c ≠ '"' ∧ c ≠ '\\' ∧ 0x20 ≤ c.toNat ∧ escape c = [c]) := by
  have short {e : Char} (h : (e, c) ∈ shortEscapes) :
      ∃ e', (e', c) ∈ shortEscapes ∧ ['\\', e] = ['\\', e'] := ⟨e, h, rfl⟩
  unfold escape
  repeat' split
  -- the seven characters that have an escape of their own
  all_goals first
    | (subst_vars; exact .inl (short (by decide)))
    | skip
  · exact .inr (.inl ⟨‹c.toNat < 0x20›, rfl⟩)
  · exact .inr (.inr ⟨‹¬ c = '"'›, ‹¬ c = '\\'›, Nat.le_of_not_lt ‹¬ c.toNat < 0x20›, rfl⟩)

theorem charText_escape (c : Char) : CharText (escape c) c := by
  obtain ⟨e, h, he⟩ | ⟨hc, he⟩ | ⟨hq, hb, hc, he⟩ := escape_cases c
  · exact he ▸ .short h
  · exact he ▸ charText_control hc
  · exact he ▸ .plain hq hb hc

theorem shortEscapes_visible : ∀ p ∈ shortEscapes, 0x20 ≤ p.1.toNat := by
  decide

/-- No control character is unescaped. -/
theorem escape_visible {c d : Char} (h : d ∈ escape c) : 0x20 ≤ d.toNat := by
  obtain ⟨e, hs, he⟩ | ⟨hc, he⟩ | ⟨-, -, hc, he⟩ := escape_cases c
  all_goals
    rw [he] at h
    simp only [List.mem_cons, List.not_mem_nil, or_false] at h
  · rcases h with rfl | rfl
    · decide
    · exact shortEscapes_visible _ hs
  · rcases h with rfl | rfl | rfl | rfl | rfl | rfl
    · decide
    · decide
    · decide
    · decide
    · exact hexDigit_visible _ (by omega)
    · exact hexDigit_visible _ (by omega)
  · exact h ▸ hc

theorem toList_literal (s : String) :
    (literal s).toList = '"' :: s.toList.flatMap escape ++ ['"'] :=
  String.toList_ofList

/-- The literal of a string spells the string. -/
theorem stringText_literal (s : String) : StringText (literal s).toList s := by
  have chars (cs : List Char) : CharsText (cs.flatMap escape) cs := by
    induction cs with
    | nil => exact .nil
    | cons c cs ih => exact .cons (charText_escape c) ih
  have quoted := StringText.quoted (chars s.toList)
  rwa [String.ofList_toList, ← toList_literal] at quoted

theorem literal_visible {s : String} {c : Char} (h : c ∈ (literal s).toList) : 0x20 ≤ c.toNat := by
  simp only [toList_literal, List.cons_append, List.mem_cons, List.mem_append, List.mem_flatMap,
    List.not_mem_nil, or_false] at h
  obtain rfl | ⟨_, -, h⟩ | rfl := h
  · decide
  · exact escape_visible h
  · decide

/-! ### Objects -/

section
variable {α β : Type} {key : α → String} {written : α → List Char} {as : List α}

/-- An object without blanks, with literals as keys. -/
def objectText (key : α → String) (written : α → List Char) (as : List α) : List Char :=
  '{' :: [','].intercalate (as.map fun a => (literal (key a)).toList ++ ':' :: written a) ++ ['}']

theorem listText_intercalate {writes : List Char → β → Prop} {v : α → β}
    (h : ∀ a ∈ as, writes (written a) (v a)) :
    ListText writes ([','].intercalate (as.map written)) (as.map v) := by
  cases as with
  | nil => exact .empty Blank.nil
  | cons a as =>
    refine .items ?_
    induction as generalizing a with
    | nil =>
      rw [List.map_singleton, List.intercalate_singleton]
      have alone := ItemsText.last Blank.nil (h a List.mem_cons_self) Blank.nil
      rwa [List.nil_append, List.append_nil] at alone
    | cons b as ih =>
      have later := ih b fun c hc => h c (List.mem_cons_of_mem a hc)
      have whole := ItemsText.more Blank.nil (h a List.mem_cons_self) Blank.nil later
      rwa [List.nil_append, List.append_nil] at whole

theorem mem_intercalate {ls : List (List Char)} {c : Char} (h : c ∈ [','].intercalate ls) :
    c = ',' ∨ ∃ l ∈ ls, c ∈ l := by
  induction ls with
  | nil => cases h
  | cons l ls ih =>
    cases ls with
    | nil => exact .inr ⟨l, List.mem_cons_self, by simpa using h⟩
    | cons l' ls =>
      rw [List.intercalate_cons_cons, List.mem_append, List.mem_append, List.mem_singleton] at h
      obtain (h | h) | h := h
      · exact .inr ⟨l, List.mem_cons_self, h⟩
      · exact .inl h
      · exact (ih h).imp_right fun ⟨l, hl, hc⟩ => ⟨l, List.mem_cons_of_mem _ hl, hc⟩

/-- The text of an object of literals spells its members in order. -/
theorem writes_objectText {fits : Number → Prop} (depth : Nat) {v : α → Value}
    (h : ∀ a ∈ as, Writes fits depth (written a) (v a)) :
    Writes fits (depth + 1) (objectText key written as)
      (.object (as.map fun a => (key a, v a))) := by
  have members (a : α) (ha : a ∈ as) : MemberText (Writes fits depth)
      ((literal (key a)).toList ++ ':' :: written a) (key a, v a) := by
    have := MemberText.member (stringText_literal (key a)) Blank.nil Blank.nil (h a ha)
    rwa [List.append_nil, List.append_assoc] at this
  exact .object (listText_intercalate members)

theorem objectText_visible (h : ∀ a ∈ as, ∀ c ∈ written a, 0x20 ≤ c.toNat) {c : Char}
    (hc : c ∈ objectText key written as) : 0x20 ≤ c.toNat := by
  simp only [objectText, List.cons_append, List.mem_cons, List.mem_append, List.not_mem_nil,
    or_false] at hc
  obtain rfl | hc | rfl := hc
  · decide
  · obtain rfl | ⟨l, hl, hc⟩ := mem_intercalate hc
    · decide
    · obtain ⟨a, ha, rfl⟩ := List.mem_map.1 hl
      rw [List.mem_append, List.mem_cons] at hc
      obtain hc | rfl | hc := hc
      · exact literal_visible hc
      · decide
      · exact h a ha c hc
  · decide

end

end Json

/-! ### Messages -/

open Json

/-- The value that a message's text is to spell. -/
inductive Says : Message → Value → Prop
  | pong : Says .pong (.object [("msg_type", .string "pong")])
  | friendOnline (friend : User) : Says (.friendOnline friend)
      (.object [("msg_type", .string "friends_online"), ("user_name", .string friend.text)])
  | snapshot (users : List User) : Says (.snapshot (.online users))
      (.object ((Name.sortedSet users).map fun u => (u.text, .bool true)))

/-- The text of an object whose values are strings. -/
def stringsText (ms : List (String × String)) : List Char :=
  objectText Prod.fst (fun m => (literal m.2).toList) ms

theorem writes_stringsText {fits : Number → Prop} (depth : Nat) (ms : List (String × String)) :
    Writes fits (depth + 2) (stringsText ms) (.object (ms.map fun m => (m.1, .string m.2))) :=
  writes_objectText (depth + 1) fun m _ => .scalar (.string (stringText_literal m.2))

theorem text_pong : (Message.text .pong).toList = stringsText [("msg_type", "pong")] := by
  decide +kernel

theorem text_friendOnline (u : User) : (Message.text (.friendOnline u)).toList =
    stringsText [("msg_type", "friends_online"), ("user_name", u.text)] := by
  have start : "\x7b\"msg_type\":\"friends_online\",\"user_name\":".toList =
      '{' :: ((literal "msg_type").toList ++ ':' :: (literal "friends_online").toList ++
        ',' :: ((literal "user_name").toList ++ [':'])) := by
    decide +kernel
  have stop : "\x7d".toList = ['}'] := by decide
  unfold Message.text
  rw [String.toList_append, String.toList_append, start, stop]
  simp only [stringsText, objectText, List.map_cons, List.map_nil, List.intercalate_cons_cons,
    List.intercalate_singleton, List.cons_append, List.append_assoc, List.nil_append]

theorem text_snapshot (s : Snapshot) : (Message.text (.snapshot s)).toList =
    objectText Name.text (fun _ => ['t', 'r', 'u', 'e']) s.members := by
  have start : "\x7b".toList = ['{'] := by decide
  have comma : ",".toList = [','] := by decide
  have stop : "\x7d".toList = ['}'] := by decide
  have value : ":true".toList = [':', 't', 'r', 'u', 'e'] := by decide
  have members (u : User) : (literal u.text ++ ":true").toList =
      (literal u.text).toList ++ ':' :: ['t', 'r', 'u', 'e'] := by
    rw [String.toList_append, value]
  unfold Message.text Snapshot.json objectText
  rw [String.toList_append, String.toList_append, String.toList_intercalate, List.map_map, start,
    comma, stop, show String.toList ∘ (fun u : User => literal u.text ++ ":true") = _ from
      funext members]
  rfl

section
variable {m m' : Message} {v v' : Value}

/-- An object's text without blanks around it is a document. -/
theorem spells_of_writes {fits : Number → Prop} {text : String}
    (h : Writes fits maxDepth text.toList v) : Spells fits text v :=
  ⟨[], text.toList, [], ⟨by simp, Blank.nil, h, Blank.nil⟩⟩

theorem Says.spells (h : Says m v) (fits : Number → Prop) : Spells fits m.text v := by
  refine spells_of_writes ?_
  cases h with
  | pong =>
    rw [text_pong]
    exact writes_stringsText 125 [("msg_type", "pong")]
  | friendOnline u =>
    rw [text_friendOnline]
    exact writes_stringsText 125 [("msg_type", "friends_online"), ("user_name", u.text)]
  | snapshot users =>
    rw [text_snapshot]
    exact writes_objectText 126 fun _ _ => .scalar .yes

theorem Says.visible (h : Says m v) : ∀ c ∈ m.text.toList, 0x20 ≤ c.toNat := by
  intro c hc
  cases h with
  | pong =>
    rw [text_pong] at hc
    exact objectText_visible (fun _ _ _ => literal_visible) hc
  | friendOnline u =>
    rw [text_friendOnline] at hc
    exact objectText_visible (fun _ _ _ => literal_visible) hc
  | snapshot users =>
    rw [text_snapshot] at hc
    refine objectText_visible (fun _ _ c hc => ?_) hc
    simp only [List.mem_cons, List.not_mem_nil, or_false] at hc
    rcases hc with rfl | rfl | rfl | rfl <;> decide

/-- The text of a message is read as what the message says. -/
theorem Says.read (h : Says m v) : Json.read m.text = .ok v :=
  read_eq_ok_iff.2 (h.spells Finite)

theorem value_of_mem_snapshot {users : List User} {entry : String × Value}
    (h : entry ∈ users.map fun u => (u.text, Value.bool true)) : entry.2 = .bool true := by
  obtain ⟨u, -, rfl⟩ := List.mem_map.1 h
  rfl

/-- A message is determined by what it says. -/
theorem Says.unique (h : Says m v) (h' : Says m' v') (hv : v = v') : m = m' := by
  have strings {k s : String} {ms : List (String × Value)} {users : List User}
      (hv : Value.object ((k, .string s) :: ms) =
        .object (users.map fun u => (u.text, .bool true))) : False := by
    have := value_of_mem_snapshot (Value.object.inj hv ▸ List.mem_cons_self)
    cases this
  cases h with
  | pong =>
    cases h' with
    | pong => rfl
    | friendOnline => simp at hv
    | snapshot => exact (strings hv).elim
  | friendOnline u =>
    cases h' with
    | pong => simp at hv
    | friendOnline u' =>
      have : u.text = u'.text := by simpa using hv
      rw [Name.ext_text this]
    | snapshot => exact (strings hv).elim
  | snapshot users =>
    cases h' with
    | pong => exact (strings hv.symm).elim
    | friendOnline => exact (strings hv.symm).elim
    | snapshot users' =>
      have same : Name.sortedSet users = Name.sortedSet users' := by
        refine (List.map_inj_right fun u u' hu => ?_).1 (Value.object.inj hv)
        exact Name.ext_text (Prod.mk.inj hu).1
      unfold Snapshot.online
      rw [same]

/-- What a message says is not a ping. -/
theorem Says.not_isPing (h : Says m v) : ¬ Inbound.IsPing v := by
  rintro (_ | ht)
  · cases h
  · have tag : Inbound.pingTag ∈ Inbound.tags _ := ht ▸ List.mem_cons_self
    have tag := (List.mem_filter.1 tag).1
    cases h with
    | pong => simp [Inbound.pingTag] at tag
    | friendOnline => simp [Inbound.pingTag, Inbound.tagKey] at tag
    | snapshot => cases value_of_mem_snapshot tag

end

/-- A frame in a line is a message of the service, unless a caller supplied its text. -/
theorem Engine.says_of_sent {config : Config} {as : List Engine.Action} {e : Engine} {ns : List Note}
    (h : Engine.Reaches config as e ns) {s : SessionId} {m : Message} (hs : .sent s m ∈ ns)
    (own : ∀ text, m ≠ .plain text) : ∃ v, Says m v := by
  cases m with
  | pong => exact ⟨_, .pong⟩
  | friendOnline u => exact ⟨_, .friendOnline u⟩
  | plain text => exact absurd rfl (own text)
  | snapshot sn =>
    obtain ⟨_, _, _, _, _, _, _, _, _, rfl⟩ := h.faithful.sent (Engine.mem_sentTo.2 hs)
    exact ⟨_, .snapshot _⟩

/-- The text of a message spells what the message says, without control characters; for a snapshot,
its members strictly ascending. So different messages and different sets of members have different
texts, order and repetition in a list of members have no effect, and `Inbound.parse` rejects every
text that the service sends. -/
theorem encodings_read_back :
    (∀ m v, Says m v → (∀ fits, Spells fits m.text v) ∧ Json.read m.text = .ok v ∧
      ∀ c ∈ m.text.toList, 0x20 ≤ c.toNat) ∧
    (∀ users : List User, (Name.sortedSet users).Pairwise (· < ·) ∧
      ∀ u, u ∈ Name.sortedSet users ↔ u ∈ users) ∧
    (∀ m v m' v', Says m v → Says m' v' → m.text = m'.text → m = m') ∧
    (∀ users users', (Message.snapshot (.online users)).text =
      (Message.snapshot (.online users')).text ↔ ∀ u, u ∈ users ↔ u ∈ users') ∧
    (∀ m v, Says m v → ∃ e, Inbound.parse m.text = .error e) ∧
    ∀ config as e ns, Engine.Reaches config as e ns → ∀ s m, .sent s m ∈ ns →
      (∀ text, m ≠ .plain text) → ∃ e, Inbound.parse m.text = .error e := by
  have distinct {m v m' v'} (h : Says m v) (h' : Says m' v') (ht : m.text = m'.text) : m = m' := by
    have both := h'.read
    rw [← ht] at both
    exact h.unique h' (Except.ok.inj (h.read.symm.trans both))
  have refused {m v} (h : Says m v) : ∃ e, Inbound.parse m.text = .error e := by
    refine Inbound.exists_error fun ping => ?_
    obtain ⟨v', hr, hp⟩ := Inbound.parse_eq_ok_iff.1 ping
    cases h.read.symm.trans hr
    exact h.not_isPing hp
  refine ⟨fun m v h => ⟨h.spells, h.read, h.visible⟩,
    fun users => ⟨Name.pairwise_sortedSet users, fun u => Name.mem_sortedSet⟩,
    fun m v m' v' => distinct, fun users users' => ?_, fun m v => refused, ?_⟩
  · constructor
    · intro ht u
      have same := distinct (.snapshot users) (.snapshot users') ht
      have same : Name.sortedSet users = Name.sortedSet users' :=
        Snapshot.mk.inj (Message.snapshot.inj same)
      calc u ∈ users ↔ u ∈ Name.sortedSet users := Name.mem_sortedSet.symm
        _ ↔ u ∈ Name.sortedSet users' := by rw [same]
        _ ↔ u ∈ users' := Name.mem_sortedSet
    · intro same
      have : Name.sortedSet users = Name.sortedSet users' :=
        Name.eq_of_mem_iff (Name.pairwise_sortedSet users) (Name.pairwise_sortedSet users') (by
          simpa using same)
      unfold Snapshot.online
      rw [this]
  · intro config as e ns h s m hs own
    obtain ⟨v, hv⟩ := Engine.says_of_sent h hs own
    exact refused hv

/-- A pong, a notice with a name that needs escapes, a snapshot with a member named like the tag,
and the notice of a friend's heartbeat. -/
theorem encodings_read_back_each :
    ∃ (odd tag : User) (e : Engine) (ns : List Note), odd.text = "a\"\\\n\x01b" ∧
      tag.text = "msg_type" ∧
      Json.read (Message.text (.friendOnline odd)) = .ok (.object
        [("msg_type", .string "friends_online"), ("user_name", .string "a\"\\\n\x01b")]) ∧
      (Message.text .pong ≠ Message.text (.snapshot (.online [tag]))) ∧
      (Message.snapshot (.online [tag, odd, tag])).text = (Message.snapshot (.online [odd, tag])).text ∧
      (∃ err, Inbound.parse (Message.snapshot (.online [tag])).text = .error err) ∧
      Engine.Reaches Config.standard [.openStatus odd, .dispatch, .dispatch, .wakeLoop .friends,
        .loopAnswered .friends (.ok (.ofList [(tag, [odd])])), .drive 1, .offer ⟨tag, .heartbeat⟩,
        .dispatch, .dispatch, .dispatch, .dispatch] e ns ∧
      .sent 1 (.friendOnline tag) ∈ ns ∧
      ∃ err, Inbound.parse (Message.text (.friendOnline tag)) = .error err := by
  have reached (u v : User) : Engine.Reaches Config.standard
      [.openStatus v, .dispatch, .dispatch, .wakeLoop .friends,
        .loopAnswered .friends (.ok (.ofList [(u, [v])])), .drive 1, .offer ⟨u, .heartbeat⟩,
        .dispatch, .dispatch, .dispatch, .dispatch] _ _ :=
    .of_start rfl _
  have hr := reached ⟨"msg_type", by decide, "msg_type", rfl⟩
    ⟨"a\"\\\n\x01b", by decide, "a\"\\\n\x01b", rfl⟩
  obtain ⟨reads, -, distinct, sets, refused, frames⟩ := encodings_read_back
  refine ⟨_, _, _, _, rfl, rfl, (reads _ _ (.friendOnline _)).2.1, ?_, (sets _ _).2 ?_,
    refused _ _ (.snapshot _), hr, ?_, frames _ _ _ _ hr 1 _ ?_ (by simp)⟩
  · intro same
    cases distinct _ _ _ _ .pong (.snapshot _) same
  · intro u
    simp only [List.mem_cons, List.not_mem_nil, or_false]
    grind
  all_goals decide +kernel

end Presence
