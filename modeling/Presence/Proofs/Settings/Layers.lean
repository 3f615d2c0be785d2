import Mathlib.Data.List.Induction
import Mathlib.Data.List.TakeWhile
import Presence.Settings

/-!
Layers of settings. Every field reads the value under its name in the uppermost layer that has one;
a layer has the last value given under each name. A name that refers to a part of a setting makes
that setting a table, which no field accepts.
-/

namespace Presence.Settings

/-- The value of a field. -/
inductive Worth
  | text (s : String)
  | number (n : Nat)
  | time (d : Duration)
deriving DecidableEq

/-- A field of the settings: its name, which is no path, its conversion, which rejects tables, and
its value. -/
structure Field where
  name : String
  worth? : Setting → Option Worth
  of : Settings → Worth
  plain : name.toList.all isNameChar = true
  table : worth? .table = none

namespace Field

def text (name : String) (of : Settings → String)
    (plain : name.toList.all isNameChar = true := by decide) : Field :=
  ⟨name, fun s => s.asText?.map .text, fun s => .text (of s), plain, rfl⟩

def word (name : String) (of : Settings → Nat)
    (plain : name.toList.all isNameChar = true := by decide) : Field :=
  ⟨name, fun s => s.asWord?.map .number, fun s => .number (of s), plain, rfl⟩

def port : Field :=
  ⟨"port", fun s => s.asPort?.map .number, fun s => .number s.port, by decide, rfl⟩

def time (name : String) (of : Settings → Duration)
    (plain : name.toList.all isNameChar = true := by decide) : Field :=
  ⟨name, fun s => s.asDuration?.map .time, fun s => .time (of s), plain, rfl⟩

def statusCapacity : Field := .word "status_capacity" fun s => s.presence.statusCapacity

def queueCapacity : Field := .word "queue_capacity" fun s => s.presence.queueCapacity

def sessionOutboundCapacity : Field :=
  .word "session_outbound_capacity" fun s => s.presence.sessionOutboundCapacity

end Field

/-- The thirteen fields. -/
def fields : List Field :=
  [.text "service_name" fun s => s.serviceName,
   .text "bind" fun s => s.bind,
   .port,
   .text "database_path" fun s => s.databasePath,
   .time "status_ttl" fun s => s.presence.statusTtl,
   .statusCapacity,
   .queueCapacity,
   .time "queue_overflow_wait" fun s => s.presence.queueOverflowWait,
   .sessionOutboundCapacity,
   .time "friends_refresh_interval" fun s => s.presence.friendsRefreshInterval,
   .time "party_refresh_interval" fun s => s.presence.partyRefreshInterval,
   .time "refresh_retry_delay" fun s => s.presence.refreshRetryDelay,
   .time "party_poll_interval" fun s => s.presence.partyPollInterval]

theorem worth_of_bind {α : Type} {o : Option Setting} {as? : Setting → Option α} {worth : α → Worth}
    {x : α} (h : o.bind as? = some x) : (o.bind fun s => (as? s).map worth) = some (worth x) := by
  obtain ⟨a, rfl, ha⟩ := Option.bind_eq_some_iff.1 h
  simp [ha]

/-- Every field holds the conversion of the value under its name. -/
theorem worth_of_ofLayer {l : Layer} {s : Settings} (h : ofLayer l = some s) :
    ∀ f ∈ fields, (l.get? f.name).bind f.worth? = some (f.of s) := by
  unfold ofLayer at h
  obtain ⟨_, serviceName, h⟩ := Option.bind_eq_some_iff.1 h
  obtain ⟨_, bind, h⟩ := Option.bind_eq_some_iff.1 h
  obtain ⟨_, port, h⟩ := Option.bind_eq_some_iff.1 h
  obtain ⟨_, databasePath, h⟩ := Option.bind_eq_some_iff.1 h
  obtain ⟨_, ttl, h⟩ := Option.bind_eq_some_iff.1 h
  obtain ⟨_, capacity, h⟩ := Option.bind_eq_some_iff.1 h
  obtain ⟨_, queue, h⟩ := Option.bind_eq_some_iff.1 h
  obtain ⟨_, wait, h⟩ := Option.bind_eq_some_iff.1 h
  obtain ⟨_, outbound, h⟩ := Option.bind_eq_some_iff.1 h
  obtain ⟨_, friends, h⟩ := Option.bind_eq_some_iff.1 h
  obtain ⟨_, party, h⟩ := Option.bind_eq_some_iff.1 h
  obtain ⟨_, retry, h⟩ := Option.bind_eq_some_iff.1 h
  obtain ⟨_, poll, h⟩ := Option.bind_eq_some_iff.1 h
  cases h
  simp only [fields, List.forall_mem_cons]
  exact ⟨worth_of_bind serviceName, worth_of_bind bind, worth_of_bind port,
    worth_of_bind databasePath, worth_of_bind ttl, worth_of_bind capacity, worth_of_bind queue,
    worth_of_bind wait, worth_of_bind outbound, worth_of_bind friends, worth_of_bind party,
    worth_of_bind retry, worth_of_bind poll, fun _ hf => absurd hf List.not_mem_nil⟩

/-! ### Names -/

theorem toNat_of_isNameChar {c : Char} (h : isNameChar c = true) : c.toNat < 0x80 := by
  have upTo (most : Char) (hc : c.val ≤ most.val) (hm : most.toNat < 0x80) : c.toNat < 0x80 :=
    lt_of_le_of_lt (UInt32.le_iff_toNat_le.1 hc) hm
  simp only [isNameChar, Bool.or_eq_true, decide_eq_true_eq] at h
  rcases h with ((word | rfl) | rfl) | rfl
  · rcases Bool.or_eq_true_iff.1 word with letter | digit
    · rcases Bool.or_eq_true_iff.1 letter with upper | lower
      · exact upTo 'Z' (of_decide_eq_true upper).2 (by decide)
      · exact upTo 'z' (of_decide_eq_true (Bool.and_eq_true_iff.1 lower).2) (by decide)
    · exact upTo '9' (of_decide_eq_true (Bool.and_eq_true_iff.1 digit).2) (by decide)
  · decide
  · decide
  · decide

theorem resolve_of_plain {name : String} (s : Setting)
    (h : (Setting.lowered name).toList.all isNameChar = true) :
    resolve name s = (Setting.lowered name, s) := by
  have nothing : (Setting.lowered name).toList.dropWhile isNameChar = [] := by
    rw [List.dropWhile_eq_nil_iff]
    simpa using h
  simp [resolve, nothing]

/-- A name refers to the setting that it spells, or makes some setting a table. -/
theorem resolve_cases (name : String) (s : Setting) :
    resolve name s = (Setting.lowered name, s) ∨ (resolve name s).2 = .table := by
  simp only [resolve]
  split
  · exact .inr rfl
  · exact .inl (by simp)

/-! ### The last value -/

/-- The last value under a name, in any case. -/
def lastSaid (said : List (String × Setting)) (name : String) : Option Setting :=
  (said.reverse.find? fun e => Setting.lowered e.1 = name).map Prod.snd

theorem lastSaid_concat (said : List (String × Setting)) (e : String × Setting) (name : String) :
    lastSaid (said ++ [e]) name =
      if Setting.lowered e.1 = name then some e.2 else lastSaid said name := by
  rw [lastSaid, List.reverse_append]
  by_cases h : Setting.lowered e.1 = name <;> simp [h, lastSaid]

theorem overlay_concat (below : Layer) (said : List (String × Setting)) (e : String × Setting) :
    below.overlay (said ++ [e]) =
      Table.insert (below.overlay said) (resolve e.1 e.2).1 (resolve e.1 e.2).2 := by
  simp [Layer.overlay]

/-- The value under a name after `overlay`: the last one of the upper layer, else the one before. -/
theorem lastSaid_of_overlay {f : Field} {below : Layer} {said : List (String × Setting)} {w : Worth}
    (h : ((below.overlay said).get? f.name).bind f.worth? = some w) :
    ((lastSaid said f.name).or (below.get? f.name)).bind f.worth? = some w := by
  induction said using List.reverseRecOn with
  | nil => exact h
  | append_singleton said e ih =>
    rw [overlay_concat, Table.get?_insert] at h
    rw [lastSaid_concat]
    by_cases he : Setting.lowered e.1 = f.name
    · rw [resolve_of_plain e.2 (by rw [he, f.plain]), if_pos he.symm] at h
      rw [if_pos he]
      exact h
    · rw [if_neg he]
      split at h
      · rename_i hr
        rcases resolve_cases e.1 e.2 with same | table
        · rw [same] at hr
          exact absurd hr.symm he
        · rw [table, Option.bind_some, f.table] at h
          cases h
      · exact ih h

end Presence.Settings
