import Presence.Proofs.Naming
import Presence.Proofs.Store.Rows

/-!
Tables as maps. The rows that the store itself writes hold a map from two names to a status: `put`
and `delete` update this map, and reading the rows lists it in ascending order. Lists of users by
owner are collected from pairs of an owner and a user, in order.
-/

namespace Presence

/-- Update of a map at one key, by a value or none. -/
def assign {α β γ : Type} [DecidableEq α] [DecidableEq β] (m : α → β → Option γ) (a : α) (b : β)
    (v : Option γ) : α → β → Option γ :=
  fun x y => if x = a ∧ y = b then v else m x y

/-- The row of two names and a status. -/
def Row.of {k l : NameKind} (a : Name k) (b : Name l) (status : String) : Row :=
  ⟨.text a.text, .text b.text, .text status⟩

namespace Row

variable {k l : NameKind} {a a' : Name k} {b b' : Name l} {s s' : String}

theorem of_inj : of a b s = of a' b' s' ↔ a = a' ∧ b = b' ∧ s = s' := by
  simp [of, Name.text_inj]

theorem sameKey_of : (of a b s).sameKey (of a' b' s') = true ↔ a = a' ∧ b = b' := by
  simp [sameKey, of, Name.text_inj]

theorem isFor_of : (of a b s).isFor a'.text b'.text = true ↔ a = a' ∧ b = b' := by
  simp [isFor, of, Name.text_inj]

theorem before_of : (of a b s).before (of a' b' s') = true ↔ a < a' ∨ a = a' ∧ b < b' := by
  rw [before_iff]
  simp only [of, Cell.before, decide_eq_true_eq, Cell.text.injEq, Name.text_inj]
  exact Iff.rfl

end Row

namespace Rows

section
variable {k l : NameKind} {σ : Type} {text : σ → String} {rows : Rows}
  {m : Name k → Name l → Option σ}

/-- The rows of a table hold exactly a map. -/
structure Holds (text : σ → String) (rows : Rows) (m : Name k → Name l → Option σ) : Prop where
  ascending : Ascending rows
  mem : ∀ r, r ∈ rows ↔ ∃ a b s, r = Row.of a b (text s) ∧ m a b = some s

theorem holds_nil : Holds text [] (fun (_ : Name k) (_ : Name l) => none) :=
  ⟨List.Pairwise.nil, by simp⟩

theorem Holds.put (h : Holds text rows m) (a : Name k) (b : Name l) (s : σ) :
    Holds text (put (.of a b (text s)) rows) (assign m a b (some s)) where
  ascending := ascending_put h.ascending
  mem r := by
    rw [mem_put h.ascending, h.mem]
    constructor
    · rintro (rfl | ⟨⟨a', b', s', rfl, hm⟩, hk⟩)
      · exact ⟨a, b, s, rfl, if_pos ⟨rfl, rfl⟩⟩
      · refine ⟨a', b', s', rfl, (if_neg ?_).trans hm⟩
        rintro ⟨rfl, rfl⟩
        simp [Row.sameKey_of.2 ⟨rfl, rfl⟩] at hk
    · rintro ⟨a', b', s', rfl, hm⟩
      unfold assign at hm
      split at hm
      · rename_i he
        obtain ⟨rfl, rfl⟩ := he
        cases hm
        exact .inl rfl
      · rename_i he
        refine .inr ⟨⟨a', b', s', rfl, hm⟩, ?_⟩
        rw [Bool.eq_false_iff, ne_eq, Row.sameKey_of]
        rintro ⟨rfl, rfl⟩
        exact he ⟨rfl, rfl⟩

theorem Holds.delete (h : Holds text rows m) (a : Name k) (b : Name l) :
    Holds text (delete rows a.text b.text) (assign m a b none) where
  ascending := ascending_delete h.ascending _ _
  mem r := by
    rw [mem_delete, h.mem]
    constructor
    · rintro ⟨⟨a', b', s, rfl, hm⟩, hk⟩
      refine ⟨a', b', s, rfl, (if_neg fun he => ?_).trans hm⟩
      simp [Row.isFor_of.2 he] at hk
    · rintro ⟨a', b', s, rfl, hm⟩
      unfold assign at hm
      split at hm
      · cases hm
      · rename_i he
        refine ⟨⟨a', b', s, rfl, hm⟩, ?_⟩
        rw [Bool.eq_false_iff, ne_eq, Row.isFor_of]
        exact he

/-- The row of two names is found exactly if the map has a status for them. -/
theorem Holds.find? (h : Holds text rows m) (a : Name k) (b : Name l) :
    rows.find? (fun r => r.isFor a.text b.text) = (m a b).map fun s => Row.of a b (text s) := by
  cases hf : rows.find? fun r => r.isFor a.text b.text with
  | none =>
    rw [List.find?_eq_none] at hf
    cases hm : m a b with
    | none => rfl
    | some s => exact absurd (Row.isFor_of.2 ⟨rfl, rfl⟩) (hf _ ((h.mem _).2 ⟨a, b, s, rfl, hm⟩))
  | some r =>
    obtain ⟨a', b', s, rfl, hm⟩ := (h.mem r).1 (List.mem_of_find?_eq_some hf)
    have named := @List.find?_some Row (·.isFor a.text b.text) _ _ hf
    obtain ⟨rfl, rfl⟩ := Row.isFor_of.1 named
    simp [hm]

theorem Holds.contains (h : Holds text rows m) (a : Name k) (b : Name l) :
    contains rows a.text b.text = (m a b).isSome := by
  have found : (rows.find? fun r => r.isFor a.text b.text).isSome = (m a b).isSome := by
    rw [h.find? a b, Option.isSome_map]
  rw [← found, Bool.eq_iff_iff, List.find?_isSome]
  exact List.any_eq_true

/-- A list of images is the image of a list. -/
theorem exists_map {α β : Type} {f : α → β} {P : α → Prop} {bs : List β}
    (h : ∀ b ∈ bs, ∃ a, b = f a ∧ P a) : ∃ as : List α, bs = as.map f ∧ ∀ a ∈ as, P a := by
  induction bs with
  | nil => exact ⟨[], rfl, by simp⟩
  | cons b rest ih =>
    obtain ⟨a, rfl, ha⟩ := h b (by simp)
    obtain ⟨as, rfl, has⟩ := ih fun c hc => h c (by simp [hc])
    exact ⟨a :: as, rfl, by simpa [ha] using has⟩

/-- The entries of the map, ascending as the rows are. -/
theorem Holds.entries (h : Holds text rows m) :
    ∃ es : List (Name k × Name l × σ), rows = es.map (fun e => .of e.1 e.2.1 (text e.2.2)) ∧
      (es.Pairwise fun e f => e.1 < f.1 ∨ e.1 = f.1 ∧ e.2.1 < f.2.1) ∧
      ∀ a b s, (a, b, s) ∈ es ↔ m a b = some s := by
  obtain ⟨es, rfl, hes⟩ := exists_map
    (f := fun e : Name k × Name l × σ => Row.of e.1 e.2.1 (text e.2.2))
    (P := fun e => m e.1 e.2.1 = some e.2.2) fun r hr => by
      obtain ⟨a, b, s, rfl, hm⟩ := (h.mem r).1 hr
      exact ⟨(a, b, s), rfl, hm⟩
  refine ⟨es, rfl, ?_, fun a b s => ⟨hes _, fun hm => ?_⟩⟩
  · exact (List.pairwise_map.1 h.ascending).imp Row.before_of.1
  · obtain ⟨⟨a', b', s'⟩, he, hr⟩ := List.mem_map.1 ((h.mem _).2 ⟨a, b, s, rfl, hm⟩)
    obtain ⟨rfl, rfl, -⟩ := Row.of_inj.1 hr
    have same : m a' b' = some s' := hes _ he
    obtain rfl : s' = s := by simpa [hm] using same.symm
    exact he

end

end Rows

namespace Store

/-! ### Pairs of users -/

section
variable {a b u v : User}

theorem ordered_lt (h : a ≠ b) : (ordered a b).1 < (ordered a b).2 := by
  unfold ordered
  split
  · assumption
  · exact Name.lt_of_not_lt ‹_› h

theorem ordered_self (a : User) : ordered a a = (a, a) := by
  unfold ordered
  split <;> rfl

/-- Two pairs of users have the same `ordered` pair exactly if they are equal up to order. -/
theorem ordered_eq_iff (h : u < v) :
    ordered a b = (u, v) ↔ a = u ∧ b = v ∨ a = v ∧ b = u := by
  have hvu : ¬ v < u := fun h' => Name.lt_irrefl u (Name.lt_trans h h')
  unfold ordered
  constructor
  · split <;> rintro ⟨⟩
    · exact .inl ⟨rfl, rfl⟩
    · exact .inr ⟨rfl, rfl⟩
  · rintro (⟨rfl, rfl⟩ | ⟨rfl, rfl⟩)
    · simp [h]
    · simp [hvu]

end

/-! ### Reading rows -/

/-- Rows that are read as entries are read in order. -/
theorem collect_map {α β : Type} {read : Row → Except StoreError (Option β)} {row : α → Row}
    {f : α → β} (h : ∀ a, read (row a) = .ok (some (f a))) (as : List α) :
    collect read (as.map row) = .ok (as.map f) := by
  induction as with
  | nil => rfl
  | cons a as ih =>
    rw [List.map_cons, collect, h, ih]
    rfl

/-- Entries that are determined by their images. -/
theorem mem_map_entries {α β : Type} {f : α → β} {g : β → α} {as : List α} {b : β}
    (h : ∀ b, f (g b) = b) (h' : ∀ a, g (f a) = a) : b ∈ as.map f ↔ g b ∈ as := by
  rw [List.mem_map]
  constructor
  · rintro ⟨a, ha, rfl⟩
    rwa [h']
  · intro hb
    exact ⟨g b, hb, h b⟩

/-! ### Lists by owner -/

section
variable {kind : NameKind} {pairs : List (Name kind × User)} {o : Name kind}

/-- The users of an owner, in the order of the pairs. -/
def listed (o : Name kind) (pairs : List (Name kind × User)) : List User :=
  pairs.filterMap fun e => if e.1 = o then some e.2 else none

theorem mem_listed {u : User} : u ∈ listed o pairs ↔ (o, u) ∈ pairs := by
  simp [listed, List.mem_filterMap]

theorem getD_foldl_addTo (pairs : List (Name kind × User)) (t : Table (Name kind) (List User))
    (o : Name kind) :
    ((pairs.foldl (fun t e => addTo t e.1 e.2) t).get? o).getD [] =
      (t.get? o).getD [] ++ listed o pairs := by
  induction pairs generalizing t with
  | nil => simp [listed]
  | cons e rest ih =>
    rw [List.foldl_cons, ih, addTo, Table.get?_insert]
    by_cases he : o = e.1
    · simp [listed, he]
    · simp [listed, he, Ne.symm he]

theorem foldl_addTo_eq_none (pairs : List (Name kind × User))
    (t : Table (Name kind) (List User)) (o : Name kind) :
    (pairs.foldl (fun t e => addTo t e.1 e.2) t).get? o = none ↔
      t.get? o = none ∧ listed o pairs = [] := by
  induction pairs generalizing t with
  | nil => simp [listed]
  | cons e rest ih =>
    rw [List.foldl_cons, ih, addTo, Table.get?_insert]
    by_cases he : o = e.1
    · simp [listed, he]
    · simp [listed, he, Ne.symm he]

/-- The graph has, for every owner with users, the ascending list of them. -/
def Lists (g : Table (Name kind) (List User)) (has : Name kind → User → Prop) : Prop :=
  ∀ o, match g.get? o with
    | none => ∀ u, ¬ has o u
    | some us => us ≠ [] ∧ us.Pairwise (· < ·) ∧ ∀ u, u ∈ us ↔ has o u

theorem Lists.mem {g : Table (Name kind) (List User)} {has : Name kind → User → Prop}
    (h : Lists g has) {u : User} : u ∈ (g.get? o).getD [] ↔ has o u := by
  have listed := h o
  split at listed
  · rename_i hg
    simp [hg, listed u]
  · rename_i us hg
    rw [hg]
    exact listed.2.2 u

/-- After sorting, the lists collected from pairs are those of the pairs. -/
theorem lists_sorted (pairs : List (Name kind × User)) :
    Lists ((pairs.foldl (fun t e => addTo t e.1 e.2) .empty).mapValues Name.sortedSet)
      fun o u => (o, u) ∈ pairs := by
  intro o
  have gathered := getD_foldl_addTo pairs .empty o
  have none_iff := foldl_addTo_eq_none pairs .empty o
  rw [Table.get?_mapValues]
  cases hg : (pairs.foldl (fun t e => addTo t e.1 e.2) .empty).get? o with
  | none =>
    intro u hu
    have hu := mem_listed.2 hu
    rw [(none_iff.1 hg).2] at hu
    cases hu
  | some us =>
    obtain rfl : us = listed o pairs := by simpa [hg] using gathered
    refine ⟨fun hn => ?_, Name.pairwise_sortedSet _, fun u => Name.mem_sortedSet.trans mem_listed⟩
    have empty : listed o pairs = [] := List.eq_nil_iff_forall_not_mem.2 fun u hu => by
      simpa [hn] using Name.mem_sortedSet.2 hu
    rw [none_iff.2 ⟨rfl, empty⟩] at hg
    cases hg

/-- If the users of each owner ascend in the pairs, so do the lists collected from them. -/
theorem lists_foldl_addTo {has : Name kind → User → Prop}
    (h : pairs.Pairwise fun e f => e.1 = f.1 → e.2 < f.2)
    (named : ∀ o u, (o, u) ∈ pairs ↔ has o u) :
    Lists (pairs.foldl (fun t e => addTo t e.1 e.2) .empty) has := by
  intro o
  have gathered := getD_foldl_addTo pairs .empty o
  have none_iff := foldl_addTo_eq_none pairs .empty o
  cases hg : (pairs.foldl (fun t e => addTo t e.1 e.2) .empty).get? o with
  | none =>
    intro u hu
    have := mem_listed.2 ((named o u).2 hu)
    rw [(none_iff.1 hg).2] at this
    cases this
  | some us =>
    obtain rfl : us = listed o pairs := by simpa [hg] using gathered
    refine ⟨fun hn => ?_, ?_, fun u => mem_listed.trans (named o u)⟩
    · rw [none_iff.2 ⟨rfl, hn⟩] at hg
      cases hg
    · refine List.pairwise_filterMap.2 (h.imp fun {e f} hlt u hu v hv => ?_)
      split at hu <;> split at hv <;> cases hu <;> cases hv
      exact hlt (by simp [*])

end

end Store

end Presence
