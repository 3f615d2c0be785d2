import Presence.Clock

/-!
Lemmas on `runUntil`. If the next due moment increases with every arrival, enough rounds lead to the
target moment, and `arrive` is called at every due moment on the way.
-/

namespace Presence.Clock

section
variable {σ : Type} {due? : σ → Option Instant} {arrive : Instant → σ → σ} {stop : Instant}
  {P Q : σ → Prop} {m : σ → Nat}

/-- Induction over the rounds: `P` is preserved from one due moment to the next, and `Q` follows
from it at the target. The measure `m` decreases with every round, so more rounds than `m`
suffice. -/
theorem runUntil_of_arrivals
    (go : ∀ {s t}, P s → due? s = some t → t ≤ stop → P (arrive t s) ∧ m (arrive t s) < m s)
    (done : ∀ {s}, P s → (∀ t, due? s = some t → stop < t) → Q (arrive stop s))
    {rounds : Nat} {s : σ} (hs : P s) (hl : m s < rounds) :
    Q (runUntil due? arrive stop rounds s) := by
  induction rounds generalizing s with
  | zero => cases hl
  | succ rounds ih =>
    unfold runUntil
    split
    · rename_i t ht
      split
      · rename_i hle
        obtain ⟨kept, less⟩ := go hs ht hle
        exact ih kept (Nat.lt_of_lt_of_le less (Nat.le_of_lt_succ hl))
      · rename_i hle
        refine done hs fun t' ht' => ?_
        cases ht.symm.trans ht'
        exact Nat.lt_of_not_le hle
    · rename_i hn
      exact done hs fun t ht => by simp [hn] at ht

end

end Presence.Clock
