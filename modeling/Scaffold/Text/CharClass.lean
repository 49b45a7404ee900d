/-! # Character classes

A class is a list of closed ranges of code points.
-/

namespace Scaffold.Text

abbrev CharClass := List (Nat × Nat)

namespace CharClass

def has (k : CharClass) (c : Char) : Bool :=
  k.any fun r => decide (r.1 ≤ c.toNat) && decide (c.toNat ≤ r.2)

theorem has_iff {k : CharClass} {c : Char} :
    k.has c = true ↔ ∃ r ∈ k, r.1 ≤ c.toNat ∧ c.toNat ≤ r.2 := by
  simp [has]

end CharClass

end Scaffold.Text
