/-!
# ErrorBoundary.Decimal.Power

Powers of two and of ten, and the whole numbers that fit 64 bits with a sign.
-/

namespace ErrorBoundary

def twoTo (k : Nat) : Nat := Nat.pow 2 k

def tenTo (k : Nat) : Nat := Nat.pow 10 k

/-- Whether a whole number fits 64 bits with a sign. -/
def IsSigned64 (n : Int) : Prop := -(twoTo 63 : Int) ≤ n ∧ n < twoTo 63

instance (n : Int) : Decidable (IsSigned64 n) := inferInstanceAs (Decidable (_ ∧ _))

end ErrorBoundary
