/-!
# Ranges of code points

Classes of characters are given as lists of ranges of code points.
-/

namespace ApiBridge.Text

/-- The code points from `first` to `last`, both included. -/
structure CodeRange where
  first : Nat
  last : Nat
  deriving DecidableEq, Repr

namespace CodeRange

/-- The range between the two numbers of a pair. -/
def ofPair (p : Nat × Nat) : CodeRange :=
  ⟨p.1, p.2⟩

/-- Does one of the ranges hold the code point `n`? -/
def covers (rs : List CodeRange) (n : Nat) : Bool :=
  rs.any fun r => r.first ≤ n && n ≤ r.last

@[simp] theorem covers_nil (n : Nat) : covers [] n = false := rfl

@[simp] theorem covers_cons (r : CodeRange) (rs : List CodeRange) (n : Nat) :
    covers (r :: rs) n = ((r.first ≤ n && n ≤ r.last) || covers rs n) := rfl

end CodeRange

end ApiBridge.Text
