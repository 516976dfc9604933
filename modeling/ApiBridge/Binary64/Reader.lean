import ApiBridge.Binary64.Basic

/-!
# Reading doubles

A double is written as a decimal with an optional point and exponent, or as `inf` or `nan`.
-/

namespace ApiBridge.Binary64

/-- The digits at the start and what follows them. -/
def spanDigits (cs : List Char) : List Char × List Char :=
  (cs.takeWhile Char.isDigit, cs.dropWhile Char.isDigit)

/-- The sign in front and what follows it. -/
def spanSign : List Char → Bool × List Char
  | '-' :: cs => (true, cs)
  | '+' :: cs => (false, cs)
  | cs => (false, cs)

/-- The exponent that ends a number; without one it is zero. -/
def readExponent? : List Char → Option Int
  | [] => some 0
  | e :: cs =>
    if e = 'e' ∨ e = 'E' then
      let (negative, cs) := spanSign cs
      let (ds, rest) := spanDigits cs
      if ds.isEmpty || !rest.isEmpty then none
      else
        let n : Int := (ds.foldl (fun n c => n * 10 + (c.toNat - 48)) 0 : Nat)
        some (if negative then -n else n)
    else none

/-- The double nearest to a written decimal. -/
def readDecimal? (negative : Bool) (cs : List Char) : Option Binary64 := do
  let (whole, rest) := spanDigits cs
  let (places, rest) := match rest with
    | '.' :: rest => spanDigits rest
    | rest => ([], rest)
  if whole.isEmpty && places.isEmpty then none
  else
    let exponent ← readExponent? rest
    let digits := (whole ++ places).foldl (fun n c => n * 10 + (c.toNat - 48)) 0
    return ofDecimal negative digits (exponent - places.length)

/-- The double that a text spells. -/
def read? (cs : List Char) : Option Binary64 :=
  let (negative, cs) := spanSign cs
  let word := String.ofList (cs.map Char.toLower)
  if word = "inf" ∨ word = "infinity" then some (infinity negative)
  else if word = "nan" then some nan
  else readDecimal? negative cs

example : read? "-2.5e-1".toList = some (ofDecimal true 25 (-2)) := by decide +kernel

end ApiBridge.Binary64
