/-!
# Names in ASCII

A name in any script can be written in ASCII: its ASCII characters come first, and digits to the
base 36 say where which other characters go. Each number has as many digits as it needs, since the
digits tell where it ends, and how they tell it adapts to the numbers before.
-/

namespace ApiBridge.Text

/-! ### Digits -/

def punycodeDigit (n : Nat) : Char :=
  if n < 26 then Char.ofNat ('a'.toNat + n) else Char.ofNat ('0'.toNat + (n - 26))

/-- The value of a digit. -/
def punycodeValue? (c : Char) : Option Nat :=
  if 'a' ≤ c && c ≤ 'z' then some (c.toNat - 'a'.toNat)
  else if 'A' ≤ c && c ≤ 'Z' then some (c.toNat - 'A'.toNat)
  else if c.isDigit then some (c.toNat - '0'.toNat + 26)
  else none

/-- The least value of a digit, at a place, after which a number goes on. -/
def threshold (place bias : Nat) : Nat :=
  if place ≤ bias then 1 else if bias + 26 ≤ place then 26 else place - bias

theorem threshold_pos (place bias : Nat) : 1 ≤ threshold place bias := by
  unfold threshold; split <;> (try split) <;> omega

/-- Divide by 35 until no more than 455 is left, and count the places. -/
def damped (place delta : Nat) : Nat × Nat :=
  if 455 < delta then damped (place + 36) (delta / 35) else (place, delta)
termination_by delta
decreasing_by omega

/-- The next bias, after a number with so many characters placed. -/
def adapted (delta count : Nat) (first : Bool) : Nat :=
  let delta := if first then delta / 700 else delta / 2
  let (place, delta) := damped 0 (delta + delta / count)
  place + 36 * delta / (delta + 38)

/-! ### Writing -/

/-- The digits of a number. -/
def numberDigits (bias place n : Nat) : List Char :=
  let t := threshold place bias
  if n < t then [punycodeDigit n]
  else punycodeDigit (t + (n - t) % (36 - t)) :: numberDigits bias (place + 36) ((n - t) / (36 - t))
termination_by n
decreasing_by
  have := threshold_pos place bias
  exact Nat.lt_of_le_of_lt (Nat.div_le_self _ _) (by omega)

/-- What has been written so far. -/
structure PunycodeState where
  written : List Char
  /-- The places passed over since the last character was placed. -/
  delta : Nat
  bias : Nat
  /-- How many characters are placed. -/
  placed : Nat

/-- Pass over the characters of a name once, and place those with the code point `n`; `basic` of its
characters were there at the start. -/
def placeAll (basic n : Nat) (name : List Char) (s : PunycodeState) : PunycodeState :=
  name.foldl (fun s c =>
    if c.toNat < n then { s with delta := s.delta + 1 }
    else if c.toNat = n then
      ⟨s.written ++ numberDigits s.bias 36 s.delta, 0,
        adapted s.delta (s.placed + 1) (s.placed = basic), s.placed + 1⟩
    else s) s

/-- Place the characters with the given code points in turn; those below `n` are placed. -/
def placeInTurn (basic : Nat) (name : List Char) : Nat → List Nat → PunycodeState → PunycodeState
  | _, [], s => s
  | n, m :: ms, s =>
    let s := placeAll basic m name { s with delta := s.delta + (m - n) * (s.placed + 1) }
    placeInTurn basic name (m + 1) ms { s with delta := s.delta + 1 }

/-- A name in ASCII. -/
def toPunycode (name : List Char) : List Char :=
  let basic := name.filter (·.toNat < 0x80)
  let others := ((name.filter (0x80 ≤ ·.toNat)).map Char.toNat).mergeSort.eraseDups
  let start : PunycodeState := ⟨[], 0, 72, basic.length⟩
  let digits := (placeInTurn basic.length name 0x80 others start).written
  if basic.isEmpty then digits else basic ++ '-' :: digits

/-! ### Reading -/

/-- The number that digits start with, and the digits after it. -/
def readNumber (bias : Nat) (place weight n : Nat) : List Char → Option (Nat × List Char)
  | [] => none
  | c :: cs => do
    let d ← punycodeValue? c
    let t := threshold place bias
    let n := n + d * weight
    if d < t then return (n, cs) else readNumber bias (place + 36) (weight * (36 - t)) n cs

theorem length_readNumber {bias place weight n m : Nat} {cs rest : List Char}
    (h : readNumber bias place weight n cs = some (m, rest)) : rest.length < cs.length := by
  induction cs generalizing place weight n with
  | nil => simp [readNumber] at h
  | cons c cs ih =>
    cases hd : punycodeValue? c with
    | none => simp [readNumber, hd] at h
    | some d =>
      simp only [readNumber, hd, Option.bind_eq_bind, Option.bind_some] at h
      split at h
      · simp only [Option.pure_def, Option.some.injEq, Prod.mk.injEq] at h
        simp [← h.2]
      · exact Nat.lt_trans (ih h) (by simp)

/-- A character by its code point, which is at most the last one. Half of a surrogate pair is no
character. -/
def characterAt (code : Nat) : Char :=
  if code.isValidChar then Char.ofNat code else '\ufffd'

/-- The last code point. -/
def lastCodePoint : Nat := 0x10ffff

/-- What is read of a name in ASCII. -/
structure PunycodeReading where
  name : List Char
  /-- Do the digits tell numbers, and the numbers characters? -/
  isWhole : Bool
  deriving DecidableEq, Repr

/-- Put the characters that digits tell into a name. `next` is the place of the next character,
counted on through all code points from `code` on. Digits that tell no number end the name, and a
question mark stands for what is no character. -/
def insertAll (code next bias : Nat) (first : Bool) (name : List Char) (digits : List Char) :
    PunycodeReading :=
  if digits.isEmpty then ⟨name, true⟩
  else
    match _h : readNumber bias 36 1 0 digits with
    | none => ⟨name, false⟩
    | some (delta, rest) =>
      let count := name.length + 1
      let i := next + delta
      let reached := code + i / count
      let code := if reached ≤ lastCodePoint then reached else '?'.toNat
      let whole := insertAll code (i % count + 1) (adapted delta count first) false
        (name.insertIdx (i % count) (characterAt code)) rest
      if reached ≤ lastCodePoint then whole else { whole with isWhole := false }
termination_by digits.length
decreasing_by exact length_readNumber _h

/-- The digits of a name in ASCII: what stands behind its last dash. -/
def punycodeDigits {α : Type} [DecidableEq α] (dash : α) (cs : List α) : List α :=
  (cs.reverse.takeWhile (· ≠ dash)).reverse

/-- The characters of a name in ASCII that stand for themselves, and the others. -/
def readPunycode (basic digits : List Char) : PunycodeReading :=
  insertAll 0x80 0 72 true basic digits

/-- The name that ASCII stands for. -/
def ofPunycode? (cs : List Char) : Option (List Char) :=
  let digits := punycodeDigits '-' cs
  let reading := readPunycode (cs.take (cs.length - digits.length)).dropLast digits
  if reading.isWhole then some reading.name else none

example : toPunycode "bücher".toList = "bcher-kva".toList := by decide +kernel
example : ofPunycode? "bcher-kva".toList = some "bücher".toList := by decide +kernel

end ApiBridge.Text
