import ApiBridge.Binary64.Reader
import ApiBridge.Calendar.Reader
import ApiBridge.Text.Base64
import ApiBridge.Text.Integer
import ApiBridge.Text.Lowercase
import ApiBridge.Yaml.Error
import ApiBridge.Yaml.ImplicitTag

/-!
# Scalars from texts

What a scalar with a tag stands for. A text that was given its tag explicitly may not fit it.
-/

namespace ApiBridge.Yaml

/-! ### Numbers -/

/-- The sign in front of a number without underscores, and what follows it; there must be
something. -/
def splitSign : List Char → Except Error (Bool × List Char)
  | [] => .error .emptyNumber
  | '-' :: cs => .ok (true, cs)
  | '+' :: cs => .ok (false, cs)
  | cs => .ok (false, cs)

/-- The value of places in a base, the last one counting once. -/
def positional (base : Int) (places : List Int) : Int :=
  places.foldl (fun n d => n * base + d) 0

/-- The number of digits in front, after padding and a sign. -/
def digitCount (cs : List Char) : Nat :=
  ((dropSign (Text.trimPadding cs)).takeWhile fun c => (Text.digitValue? c).isSome).length

/-- An integer in a base. -/
def integerIn (base : Nat) (cs : List Char) : Except Error Int :=
  if base = 10 && Text.decimalDigitLimit < digitCount cs then
    .error (.tooManyDigits (digitCount cs))
  else
    match Text.readInteger? base cs with
    | some n => .ok n
    | none => .error (.noInteger base (String.ofList cs))

/-- The size of an integer: in base two, sixteen, eight or sixty, or ten. -/
def integerSize : List Char → Except Error Int
  | [] => .error .emptyNumber
  | ['0'] => .ok 0
  | '0' :: 'b' :: ds => integerIn 2 ds
  | '0' :: 'x' :: ds => integerIn 16 ds
  | '0' :: ds => integerIn 8 ('0' :: ds)
  | ds =>
    if ds.contains ':' then do
      let places ← (ds.splitOn ':').mapM (integerIn 10)
      return positional 60 places
    else integerIn 10 ds

/-- The integer that a text stands for. -/
def integerOf (s : String) : Except Error Int := do
  let (negative, ds) ← splitSign (s.toList.filter (· ≠ '_'))
  let n ← integerSize ds
  return if negative then -n else n

/-- A number with a point, in digits of any row. -/
def floatIn (cs : List Char) : Except Error Binary64 :=
  match Binary64.read? ((Text.trimPadding cs).map Text.asciiDigit) with
  | some x => .ok x
  | none => .error (.noFloat (String.ofList cs))

/-- The sum of places in base sixty, from the last one on, with the weight of the last one. -/
def sixtySum (sum : Binary64) (weight : Nat) : List Binary64 → Except Error Binary64
  | [] => .ok sum
  | x :: xs =>
    let w := Binary64.ofInt weight
    if w.isInfinite then .error .tooManyPlaces
    else sixtySum (sum.add (x.mul w)) (weight * 60) xs

/-- The number with a point that a text stands for. All scalars that spell out that they are no
number are the same; another that turns out to be none gets the `mark`. -/
def floatOf (mark : Nat) (s : String) : Except Error Binary64 := do
  let cs := (Text.lower s).toList.filter (· ≠ '_')
  let (negative, ds) ← splitSign cs
  let x ←
    if ds = ".inf".toList then pure (Binary64.infinity false)
    else if ds = ".nan".toList then return Binary64.nan
    else if ds.contains ':' then do
      let places ← (ds.splitOn ':').mapM floatIn
      sixtySum (Binary64.zero false) 1 places.reverse
    else floatIn ds
  return if x.isNaN then Binary64.nanMarked mark else if negative then x.neg else x

/-! ### Dates -/

/-- The date or the moment that a text stands for. -/
def timestampOf (s : String) : Except Error Scalar :=
  match Timestamp.read? (dropLastNewline s.toList) with
  | none => .error .noTimestamp
  | some t =>
    match t.time with
    | none =>
      match t.date.fault? with
      | none => .ok (.date t.date)
      | some f => .error (.noDate f)
    | some time =>
      let m := Timestamp.moment t.date time
      match m.fault? with
      | none => .ok (.moment m)
      | some f => .error (.noDate f)

/-! ### Other scalars -/

/-- The truth value that a word stands for. -/
def truthOf (s : String) : Except Error Bool :=
  let word := Text.lower s
  match truthWords.lookup word with
  | some b => .ok b
  | none => .error (.noTruth word)

/-- The bytes that letters stand for. -/
def bytesOf (s : String) : Except Error (List UInt8) :=
  if !s.toList.all fun c => c.toNat < 128 then malformed "bytes that are not written in letters"
  else
    match Text.ofBase64? s with
    | some bs => .ok bs
    | none => malformed "bytes that are cut off"

end ApiBridge.Yaml
