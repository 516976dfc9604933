import ApiBridge.Calendar.Basic

/-!
# Written dates and moments

A timestamp is a date, which may be followed by a time of day, a fraction of a second and a zone.
-/

namespace ApiBridge

/-- A zone: universal time, or a distance from it in minutes. -/
inductive Zone
  | universal
  | offset (minutes : Int)
  deriving DecidableEq, Repr

/-- A time of day as it is written. -/
structure WrittenTime where
  hour : Nat
  minute : Nat
  second : Nat
  fraction : List Char
  zone : Option Zone
  deriving DecidableEq, Repr

/-- A timestamp as it is written; the calendar may not have the day. -/
structure Timestamp where
  date : Date
  /-- Do the month and the day both have two digits? -/
  isWide : Bool
  time : Option WrittenTime
  deriving DecidableEq, Repr

namespace Timestamp

/-- The number of decimal digits. -/
def number (ds : List Char) : Nat :=
  ds.foldl (fun n c => n * 10 + (c.toNat - 48)) 0

/-- The digits at the start, if there are from `least` to `most` of them; at most `most` are taken. -/
def takeDigits (least most : Nat) (cs : List Char) : Option (List Char × List Char) :=
  let ds := (cs.take most).takeWhile Char.isDigit
  if least ≤ ds.length then some (ds, cs.drop ds.length) else none

/-- The rest after a character, if it is the one expected. -/
def expect (c : Char) : List Char → Option (List Char)
  | d :: cs => if c = d then some cs else none
  | [] => none

def isGap (c : Char) : Bool := c = ' ' || c = '\t'

/-- The zone at the end of a timestamp. -/
def readZone? (cs : List Char) : Option (Option Zone) :=
  match cs.dropWhile isGap with
  | [] => if cs.isEmpty then some none else none
  | ['Z'] => some (some .universal)
  | sign :: rest =>
    if sign = '+' ∨ sign = '-' then do
      let (hours, rest) ← takeDigits 1 2 rest
      let minutes ← match rest with
        | [] => some 0
        | ':' :: rest => do
          let (minutes, rest) ← takeDigits 2 2 rest
          if rest.isEmpty then some (number minutes) else none
        | _ => none
      let distance : Int := number hours * 60 + minutes
      return some (.offset (if sign = '-' then -distance else distance))
    else none

/-- The time of day at the end of a timestamp, with the mark or the gap before it. -/
def readTime? (cs : List Char) : Option WrittenTime := do
  let rest ← match cs with
    | 'T' :: rest => some rest
    | 't' :: rest => some rest
    | c :: rest => if isGap c then some (rest.dropWhile isGap) else none
    | [] => none
  let (hour, rest) ← takeDigits 1 2 rest
  let rest ← expect ':' rest
  let (minute, rest) ← takeDigits 2 2 rest
  let rest ← expect ':' rest
  let (second, rest) ← takeDigits 2 2 rest
  let (fraction, rest) := match rest with
    | '.' :: rest => (rest.takeWhile Char.isDigit, rest.dropWhile Char.isDigit)
    | rest => ([], rest)
  let zone ← readZone? rest
  return ⟨number hour, number minute, number second, fraction, zone⟩

/-- A whole timestamp. -/
def read? (cs : List Char) : Option Timestamp := do
  let (year, rest) ← takeDigits 4 4 cs
  let rest ← expect '-' rest
  let (month, rest) ← takeDigits 1 2 rest
  let rest ← expect '-' rest
  let (day, rest) ← takeDigits 1 2 rest
  let date : Date := ⟨number year, number month, number day⟩
  let isWide := month.length == 2 && day.length == 2
  match rest with
  | [] => return ⟨date, isWide, none⟩
  | rest => return ⟨date, isWide, some (← readTime? rest)⟩

/-- The microseconds of a fraction: its first six digits. -/
def micros (fraction : List Char) : Nat :=
  number ((fraction ++ List.replicate 6 '0').take 6)

/-- The moment of a date and a time. -/
def moment (date : Date) (t : WrittenTime) : Moment :=
  let offset := t.zone.map fun
    | .universal => 0
    | .offset minutes => minutes
  ⟨date, t.hour, t.minute, t.second, micros t.fraction, offset⟩

end Timestamp

end ApiBridge
