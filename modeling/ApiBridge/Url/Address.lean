/-!
# Numeric addresses

A host may be given by the numbers of its address: four numbers with dots between them, or eight
hexadecimal numbers with colons between them, where one run of zeros may be left out.
-/

namespace ApiBridge.Url

/-! ### Four numbers -/

/-- Is the text a number of at most 255 as it stands in an address? -/
def isOctet (cs : List Char) : Bool :=
  !cs.isEmpty && cs.length ≤ 3 && cs.all Char.isDigit && (cs.head? ≠ some '0' || cs.length = 1)
    && cs.foldl (fun n c => n * 10 + (c.toNat - '0'.toNat)) 0 ≤ 255

/-- Is the text an address of four numbers? -/
def isShortAddress (cs : List Char) : Bool :=
  let parts := cs.splitOn '.'
  parts.length = 4 && parts.all isOctet

/-- Does the text look like four numbers with dots between them? -/
def looksNumeric (cs : List Char) : Bool :=
  let parts := cs.splitOn '.'
  parts.length = 4 && parts.all fun part => !part.isEmpty && part.all Char.isDigit

/-! ### Eight numbers -/

/-- Is the character a hexadecimal digit? -/
def isHexDigit (c : Char) : Bool :=
  c.isDigit || ('a' ≤ c && c ≤ 'f') || ('A' ≤ c && c ≤ 'F')

/-- Is the text a hexadecimal number of at most four digits? -/
def isHextet (cs : List Char) : Bool :=
  !cs.isEmpty && cs.length ≤ 4 && cs.all isHexDigit

/-- The parts of an address. An address of four numbers at the end counts as two parts. -/
def hextets? (cs : List Char) : Option (List (List Char)) :=
  let parts := cs.splitOn ':'
  let last := parts.getLastD []
  if parts.length < 3 then none
  else if last.contains '.' then
    if isShortAddress last then some (parts.dropLast ++ [['0'], ['0']]) else none
  else some parts

/-- Are the parts on one side of a gap numbers? An empty part may only stand alone at the outer
end. -/
def isSide (outer : Option (List Char)) (parts : List (List Char)) : Bool :=
  (outer = some [] && parts.length = 1) || parts.all isHextet

/-- The number of parts on one side of a gap. -/
def sideLength (outer : Option (List Char)) (parts : List (List Char)) : Nat :=
  if outer = some [] then parts.length - 1 else parts.length

/-- Are the parts eight numbers, or fewer with one gap between them? -/
def areHextets (parts : List (List Char)) : Bool :=
  let inner := parts.tail.dropLast
  match inner.idxOf? [] with
  | none => parts.length = 8 && parts.all isHextet
  | some i =>
    let low := parts.take (i + 1)
    let high := parts.drop (i + 2)
    parts.length ≤ 9 && inner.count [] = 1 && isSide low.head? low && isSide high.getLast? high
      && sideLength low.head? low + sideLength high.getLast? high ≤ 7

/-- Is the text an address of eight numbers? A percent sign and the name of a zone may follow. -/
def isLongAddress (cs : List Char) : Bool :=
  let zone := cs.dropWhile (· ≠ '%')
  (zone.isEmpty || (1 < zone.length && !zone.tail.contains '%'))
    && (hextets? (cs.takeWhile (· ≠ '%'))).any areHextets

example : isShortAddress "127.0.0.1".toList ∧ ¬ isShortAddress "127.0.0.01".toList := by
  decide +kernel
example : isLongAddress "::1".toList ∧ ¬ isLongAddress "::1::".toList := by decide +kernel

end ApiBridge.Url
