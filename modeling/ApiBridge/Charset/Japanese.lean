import ApiBridge.Charset.MultiByte
import ApiBridge.Charset.Table.CodePage932
import ApiBridge.Charset.Table.JisX0208
import ApiBridge.Charset.Table.JisX0212
import ApiBridge.Charset.Table.JisX0213

/-!
# Japanese charsets

Several charsets share one grid of characters. Extended Unix code puts rows and cells into bytes as
they are; shifted code moves two rows into one first byte, to keep single bytes for half-width kana.
Each of them has an extended form, with a second grid.
-/

namespace ApiBridge.Charset

/-- The cells of the common characters. -/
def jisX0208 : Array Char :=
  gridOfRuns (rowLength * rowLength) jisX0208Runs

/-- The cells of the supplementary characters. -/
def jisX0212 : Array Char :=
  gridOfRuns (rowLength * rowLength) jisX0212Runs

/-- The half-width kana of a byte. -/
def halfWidthKana? (b : Nat) : Option Char :=
  if 0xa1 ≤ b && b ≤ 0xdf then some (Char.ofNat (0xff61 + (b - 0xa1))) else none

/-- The single bytes of the Japanese variant of ASCII, which has a yen sign and an overline. -/
def japaneseSingle? (b : Nat) : Option Char :=
  if b = 0x5c then some '¥' else if b = 0x7e then some '‾' else MultiByte.asciiOnly b

/-! ### Extended grids -/

/-- The two editions of the extended grids. -/
inductive JisEdition
  | first
  | second
  deriving DecidableEq, Repr

/-- How the backslash and the tilde of the first grid are read. -/
inductive JisWidth
  /-- Both are wide ones. -/
  | wide
  /-- Only the backslash is a wide one. -/
  | mixed
  | narrow
  deriving DecidableEq, Repr

/-- The cells of the first grid. -/
def jisX0213First : Array Char :=
  putRuns jisX0208 jisX0213FirstRuns

/-- The cells of the second grid. -/
def jisX0213Second : Array Char :=
  gridOfRuns (rowLength * rowLength) jisX0213SecondRuns

/-- The cells of the backslash and the tilde. -/
def backslashCell : Nat := 31
def tildeCell : Nat := 111

/-- The text in a cell of the first grid. -/
def firstGridText? (edition : JisEdition) (width : JisWidth) (i : Nat) : Option (List Char) :=
  if i = backslashCell && width = .narrow then some ['\\']
  else if i = tildeCell && width ≠ .wide then some ['~']
  else if edition = .first && jisX0213Later.contains i then none
  else textAt? jisX0213First jisX0213Pairs i

/-- The cell of the second grid whose character differs between the editions. -/
def changedCell : Nat := 92 * rowLength + 26

/-- The character in a cell of the second grid. -/
def secondGridChar? (edition : JisEdition) (i : Nat) : Option Char :=
  if edition = .first && i = changedCell then some '鬝' else cellAt? jisX0213Second i

/-! ### Shifted code -/

/-- The number of a first byte among those that start a pair. -/
def shiftedLead? (b : Nat) : Option Nat :=
  if 0x81 ≤ b && b ≤ 0x9f then some (b - 0x81)
  else if 0xe0 ≤ b && b ≤ 0xfc then some (b - 0xc1)
  else none

/-- The number of a second byte. -/
def shiftedTrail? (b : Nat) : Option Nat :=
  if 0x40 ≤ b && b ≤ 0x7e then some (b - 0x40)
  else if 0x80 ≤ b && b ≤ 0xfc then some (b - 0x41)
  else none

/-- The cell of a pair: a first byte has two rows. -/
def shiftedCell? (lead trail : Nat) : Option Nat := do
  return (← shiftedLead? lead) * (2 * rowLength) + (← shiftedTrail? trail)

/-- The single bytes of shifted code. -/
def shiftedSingle? (b : Nat) : Option Char :=
  MultiByte.asciiOnly b <|> halfWidthKana? b

/-- Shifted code. -/
def shiftJis : MultiByte where
  names := ["shift_jis"]
  labels := ["csshiftjis", "shiftjis", "sjis", "s_jis", "x_mac_japanese"]
  take := MultiByte.takePair shiftedSingle? (MultiByte.cellPair? jisX0208 shiftedCell?)

/-- The cells of code page 932. Those for private use are left empty. -/
def codePage932Cells : Array Char :=
  putRuns (jisX0208 ++ Array.replicate (26 * rowLength) replacement) codePage932Runs

/-- The first cell for private use in code page 932. -/
def privateCell : Nat := 94 * rowLength

/-- The text of a pair in code page 932. -/
def codePage932Pair? (lead trail : Nat) : Option (List Char) := do
  let i ← shiftedCell? lead trail
  if privateCell ≤ i && i < privateCell + 20 * rowLength then
    return [Char.ofNat (0xe000 + (i - privateCell))]
  else return [← cellAt? codePage932Cells i]

/-- The single bytes of code page 932. -/
def codePage932Single? (b : Nat) : Option Char :=
  if b = 0x80 then some '\u0080'
  else if b = 0xa0 then some '\uf8f0'
  else if 0xfd ≤ b then some (Char.ofNat (0xf8f1 + (b - 0xfd)))
  else shiftedSingle? b

/-- Code page 932: shifted code with further characters. -/
def codePage932 : MultiByte where
  names := ["cp932"]
  labels := ["932", "ms932", "mskanji", "ms_kanji"]
  take := MultiByte.takePair codePage932Single? codePage932Pair?

/-- The rows of the second grid that shifted code has behind the first grid. -/
def shiftedRows : List Nat :=
  [0, 7, 2, 3, 4, 11, 12, 13, 14] ++ List.range' 77 17

/-- The text of a pair in extended shifted code. -/
def extendedShiftedPair? (edition : JisEdition) (lead trail : Nat) : Option (List Char) := do
  let i ← shiftedCell? lead trail
  if i < privateCell then firstGridText? edition .narrow i
  else
    let row ← shiftedRows[(i - privateCell) / rowLength]?
    return [← secondGridChar? edition (row * rowLength + i % rowLength)]

/-- Take what the characters of an edition are. Bytes that are a character of the second edition
only are one gap in the first one. -/
def takeOfEdition (take : JisEdition → UInt8 → List UInt8 → Taken) (edition : JisEdition)
    (b : UInt8) (bs : List UInt8) : Taken :=
  let taken := take edition b bs
  if taken.text?.isSome then taken else .gap (take .second b bs).more

/-- Extended shifted code of an edition. -/
def extendedShiftJis (edition : JisEdition) (names labels : List String) : MultiByte where
  names := names
  labels := labels
  take := takeOfEdition (fun edition => MultiByte.takePair
    (fun b => japaneseSingle? b <|> halfWidthKana? b) (extendedShiftedPair? edition)) edition

def shiftJisX0213 : MultiByte :=
  extendedShiftJis .first ["shift_jisx0213"] ["shiftjisx0213", "sjisx0213", "s_jisx0213"]

def shiftJis2004 : MultiByte :=
  extendedShiftJis .second ["shift_jis_2004"] ["shiftjis2004", "sjis_2004", "s_jis_2004"]

/-! ### Extended Unix code -/

/-- The byte in front of a half-width kana. -/
def kanaMark : Nat := 0x8e

/-- The byte in front of a pair of the second grid. -/
def secondGridMark : UInt8 := 0x8f

/-- Take a character of extended Unix code, whose texts are given by the cells of two grids. -/
def takeExtended (first? second? : Nat → Option (List Char)) (b : UInt8) (bs : List UInt8) :
    Taken :=
  if b = secondGridMark then
    match bs with
    | l :: t :: _ => .ofText? ((cellOfHighPair? l.toNat t.toNat).bind second?) 2
    | rest => .gap rest.length
  else
    let pair? (lead trail : Nat) : Option (List Char) :=
      if lead = kanaMark then (halfWidthKana? trail).map ([·])
      else (cellOfHighPair? lead trail).bind first?
    MultiByte.takePair MultiByte.asciiOnly pair? b bs

/-- Japanese in extended Unix code. -/
def eucJp : MultiByte where
  names := ["euc_jp"]
  labels := ["eucjp", "ujis", "u_jis"]
  take := takeExtended (fun i => (cellAt? jisX0208 i).map ([·]))
    (fun i => (cellAt? jisX0212 i).map ([·]))

/-- Japanese in extended Unix code with the extended grids of an edition. The cells of the second
grid that are not used hold the supplementary characters. -/
def extendedEuc (edition : JisEdition) (names labels : List String) : MultiByte where
  names := names
  labels := labels
  take := takeOfEdition (fun edition => takeExtended (firstGridText? edition .wide) fun i =>
    (secondGridChar? edition i <|> cellAt? jisX0212 i).map ([·])) edition

def eucJisX0213 : MultiByte :=
  extendedEuc .first ["euc_jisx0213"] ["eucjisx0213"]

def eucJis2004 : MultiByte :=
  extendedEuc .second ["euc_jis_2004"] ["jisx0213", "eucjis2004", "euc_jis2004"]

end ApiBridge.Charset
