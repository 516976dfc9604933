import ApiBridge.Charset.MultiByte
import ApiBridge.Charset.Table.Big5
import ApiBridge.Charset.Table.Gb2312
import ApiBridge.Charset.Table.Gbk
import ApiBridge.Charset.Table.Hkscs

/-!
# Chinese charsets

The charsets for simplified Chinese contain each other: a grid of common characters, a wider grid
with all unified ideographs, and a charset where all other characters are groups of four bytes. The
charset for traditional Chinese has a grid of its own.
-/

namespace ApiBridge.Charset

/-! ### Simplified Chinese -/

/-- The cells of the common characters. -/
def gb2312Cells : Array Char :=
  gridOfRuns (rowLength * rowLength) gb2312Runs

/-- Simplified Chinese. -/
def gb2312 : MultiByte where
  names := ["gb2312"]
  labels := ["chinese", "csiso58gb231280", "euc_cn", "euccn", "eucgb2312_cn", "gb2312_1980",
    "gb2312_80", "iso_ir_58", "x_mac_simp_chinese"]
  take := MultiByte.takeCell gb2312Cells cellOfHighPair?

/-- The number of cells of a row in the wider grid. -/
def wideRowLength : Nat := 190

/-- The cell of a pair in the wider grid. -/
def wideCell? (lead trail : Nat) : Option Nat :=
  if lead < 0x81 || 0xfe < lead then none
  else if 0x40 ≤ trail && trail ≤ 0x7e then some ((lead - 0x81) * wideRowLength + (trail - 0x40))
  else if 0x80 ≤ trail && trail ≤ 0xfe then some ((lead - 0x81) * wideRowLength + (trail - 0x41))
  else none

/-- The cell in the wider grid of a cell for a common character. -/
def widened (i : Nat) : Nat :=
  (i / rowLength + 32) * wideRowLength + (i % rowLength + 96)

/-- The cell of the `i`-th ideograph that is not common: they fill 32 rows, and then the first 96
cells of the rows from the 41st on. -/
def rareIdeographCell (i : Nat) : Nat :=
  if i < 32 * wideRowLength then i
  else
    let i := i - 32 * wideRowLength
    (i / 96 + 41) * wideRowLength + i % 96

/-- Put the characters of one grid into the given cells of another. -/
def placeAt (cells : Array Char) (cell : Nat → Nat) (characters : Array Char) : Array Char :=
  (characters.foldl (fun (cells, i) c => (cells.setIfInBounds (cell i) c, i + 1)) (cells, 0)).1

/-- The wider grid. -/
def gbkCells : Array Char :=
  let common := placeAt (Array.replicate (126 * wideRowLength) replacement) widened gb2312Cells
  let all := placeAt common rareIdeographCell (absentBetween gb2312Cells 0x4e00 0x9fa5)
  putRuns all gbkRuns

/-- Simplified Chinese with all unified ideographs. -/
def gbk : MultiByte where
  names := ["gbk"]
  labels := ["936", "cp936", "ms936"]
  take := MultiByte.takeCell gbkCells wideCell?

/-- The wider grid with all its cells in use. -/
def gb18030Cells : Array Char :=
  gb18030PrivateRuns.foldl
    (fun cells (start, first, count) =>
      putRun cells start (String.ofList ((List.range count).map fun i => Char.ofNat (first + i))))
    (putRuns gbkCells gb18030Runs)

/-- The characters of the first 65536 that are groups of four bytes. -/
def gb18030Others : Array Char :=
  absentBetween gb18030Cells 0x80 0xffff

/-- The number of the first group of four bytes for a character beyond the first 65536. -/
def supplementaryGroup : Nat := 189000

/-- The character of four bytes. -/
def fourByteCharacter? (a b c d : Nat) : Option Char :=
  if a < 0x81 || 0xfe < a || c < 0x81 || 0xfe < c || d < 0x30 || 0x39 < d then none
  else
    let n := ((a - 0x81) * 10 + (b - 0x30)) * 1260 + (c - 0x81) * 10 + (d - 0x30)
    if n < supplementaryGroup then gb18030Others[n]?
    else ofCodePoint? (0x10000 + (n - supplementaryGroup))

/-- Take a single byte, a pair, or a group of four bytes, whose second byte is a digit. -/
def takeGb18030 (b : UInt8) (bs : List UInt8) : Taken :=
  if 0x80 ≤ b && bs.head?.any (fun t => 0x30 ≤ t && t ≤ 0x39) then
    match bs with
    | t :: u :: v :: _ =>
      .ofText? ((fourByteCharacter? b.toNat t.toNat u.toNat v.toNat).map ([·])) 3
    | rest => .gap rest.length
  else MultiByte.takeCell gb18030Cells wideCell? b bs

/-- Chinese with all characters there are. -/
def gb18030 : MultiByte where
  names := ["gb18030"]
  labels := ["gb18030_2000"]
  take := takeGb18030

/-! ### Traditional Chinese -/

/-- The cell of a pair in the grid of traditional Chinese. -/
def big5Cell? (lead trail : Nat) : Option Nat :=
  if lead < 0xa1 || 0xf9 < lead then none
  else if 0x40 ≤ trail && trail ≤ 0x7e then some ((lead - 0xa1) * 157 + (trail - 0x40))
  else if 0xa1 ≤ trail && trail ≤ 0xfe then some ((lead - 0xa1) * 157 + (trail - 0x62))
  else none

def big5Cells : Array Char :=
  gridOfRuns (89 * 157) big5Runs

/-- Traditional Chinese. -/
def big5 : MultiByte where
  names := ["big5"]
  labels := ["big5_tw", "csbig5", "x_mac_trad_chinese"]
  take := MultiByte.takeCell big5Cells big5Cell?

/-- The cells of code page 950. -/
def codePage950Cells : Array Char :=
  putRuns big5Cells codePage950Runs

/-- Code page 950: traditional Chinese with further characters. -/
def codePage950 : MultiByte where
  names := ["cp950"]
  labels := ["950", "ms950"]
  take := MultiByte.takeCell codePage950Cells big5Cell?

/-- How many rows the set of Hong Kong has in front of those of Big5. -/
def hkscsRowsInFront : Nat := 26

/-- The cell of a pair in the grid of Hong Kong. -/
def hkscsCell? (lead trail : Nat) : Option Nat :=
  if lead < 0x87 || 0xfe < lead then none
  else if 0x40 ≤ trail && trail ≤ 0x7e then some ((lead - 0x87) * 157 + (trail - 0x40))
  else if 0xa1 ≤ trail && trail ≤ 0xfe then some ((lead - 0x87) * 157 + (trail - 0x62))
  else none

/-- The cells of the set of Hong Kong. -/
def hkscsCells : Array Char :=
  let empty := Array.replicate (hkscsRowsInFront * 157) replacement
  putRuns (empty ++ big5Cells ++ Array.replicate (5 * 157) replacement) hkscsRuns

/-- Traditional Chinese with the set of Hong Kong. -/
def big5Hkscs : MultiByte where
  names := ["big5hkscs"]
  labels := ["big5_hkscs", "hkscs"]
  take := MultiByte.takePair MultiByte.asciiOnly fun lead trail =>
    (hkscsCell? lead trail).bind (textAt? hkscsCells hkscsPairs)

end ApiBridge.Charset
