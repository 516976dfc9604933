import ApiBridge.Charset.Basic
import ApiBridge.Charset.Table.CodePage
import ApiBridge.Charset.Table.Iso
import ApiBridge.Charset.Table.Macintosh
import ApiBridge.Charset.Table.Regional

/-!
# Labels of charsets

A charset goes by several labels. In a label only letters, digits and dots count: whatever stands
between them counts as one underscore, and whatever stands around them does not count.
-/

namespace ApiBridge.Charset

/-- All tables of bytes. -/
def byteTables : List ByteTable :=
  isoTables ++ codePages ++ macintoshTables ++ regionalTables

/-- All charsets with pairs of bytes. -/
def multiByteCharsets : List MultiByte :=
  [shiftJis, codePage932, shiftJisX0213, shiftJis2004, eucJp, eucJisX0213, eucJis2004, eucKr,
    unifiedKorean, johab, gb2312, gbk, gb18030, big5, codePage950, big5Hkscs]

/-- The other charsets: what they are called, and what else. -/
def furtherCharsets : List (Charset × List String × List String) :=
  [(.utf8 false, ["utf_8"], ["u8", "utf", "utf8", "utf8_ucs2", "utf8_ucs4", "cp65001"]),
    (.utf8 true, ["utf_8_sig"], []),
    (.utf7, ["utf_7"], ["u7", "utf7", "unicode_1_1_utf_7"]),
    (.utf16 none, ["utf_16"], ["u16", "utf16"]),
    (.utf16 (some .little), ["utf_16_le"], ["unicodelittleunmarked", "utf_16le"]),
    (.utf16 (some .big), ["utf_16_be"], ["unicodebigunmarked", "utf_16be"]),
    (.utf32 none, ["utf_32"], ["u32", "utf32"]),
    (.utf32 (some .little), ["utf_32_le"], ["utf_32le"]),
    (.utf32 (some .big), ["utf_32_be"], ["utf_32be"]),
    (.escaped, ["unicode_escape"], []),
    (.escapedRaw, ["raw_unicode_escape"], []),
    (.tildes, ["hz"], ["hzgb", "hz_gb", "hz_gb_2312"]),
    (.punycode, ["punycode"], []),
    (.hostName, ["idna"], []),
    (.ofBytes, ["base64_codec", "bz2_codec", "hex_codec", "quopri_codec", "uu_codec", "zlib_codec"],
      ["base64", "base_64", "bz2", "hex", "quopri", "quoted_printable", "quotedprintable", "uu",
        "zip", "zlib"]),
    (.ofTexts, ["rot_13"], ["rot13"]),
    (.undefined, ["undefined"], [])]

/-- Each charset, with what it is called and what else it may be called. -/
def all : List (Charset × List String × List String) :=
  byteTables.map (fun t => (.table t, t.names, t.labels))
    ++ multiByteCharsets.map (fun c => (.multiByte c, c.names, c.labels))
    ++ switchingCharsets.map (fun c => (.switching c, c.names, c.labels))
    ++ furtherCharsets

/-! ### Looking up -/

/-- Does the character count in a label? -/
def isLabelChar (c : Char) : Bool :=
  c.isAlphanum || c = '.'

/-- The characters of a label that count, with an underscore for what stands between them. -/
def plainLabel (label : String) : String :=
  let runs := label.toList.splitBy fun a b => isLabelChar a == isLabelChar b
  "_".intercalate ((runs.filter fun run => run.any isLabelChar).map String.ofList)

/-- The charset that goes by a label, whose letters are in lower case. In a label that is no name, a
dot may stand for an underscore. -/
def ofLabel? (label : String) : Option Charset :=
  let plain := plainLabel label
  let undotted := plain.map fun c => if c = '.' then '_' else c
  let labelled := all.find? fun (_, _, labels) => labels.contains plain
  let named := all.find? fun (_, names, labels) => labels.contains undotted || names.contains plain
  (labelled <|> named).map (·.1)

end ApiBridge.Charset
