import ApiBridge.Text.CodeRange

/-!
# Blanks and line ends

The characters that count as white space, those that end a line, and the functions that cut a text
at them.
-/

namespace ApiBridge.Text

/-! ### White space -/

/-- The white space characters. -/
def blanks : List CodeRange :=
  [
    (0x09, 0x0d), (0x1c, 0x20), (0x85, 0x85), (0xa0, 0xa0), (0x1680, 0x1680), (0x2000, 0x200a),
    (0x2028, 0x2029), (0x202f, 0x202f), (0x205f, 0x205f), (0x3000, 0x3000)
  ].map CodeRange.ofPair

/-- Is the character white space? -/
def isBlank (c : Char) : Bool :=
  CodeRange.covers blanks c.toNat

/-- Does the text hold nothing but white space? -/
def isAllBlank (s : String) : Bool :=
  s.toList.all isBlank

/-- Does the character separate files, groups, records or units of data? -/
def isDataSeparator (c : Char) : Bool :=
  0x1c ≤ c.toNat && c.toNat ≤ 0x1f

/-- May the character stand around a number? White space may, but no separator of data. -/
def isPadding (c : Char) : Bool :=
  isBlank c && !isDataSeparator c

/-- The characters without the padding at both ends. -/
def trimPadding (cs : List Char) : List Char :=
  ((cs.dropWhile isPadding).reverse.dropWhile isPadding).reverse

example : isBlank ' ' && isBlank '\n' && isBlank '\u2003' && !isBlank '\u200b' := by decide
example : isBlank '\x1c' && !isPadding '\x1c' && isPadding '\u0085' := by decide

/-! ### Lines -/

/-- Does the character end a line? -/
def isLineEnd (c : Char) : Bool :=
  CodeRange.covers ([(0x0a, 0x0d), (0x1c, 0x1e), (0x85, 0x85), (0x2028, 0x2029)].map
    CodeRange.ofPair) c.toNat

/-- The lines of a text, without their ends; `current` is the line read so far, in reverse. -/
def linesFrom (current : List Char) : List Char → List (List Char)
  | [] => if current.isEmpty then [] else [current.reverse]
  | '\r' :: '\n' :: cs => current.reverse :: linesFrom [] cs
  | c :: cs =>
    if isLineEnd c then current.reverse :: linesFrom [] cs else linesFrom (c :: current) cs

/-- The lines of a text, without their ends. A carriage return and the line feed after it are one
end, and the end of the last line starts no further line. -/
def lines (s : String) : List String :=
  (linesFrom [] s.toList).map String.ofList

/-- Every carriage return, with the line feed after it if there is one, made a line feed. -/
def unifyNewlines : List Char → List Char
  | [] => []
  | '\r' :: '\n' :: cs => '\n' :: unifyNewlines cs
  | c :: cs => (if c = '\r' then '\n' else c) :: unifyNewlines cs

/-- The text without the line feeds at its end. -/
def dropTrailingNewlines (s : String) : String :=
  String.ofList (s.toList.reverse.dropWhile (· = '\n')).reverse

end ApiBridge.Text
