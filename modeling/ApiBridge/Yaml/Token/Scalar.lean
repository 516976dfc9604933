import ApiBridge.Json.Reader
import ApiBridge.Yaml.Cursor
import ApiBridge.Yaml.Error

/-!
# Scalars in a text

Scalars are plain, quoted, or blocks of whole lines. Each is turned into its text: line breaks are
folded into spaces, and escapes become the characters they stand for.
-/

namespace ApiBridge.Yaml

/-! ### Folding -/

/-- A line break and the empty lines after it, folded: one line feed alone becomes a space. -/
def folded (lineBreak breaks : List Char) : List Char :=
  if lineBreak ≠ ['\n'] then lineBreak ++ breaks
  else if breaks.isEmpty then [' ']
  else breaks

/-! ### Quoted scalars -/

/-- The empty lines inside a quoted scalar; `ahead` bounds their number. -/
def Cursor.quotedBreaks : List Char → Cursor → Except Error (List Char × Cursor)
  | [], c => .ok ([], c)
  | _ :: ahead, c =>
    if c.atDocumentMark then malformed "a document mark inside a quoted scalar"
    else
      let c := c.dropWhile isGap
      if isBreak c.peek then do
        let (b, c) := c.lineBreak
        let (bs, c) ← quotedBreaks ahead c
        return (b ++ bs, c)
      else .ok ([], c)

/-- The blanks inside a quoted scalar. -/
def Cursor.quotedSpaces (c : Cursor) : Except Error (List Char × Cursor) :=
  let (spaces, c) := c.span isGap
  if c.rest.isEmpty then malformed "a quoted scalar that does not end"
  else if isBreak c.peek then do
    let (b, c) := c.lineBreak
    let (bs, c) ← quotedBreaks c.ahead c
    return (folded b bs, c)
  else .ok (spaces, c)

/-- The character that an escape with a single letter stands for. -/
def escapedChar? (c : Char) : Option Char :=
  [('0', '\x00'), ('a', '\x07'), ('b', '\x08'), ('t', '\t'), ('\t', '\t'), ('n', '\n'),
    ('v', '\x0b'), ('f', '\x0c'), ('r', '\r'), ('e', '\x1b'), (' ', ' '), ('"', '"'),
    ('\\', '\\'), ('/', '/'), ('N', '\u0085'), ('_', '\u00a0'), ('L', '\u2028'),
    ('P', '\u2029')].lookup c

/-- How many digits follow the letter of a numbered escape. -/
def escapeDigits? (c : Char) : Option Nat :=
  [('x', 2), ('u', 4), ('U', 8)].lookup c

/-- The character with a number. As in JSON, a surrogate is replaced. -/
def charOfNumber (n : Nat) : Except Error Char :=
  if n < 0x110000 then .ok (Json.charOfCode n)
  else if n < 0x80000000 then .error .noCharacter
  else .error .codeTooLarge

/-- What an escape stands for; the cursor is past the backslash. -/
def Cursor.escape (c : Cursor) : Except Error (List Char × Cursor) :=
  match escapedChar? c.peek, escapeDigits? c.peek with
  | some x, _ => .ok ([x], c.next)
  | none, some n =>
    let digits := c.next.rest.take n
    match hexNumber? digits with
    | some code =>
      if digits.length = n then do
        let x ← charOfNumber code
        return ([x], c.next.skip n)
      else malformed "an escape with too few digits"
    | none => malformed "an escape with a digit that is none"
  | none, none =>
    if isBreak c.peek then quotedBreaks c.ahead c.lineBreak.2
    else malformed "an unknown escape"

/-- Does the character stand for itself in a quoted scalar? -/
def isPlainInQuotes (c : Char) : Bool :=
  !(c = '"' || c = '\x27' || c = '\\' || isBlankOrEnd c)

/-- The text up to the quote that ends a quoted scalar; `ahead` bounds its length. -/
def Cursor.quotedText (double : Bool) : List Char → Cursor → Except Error (List Char × Cursor)
  | [], _ => malformed "a quoted scalar that does not end"
  | _ :: ahead, c => do
    let x := c.peek
    let (piece, c) ←
      if isPlainInQuotes x then pure (c.span isPlainInQuotes)
      else if x = '\x27' && !double && c.peekAt 1 = '\x27' then pure ([x], c.skip 2)
      else if x = (if double then '"' else '\x27') then return ([], c.next)
      else if x = '\\' && double then c.next.escape
      else if x = '\\' || x = '"' || x = '\x27' then pure ([x], c.next)
      else c.quotedSpaces
    let (more, c) ← quotedText double ahead c
    return (piece ++ more, c)

/-- A quoted scalar; the cursor is at its first quote. -/
def Cursor.quoted (c : Cursor) : Except Error (List Char × Cursor) :=
  quotedText (c.peek = '"') c.ahead c.next

/-! ### Block scalars -/

/-- What happens to the line breaks at the end of a block. -/
inductive Chomping
  | clip
  | strip
  | keep
  deriving DecidableEq, Repr

/-- The mark for chomping, if there is one. -/
def Cursor.chomping (c : Cursor) : Option Chomping × Cursor :=
  if c.peek = '+' then (some .keep, c.next)
  else if c.peek = '-' then (some .strip, c.next)
  else (none, c)

/-- The mark for the indentation, if there is one. -/
def Cursor.increment (c : Cursor) : Except Error (Option Nat × Cursor) :=
  if c.peek = '0' then malformed "an indentation of zero"
  else if c.peek.isDigit then .ok (some (c.peek.toNat - 48), c.next)
  else .ok (none, c)

/-- The marks after the sign of a block, in either order, and the end of their line. -/
def Cursor.blockHeader (c : Cursor) : Except Error (Chomping × Option Nat × Cursor) := do
  let (chomping, c) := c.chomping
  let (increment, c) ← c.increment
  let (chomping, c) := if chomping.isNone && increment.isSome then c.chomping else (chomping, c)
  if !isSpaceOrEnd c.peek then malformed "an unknown mark at the start of a block scalar"
  else
    let c := c.skipComment
    if !isBreakOrEnd c.peek then malformed "a comment that is none"
    else return (chomping.getD .clip, increment, c.lineBreak.2)

/-- The empty lines in front of a block, and the widest of their indentations. -/
def Cursor.blockIndentation : List Char → Cursor → List Char × Nat × Cursor
  | [], c => ([], 0, c)
  | _ :: ahead, c =>
    if c.peek = ' ' then
      let (bs, widest, c') := blockIndentation ahead c.next
      (bs, max c.next.column widest, c')
    else if isBreak c.peek then
      let (b, c) := c.lineBreak
      let (bs, widest, c) := blockIndentation ahead c
      (b ++ bs, widest, c)
    else ([], 0, c)

/-- Go past spaces up to a column. -/
def Cursor.skipIndent (c : Cursor) (indent : Nat) : Cursor :=
  c.skip ((c.rest.take (indent - c.column)).takeWhile (· = ' ')).length

/-- The empty lines inside a block; `ahead` bounds their number. -/
def Cursor.blockBreaks (indent : Nat) : List Char → Cursor → List Char × Cursor
  | [], c => ([], c.skipIndent indent)
  | _ :: ahead, c =>
    let c := c.skipIndent indent
    if isBreak c.peek then
      let (b, c) := c.lineBreak
      let (bs, c) := blockBreaks indent ahead c
      (b ++ bs, c)
    else ([], c)

/-- The lines of a block, after its empty lines `breaks`; `ahead` bounds their number. -/
def Cursor.blockLines (fold : Bool) (chomping : Chomping) (indent : Nat) :
    List Char → List Char → Cursor → List Char × Cursor
  | [], _, c => ([], c)
  | _ :: ahead, breaks, c =>
    let startsFull := !isGap c.peek
    let (line, c) := c.span fun x => !isBreakOrEnd x
    let (b, c) := c.lineBreak
    let (after, c) := blockBreaks indent c.rest c
    if c.column = indent && !c.rest.isEmpty then
      let between :=
        if fold && b = ['\n'] && startsFull && !isGap c.peek then
          if after.isEmpty then [' '] else []
        else b
      let (more, c) := blockLines fold chomping indent ahead after c
      (breaks ++ line ++ between ++ more, c)
    else
      let tail := match chomping with
        | .strip => []
        | .clip => b
        | .keep => b ++ after
      (breaks ++ line ++ tail, c)

/-- A block scalar inside blocks of the indentation `parent`; the cursor is at its sign. -/
def Cursor.blockScalar (c : Cursor) (parent : Int) : Except Error (List Char × Cursor) := do
  let fold := c.peek = '>'
  let (chomping, increment, c) ← c.next.blockHeader
  let least := (max (parent + 1) 1).toNat
  let (indent, breaks, c) :=
    match increment with
    | none =>
      let (breaks, widest, c) := blockIndentation c.rest c
      (max least widest, breaks, c)
    | some n =>
      let indent := least + n - 1
      let (breaks, c) := blockBreaks indent c.rest c
      (indent, breaks, c)
  if c.column = indent && !c.rest.isEmpty then
    return blockLines fold chomping indent c.ahead breaks c
  else return (if chomping = .keep then breaks else [], c)

/-! ### Plain scalars -/

/-- Does a plain scalar end at this character, seen with the next one? -/
def endsPlain (inFlow : Bool) (x next : Char) : Bool :=
  isBlankOrEnd x
    || (x = ':' && (isBlankOrEnd next || (inFlow && [',', '[', ']', '\x7b', '\x7d'].contains next)))
    || (inFlow && [',', '?', '[', ']', '\x7b', '\x7d'].contains x)

/-- The characters of a plain scalar up to a blank or an end. -/
def plainRun (inFlow : Bool) : List Char → List Char
  | [] => []
  | x :: xs => if endsPlain inFlow x (xs.headD endMark) then [] else x :: plainRun inFlow xs

/-- The empty lines inside a plain scalar, unless a document mark follows one of them; `ahead`
bounds their number. -/
def Cursor.plainBreaks : List Char → Cursor → Option (List Char) × Cursor
  | [], c => (some [], c)
  | _ :: ahead, c =>
    if c.peek = ' ' then plainBreaks ahead c.next
    else if isBreak c.peek then
      let (b, c) := c.lineBreak
      if c.atDocumentMark then (none, c)
      else
        let (bs, c) := plainBreaks ahead c
        (bs.map (b ++ ·), c)
    else (some [], c)

/-- The blanks inside a plain scalar, and whether a line was broken. Without blanks the scalar
ends. -/
def Cursor.plainSpaces (c : Cursor) : List Char × Bool × Cursor :=
  let (spaces, c) := c.span (· = ' ')
  if isBreak c.peek then
    let (b, c) := c.lineBreak
    if c.atDocumentMark then ([], true, c)
    else
      match plainBreaks c.rest c with
      | (none, c) => ([], true, c)
      | (some bs, c) => (folded b bs, true, c)
  else (spaces, false, c)

/-- The text of a plain scalar after the blanks `spaces`, and whether a line was broken after it;
`ahead` bounds its length. -/
def Cursor.plainFrom (inFlow : Bool) (indent : Int) :
    List Char → List Char → Bool → Cursor → List Char × Bool × Cursor
  | [], _, broken, c => ([], broken, c)
  | _ :: ahead, spaces, broken, c =>
    let run := if c.peek = '#' then [] else plainRun inFlow c.rest
    if run.isEmpty then ([], broken, c)
    else
      let (after, broken, c) := (c.skip run.length).plainSpaces
      if after.isEmpty || c.peek = '#' || (!inFlow && (c.column : Int) < indent) then
        (spaces ++ run, broken, c)
      else
        let (more, broken, c) := plainFrom inFlow indent ahead after broken c
        (spaces ++ run ++ more, broken, c)

/-- A plain scalar inside blocks of the indentation `parent`. -/
def Cursor.plain (c : Cursor) (inFlow : Bool) (parent : Int) : List Char × Bool × Cursor :=
  plainFrom inFlow (parent + 1) c.ahead [] false c

end ApiBridge.Yaml
