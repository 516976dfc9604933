import ApiBridge.Yaml.Token.Property
import ApiBridge.Yaml.Token.Scalar

/-!
# Cutting a text into tokens

The lexer reads a text from left to right and appends tokens. A key without a mark in front is
known for a key only when the colon after it is met, so the places where such a key may have begun
are kept open, and its tokens are put in at that place later.
-/

namespace ApiBridge.Yaml

/-- A place among the tokens where a key may have begun. -/
structure OpenKey where
  /-- The depth of flow collections at the place. -/
  level : Nat
  /-- The number of tokens in front of it. -/
  place : Nat
  /-- Can nothing but a key stand there? -/
  required : Bool
  index : Nat
  line : Nat
  column : Nat
  deriving DecidableEq, Repr

/-- The state of the lexer. -/
structure Lexer where
  cursor : Cursor
  tokens : Array Token
  /-- The depth of flow collections. -/
  flowLevel : Nat
  /-- The column of the innermost block; outside of all blocks it is `-1`. -/
  indent : Int
  /-- The columns of the blocks around it. -/
  outer : List Int
  /-- May a key without a mark begin here? -/
  keyAllowed : Bool
  openKeys : List OpenKey
  deriving Repr

/-- The longest key without a mark. -/
def keyLimit : Nat := 1024

namespace Lexer

/-- The lexer at the start of a text. -/
def start (cs : List Char) : Lexer :=
  ⟨.start cs, #[], 0, -1, [], true, []⟩

/-- Append a token. -/
def emit (s : Lexer) (t : Token) : Lexer :=
  { s with tokens := s.tokens.push t }

/-- Append a token of `n` characters. -/
def emitMark (s : Lexer) (n : Nat) (t : Token) : Lexer :=
  { s.emit t with cursor := s.cursor.skip n }

def inFlow (s : Lexer) : Bool :=
  s.flowLevel != 0

def column (s : Lexer) : Int :=
  s.cursor.column

/-! ### Open keys -/

/-- Is a key that began there too far away, or on another line? -/
def isStale (s : Lexer) (k : OpenKey) : Bool :=
  k.line != s.cursor.line || k.index + keyLimit < s.cursor.index

/-- Close the keys that satisfy `p`; none of them may be required. -/
def closeKeys (s : Lexer) (p : OpenKey → Bool) : Except Error Lexer :=
  if s.openKeys.any fun k => p k && k.required then malformed "a key without a colon"
  else .ok { s with openKeys := s.openKeys.filter fun k => !p k }

/-- Close the key of the innermost flow collection. -/
def closeKey (s : Lexer) : Except Error Lexer :=
  s.closeKeys fun k => k.level == s.flowLevel

/-- Keep this place open for a key. -/
def openKey (s : Lexer) : Except Error Lexer :=
  if s.keyAllowed then do
    let s ← s.closeKey
    let key : OpenKey := {
      level := s.flowLevel
      place := s.tokens.size
      required := !s.inFlow && s.indent == s.column
      index := s.cursor.index
      line := s.cursor.line
      column := s.cursor.column }
    return { s with openKeys := key :: s.openKeys }
  else return s

/-! ### Blocks -/

/-- The blocks of the columns `outer` and `indent` that end before `column`: how many they are, and
the columns that remain. -/
def closedBlocks (column indent : Int) : List Int → Nat × Int × List Int
  | [] => (0, indent, [])
  | o :: os =>
    if column < indent then
      let (n, indent, os) := closedBlocks column o os
      (n + 1, indent, os)
    else (0, indent, o :: os)

/-- End the blocks that are further to the right than a column. -/
def endBlocks (s : Lexer) (column : Int) : Lexer :=
  if s.inFlow then s
  else
    let (n, indent, outer) := closedBlocks column s.indent s.outer
    { s with
      indent := indent
      outer := outer
      tokens := s.tokens ++ Array.replicate n .blockEnd }

/-- Start a block at a column that is further to the right, with its token put in at a place. -/
def startBlock (s : Lexer) (column : Int) (place : Nat) (t : Token) : Lexer :=
  if s.indent < column then
    { s with
      indent := column
      outer := s.indent :: s.outer
      tokens := s.tokens.insertIdxIfInBounds place t }
  else s

/-! ### Between tokens -/

/-- Go to the next token; `ahead` bounds the number of lines. -/
def skipBlanks (s : Lexer) : List Char → Lexer
  | [] => s
  | _ :: ahead =>
    let c := s.cursor.skipComment
    if isBreak c.peek then
      let s := { s with cursor := c.lineBreak.2, keyAllowed := s.keyAllowed || !s.inFlow }
      s.skipBlanks ahead
    else { s with cursor := c }

/-- Go to the next token. A byte order mark may stand at the start of the text. -/
def skipToToken (s : Lexer) : Lexer :=
  let c := s.cursor
  let c := if c.index = 0 && c.peek = '\uFEFF' then c.next else c
  { s with cursor := c }.skipBlanks c.ahead

/-! ### Tokens -/

/-- The token of a quoted scalar. -/
def Cursor.quotedToken (c : Cursor) : Except Error (Token × Cursor) := do
  let (text, c) ← c.quoted
  return (.scalar (String.ofList text) false, c)

/-- The end of the text. -/
def takeEnd (s : Lexer) : Except Error Lexer := do
  let s ← (s.endBlocks (-1)).closeKey
  return { s.emit .streamEnd with keyAllowed := false, openKeys := [] }

def takeDirective (s : Lexer) : Except Error Lexer := do
  let s ← (s.endBlocks (-1)).closeKey
  let (d, c) ← s.cursor.directive
  return { s.emit (.directive d) with cursor := c, keyAllowed := false }

/-- The mark between documents. -/
def takeDocumentMark (s : Lexer) (t : Token) : Except Error Lexer := do
  let s ← (s.endBlocks (-1)).closeKey
  return { s.emitMark 3 t with keyAllowed := false }

def openFlow (s : Lexer) (t : Token) : Except Error Lexer := do
  let s ← s.openKey
  return { s.emitMark 1 t with flowLevel := s.flowLevel + 1, keyAllowed := true }

def closeFlow (s : Lexer) (t : Token) : Except Error Lexer := do
  let s ← s.closeKey
  return { s.emitMark 1 t with flowLevel := s.flowLevel - 1, keyAllowed := false }

def takeFlowEntry (s : Lexer) : Except Error Lexer := do
  let s ← s.closeKey
  return { s.emitMark 1 .flowEntry with keyAllowed := true }

def takeBlockEntry (s : Lexer) : Except Error Lexer := do
  if !s.inFlow && !s.keyAllowed then malformed "an entry of a sequence that is not allowed here"
  else
    let s := if s.inFlow then s else s.startBlock s.column s.tokens.size .blockSequenceStart
    let s ← s.closeKey
    return { s.emitMark 1 .blockEntry with keyAllowed := true }

/-- The mark in front of a key. -/
def takeKey (s : Lexer) : Except Error Lexer := do
  if !s.inFlow && !s.keyAllowed then malformed "a key that is not allowed here"
  else
    let s := if s.inFlow then s else s.startBlock s.column s.tokens.size .blockMappingStart
    let s ← s.closeKey
    return { s.emitMark 1 .key with keyAllowed := !s.inFlow }

/-- The mark in front of a value. What stands before it may turn out to be a key. -/
def takeValue (s : Lexer) : Except Error Lexer := do
  match s.openKeys.find? fun k => k.level == s.flowLevel with
  | some key =>
    let s := { s with
      openKeys := s.openKeys.filter fun k => k.level != s.flowLevel
      tokens := s.tokens.insertIdxIfInBounds key.place .key }
    let s := if s.inFlow then s else s.startBlock key.column key.place .blockMappingStart
    return { s.emitMark 1 .value with keyAllowed := false }
  | none =>
    if !s.inFlow && !s.keyAllowed then malformed "a value that is not allowed here"
    else
      let s := if s.inFlow then s else s.startBlock s.column s.tokens.size .blockMappingStart
      return { s.emitMark 1 .value with keyAllowed := !s.inFlow }

/-- A token that may begin a key. -/
def takePart (s : Lexer) (readPart : Cursor → Except Error (Token × Cursor)) :
    Except Error Lexer := do
  let s ← s.openKey
  let (t, c) ← readPart s.cursor
  return { s.emit t with cursor := c, keyAllowed := false }

def takePlain (s : Lexer) : Except Error Lexer := do
  let s ← s.openKey
  let (text, broken, c) := s.cursor.plain s.inFlow s.indent
  return { s.emit (.scalar (String.ofList text) true) with cursor := c, keyAllowed := broken }

def takeBlockScalar (s : Lexer) : Except Error Lexer := do
  let s ← s.closeKey
  let (text, c) ← s.cursor.blockScalar s.indent
  return { s.emit (.scalar (String.ofList text) false) with cursor := c, keyAllowed := true }

/-- May a plain scalar begin here? -/
def startsPlain (s : Lexer) : Bool :=
  let x := s.cursor.peek
  !(isBlankOrEnd x || "-?:,[]\x7b\x7d#&*!|>\x27\"%@\x60".toList.contains x)
    || (!isBlankOrEnd (s.cursor.peekAt 1) && (x = '-' || (!s.inFlow && (x = '?' || x = ':'))))

/-- The token at the cursor. -/
def takeToken (s : Lexer) : Except Error Lexer :=
  let c := s.cursor
  let x := c.peek
  let alone := isBlankOrEnd (c.peekAt 1)
  if x = '%' && c.column = 0 then s.takeDirective
  else if c.column = 0 && c.atDocumentMark then
    s.takeDocumentMark (if x = '-' then .documentStart else .documentEnd)
  else if x = '[' then s.openFlow .flowSequenceStart
  else if x = '\x7b' then s.openFlow .flowMappingStart
  else if x = ']' then s.closeFlow .flowSequenceEnd
  else if x = '\x7d' then s.closeFlow .flowMappingEnd
  else if x = ',' then s.takeFlowEntry
  else if x = '-' && alone then s.takeBlockEntry
  else if x = '?' && (s.inFlow || alone) then s.takeKey
  else if x = ':' && (s.inFlow || alone) then s.takeValue
  else if x = '*' then s.takePart (Cursor.anchorName .alias)
  else if x = '&' then s.takePart (Cursor.anchorName .anchor)
  else if x = '!' then s.takePart Cursor.tag
  else if (x = '|' || x = '>') && !s.inFlow then s.takeBlockScalar
  else if x = '\x27' || x = '"' then s.takePart Cursor.quotedToken
  else if s.startsPlain then s.takePlain
  else malformed "a character that cannot start a token"

/-- Go to the next token and take it. -/
def step (s : Lexer) : Except Error Lexer := do
  let s := s.skipToToken
  let s ← s.closeKeys s.isStale
  let s := s.endBlocks s.column
  if s.cursor.rest.isEmpty then s.takeEnd else s.takeToken

end Lexer

/-! ### All tokens -/

/-- The tokens of a text up to its end, or up to a failure. -/
structure Tokens where
  list : List Token
  /-- What stopped the text before its end. -/
  failure : Option Error
  deriving Repr

/-- The tokens that are certain: those in front of every place where a key may still begin. -/
def Lexer.certain (s : Lexer) : List Token :=
  let places := (s.openKeys.filter fun k => !s.isStale k).map (·.place)
  s.tokens.toList.take (places.foldl min s.tokens.size)

/-- Take tokens up to the end; `fuel` bounds their number. -/
def Lexer.run : Nat → Lexer → Tokens
  | 0, s => ⟨s.certain, some (.malformed "a text that does not end")⟩
  | fuel + 1, s =>
    if s.tokens.back? = some .streamEnd then ⟨s.tokens.toList, none⟩
    else
      match s.step with
      | .ok next => Lexer.run fuel next
      | .error e => ⟨s.certain, some e⟩

/-- The tokens of a text. -/
def Tokens.ofText (cs : List Char) : Tokens :=
  if cs.all isPrintable then Lexer.run (cs.length + 2) (.start cs)
  else ⟨[], some (.malformed "a character that is not printable")⟩

end ApiBridge.Yaml
