import ApiBridge.Text.Utf8
import ApiBridge.Yaml.Cursor
import ApiBridge.Yaml.Error
import ApiBridge.Yaml.Token

/-!
# Directives, anchors and tags

Directives say something about a document and stand in front of it. Anchors and tags say something
about a node and stand in front of that.
-/

namespace ApiBridge.Yaml

/-! ### Directives -/

/-- A number of the version. -/
def Cursor.versionNumber (c : Cursor) : Except Error (Nat × Cursor) :=
  let (ds, c) := c.span Char.isDigit
  if ds.isEmpty then malformed "a version that is no number"
  else if Text.decimalDigitLimit < ds.length then .error (.tooManyDigits ds.length)
  else .ok (ds.foldl (fun n d => n * 10 + (d.toNat - 48)) 0, c)

/-- The version of the language. -/
def Cursor.version (c : Cursor) : Except Error (Directive × Cursor) := do
  let (major, c) ← (c.dropWhile (· = ' ')).versionNumber
  if c.peek ≠ '.' then malformed "a version without a point"
  else
    let (minor, c) ← c.next.versionNumber
    if isSpaceOrEnd c.peek then return (.version major minor, c)
    else malformed "a version that is no number"

/-- The handle of a tag: an exclamation mark, or two with a word between them. -/
def Cursor.handle (c : Cursor) : Except Error (List Char × Cursor) :=
  if c.peek ≠ '!' then malformed "a handle without an exclamation mark"
  else if c.peekAt 1 = ' ' then .ok (['!'], c.next)
  else
    let (word, c) := c.next.span isWordChar
    if c.peek = '!' then .ok ('!' :: word ++ ['!'], c.next)
    else malformed "a handle that does not end"

/-- The bytes of a sequence of escapes in a tag; `ahead` bounds their number. -/
def Cursor.tagEscapes : List Char → Cursor → Except Error (List UInt8 × Cursor)
  | [], c => .ok ([], c)
  | _ :: ahead, c =>
    if c.peek = '%' then
      match hexValue? (c.peekAt 1), hexValue? (c.peekAt 2) with
      | some a, some b => do
        let (bs, c) ← tagEscapes ahead (c.skip 3)
        return (UInt8.ofNat (a * 16 + b) :: bs, c)
      | _, _ => malformed "an escape in a tag with a digit that is none"
    else .ok ([], c)

/-- May the character stand in the name of a tag? -/
def isTagChar (c : Char) : Bool :=
  c.isAlphanum || "-;/?:@&=+$,_.!~*\x27()[]".toList.contains c

/-- The name of a tag; `ahead` bounds its length. -/
def Cursor.tagText : List Char → Cursor → Except Error (List Char × Cursor)
  | [], c => .ok ([], c)
  | _ :: ahead, c =>
    if c.peek = '%' then do
      let (bs, c) ← tagEscapes c.ahead c
      match Text.decode bs with
      | .ok text =>
        let (more, c) ← tagText ahead c
        return (text.toList ++ more, c)
      | .error _ => malformed "an escape in a tag that is no text"
    else if isTagChar c.peek then
      let (piece, c) := c.span isTagChar
      do
        let (more, c) ← tagText ahead c
        return (piece ++ more, c)
    else .ok ([], c)

/-- The name of a tag, which must not be missing. -/
def Cursor.tagName (c : Cursor) : Except Error (String × Cursor) := do
  let missing := c.peek ≠ '%' && !isTagChar c.peek
  if missing then malformed "a tag without a name"
  else
    let (name, c) ← tagText c.ahead c
    return (String.ofList name, c)

/-- What a handle stands for. -/
def Cursor.handleDirective (c : Cursor) : Except Error (Directive × Cursor) := do
  let (handle, c) ← (c.dropWhile (· = ' ')).handle
  if c.peek ≠ ' ' then malformed "a handle without a replacement"
  else
    let (name, c) ← (c.dropWhile (· = ' ')).tagName
    if isSpaceOrEnd c.peek then return (.handle (String.ofList handle) name, c)
    else malformed "a replacement that does not end"

/-- A directive; the cursor is at its percent sign. -/
def Cursor.directive (c : Cursor) : Except Error (Directive × Cursor) := do
  let (name, c) := c.next.span isWordChar
  if name.isEmpty || !isSpaceOrEnd c.peek then malformed "a directive without a name"
  else
    let (d, c) ←
      if name = "YAML".toList then c.version
      else if name = "TAG".toList then c.handleDirective
      else pure (.other, c.dropWhile fun x => !isBreakOrEnd x)
    let c := c.skipComment
    if isBreakOrEnd c.peek then return (d, c.lineBreak.2)
    else malformed "a directive that does not end"

/-! ### Anchors and tags -/

/-- The name of an anchor or of an alias; the cursor is at its sign. -/
def Cursor.anchorName (token : String → Token) (c : Cursor) : Except Error (Token × Cursor) :=
  let (name, c) := c.next.span isWordChar
  if name.isEmpty then malformed "an anchor without a name"
  else if isBlankOrEnd c.peek || "?:,]\x7d%@\x60".toList.contains c.peek then
    .ok (token (String.ofList name), c)
  else malformed "an anchor that does not end"

/-- Is there an exclamation mark before the next space? -/
def hasHandle (cs : List Char) : Bool :=
  (cs.takeWhile fun x => !isSpaceOrEnd x).contains '!'

/-- A tag; the cursor is at its exclamation mark. -/
def Cursor.tag (c : Cursor) : Except Error (Token × Cursor) := do
  let x := c.peekAt 1
  let (t, c) ←
    if x = '<' then do
      let (name, c) ← (c.skip 2).tagName
      if c.peek = '>' then pure (Token.tag none name, c.next)
      else malformed "a tag that does not end"
    else if isBlankOrEnd x then pure (Token.tag none "!", c.next)
    else do
      let (handle, c) ←
        if hasHandle c.next.rest then c.handle else pure (['!'], c.next)
      let (name, c) ← c.tagName
      pure (Token.tag (some (String.ofList handle)) name, c)
  if isSpaceOrEnd c.peek then return (t, c)
  else malformed "a tag that does not end"

end ApiBridge.Yaml
