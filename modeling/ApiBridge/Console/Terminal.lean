import ApiBridge.Console.Basic
import ApiBridge.Text.Quoted

/-!
# Messages on a terminal

Messages have colours, unless these are turned off. A terminal is told of colours by marks in
brackets, and the text of a message stands among them as it is: what looks like a mark in it is
taken for one. Where marks cannot be followed nothing is printed, and whoever has said the message
is told why.
-/

namespace ApiBridge

/-! ### Remarks -/

/-- The kinds of messages. -/
inductive Remark
  | info
  | success
  | suggestion
  | warning
  | error
  | detail
  deriving DecidableEq, Repr

/-- A message: its kind and its text. -/
abbrev Message := Remark × String

namespace Remark

/-- The kind of a message of a level. -/
def ofLevel : Level → Remark
  | .debug => detail
  | .info => info
  | .warning => warning
  | .error => error

/-- Does a console show messages of a kind? -/
def isShown (c : Console) : Remark → Bool
  | info | success | suggestion => !c.quiet
  | warning | error => true
  | detail => c.verbose

/-- A message without colours. -/
def plain (kind : Remark) (text : String) : String :=
  match kind with
  | info | success => text
  | suggestion => "→ " ++ text
  | warning => "Warning: " ++ text
  | error => "Error: " ++ text
  | detail => "[debug] " ++ text

/-- A message with marks for its colours. The text stands in it as it is. -/
def marked (kind : Remark) (text : String) : String :=
  match kind with
  | info => text
  | success => "[green]" ++ text ++ "[/green]"
  | suggestion => "[dim]→ " ++ text ++ "[/dim]"
  | warning => "[yellow]Warning:[/yellow] " ++ text
  | error => "[bold red]Error:[/bold red] " ++ text
  | detail => "[dim]\\[debug] " ++ text ++ "[/dim]"

end Remark

/-- The messages for notices; one without words gives none. -/
def Notice.messages (ns : List Notice) : List Message :=
  ns.filterMap fun n => n.message?.map (Remark.ofLevel n.level, ·)

/-! ### Terminals -/

/-- What a terminal shows. It is no part of the library, and nothing is known of it but that it
either draws a text or says why it cannot. -/
structure Terminal where
  /-- A text with marks. -/
  draw : String → Except String String
  /-- A table with a title, headers and rows; there may be marks in all of these. -/
  drawTable : String → List String → List (List String) → Except String String
  /-- A text in a language, which has no marks. -/
  drawSource : String → String → String

/-! ### Marks -/

namespace Marks

/-- A part of a text with marks. -/
inductive Part
  | shown (cs : List Char)
  /-- A mark, by what stands in its brackets, and the number of characters in front of it. -/
  | mark (inner : List Char) (place : Nat)
  deriving DecidableEq, Repr

/-- May a mark start with the character? -/
def isHead (c : Char) : Bool :=
  c.isLower || c = '#' || c = '/' || c = '@'

/-- Backslashes, and after them what looked like a mark and is none. The bracket of that takes one
backslash away. -/
def unmarked (slashes : Nat) : Option (List Char) → List Char
  | none => List.replicate slashes '\\'
  | some inner => List.replicate (slashes - 1) '\\' ++ '[' :: inner.reverse

/-- The parts of a text after `place` characters. In front of what is left there are backslashes
and, if a bracket has been opened, what stands in it so far, in reverse. -/
def partsFrom (place slashes : Nat) (inner? : Option (List Char)) : List Char → List Part
  | [] => [.shown (unmarked slashes inner?)]
  | '[' :: cs =>
    match inner? with
    | none => partsFrom (place + 1) slashes (some []) cs
    | some _ => .shown (unmarked slashes inner?) :: partsFrom (place + 1) 0 (some []) cs
  | c :: cs =>
    match inner? with
    | none =>
      if c = '\\' then partsFrom (place + 1) (slashes + 1) none cs
      else .shown (unmarked slashes none ++ [c]) :: partsFrom (place + 1) 0 none cs
    | some [] =>
      if isHead c then partsFrom (place + 1) slashes (some [c]) cs
      else if c = '\\' then .shown (unmarked slashes (some [])) :: partsFrom (place + 1) 1 none cs
      else .shown (unmarked slashes (some []) ++ [c]) :: partsFrom (place + 1) 0 none cs
    | some inner =>
      if c ≠ ']' then partsFrom (place + 1) slashes (some (c :: inner)) cs
      else
        -- of the backslashes two are one, and one that is left over makes the mark a text
        let part : Part :=
          if slashes % 2 = 0 then .mark inner.reverse (place - inner.length - 1)
          else .shown ('[' :: (c :: inner).reverse)
        .shown (List.replicate (slashes / 2) '\\') :: part :: partsFrom (place + 1) 0 none cs

/-- The name in a mark. -/
def nameOf (inner : List Char) : List Char :=
  inner.takeWhile (· ≠ '=')

/-- Why a mark cannot be closed, if it asks for something to be called: what is given to that has to
be a whole term. -/
def callFault? (inner : List Char) : Option String :=
  let given := String.ofList (inner.dropWhile (· ≠ '=')).tail
  if inner.head? = some '@' && given.startsWith "(" && !given.endsWith ")" then
    some s!"error parsing {Text.quoted given} in {Text.quoted given}; '(' was never closed"
  else none

/-- What a mark leaves open, or why it cannot be followed. A slash closes the last mark of its name,
or the last mark if it has no name. -/
def follow (opened : List (List Char)) (inner : List Char) (place : Nat) :
    Except String (List (List Char)) :=
  match inner with
  | '/' :: closing =>
    match opened.find? fun m => nameOf closing = [] || nameOf m = nameOf closing with
    | some m =>
      match callFault? m with
      | some fault => .error fault
      | none => .ok (opened.erase m)
    | none =>
      if nameOf closing = [] then .error s!"closing tag '[/]' at position {place} has nothing to close"
      else .error (s!"closing tag '[{String.ofList inner}]' at position {place} "
        ++ "doesn't match any open tag")
  | _ => .ok (inner :: opened)

/-- What is shown of parts. -/
def drawFrom (opened : List (List Char)) : List Part → Except String (List Char)
  | [] => .ok []
  | .shown cs :: ps => (cs ++ ·) <$> drawFrom opened ps
  | .mark inner place :: ps => do drawFrom (← follow opened inner place) ps

/-- What is shown of a text with marks. -/
def draw (s : String) : Except String String :=
  String.ofList <$> drawFrom [] (partsFrom 0 0 none s.toList)

example : (draw "[dim]\\[debug] a[/dim][1]").toOption = some "[debug] a[1]" := by decide +kernel
example : (draw "[green]a[/x]").isOk = false := by decide +kernel

end Marks

/-- A terminal without colours and borders, on which lines may have any length. It follows marks,
and leaves them out. -/
def Terminal.monochrome : Terminal where
  draw s := (· ++ "\n") <$> Marks.draw s
  drawTable title headers rows := do
    let title ← Marks.draw title
    let lines ← (headers :: rows).mapM fun row => "\t".intercalate <$> row.mapM Marks.draw
    return String.join ((title :: lines).map (· ++ "\n"))
  drawSource _ text := Text.dropTrailingNewlines text ++ "\n"

/-! ### Consoles with colours -/

/-- A console whose messages may have colours. -/
structure ColorConsole extends Console where
  noColor : Bool
  terminal : Terminal

/-- What has been printed to say something, and why it could not be said to its end. -/
abbrev Said := List Printed × Option String

namespace ColorConsole

/-- Print a message, with colours unless these are turned off. -/
def emit (c : ColorConsole) (plain marked : String) : Said :=
  if c.noColor then (Console.messageLine plain, none)
  else
    match c.terminal.draw marked with
    | .ok drawn => ([.message drawn], none)
    | .error reason => ([], some reason)

/-- Say a message, if the console shows it. -/
def say (c : ColorConsole) (kind : Remark) (text : String) : Said :=
  if kind.isShown c.toConsole then c.emit (kind.plain text) (kind.marked text) else ([], none)

/-- Say messages in order, up to the first that cannot be drawn. -/
def sayAll (c : ColorConsole) : List Message → Said
  | [] => ([], none)
  | (kind, text) :: ms =>
    match c.say kind text with
    | (ps, some reason) => (ps, some reason)
    | (ps, none) =>
      let (qs, stopped) := c.sayAll ms
      (ps ++ qs, stopped)

end ColorConsole

end ApiBridge
