import ApiBridge.Text.Utf8
import ApiBridge.Text.WholeNumber
import ApiBridge.Value.Text

/-!
# Checking values

Settings and descriptions of types come as values. A check turns a value into what it describes, or
gives every complaint about it with the place it is about. Numbers, truth values and texts are read
generously: a whole number may be written as a text, and a truth value as a word.
-/

namespace ApiBridge

/-! ### Complaints -/

/-- One step from a value to a part of it. -/
inductive Step
  | name (s : String)
  | index (i : Int)
  deriving DecidableEq, Repr

/-- What is wrong with a part of a value. -/
inductive Complaint
  | missing
  | text
  | textBytes
  | integer
  | integerWritten
  | integerSize
  | integerFraction
  | finite
  | tooSmall
  | truth
  | truthWritten
  | list
  | map
  | record
  | choice
  | name
  deriving DecidableEq, Repr

/-- The code of a complaint in reports. -/
def Complaint.code : Complaint → String
  | .missing => "missing"
  | .text => "string_type"
  | .textBytes => "string_unicode"
  | .integer => "int_type"
  | .integerWritten => "int_parsing"
  | .integerSize => "int_parsing_size"
  | .integerFraction => "int_from_float"
  | .finite => "finite_number"
  | .tooSmall => "greater_than_equal"
  | .truth => "bool_type"
  | .truthWritten => "bool_parsing"
  | .list => "list_type"
  | .map => "dict_type"
  | .record => "model_type"
  | .choice => "enum"
  | .name => "invalid_key"

/-- A complaint with the way to the part it is about. -/
structure Flaw where
  path : List Step
  complaint : Complaint
  deriving DecidableEq, Repr

/-! ### Checks -/

/-- What a value describes, or all that is wrong with the value. -/
inductive Check (α : Type)
  | ok (a : α)
  | flawed (flaws : List Flaw)
  deriving Repr

namespace Check

/-- Both results, or the flaws of both. -/
def seq {α β : Type} (f : Check (α → β)) (x : Unit → Check α) : Check β :=
  match f, x () with
  | .ok f, .ok a => .ok (f a)
  | .ok _, .flawed fs => .flawed fs
  | .flawed fs, .ok _ => .flawed fs
  | .flawed fs, .flawed gs => .flawed (fs ++ gs)

instance : Applicative Check where
  pure := .ok
  seq := seq

/-- One complaint about the value itself. -/
def complain {α : Type} (c : Complaint) : Check α :=
  .flawed [⟨[], c⟩]

/-- The check of a part, seen from the whole. -/
def under {α : Type} (s : Step) : Check α → Check α
  | .ok a => .ok a
  | .flawed fs => .flawed (fs.map fun f => ⟨s :: f.path, f.complaint⟩)

/-- The results of all checks, or the flaws of all. -/
def all {α : Type} : List (Check α) → Check (List α)
  | [] => .ok []
  | c :: cs => (· :: ·) <$> c <*> all cs

/-- The result, if there are no flaws. -/
def toExcept {α : Type} : Check α → Except (List Flaw) α
  | .ok a => .ok a
  | .flawed fs => .error fs

end Check

/-! ### Scalars -/

/-- A text, or bytes that are one. -/
def Value.checkText : Value → Check String
  | .scalar (.text s) => .ok s
  | .scalar (.bytes bs) =>
    match Text.decode bs with
    | .ok s => .ok s
    | .error _ => .complain .textBytes
  | _ => .complain .text

/-- The texts that stand for a truth value, with letters in lower case. -/
def truthOfText? (s : String) : Option Bool :=
  let s := String.ofList (s.toList.map Char.toLower)
  if ["1", "on", "t", "true", "y", "yes"].contains s then some true
  else if ["0", "off", "f", "false", "n", "no"].contains s then some false
  else none

/-- The whole numbers of at most 63 bits are those below this one. -/
def wholeLimit : Nat := 0x8000000000000000

/-- Does an integer have at most 63 bits and a sign? -/
def isShort (n : Int) : Bool :=
  -(wholeLimit : Int) ≤ n && n < wholeLimit

/-- A double as a whole number of at most 63 bits. -/
def Binary64.checkInteger (x : Binary64) : Check Int :=
  if x.isNaN || x.isInfinite then .complain .finite
  else
    match x.toInt? with
    | none => .complain .integerFraction
    | some n => if n.natAbs < wholeLimit then .ok n else .complain .integerSize

/-- A whole number, which may be a truth value, a double or a text. -/
def Value.checkInteger : Value → Check Int
  | .scalar (.int n) => .ok n
  | .scalar (.bool b) => .ok (if b then 1 else 0)
  | .scalar (.float x) => x.checkInteger
  | .scalar (.text s) => ofText s
  | .scalar (.bytes bs) =>
    match Text.decode bs with
    | .ok s => ofText s
    | .error _ => .complain .integerWritten
  | _ => .complain .integer
where
  ofText (s : String) : Check Int :=
    match Text.readWhole s with
    | .number n => .ok n
    | .tooLong => .complain .integerSize
    | .unreadable => .complain .integerWritten

/-- A truth value, which may be zero or one, or a word for it. -/
def Value.checkTruth : Value → Check Bool
  | .scalar (.bool b) => .ok b
  | .scalar (.int n) => ofInt n
  | .scalar (.float x) =>
    match x.checkInteger with
    | .ok n => ofInt n
    | .flawed _ => .complain .truth
  | .scalar (.text s) => ofText s
  | .scalar (.bytes bs) =>
    match Text.decode bs with
    | .ok s => ofText s
    | .error _ => .complain .truthWritten
  | _ => .complain .truth
where
  ofInt (n : Int) : Check Bool :=
    if n = 0 then .ok false
    else if n = 1 then .ok true
    else .complain (if isShort n then .truthWritten else .truth)
  ofText (s : String) : Check Bool :=
    match truthOfText? s with
    | some b => .ok b
    | none => .complain .truthWritten

/-- One of a few texts, each with what it stands for. -/
def Value.checkChoice {α : Type} (choices : List (String × α)) (v : Value) : Check α :=
  match v.checkText with
  | .ok s =>
    match choices.lookup s with
    | some a => .ok a
    | none => .complain .choice
  | .flawed _ => .complain .choice

/-- A missing value or a value that passes. -/
def Value.checkOptional {α : Type} (check : Value → Check α) : Value → Check (Option α)
  | .scalar .null => .ok none
  | v => some <$> check v

/-- A list whose items pass. -/
def Value.checkList {α : Type} (check : Value → Check α) : Value → Check (List α)
  | .list items => .all (items.zipIdx.map fun (v, i) => .under (.index i) (check v))
  | .set members => .all (members.zipIdx.map fun (s, i) => .under (.index i) (check (.scalar s)))
  | _ => .complain .list

/-! ### Records -/

/-- A field may be given under several names; the first one found counts. -/
def findField (names : List String) (entries : List (Scalar × Value)) :
    Option (String × Value) :=
  names.firstM fun name => (lookupKey (.text name) entries).map (name, ·)

/-- A field that must be there. -/
def checkField {α : Type} (names : List String) (check : Value → Check α)
    (entries : List (Scalar × Value)) : Check α :=
  match findField names entries with
  | some (name, v) => .under (.name name) (check v)
  | none => .under (.name (names.headD "")) (.complain .missing)

/-- A field with a value to take when it is not there. -/
def checkFieldOr {α : Type} (names : List String) (check : Value → Check α) (default : α)
    (entries : List (Scalar × Value)) : Check α :=
  match findField names entries with
  | some (name, v) => .under (.name name) (check v)
  | none => .ok default

/-- A record, given by its fields. -/
def Value.checkRecord {α : Type} (check : List (Scalar × Value) → Check α) : Value → Check α
  | .map entries => check entries
  | _ => .complain .record

/-- The name of a key that has no text. -/
def unwritableName : String := "<unprintable int object>"

/-- The step to the entry of a key: a small whole number is an index, any other key a name. -/
def Step.ofKey : Scalar → Step
  | .text s => .name s
  | .bool b => .index (if b then 1 else 0)
  | .int n => if isShort n then .index n
    else .name (if Text.isWritable n then toString n else unwritableName)
  | k => .name k.quoted

/-- A map whose keys are texts, with nothing asked of its values. -/
def checkTextKeys {α : Type} (entries : List (Scalar × α)) : Check (List (String × α)) :=
  (fun es => es.foldl (fun done e => insertName e.1 e.2 done) []) <$>
    Check.all (entries.map fun (k, v) =>
      .under (.ofKey k) (.under (.name "[key]") ((·, v) <$> (Value.scalar k).checkText)))

end ApiBridge
