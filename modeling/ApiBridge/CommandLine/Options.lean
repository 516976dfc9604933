/-!
# Options

The words after a command are options, values of options and other words. An option has long
spellings, which may carry their value behind an equals sign, and short spellings of one letter,
which may be written together behind one dash. Two dashes alone end the options.
-/

namespace ApiBridge.CommandLine

/-- What an option is called, and whether it takes a value. -/
structure OptionForm (α : Type) where
  option : α
  spellings : List String
  takesValue : Bool
  deriving Repr

/-- An option that is given, with its value if it takes one. -/
structure Given (α : Type) where
  option : α
  value : Option String
  deriving DecidableEq, Repr

/-- What words say: the options in order, and the other words. -/
structure Reading (α : Type) where
  given : List (Given α)
  others : List String
  deriving DecidableEq, Repr

/-- Why words cannot be followed. -/
inductive UsageError
  | unknownOption (spelling : String)
  | valueMissing (spelling : String)
  | valueUnexpected (spelling : String)
  | optionMissing (spelling : String)
  | noChoice (spelling value : String)
  | commandMissing
  | unknownCommand (word : String)
  | wordUnexpected (word : String)
  deriving DecidableEq, Repr

/-- The report of words that cannot be followed. -/
def UsageError.message : UsageError → String
  | .unknownOption spelling => s!"No such option: {spelling}"
  | .valueMissing spelling => s!"Option '{spelling}' requires an argument."
  | .valueUnexpected spelling => s!"Option '{spelling}' does not take a value."
  | .optionMissing spelling => s!"Missing option '{spelling}'."
  | .noChoice spelling value => s!"Invalid value for '{spelling}': '{value}'."
  | .commandMissing => "Missing command."
  | .unknownCommand word => s!"No such command '{word}'."
  | .wordUnexpected word => s!"Got unexpected extra argument ({word})"

variable {α : Type}

namespace OptionForm

/-- The option with a spelling. -/
def find? (forms : List (OptionForm α)) (spelling : String) : Option (OptionForm α) :=
  forms.find? fun f => f.spellings.contains spelling

/-- The options in the letters behind one dash; `next` is the word that follows, and the answer says
whether it was used as a value. -/
def readLetters (forms : List (OptionForm α)) (next : Option String) :
    List Char → Except UsageError (List (Given α) × Bool)
  | [] => .ok ([], false)
  | c :: cs =>
    let spelling := String.ofList ['-', c]
    match find? forms spelling with
    | none => .error (.unknownOption spelling)
    | some form =>
      if !form.takesValue then do
        let (given, used) ← readLetters forms next cs
        return (⟨form.option, none⟩ :: given, used)
      else if !cs.isEmpty then .ok ([⟨form.option, some (String.ofList cs)⟩], false)
      else
        match next with
        | some value => .ok ([⟨form.option, some value⟩], true)
        | none => .error (.valueMissing spelling)

/-- The options in a word that starts with a dash; `next` is the word that follows, and the answer
says whether it was used as a value. -/
def readWord (forms : List (OptionForm α)) (next : Option String) (word : String) :
    Except UsageError (List (Given α) × Bool) :=
  let cs := word.toList
  let spelling := String.ofList (cs.takeWhile (· ≠ '='))
  match cs with
  | '-' :: '-' :: _ =>
    match find? forms spelling, (cs.dropWhile (· ≠ '=')).tail? with
    | none, _ => .error (.unknownOption spelling)
    | some form, some value =>
      if form.takesValue then .ok ([⟨form.option, some (String.ofList value)⟩], false)
      else .error (.valueUnexpected spelling)
    | some form, none =>
      if !form.takesValue then .ok ([⟨form.option, none⟩], false)
      else
        match next with
        | some value => .ok ([⟨form.option, some value⟩], true)
        | none => .error (.valueMissing spelling)
  | _ => readLetters forms next cs.tail

/-- Is the word an option? A dash alone is not. -/
def isOption (word : String) : Bool :=
  word.startsWith "-" && word != "-"

/-- Read words. With `mixed`, options are found between other words too; without, the first other
word ends them. -/
def read (forms : List (OptionForm α)) (mixed : Bool) :
    List String → Except UsageError (Reading α)
  | [] => .ok ⟨[], []⟩
  | word :: words =>
    if word = "--" then .ok ⟨[], words⟩
    else if isOption word then do
      let (given, used) ← readWord forms words.head? word
      let rest ← match used, words with
        | true, _ :: words => read forms mixed words
        | _, words => read forms mixed words
      return { rest with given := given ++ rest.given }
    else if mixed then do
      let rest ← read forms mixed words
      return { rest with others := word :: rest.others }
    else .ok ⟨[], word :: words⟩
termination_by words => words.length

end OptionForm

namespace Reading

variable [DecidableEq α]

/-- Is an option given? -/
def has (r : Reading α) (option : α) : Bool :=
  r.given.any (·.option = option)

/-- The value that is given last for an option. -/
def value? (r : Reading α) (option : α) : Option String :=
  (r.given.reverse.find? (·.option = option)).bind (·.value)

/-- The first option given out of some. -/
def firstOf? (r : Reading α) (options : List α) : Option α :=
  (r.given.find? fun g => options.contains g.option).map (·.option)

/-- The last option given out of some. -/
def lastOf? (r : Reading α) (options : List α) : Option α :=
  (r.given.reverse.find? fun g => options.contains g.option).map (·.option)

end Reading

end ApiBridge.CommandLine
