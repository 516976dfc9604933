import ApiBridge.TypeScript.Literal
import ApiBridge.TypeScript.TypeExpr

/-!
# Source text of types

Type expressions as TypeScript. A record nested `level` deep has its members indented one step
more than its braces; at a level below zero nothing is indented.
-/

namespace ApiBridge

namespace TypeExpr

/-- The blanks in front of a line. -/
def indentation (level : Int) : String :=
  String.ofList (List.replicate (2 * level.toNat) ' ')

mutual

/-- The source text of an expression. -/
def source (level : Int) : TypeExpr → String
  | .any => "any"
  | .string => "string"
  | .number => "number"
  | .boolean => "boolean"
  | .mapping => "Record<string, any>"
  | .literals [] => "never"
  | .literals values => " | ".intercalate (values.map Literal.ofValue)
  | .anySequence => "any[]"
  | .sequence item => "Array<" ++ source level item ++ ">"
  | .reference name => if name = "" then "any" else name
  | .record [] => "\x7b\x7d"
  | .record properties =>
    "\n".intercalate ("\x7b" :: memberLines (level + 1) properties ++ [indentation level ++ "\x7d"])

/-- The lines of the members of a record. -/
def memberLines (level : Int) : List (Property TypeExpr) → List String
  | [] => []
  | ⟨name, optional, type⟩ :: ps =>
    (indentation level ++ Literal.ofKey name ++ (if optional then "?" else "") ++ ": "
      ++ source level type ++ ";") :: memberLines level ps

end

theorem source_sequence (level : Int) (item : TypeExpr) :
    source level (.sequence item) = "Array<" ++ source level item ++ ">" := by
  rw [source]

theorem memberLines_cons (level : Int) (p : Property TypeExpr) (ps : List (Property TypeExpr)) :
    memberLines level (p :: ps) = (indentation level ++ Literal.ofKey p.name
      ++ (if p.optional then "?" else "") ++ ": " ++ source level p.type ++ ";")
      :: memberLines level ps := by
  rw [memberLines]

mutual

/-- Has an expression a source text? All its literals must have one. -/
def isWritable : TypeExpr → Bool
  | .literals values => values.all Value.isWritable
  | .sequence item => item.isWritable
  | .record properties => areWritable properties
  | _ => true

def areWritable : List (Property TypeExpr) → Bool
  | [] => true
  | ⟨_, _, type⟩ :: ps => type.isWritable && areWritable ps

end

/-- The source text of an expression, if it is writable. -/
def writtenSource (level : Int) (e : TypeExpr) : Except TextError String :=
  if e.isWritable then .ok (e.source level) else .error .integerTooLong

end TypeExpr

end ApiBridge
