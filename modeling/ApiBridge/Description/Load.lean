import ApiBridge.Failure

/-!
# Descriptions from documents

A document becomes the description of an API in three steps: it is loaded, its references are
resolved, and what it says is read. Each step can fail in its own way.
-/

namespace ApiBridge.Api

/-- The description in a document. -/
def ofDocument (d : Document) : Attempt Failure (Api Document) :=
  match d.resolve with
  | .ok d => d.describeParts.adapt .description
  | .error e => throw (.reference e)

/-- The description in the document of a source. -/
def load (h : Host) (source : String) : Attempt Failure (Api Document) :=
  match Document.load h source with
  | .ok d => ofDocument d
  | .error e => throw (.load e)

end ApiBridge.Api
