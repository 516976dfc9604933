import ApiBridge.Document.ContentType
import ApiBridge.Document.Graph
import ApiBridge.Host
import ApiBridge.Text.Lowercase
import ApiBridge.Url.Basic
import ApiBridge.Yaml.Document

/-!
# Loading documents

A document comes from a file, from a server or from the input, and is written in JSON or YAML. What
it is written in is told by its name or by the server; if not, JSON is tried first.
-/

namespace ApiBridge

/-- What a document is known to be written in. -/
inductive DocumentFormat
  | unknown
  | json
  | yaml
  deriving DecidableEq, Repr, Inhabited

/-- Why there is no document. -/
inductive LoadError
  | fileMissing (source : String)
  /-- The file is there and cannot be opened. -/
  | fileClosed (source : String) (e : FileError)
  | fileEmpty (source : String)
  | inputEmpty
  | inputUnreadable (reason : String)
  | badStatus (status : Nat) (url : String)
  | notFetched (url reason : String)
  | notJson (e : Json.Error)
  | notYaml (json : Option Json.Error) (yaml : Yaml.Error)
  | notMap (kind : String)
  /-- The file cannot be looked for. -/
  | unreadable (e : FileError)
  /-- The bytes of a file are no text. -/
  | notText (e : Text.DecodeError)
  /-- There is no input to read. -/
  | inputMissing
  /-- The source cannot be the address of a server. -/
  | notUrl (e : UrlError)
  /-- No request can be made to the address. -/
  | requestBroken (reason : String)
  /-- The answer of a server is no text. -/
  | undecodable (e : ContentType.Error)
  /-- An integer in JSON has too many digits. -/
  | tooManyDigits (count : Nat)
  /-- A scalar in YAML cannot be built. -/
  | badScalar (e : Yaml.Error)
  deriving DecidableEq, Repr

namespace LoadError

/-- Is the error reported as one of loading? The others say what went wrong inside. -/
def isReported : LoadError → Bool
  | .unreadable _ | .notText _ | .inputMissing | .notUrl _ | .requestBroken _ | .undecodable _
  | .tooManyDigits _ | .badScalar _ => false
  | _ => true

/-- The report of a document that is not there. -/
def message : LoadError → String
  | .fileMissing source => s!"Description document not found at {source}"
  | .fileClosed source e => s!"Failed to read {source}: {e.message}"
  | .fileEmpty source => s!"Description document is empty: {source}"
  | .inputEmpty => "No input received from stdin"
  | .inputUnreadable reason => s!"Failed to read from stdin: {reason}"
  | .badStatus status url => s!"HTTP {status} fetching document from {url}"
  | .notFetched url reason => s!"Failed to fetch document from {url}: {reason}"
  | .notJson e => s!"Invalid JSON: {e.message}"
  | .notYaml json yaml =>
    "Failed to parse description document as JSON or YAML"
      ++ (json.map fun e => s!"\n  JSON error: {e.message}").getD ""
      ++ s!"\n  YAML error: {yaml.message}"
  | .notMap kind => s!"Description document must be a JSON/YAML object (got {kind})"
  | .unreadable e => e.message
  | .notText e => e.message
  | .inputMissing => "'NoneType' object has no attribute 'read'"
  | .notUrl e => e.message
  | .requestBroken reason => reason
  | .undecodable e => e.message
  | .tooManyDigits count => Text.tooManyDigits count
  | .badScalar e => e.message

end LoadError

namespace Document

/-! ### Reading -/

/-- A document, which must be a map. -/
def requireMap (d : Document) : Except LoadError Document :=
  match d.graph.node d.root with
  | .map _ => .ok d
  | .scalar .null => .error (.notMap "empty document")
  | n => .error (.notMap n.kindName)

/-- Read YAML, after JSON was tried or not. -/
def readYaml (json : Option Json.Error) (text : String) : Except LoadError Document :=
  match Yaml.read text with
  | .ok d => d.requireMap
  | .error e => .error (if e.isMalformed then .notYaml json e else .badScalar e)

/-- Read a document. -/
def read (format : DocumentFormat) (text : String) : Except LoadError Document :=
  if format = .yaml then readYaml none text
  else
    match Json.read text with
    | .ok v => (ofValue v).requireMap
    | .error (.tooManyDigits n) => .error (.tooManyDigits n)
    | .error e => if format = .json then .error (.notJson e) else readYaml (some e) text

/-! ### Sources -/

/-- What a file with a name is written in. -/
def formatOfPath (p : Path) : DocumentFormat :=
  match Text.lower p.suffix with
  | ".json" => .json
  | ".yaml" => .yaml
  | ".yml" => .yaml
  | _ => .unknown

/-- Do the characters occur in a row in the text? -/
def mentions (word text : List Char) : Bool :=
  match text with
  | [] => word.isEmpty
  | c :: cs => word.isPrefixOf (c :: cs) || mentions word cs

/-- What a server says that a document is written in. -/
def formatOfContentType (contentType : String) : DocumentFormat :=
  let cs := contentType.toList
  if mentions "json".toList cs then .json
  else if mentions "yaml".toList cs || mentions "yml".toList cs then .yaml
  else .unknown

/-- The document in a file. -/
def loadFile (h : Host) (source : String) : Except LoadError Document := do
  let path := Path.ofText source
  match ← (h.findFile path).mapError .unreadable with
  | none => throw (.fileMissing source)
  | some opened =>
    let bytes ← opened.mapError (.fileClosed source)
    let text ← (fileText bytes).mapError .notText
    if Text.isAllBlank text then throw (.fileEmpty source)
    read (formatOfPath path) text

/-- The document that a server answers with, if the source is the address of one. -/
def loadUrl (h : Host) (url : String) : Except LoadError Document := do
  (Url.check url).mapError .notUrl
  match h.fetch url with
  | .failed reason => throw (.notFetched url reason)
  | .broken reason => throw (.requestBroken reason)
  | .answered status contentType body =>
    let contentType := contentType.getD ""
    if status < 200 ∨ 300 ≤ status then throw (.badStatus status url)
    let text ← (ContentType.textOf contentType body).mapError .undecodable
    read (formatOfContentType contentType) text

/-- The document in the input. -/
def loadInput (h : Host) : Except LoadError Document :=
  match h.input with
  | .text s => if Text.isAllBlank s then .error .inputEmpty else read .unknown s
  | .unreadable reason => .error (.inputUnreadable reason)
  | .missing => .error .inputMissing

/-- Is the source a server? -/
def isUrl (source : String) : Bool :=
  source.startsWith "http://" || source.startsWith "https://"

/-- The document of a source: a dash for the input, the address of a server, or a path. -/
def load (h : Host) (source : String) : Except LoadError Document :=
  if source = "-" then loadInput h
  else if isUrl source then loadUrl h source
  else loadFile h source

end Document

end ApiBridge
