import Courseware.FileStore.Basic
import Courseware.Course.Basic
import Courseware.Xml.Document
import Courseware.Number.Double

/-!
# Reading a course document

A course document is XML with a `course` root. The course's `title`, `id`, `level` and
`duration` attributes are optional; its `objective` children with text are its objectives, and
its `module` children, sorted by `order` (a stable sort), its modules. A module needs a
`title`; a lesson needs a `title`. Numbers are read after trimming, an absent or blank one
taking its default: a module's `order` (an integer, 0), an assessment's `passScore` and a
question's `points` (numbers, 0 and 1). The first problem, in document order, is the error.

Questions take their kind from their `type` (`mcq` when absent), trimmed and in lower case.
-/

/-!
## Why a course could not be read

A course document may be unreadable, rejected by its schema, not well-formed XML, or lack a
required attribute or give one a value that is not a number. Each error's `message` names
the document or the element (its id, or `(no id)`) and where it stands in the course.
-/

namespace Courseware

/-- Why a course could not be read. -/
inductive ParseError where
  | io (path : String) (cause : IoError)
  | validation (document message : String)
  | malformedXml (document : String) (line column : Nat) (message : String)
  | missingAttribute (element id location attr present : String)
  | invalidAttribute (element id location attr value expected : String)
  deriving Repr, BEq, DecidableEq

namespace ParseError

def display : ParseError → String
  | .io path _ => s!"failed to read {path}"
  | .validation doc msg => s!"{doc} failed schema validation: {msg}"
  | .malformedXml doc line column msg =>
    s!"{doc} is not well-formed XML (line {line}, column {column}): {msg}"
  | .missingAttribute el id loc attr present =>
    s!"{el} '{id}' in {loc} is missing required attribute '{attr}'; attributes present: {present}"
  | .invalidAttribute el id loc attr value expected =>
    s!"{el} '{id}' in {loc} has {attr}=\"{value}\", expected {expected}"

def chain : ParseError → List String
  | .io path cause => [s!"failed to read {path}", cause.message]
  | e => [e.display]

def message (e : ParseError) : String := ": ".intercalate e.chain

def kind : ParseError → String
  | .io .. => "Io"
  | .validation .. => "Validation"
  | .malformedXml .. => "MalformedXml"
  | .missingAttribute .. => "MissingAttribute"
  | .invalidAttribute .. => "InvalidAttribute"

end ParseError

end Courseware

namespace Courseware.Reader

open Xml

/-- The element's id for messages: its `id` if it is not blank, else `(no id)`. -/
def describeId (el : Element) : String :=
  match el.attr? "id" with
  | some id => if (Text.trim id).isEmpty then "(no id)" else id
  | none => "(no id)"

def required (el : Element) (location attr : String) : Except ParseError String :=
  match el.attr? attr with
  | some v => .ok v
  | none =>
    let names := el.attributeNames
    .error (.missingAttribute el.name (describeId el) location attr
      (if names.isEmpty then "none" else ", ".intercalate names))

/-- A number attribute read by `read`, trimmed; absent or blank gives `default`. -/
def number {α : Type} (read : String → Option α) (el : Element) (location attr : String)
    (default : α) (expected : String) : Except ParseError α :=
  match el.attr? attr with
  | none => .ok default
  | some raw =>
    let t := Text.trim raw
    if t.isEmpty then .ok default
    else
      match read t with
      | some v => .ok v
      | none => .error (.invalidAttribute el.name (describeId el) location attr t expected)

/-- Code text: the raw text without line breaks at its front or blanks at its end. -/
def codeText (el : Element) : String :=
  Text.trimEnd (String.ofList (el.rawText.toList.dropWhile fun c => c == '\n' || c == '\r'))

def nonEmpty (s : String) : Option String := if s.isEmpty then none else some s

/-- The choices of a choice question; a choice is correct when its `correct` is `true` in any
ASCII case, blanks around. -/
def choices (el : Element) : List Choice :=
  (el.childrenNamed "choice").map fun c =>
    ⟨c.text, ((c.attr? "correct").map fun v => (Text.trim v).toLower == "true").getD false⟩

/-- The answer of a true/false question: the `answer` child's `value`, else its text, in
lower case; `false` when that is empty. -/
def trueFalseAnswer (el : Element) : String :=
  let given := (el.child? "answer").map fun a =>
    match a.attr? "value" with
    | some v => Case.lowercase (Text.trim v)
    | none => Case.lowercase a.text
  match given with
  | some a => if a.isEmpty then "false" else a
  | none => "false"

/-- The prompt of a matching or ordering question: `prompt`, else `stem`. -/
def promptOrStem (el : Element) : String :=
  let p := el.childText "prompt"
  if p.isEmpty then el.childText "stem" else p

/-- One side of a pair: the child element's text, else the attribute, trimmed. -/
def pairSide (pair : Element) (name : String) : String :=
  match pair.child? name with
  | some c => c.text
  | none => Text.trim (pair.attrOrEmpty name)

/-- What a question element asks, given its type as written. -/
def questionKind (typeName : String) (el : Element) : QuestionKind :=
  match Case.lowercase (Text.trim typeName) with
  | "mcq" => .mcq (el.childText "stem") (choices el)
  | "msq" => .msq (el.childText "stem") (choices el)
  | "truefalse" => .trueFalse (el.childText "statement") (trueFalseAnswer el)
  | "short" => .short (el.childText "prompt") (nonEmpty (el.childText "solution"))
  | "long" => .long (el.childText "prompt") (nonEmpty (el.childText "solution"))
  | "code" =>
    let starter := el.child? "starter"
    let lang := match el.attr? "lang" with
      | some l => l
      | none => (starter.bind (·.attr? "lang")).getD ""
    .code (el.childText "prompt") (Text.trim lang) ((starter.map codeText).getD "")
      (((el.child? "tests").map codeText).getD "")
      ((el.child? "solution").bind fun s => nonEmpty (codeText s))
  | "matching" =>
    .matching (promptOrStem el)
      ((el.childrenNamed "pair").map fun p => ⟨pairSide p "left", pairSide p "right"⟩)
  | "ordering" => .ordering (promptOrStem el) ((el.childrenNamed "item").map Element.text)
  | _ => .unsupported typeName el.toXml

/-- A content block: HTML with child elements keeps its inner XML, trimmed; any other block
keeps its text. -/
def content (el : Element) : Content :=
  let format := ContentFormat.ofTag ((el.attr? "format").getD "markdown")
  let value := if format == .html && el.hasChildElement then Text.trim el.inner else el.text
  ⟨format, el.attrOrEmpty "lang", value⟩

def activity (el : Element) : Activity :=
  ⟨el.attrOrEmpty "id", el.attrOrEmpty "type", el.attrOrEmpty "est",
    el.childText "instructions", el.childText "expected"⟩

def assessment (el : Element) (location : String) : Except ParseError Assessment := do
  let id := el.attrOrEmpty "id"
  let passScore ← number Decimal.readDouble? el location "passScore" 0.0 "a number"
  let inner := s!"{location} > assessment '{id}'"
  let questions ← (el.childrenNamed "question").mapM fun q => do
    let points ← number Decimal.readDouble? q inner "points" 1.0 "a number"
    pure ⟨points, questionKind ((q.attr? "type").getD "mcq") q⟩
  pure ⟨id, (el.attr? "type").getD "quiz", Double.truncate passScore, questions⟩

def lesson (el : Element) (location moduleTitle : String) : Except ParseError Lesson := do
  let title ← required el location "title"
  let inner := s!"{location} > lesson '{title}'"
  let assessments ← (el.childrenNamed "assessment").mapM (assessment · inner)
  pure ⟨el.attrOrEmpty "id", title, el.attrOrEmpty "duration",
    (el.childrenNamed "content").map content, (el.childrenNamed "activity").map activity,
    assessments, moduleTitle⟩

/-- A module in the course at `location`. -/
def module (el : Element) (location : String) : Except ParseError Module := do
  let title ← required el location "title"
  let order ← number Decimal.readInt? el location "order" 0 "an integer"
  let inner := s!"{location} > module '{title}'"
  let lessons ← (el.childrenNamed "lesson").mapM (lesson · inner title)
  pure ⟨el.attrOrEmpty "id", title, order, lessons⟩

/-- The course of a root element. -/
def course (root : Element) : Except ParseError Course := do
  let title := root.attrOrEmpty "title"
  let location := s!"course '{title}'"
  let objectives := ((root.childrenNamed "objective").map Element.text).filter (!·.isEmpty)
  let modules ← (root.childrenNamed "module").mapM (module · location)
  let sorted := modules.mergeSort fun a b => a.order ≤ b.order
  pure ⟨root.attrOrEmpty "id", title, root.attrOrEmpty "level", root.attrOrEmpty "duration",
    objectives, sorted⟩

/-- The course in a document's text; `document` names it in messages. -/
def read (document source : String) : Except ParseError Course :=
  match Xml.parse source with
  | .error e => .error (.malformedXml document e.line e.column e.message)
  | .ok root => course root

def inlineDocument : String := "<inline document>"

end Courseware.Reader

/-!
## Schema checks

A course document may be checked against a schema before it is read. A check passes, fails
with a report, or is skipped with a reason; only a failure stops the reading.

`Xmllint` checks a document against an XSD schema with an external program. It is skipped
when no schema is configured, when the schema is not a regular file, and when its program is
not installed; what the program reports, when it runs, is given to `Xmllint.validate`.
-/

namespace Courseware

/-- What a schema check found. -/
inductive Outcome where
  | valid
  | invalid (report : String)
  | skipped (reason : String)
  deriving Repr, BEq

/-- A schema check of the document at a path. -/
abbrev Validator := String → Outcome

/-- A check with an external program against an optional schema. -/
structure Xmllint where
  schema : Option String
  program : String := "xmllint"
  deriving Repr

/-- The outcome of the check in a file store; `run` is what the program reports when it is
installed, and none when it is not. -/
def Xmllint.validate (x : Xmllint) (fs : FileStore) (run : Option Outcome) : Outcome :=
  match x.schema with
  | none => .skipped "no schema configured"
  | some schema =>
    if !fs.isFile schema then .skipped s!"schema {schema} not found"
    else
      match run with
      | some outcome => outcome
      | none => .skipped s!"{x.program} is not installed"

end Courseware

/-!
## Reading a course file

A course file is first checked by the validator, if one is given, and refused if the check
fails; then its text is read from the file store and parsed, with the path naming the
document in errors.
-/

namespace Courseware.Reader

def parseFile (fs : FileStore) (path : String) (validator : Option Validator) :
    Except ParseError Course := do
  if let some check := validator then
    if let .invalid report := check path then throw (.validation path report)
  match fs.readText path with
  | .ok source => read path source
  | .error cause => throw (.io path cause)

end Courseware.Reader
