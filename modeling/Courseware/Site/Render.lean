import Courseware.Template.Engine
import Courseware.Random.Rng
import Courseware.Course.Basic
import Courseware.Number.Double
import Courseware.Markdown.Block

/-!
# The state of a site build

A site is built against a file store, with one template engine and one random generator
serving every page. `SiteM` threads all three: pages read templates from the store as it
stands when they are rendered, and every shuffle draws from the one generator, so the pages
are rendered in a fixed order and each sees what the pages before it wrote and drew.
-/

namespace Courseware.Site

/-- Why building a site failed. -/
inductive SiteError where
  /-- A template could not be rendered. -/
  | template (e : Template.TemplateError)
  /-- A directory or page could not be written. -/
  | io (path : String) (cause : IoError)
  deriving Repr

namespace SiteError

def kind : SiteError → String
  | .template _ => "Template"
  | .io .. => "Io"

def chain : SiteError → List String
  | .template e => "failed to render templates" :: e.chain
  | .io path cause => [s!"failed to write {path}", cause.message]

def message (e : SiteError) : String := ": ".intercalate e.chain

end SiteError

/-- The files, the template engine and the random generator of a build. -/
structure Builder where
  files : FileStore
  engine : Template.Engine
  rng : Random.Rng

/-- A step of a site build. A failure keeps the builder as it stands: the pages written and
the texts cached before it stay. -/
abbrev SiteM := EStateM SiteError Builder

/-- Runs a template computation against the current files. -/
def withEngine {α : Type} (m : FileStore → Template.TemplateM α) : SiteM α := fun b =>
  match (m b.files).run b.engine with
  | .ok a engine => .ok a { b with engine }
  | .error e engine => .error (.template e) { b with engine }

def render (name : String) (ctx : Template.Context) : SiteM String :=
  withEngine fun fs => Template.Engine.render fs name ctx

def hasTemplate (name : String) : SiteM Bool :=
  withEngine fun fs => Template.Engine.hasTemplate fs name

def shuffled {α : Type} (xs : List α) : SiteM (List α) := fun b =>
  let (ys, rng) := Random.shuffle xs b.rng
  .ok ys { b with rng }

/-- Writes a page into a directory; the page's path. -/
def writePage (dir name content : String) : SiteM String := fun b =>
  let path := FileStore.join dir name
  match b.files.writeText path content with
  | .ok files => .ok path { b with files }
  | .error cause => .error (.io path cause) b

end Courseware.Site

/-!
## Question widgets

Each question of an assessment becomes an HTML widget named `KEY__qN` (the assessment's key
and the question's number from 1). Choice questions list one input per choice, whose value
says whether it is correct; true/false questions carry their answer on the widget; open
questions get a text area and a hidden solution; matching questions offer every right-hand
value, shuffled once, in each row; ordering questions show their items shuffled, each
holding its place in the document.
-/

namespace Courseware.Site

open Text (escapeHtml)

def orInstruction (prompt instruction : String) : String :=
  if prompt.isEmpty then instruction else prompt

/-- A question from `partials/question.html`: its escaped stem and the inputs built for it. -/
def stemmed (type : String) (number : Nat) (points stem choices : String) : SiteM String :=
  render "partials/question.html" [("q_type", type), ("q_index", toString number),
    ("points", points), ("stem", escapeHtml stem), ("choices", choices)]

def choiceInputs (inputType name : String) (choices : List Choice) : String :=
  "<br>".intercalate (choices.map fun c =>
    let value := if c.correct then "true" else "false"
    let text := escapeHtml c.text
    s!"<label><input type=\"{inputType}\" name=\"{name}\" value=\"{value}\"> {text}</label>")

def trueFalseInputs (name : String) : String :=
  s!"<label><input type=\"radio\" name=\"{name}\" value=\"true\"> True</label>\n  " ++
    s!"<label><input type=\"radio\" name=\"{name}\" value=\"false\"> False</label>"

/-- A free-text answer: the question type, the height of its box, its prompt, the language
and starter code of a code question, and the solution if one is given. -/
structure OpenAnswer where
  type : String
  rows : Nat
  prompt : String
  lang : String := ""
  starter : String := ""
  solution : Option String

/-- The hidden solution of an open question; a code solution keeps its language. -/
def OpenAnswer.solutionHtml (a : OpenAnswer) : String :=
  match a.solution with
  | none => ""
  | some solution =>
    let solution := escapeHtml solution
    if a.type == "code" then
      let lang := escapeHtml a.lang
      s!"<div class=\"solution\" hidden><pre><code class=\"language-{lang}\">{solution}</code></pre></div>"
    else s!"<div class=\"solution\" hidden>{solution}</div>"

def openQuestion (a : OpenAnswer) (number : Nat) (points name : String) : SiteM String :=
  render "partials/question_open.html" [("q_type", a.type), ("q_index", toString number),
    ("points", points), ("prompt", escapeHtml a.prompt), ("q_name", name),
    ("rows", toString a.rows), ("lang", escapeHtml a.lang), ("starter", escapeHtml a.starter),
    ("solution_html", a.solutionHtml)]

/-- The rows of a matching question: each left-hand value with a choice among all right-hand
values, which are shuffled once. -/
def matchingRows (pairs : List MatchPair) (name : String) : SiteM String := do
  let options ← shuffled (pairs.map (·.right)).eraseDups
  let optionsHtml := String.join ("<option value=\"\">Choose...</option>" :: options.map fun o =>
    let o := escapeHtml o
    s!"<option value=\"{o}\">{o}</option>")
  return "\n  ".intercalate (pairs.zipIdx.map fun (p, i) =>
    let left := escapeHtml p.left
    let right := escapeHtml p.right
    s!"<div class=\"match\"><span>{left}</span> <select name=\"{name}__{i + 1}\" " ++
      s!"data-answer=\"{right}\">{optionsHtml}</select></div>")

/-- The rows of an ordering question: the items shuffled, each holding its place. -/
def orderingRows (items : List String) (name : String) : SiteM String := do
  let total := items.length
  let positions ← shuffled (List.range total)
  return "\n  ".intercalate (positions.map fun pos =>
    let item := escapeHtml (items.getD pos "")
    s!"<div class=\"order\"><input type=\"number\" name=\"{name}__{pos + 1}\" min=\"1\" " ++
      s!"max=\"{total}\" data-correct=\"{pos + 1}\"> {item}</div>")

/-- The widget of a question, the `number`-th of its assessment, named `name`. -/
def questionHtml (q : Question) (number : Nat) (name : String) : SiteM String := do
  let points := Double.display q.points
  let name := escapeHtml name
  match q.kind with
  | .mcq stem choices => stemmed "mcq" number points stem (choiceInputs "radio" name choices)
  | .msq stem choices => stemmed "msq" number points stem (choiceInputs "checkbox" name choices)
  | .trueFalse statement answer =>
    let html ← stemmed "truefalse" number points statement (trueFalseInputs name)
    let answer := escapeHtml answer
    return String.ofList (Pattern.replaceFirst (Pattern.literal "data-type=\"truefalse\"".toList)
      (fun _ => s!"data-type=\"truefalse\" data-answer=\"{answer}\"".toList) html.toList)
  | .short prompt solution => openQuestion { type := "short", rows := 4, prompt, solution } number points name
  | .long prompt solution => openQuestion { type := "long", rows := 8, prompt, solution } number points name
  | .code prompt lang starter _ solution =>
    openQuestion { type := "code", rows := 10, prompt, lang, starter, solution } number points name
  | .matching prompt pairs =>
    let rows ← matchingRows pairs name
    stemmed "matching" number points
      (orInstruction prompt "Match each item on the left with its partner.") rows
  | .ordering prompt items =>
    let rows ← orderingRows items name
    stemmed "ordering" number points
      (orInstruction prompt "Number these items in the correct order.") rows
  | .unsupported typeName raw =>
    let t := escapeHtml typeName
    let raw := escapeHtml raw
    return s!"<div class=\"q\" data-type=\"{t}\">\n  <div>Unsupported question type: {t}</div>\n" ++
      s!"  <pre hidden>{raw}</pre>\n</div>"

def questionsHtml (questions : List Question) (key : String) : SiteM String := do
  let parts ← questions.zipIdx.mapM fun (q, i) => questionHtml q (i + 1) s!"{key}__q{i + 1}"
  return String.join parts

end Courseware.Site
