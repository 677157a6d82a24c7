import Courseware.Course.Basic
import Courseware.Text.Slug
import Courseware.Markdown.Block
import Courseware.Text.WordChar
import Courseware.Site.Render

/-!
# Slides

Each slide of a lesson is rendered from `partials/slide.html` around a body: a content block
as markdown, raw HTML or preformatted text; an activity from its own template
`partials/activity_TYPE.html` when its type is a plain word and such a template exists, from
`partials/worked_example.html` when it is a reading with a JavaScript fence, and from
`partials/activity.html` otherwise; an assessment with its question widgets; and the closing
slide that marks the lesson complete. Every slide knows its number, the number of slides, and
links to its neighbours.
-/

/-!
## The slides of a lesson

A lesson is shown as slides: one per content block, one per activity, one per assessment, in
that order, and a closing slide. Each has an anchor id from one set of anchors per lesson:
`content 1`, `content 2`, … for content; the id of an activity or assessment, or `activity N`
/ `assessment N` (its place among its kind) when that id is blank; `complete` for the last.
-/

namespace Courseware

/-- What a slide shows. -/
inductive SlideKind where
  | content (c : Content)
  | activity (a : Activity)
  | assessment (a : Assessment)
  | completion

def SlideKind.name : SlideKind → String
  | .content _ => "content"
  | .activity _ => "activity"
  | .assessment _ => "assessment"
  | .completion => "completion"

def SlideKind.sourceId : SlideKind → Option String
  | .activity a => some a.id
  | .assessment a => some a.id
  | _ => none

/-- A slide: its anchor id and what it shows. -/
structure Slide where
  id : String
  kind : SlideKind

/-- The label of the `index`-th (from 0) item of a kind: its id, or the kind and its number
when the id is blank. -/
def slideLabel (id kind : String) (index : Nat) : String :=
  if (Text.trim id).isEmpty then s!"{kind} {index + 1}" else id

/-- Gives each label an anchor id, in order. -/
def anchorAll (a : Anchors) : List (String × SlideKind) → List Slide × Anchors
  | [] => ([], a)
  | (label, k) :: rest =>
    let (id, a) := a.fresh label
    let (slides, a) := anchorAll a rest
    (⟨id, k⟩ :: slides, a)

def Lesson.slides (l : Lesson) : List Slide :=
  let contents := l.content.zipIdx.map fun (c, i) => (s!"content {i + 1}", SlideKind.content c)
  let activities := l.activities.zipIdx.map fun (a, i) =>
    (slideLabel a.id "activity" i, SlideKind.activity a)
  let assessments := l.assessments.zipIdx.map fun (a, i) =>
    (slideLabel a.id "assessment" i, SlideKind.assessment a)
  (anchorAll {} (contents ++ activities ++ assessments ++ [("complete", .completion)])).1

end Courseware

/-!
## Worked examples

A reading activity whose expected text holds a JavaScript fence is shown as a worked example:
the code of the first such fence, and the text around it as the key takeaways.

A JavaScript fence is three backticks, the tag `javascript` or `js` in any case (a long `ſ`
counts as an `s`) ending at a word boundary, the rest of that line, and then the code up to
the next three backticks. The line after the tag must end; a fence that never closes is no
fence, and the search goes on after its opening backticks.
-/

namespace Courseware.Site

/-- A character compared without case, in the tag of a fence. -/
def foldTagChar (c : Char) : Char :=
  if c == 'ſ' then 's' else if 'A' ≤ c && c ≤ 'Z' then Char.ofNat (c.toNat + 32) else c

/-- The tag `w` (in lower case) stands at the front, in any case, and ends at a word
boundary. -/
def tagAt : List Char → List Char → Bool
  | [], [] => true
  | [], c :: _ => !wordChars.contains c
  | _ :: _, [] => false
  | w :: ws, c :: cs => foldTagChar c == w && tagAt ws cs

def jsTag (cs : List Char) : Option Nat :=
  if tagAt "javascript".toList cs then some 10
  else if tagAt "js".toList cs then some 2
  else none

/-- A JavaScript fence at the front of a text: its code, and how many characters it takes. -/
def jsFence : Pattern (List Char) := fun cs =>
  match cs with
  | '`' :: '`' :: '`' :: rest =>
    match jsTag rest with
    | some tag =>
      let line := (rest.drop tag).takeWhile (· != '\n')
      match rest.drop (tag + line.length) with
      | '\n' :: body =>
        (Markdown.untilFence body).map fun (code, _) =>
          (code, 3 + tag + line.length + 1 + code.length + 3)
      | _ => none
    | none => none
  | _ => none

/-- The code of a worked example and the text around it. -/
structure WorkedExample where
  code : String
  takeaways : String

/-- The worked example a reading activity holds in its expected text, if any. -/
def workedExample? (a : Activity) : Option WorkedExample :=
  if a.normalizedType != "reading" then none
  else
    (Pattern.firstMatch jsFence a.expected.toList).map fun (before, code, after) =>
      { code := Text.trimEnd (String.ofList code)
        takeaways := Text.trim (String.ofList before ++ "\n" ++ String.ofList after) }

end Courseware.Site

namespace Courseware.Site

open Text (escapeHtml escapeScriptString)

/-- The body of a content block: markdown made safe, HTML as written, anything else as
preformatted text. -/
def contentBody (c : Content) : String :=
  match c.format with
  | .markdown => Markdown.toHtml c.value
  | .html => c.value
  | .other _ => s!"<pre>{escapeHtml c.value}</pre>"

def slideNav (slides : List Slide) (index : Nat) : String :=
  let previous := match index with
    | 0 => []
    | i + 1 => (slides[i]?.map fun s =>
        s!"<a class=\"btn\" href=\"#{escapeHtml s.id}\">Previous</a>").toList
  let next := (slides[index + 1]?.map fun s =>
    s!"<a class=\"btn\" href=\"#{escapeHtml s.id}\">Next</a>").toList
  " ".intercalate (previous ++ next)

/-- An activity type names its own template when it is a non-empty word of ASCII letters,
digits, `_` and `-`. -/
def isTemplateWord (kind : String) : Bool :=
  !kind.isEmpty && kind.all fun c => (c.toNat < 0x80 && c.isAlphanum) || c == '_' || c == '-'

/-- The template of an activity: its type's own template if it exists, else the generic one. -/
def activityTemplate (a : Activity) : SiteM String := do
  let kind := a.normalizedType
  if isTemplateWord kind then
    let name := s!"partials/activity_{kind}.html"
    if ← hasTemplate name then return name
  return "partials/activity.html"

def activityHtml (a : Activity) : SiteM String := do
  let estHtml := if a.est.isEmpty then "" else
    "<p class=\x27small\x27>Estimated: " ++ escapeHtml a.est ++ "</p>"
  match workedExample? a with
  | some ex =>
    let takeawaysHtml := if ex.takeaways.isEmpty then "" else
      "<div class=\"takeaways\">\n    <h3>Key Takeaways</h3>\n    " ++
        Markdown.toHtml ex.takeaways ++ "\n  </div>"
    render "partials/worked_example.html" [("activity_id", escapeHtml a.id),
      ("est_html", estHtml), ("explanation", Markdown.toHtml a.instructions),
      ("code", escapeHtml ex.code), ("takeaways_html", takeawaysHtml)]
  | none =>
    let expectedHtml := if a.expected.isEmpty then "" else
      "<p><strong>Expected:</strong> " ++ escapeHtml a.expected ++ "</p>"
    let label := if Text.isBlankText a.type then "Activity" else Text.titleCase (Text.trim a.type)
    let template ← activityTemplate a
    render template [("activity_id", escapeHtml a.id), ("activity_type", escapeHtml label),
      ("instructions", Markdown.toHtml a.instructions), ("expected_html", expectedHtml),
      ("est_html", estHtml)]

/-- The body of an assessment slide, keyed by `key`. -/
def assessmentHtml (courseId : String) (a : Assessment) (key : String) : SiteM String := do
  let questions ← questionsHtml a.questions key
  render "partials/assessment.html" [("assess_id", escapeHtml key),
    ("assess_js", escapeScriptString key), ("course_js", escapeScriptString courseId),
    ("pass_score", toString a.passScore), ("questions", questions)]

/-- The key an assessment's progress is kept under: its id, or the id of its slide when its own
id is blank. -/
def assessmentKey (a : Assessment) (slideId : String) : String :=
  if Text.isBlankText a.id then slideId else a.id

def slideBody (course : Course) (l : Lesson) (s : Slide) : SiteM String :=
  match s.kind with
  | .content c => pure (contentBody c)
  | .activity a => activityHtml a
  | .assessment a => assessmentHtml course.id a (assessmentKey a s.id)
  | .completion =>
    render "partials/completion.html" [("lesson_title", escapeHtml l.title),
      ("course_js", escapeScriptString course.id), ("lesson_js", escapeScriptString l.key)]

def slidesHtml (course : Course) (l : Lesson) : SiteM (List String) := do
  let slides := l.slides
  slides.zipIdx.mapM fun (s, i) => do
    let body ← slideBody course l s
    render "partials/slide.html" [("slide_kind", s.kind.name), ("slide_id", escapeHtml s.id),
      ("slide_number", toString (i + 1)), ("slide_total", toString slides.length),
      ("slide_body", body), ("slide_nav", slideNav slides i)]

end Courseware.Site
