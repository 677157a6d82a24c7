import Courseware.Proofs.Site.Run
import Courseware.Site.Build

/-!
# The renderer over its template operations

The renderer reaches its template engine in two ways only: it renders a template by name with
a context, and it asks whether a template of some name exists. `TemplateOps` names the two
operations, and `TemplateOps.renderTo` is the renderer written over them; over the site's own
engine it is the renderer itself (`TemplateOps.engine_renderTo`). The renderer's calls are few and
fixed: a `FixedTemplate` with the variables listed for it, or the template
`partials/activity_KIND.html` of an activity whose kind is a plain word, once a probe finds it.

`Agree I E P m₁ m₂` says that two steps run alike from every builder with `I`, and that the
second fails only as `E` allows and otherwise returns a result with `P` and keeps `I`. A
`Simulation` of `T₂` by `T₁` gives agreeing steps at each call of the renderer; the walk
through the renderer (`Simulation.renderTo`) then gives agreeing builds.
-/

namespace Courseware.Site

open Template
open Text (escapeHtml escapeScriptString)

/-- The two operations the renderer asks of its template engine. -/
structure TemplateOps where
  render : String → Context → SiteM String
  hasTemplate : String → SiteM Bool

def activityName (kind : String) : String :=
  s!"partials/activity_{kind}.html"

theorem activityName_eq (kind : String) :
    activityName kind = "partials/activity_" ++ kind ++ ".html" :=
  rfl

/-- The templates the renderer renders by a fixed name. -/
inductive FixedTemplate where
  | question | questionOpen | workedExample | activity | assessment | completion | slide
  | lessonItem | moduleCard | indexHeader | lessonHeader | base
  deriving DecidableEq, Repr

namespace FixedTemplate

def all : List FixedTemplate :=
  [question, questionOpen, workedExample, activity, assessment, completion, slide, lessonItem,
    moduleCard, indexHeader, lessonHeader, base]

theorem mem_all (t : FixedTemplate) : t ∈ all := by
  cases t <;> decide

def name : FixedTemplate → String
  | question => "partials/question.html"
  | questionOpen => "partials/question_open.html"
  | workedExample => "partials/worked_example.html"
  | activity => "partials/activity.html"
  | assessment => "partials/assessment.html"
  | completion => "partials/completion.html"
  | slide => "partials/slide.html"
  | lessonItem => "partials/lesson_item.html"
  | moduleCard => "partials/module_card.html"
  | indexHeader => "partials/index_header.html"
  | lessonHeader => "partials/lesson_header.html"
  | base => "base.html"

def keys : FixedTemplate → List String
  | question => ["q_type", "q_index", "points", "stem", "choices"]
  | questionOpen => ["q_type", "q_index", "points", "prompt", "q_name", "rows", "lang", "starter",
      "solution_html"]
  | workedExample => ["activity_id", "est_html", "explanation", "code", "takeaways_html"]
  | activity => ["activity_id", "activity_type", "instructions", "expected_html", "est_html"]
  | assessment => ["assess_id", "assess_js", "course_js", "pass_score", "questions"]
  | completion => ["lesson_title", "course_js", "lesson_js"]
  | slide => ["slide_kind", "slide_id", "slide_number", "slide_total", "slide_body", "slide_nav"]
  | lessonItem => ["lesson_file", "lesson_title", "duration"]
  | moduleCard => ["mod_title", "lessons"]
  | indexHeader => ["title", "level", "duration"]
  | lessonHeader => ["course_title", "module_title", "lesson_title"]
  | base => ["title", "course_id", "total_lessons", "header_content", "content"]

end FixedTemplate

namespace TemplateOps

def engine : TemplateOps := ⟨Site.render, Site.hasTemplate⟩

@[simp] theorem engine_render : engine.render = Site.render := rfl

@[simp] theorem engine_hasTemplate : engine.hasTemplate = Site.hasTemplate := rfl

/-! ## The renderer, step by step as the site renders, over `T` -/

variable (T : TemplateOps)

def stemmed (type : String) (number : Nat) (points stem choices : String) : SiteM String :=
  T.render "partials/question.html" [("q_type", type), ("q_index", toString number),
    ("points", points), ("stem", escapeHtml stem), ("choices", choices)]

def openQuestion (a : OpenAnswer) (number : Nat) (points name : String) : SiteM String :=
  T.render "partials/question_open.html" [("q_type", a.type), ("q_index", toString number),
    ("points", points), ("prompt", escapeHtml a.prompt), ("q_name", name),
    ("rows", toString a.rows), ("lang", escapeHtml a.lang), ("starter", escapeHtml a.starter),
    ("solution_html", a.solutionHtml)]

def questionHtml (q : Question) (number : Nat) (name : String) : SiteM String := do
  let points := Double.display q.points
  let name := escapeHtml name
  match q.kind with
  | .mcq stem choices => T.stemmed "mcq" number points stem (choiceInputs "radio" name choices)
  | .msq stem choices => T.stemmed "msq" number points stem (choiceInputs "checkbox" name choices)
  | .trueFalse statement answer =>
    let html ← T.stemmed "truefalse" number points statement (trueFalseInputs name)
    let answer := escapeHtml answer
    return String.ofList (Pattern.replaceFirst (Pattern.literal "data-type=\"truefalse\"".toList)
      (fun _ => s!"data-type=\"truefalse\" data-answer=\"{answer}\"".toList) html.toList)
  | .short prompt solution =>
    T.openQuestion { type := "short", rows := 4, prompt, solution } number points name
  | .long prompt solution =>
    T.openQuestion { type := "long", rows := 8, prompt, solution } number points name
  | .code prompt lang starter _ solution =>
    T.openQuestion { type := "code", rows := 10, prompt, lang, starter, solution } number points
      name
  | .matching prompt pairs =>
    let rows ← matchingRows pairs name
    T.stemmed "matching" number points
      (orInstruction prompt "Match each item on the left with its partner.") rows
  | .ordering prompt items =>
    let rows ← orderingRows items name
    T.stemmed "ordering" number points
      (orInstruction prompt "Number these items in the correct order.") rows
  | .unsupported typeName raw =>
    let t := escapeHtml typeName
    let raw := escapeHtml raw
    return s!"<div class=\"q\" data-type=\"{t}\">\n  <div>Unsupported question type: {t}</div>\n" ++
      s!"  <pre hidden>{raw}</pre>\n</div>"

def questionsHtml (questions : List Question) (key : String) : SiteM String := do
  let parts ← questions.zipIdx.mapM fun (q, i) => T.questionHtml q (i + 1) s!"{key}__q{i + 1}"
  return String.join parts

def activityTemplate (a : Activity) : SiteM String := do
  let kind := a.normalizedType
  if isTemplateWord kind then
    let name := s!"partials/activity_{kind}.html"
    if ← T.hasTemplate name then return name
  return "partials/activity.html"

def activityHtml (a : Activity) : SiteM String := do
  let estHtml := if a.est.isEmpty then "" else
    "<p class=\x27small\x27>Estimated: " ++ escapeHtml a.est ++ "</p>"
  match workedExample? a with
  | some ex =>
    let takeawaysHtml := if ex.takeaways.isEmpty then "" else
      "<div class=\"takeaways\">\n    <h3>Key Takeaways</h3>\n    " ++
        Markdown.toHtml ex.takeaways ++ "\n  </div>"
    T.render "partials/worked_example.html" [("activity_id", escapeHtml a.id),
      ("est_html", estHtml), ("explanation", Markdown.toHtml a.instructions),
      ("code", escapeHtml ex.code), ("takeaways_html", takeawaysHtml)]
  | none =>
    let expectedHtml := if a.expected.isEmpty then "" else
      "<p><strong>Expected:</strong> " ++ escapeHtml a.expected ++ "</p>"
    let label := if Text.isBlankText a.type then "Activity" else Text.titleCase (Text.trim a.type)
    let template ← T.activityTemplate a
    T.render template [("activity_id", escapeHtml a.id), ("activity_type", escapeHtml label),
      ("instructions", Markdown.toHtml a.instructions), ("expected_html", expectedHtml),
      ("est_html", estHtml)]

def assessmentHtml (courseId : String) (a : Assessment) (key : String) : SiteM String := do
  let questions ← T.questionsHtml a.questions key
  T.render "partials/assessment.html" [("assess_id", escapeHtml key),
    ("assess_js", escapeScriptString key), ("course_js", escapeScriptString courseId),
    ("pass_score", toString a.passScore), ("questions", questions)]

def slideBody (course : Course) (l : Lesson) (s : Slide) : SiteM String :=
  match s.kind with
  | .content c => pure (contentBody c)
  | .activity a => T.activityHtml a
  | .assessment a => T.assessmentHtml course.id a (assessmentKey a s.id)
  | .completion =>
    T.render "partials/completion.html" [("lesson_title", escapeHtml l.title),
      ("course_js", escapeScriptString course.id), ("lesson_js", escapeScriptString l.key)]

def slidesHtml (course : Course) (l : Lesson) : SiteM (List String) := do
  let slides := l.slides
  slides.zipIdx.mapM fun (s, i) => do
    let body ← T.slideBody course l s
    T.render "partials/slide.html" [("slide_kind", s.kind.name), ("slide_id", escapeHtml s.id),
      ("slide_number", toString (i + 1)), ("slide_total", toString slides.length),
      ("slide_body", body), ("slide_nav", slideNav slides i)]

def moduleCard (m : Module) : SiteM String := do
  let items ← m.lessons.mapM fun l =>
    T.render "partials/lesson_item.html" [("lesson_file", escapeHtml l.fileName),
      ("lesson_title", escapeHtml l.title), ("duration", escapeHtml l.duration)]
  T.render "partials/module_card.html" [("mod_title", escapeHtml m.title),
    ("lessons", "\n".intercalate items)]

def indexPage (c : Course) : SiteM String := do
  let cards ← c.modules.mapM T.moduleCard
  let objectives := "\n".intercalate (c.objectives.map fun o => s!"<li>{escapeHtml o}</li>")
  let header ← T.render "partials/index_header.html" [("title", escapeHtml c.title),
    ("level", orNotAvailable c.level), ("duration", orNotAvailable c.duration)]
  let content := "<div class=\"card\">\n  <h2>Objectives</h2>\n  <ul>" ++ objectives ++
    "</ul>\n</div>\n" ++ "\n".intercalate cards
  T.render "base.html" [("title", escapeHtml c.title ++ " — Course"),
    ("course_id", escapeHtml c.id), ("total_lessons", toString c.lessonCount),
    ("header_content", header), ("content", content)]

def lessonPage (c : Course) (l : Lesson) : SiteM String := do
  let slides ← T.slidesHtml c l
  let header ← T.render "partials/lesson_header.html" [("course_title", escapeHtml c.title),
    ("module_title", escapeHtml l.moduleTitle), ("lesson_title", escapeHtml l.title)]
  T.render "base.html" [("title", escapeHtml l.title ++ " — " ++ escapeHtml c.title),
    ("course_id", escapeHtml c.id), ("total_lessons", toString c.lessonCount),
    ("header_content", header), ("content", "\n".intercalate slides)]

def renderTo (c : Course) (dir : String) : SiteM Summary := do
  createDirs dir
  let index ← writePage dir "index.html" (← T.indexPage c)
  let lessons ← c.lessons.mapM fun l => do writePage dir l.fileName (← T.lessonPage c l)
  let manifest ← writePage dir "course.yaml" c.manifest
  return { index, manifest, lessons }

/-! ## Over the site's engine, each step is the site's own -/

theorem engine_stemmed : engine.stemmed = Site.stemmed := rfl

theorem engine_openQuestion : engine.openQuestion = Site.openQuestion := rfl

theorem engine_questionHtml : engine.questionHtml = Site.questionHtml := by
  funext q n name
  unfold TemplateOps.questionHtml Site.questionHtml
  -- the two match on the question's kind through matchers of their own
  cases q.kind <;> rfl

theorem engine_questionsHtml : engine.questionsHtml = Site.questionsHtml := by
  funext qs key
  unfold TemplateOps.questionsHtml Site.questionsHtml
  rw [engine_questionHtml]

theorem engine_activityTemplate : engine.activityTemplate = Site.activityTemplate := rfl

theorem engine_activityHtml : engine.activityHtml = Site.activityHtml := by
  funext a
  unfold TemplateOps.activityHtml Site.activityHtml
  cases workedExample? a <;> rfl

theorem engine_assessmentHtml : engine.assessmentHtml = Site.assessmentHtml := by
  funext id a key
  unfold TemplateOps.assessmentHtml Site.assessmentHtml
  rw [engine_questionsHtml]
  rfl

theorem engine_slideBody : engine.slideBody = Site.slideBody := by
  funext c l s
  unfold TemplateOps.slideBody Site.slideBody
  cases s.kind <;> simp only [engine_render, engine_activityHtml, engine_assessmentHtml]

theorem engine_slidesHtml : engine.slidesHtml = Site.slidesHtml := by
  funext c l
  unfold TemplateOps.slidesHtml Site.slidesHtml
  rw [engine_slideBody]
  congr 1

theorem engine_moduleCard : engine.moduleCard = Site.moduleCard := rfl

theorem engine_indexPage : engine.indexPage = Site.indexPage := by
  funext c
  unfold TemplateOps.indexPage Site.indexPage
  rw [engine_moduleCard]
  rfl

theorem engine_lessonPage : engine.lessonPage = Site.lessonPage := by
  funext c l
  unfold TemplateOps.lessonPage Site.lessonPage
  rw [engine_slidesHtml]
  rfl

theorem engine_renderTo : engine.renderTo = Site.renderTo := by
  funext c dir
  unfold TemplateOps.renderTo Site.renderTo
  rw [engine_indexPage, engine_lessonPage]

end TemplateOps

/-! ## Steps that run alike -/

/-- An outcome of a step: a failure that `E` allows, or a result with `P` and a builder with
`I`. -/
def Outcome {α : Type} (I : Builder → Prop) (E : SiteError → Prop) (P : α → Prop) :
    EStateM.Result SiteError Builder α → Prop
  | .ok a b => P a ∧ I b
  | .error e _ => E e

/-- From every builder with `I`, the steps `m₁` and `m₂` run alike, to an outcome of `m₂` with
`I`, `E` and `P`. -/
def Agree {α : Type} (I : Builder → Prop) (E : SiteError → Prop) (P : α → Prop)
    (m₁ m₂ : SiteM α) : Prop :=
  ∀ b, I b → m₁.run b = m₂.run b ∧ Outcome I E P (m₂.run b)

namespace Agree

variable {α β : Type} {I : Builder → Prop} {E : SiteError → Prop} {P : α → Prop}
  {Q : β → Prop}

theorem pure {a : α} (h : P a) : Agree I E P (Pure.pure a) (Pure.pure a) :=
  fun _ hb => ⟨rfl, h, hb⟩

theorem bind {m₁ m₂ : SiteM α} {f₁ f₂ : α → SiteM β} (hm : Agree I E P m₁ m₂)
    (hf : ∀ a, P a → Agree I E Q (f₁ a) (f₂ a)) :
    Agree I E Q (m₁ >>= f₁) (m₂ >>= f₂) := by
  intro b hb
  obtain ⟨heq, hout⟩ := hm b hb
  rw [EStateM.run_bind, EStateM.run_bind, heq]
  rcases hx : m₂.run b with ⟨a, b'⟩ | ⟨e, b'⟩
  · rw [hx] at hout
    exact hf a hout.1 b' hout.2
  · rw [hx] at hout
    exact ⟨rfl, hout⟩

theorem mono {m₁ m₂ : SiteM α} {P' : α → Prop} (h : Agree I E P m₁ m₂)
    (hP : ∀ a, P a → P' a) :
    Agree I E P' m₁ m₂ := by
  intro b hb
  obtain ⟨heq, hout⟩ := h b hb
  refine ⟨heq, ?_⟩
  rcases hx : m₂.run b with ⟨a, b'⟩ | ⟨e, b'⟩ <;> rw [hx] at hout
  · exact ⟨hP a hout.1, hout.2⟩
  · exact hout

theorem mapM {f₁ f₂ : α → SiteM β} :
    ∀ {xs : List α}, (∀ x ∈ xs, Agree I E (fun _ => True) (f₁ x) (f₂ x)) →
      Agree I E (fun _ => True) (xs.mapM f₁) (xs.mapM f₂)
  | [], _ => pure trivial
  | x :: xs, h => by
    rw [List.mapM_cons, List.mapM_cons]
    refine bind (h x List.mem_cons_self) fun y _ => ?_
    exact bind (mapM fun x' hx' => h x' (List.mem_cons_of_mem _ hx')) fun _ _ => pure trivial

theorem refl_true (m : SiteM α) : Agree (fun _ => True) (fun _ => True) (fun _ => True) m m := by
  intro b _
  refine ⟨rfl, ?_⟩
  rcases m.run b with ⟨_, _⟩ | ⟨_, _⟩ <;> trivial

theorem of_succeeds {m : SiteM α} (h : Succeeds I P m) : Agree I E P m m := by
  intro b hb
  obtain ⟨a, b', hrun, ha, hb'⟩ := h b hb
  refine ⟨rfl, ?_⟩
  rw [hrun]
  exact ⟨ha, hb'⟩

end Agree

/-- Rendering `name` with any context that binds `keys` runs alike over `T₁` and `T₂`. -/
def RendersAlike (I : Builder → Prop) (E : SiteError → Prop) (T₁ T₂ : TemplateOps)
    (name : String) (keys : List String) : Prop :=
  ∀ ctx : Context, ctx.map Prod.fst = keys →
    Agree I E (fun _ => True) (T₁.render name ctx) (T₂.render name ctx)

/-- From builders with `I`, the operations `T₁` run as `T₂` does at every call the renderer
makes; a shuffle succeeds and a write keeps `I`, and `E` allows every failure of a write. -/
structure Simulation (I : Builder → Prop) (E : SiteError → Prop) (T₁ T₂ : TemplateOps) :
    Prop where
  /-- A render of a fixed template with the variables the renderer binds for it. -/
  render : ∀ t : FixedTemplate, RendersAlike I E T₁ T₂ t.name t.keys
  /-- A probe of an activity's own template, which renders alike once it is found. -/
  probe : ∀ a : Activity, isTemplateWord a.normalizedType = true →
    Agree I E (fun found => found = true →
        RendersAlike I E T₁ T₂ (activityName a.normalizedType) FixedTemplate.activity.keys)
      (T₁.hasTemplate (activityName a.normalizedType))
      (T₂.hasTemplate (activityName a.normalizedType))
  shuffle : ∀ {α : Type} (xs : List α), Succeeds I (fun _ => True) (shuffled xs)
  files : ∀ b files, I b → I { b with files }
  io : ∀ path cause, E (.io path cause)

namespace Simulation

variable {I : Builder → Prop} {E : SiteError → Prop} {T₁ T₂ : TemplateOps}
  (h : Simulation I E T₁ T₂)
include h

theorem fixed (t : FixedTemplate) {ctx : Context} (hk : ctx.map Prod.fst = t.keys) :
    Agree I E (fun _ => True) (T₁.render t.name ctx) (T₂.render t.name ctx) :=
  h.render t ctx hk

theorem shuffled {α : Type} (xs : List α) :
    Agree I E (fun _ => True) (Site.shuffled xs) (Site.shuffled xs) :=
  .of_succeeds (h.shuffle xs)

/-- A step that only writes files, or fails to, runs as itself: it keeps `I`, and `E` allows
its failures. -/
theorem writes {α : Type} {m : SiteM α}
    (hm : ∀ b, (∃ a files, m.run b = .ok a { b with files }) ∨
      ∃ path cause, m.run b = .error (.io path cause) b) :
    Agree I E (fun _ => True) m m := by
  intro b hb
  refine ⟨rfl, ?_⟩
  rcases hm b with ⟨a, files, hrun⟩ | ⟨path, cause, hrun⟩ <;> rw [hrun]
  · exact ⟨trivial, h.files b files hb⟩
  · exact h.io path cause

theorem writePage (dir name content : String) :
    Agree I E (fun _ => True) (Site.writePage dir name content)
      (Site.writePage dir name content) :=
  h.writes fun b => by
    simp only [Site.writePage, EStateM.run]
    split
    · exact .inl ⟨_, _, rfl⟩
    · exact .inr ⟨_, _, rfl⟩

theorem createDirs (dir : String) :
    Agree I E (fun _ => True) (Site.createDirs dir) (Site.createDirs dir) :=
  h.writes fun b => by
    simp only [Site.createDirs, EStateM.run]
    split
    · exact .inl ⟨_, _, rfl⟩
    · exact .inr ⟨_, _, rfl⟩

theorem stemmed (type : String) (number : Nat) (points stem choices : String) :
    Agree I E (fun _ => True) (T₁.stemmed type number points stem choices)
      (T₂.stemmed type number points stem choices) :=
  h.fixed .question rfl

theorem openQuestion (a : OpenAnswer) (number : Nat) (points name : String) :
    Agree I E (fun _ => True) (T₁.openQuestion a number points name)
      (T₂.openQuestion a number points name) :=
  h.fixed .questionOpen rfl

theorem matchingRows (pairs : List MatchPair) (name : String) :
    Agree I E (fun _ => True) (Site.matchingRows pairs name) (Site.matchingRows pairs name) :=
  (h.shuffled _).bind fun _ _ => .pure trivial

theorem orderingRows (items : List String) (name : String) :
    Agree I E (fun _ => True) (Site.orderingRows items name) (Site.orderingRows items name) :=
  (h.shuffled _).bind fun _ _ => .pure trivial

theorem questionHtml (q : Question) (number : Nat) (name : String) :
    Agree I E (fun _ => True) (T₁.questionHtml q number name)
      (T₂.questionHtml q number name) := by
  unfold TemplateOps.questionHtml
  cases q.kind with
  | mcq | msq => exact h.stemmed _ _ _ _ _
  | trueFalse => exact (h.stemmed _ _ _ _ _).bind fun _ _ => .pure trivial
  | short | long | code => exact h.openQuestion _ _ _ _
  | matching => exact (h.matchingRows _ _).bind fun _ _ => h.stemmed _ _ _ _ _
  | ordering => exact (h.orderingRows _ _).bind fun _ _ => h.stemmed _ _ _ _ _
  | unsupported => exact .pure trivial

theorem questionsHtml (questions : List Question) (key : String) :
    Agree I E (fun _ => True) (T₁.questionsHtml questions key)
      (T₂.questionsHtml questions key) :=
  (Agree.mapM fun _ _ => h.questionHtml _ _ _).bind fun _ _ => .pure trivial

theorem activityTemplate (a : Activity) :
    Agree I E (fun t => RendersAlike I E T₁ T₂ t FixedTemplate.activity.keys)
      (T₁.activityTemplate a) (T₂.activityTemplate a) := by
  have hfallback : Agree I E (fun t => RendersAlike I E T₁ T₂ t FixedTemplate.activity.keys)
      (pure "partials/activity.html") (pure "partials/activity.html") :=
    .pure (h.render .activity)
  unfold TemplateOps.activityTemplate
  dsimp only
  split
  · rename_i hword
    refine (h.probe a hword).bind fun found hfound => ?_
    split
    · exact .pure (hfound ‹_›)
    · exact hfallback
  · exact hfallback

theorem activityHtml (a : Activity) :
    Agree I E (fun _ => True) (T₁.activityHtml a) (T₂.activityHtml a) := by
  unfold TemplateOps.activityHtml
  cases workedExample? a with
  | some => exact h.fixed .workedExample rfl
  | none => exact (h.activityTemplate a).bind fun _ hrenders => hrenders _ rfl

theorem assessmentHtml (courseId : String) (a : Assessment) (key : String) :
    Agree I E (fun _ => True) (T₁.assessmentHtml courseId a key)
      (T₂.assessmentHtml courseId a key) :=
  (h.questionsHtml _ _).bind fun _ _ => h.fixed .assessment rfl

theorem slideBody (c : Course) (l : Lesson) (s : Slide) :
    Agree I E (fun _ => True) (T₁.slideBody c l s) (T₂.slideBody c l s) := by
  unfold TemplateOps.slideBody
  cases s.kind with
  | content => exact .pure trivial
  | activity a => exact h.activityHtml a
  | assessment => exact h.assessmentHtml _ _ _
  | completion => exact h.fixed .completion rfl

theorem slidesHtml (c : Course) (l : Lesson) :
    Agree I E (fun _ => True) (T₁.slidesHtml c l) (T₂.slidesHtml c l) :=
  Agree.mapM fun _ _ => (h.slideBody _ _ _).bind fun _ _ => h.fixed .slide rfl

theorem moduleCard (m : Module) :
    Agree I E (fun _ => True) (T₁.moduleCard m) (T₂.moduleCard m) :=
  (Agree.mapM fun _ _ => h.fixed .lessonItem rfl).bind fun _ _ => h.fixed .moduleCard rfl

theorem indexPage (c : Course) :
    Agree I E (fun _ => True) (T₁.indexPage c) (T₂.indexPage c) :=
  (Agree.mapM fun _ _ => h.moduleCard _).bind fun _ _ =>
    (h.fixed .indexHeader rfl).bind fun _ _ => h.fixed .base rfl

theorem lessonPage (c : Course) (l : Lesson) :
    Agree I E (fun _ => True) (T₁.lessonPage c l) (T₂.lessonPage c l) :=
  (h.slidesHtml c l).bind fun _ _ =>
    (h.fixed .lessonHeader rfl).bind fun _ _ => h.fixed .base rfl

/-- The walk through the renderer: a simulation at every call gives builds that run alike. -/
theorem renderTo (c : Course) (dir : String) :
    Agree I E (fun _ => True) (T₁.renderTo c dir) (T₂.renderTo c dir) := by
  refine (h.createDirs dir).bind fun _ _ => (h.indexPage c).bind fun _ _ =>
    (h.writePage _ _ _).bind fun _ _ => ?_
  refine (Agree.mapM fun l _ => (h.lessonPage c l).bind fun _ _ => h.writePage _ _ _).bind
    fun _ _ => ?_
  exact (h.writePage _ _ _).bind fun _ _ => .pure trivial

end Simulation

end Courseware.Site
