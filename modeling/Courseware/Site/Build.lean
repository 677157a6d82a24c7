import Courseware.Site.Slides
import Courseware.Yaml.Document
import Courseware.Course.Reader

/-!
# Building a site

`renderTo` writes a course's site into a directory of a file store: the directory and those
above it, the index page, one page per lesson in course order and the manifest
`course.yaml`. A lesson page is named after the lesson's title, so two lessons whose titles
give one name write one file, the later over the earlier, and a lesson titled `index`
replaces the index page. A build that fails keeps the directories and pages it made before the
failure.
-/

/-!
## Pages

The index page lists the course's objectives and, module by module, links to its lessons;
each lesson page is its slides in order under a header naming the course, module and lesson.
Both are framed by `base.html`, which is given the page title, the course id and the number
of lessons.
-/

namespace Courseware.Site

open Text (escapeHtml)

/-- A course detail, or `n/a` when it is empty. -/
def orNotAvailable (value : String) : String :=
  if value.isEmpty then "n/a" else escapeHtml value

def moduleCard (m : Module) : SiteM String := do
  let items ← m.lessons.mapM fun l =>
    render "partials/lesson_item.html" [("lesson_file", escapeHtml l.fileName),
      ("lesson_title", escapeHtml l.title), ("duration", escapeHtml l.duration)]
  render "partials/module_card.html" [("mod_title", escapeHtml m.title),
    ("lessons", "\n".intercalate items)]

def indexPage (c : Course) : SiteM String := do
  let cards ← c.modules.mapM moduleCard
  let objectives := "\n".intercalate (c.objectives.map fun o => s!"<li>{escapeHtml o}</li>")
  let header ← render "partials/index_header.html" [("title", escapeHtml c.title),
    ("level", orNotAvailable c.level), ("duration", orNotAvailable c.duration)]
  let content := "<div class=\"card\">\n  <h2>Objectives</h2>\n  <ul>" ++ objectives ++
    "</ul>\n</div>\n" ++ "\n".intercalate cards
  render "base.html" [("title", escapeHtml c.title ++ " — Course"),
    ("course_id", escapeHtml c.id), ("total_lessons", toString c.lessonCount),
    ("header_content", header), ("content", content)]

def lessonPage (c : Course) (l : Lesson) : SiteM String := do
  let slides ← slidesHtml c l
  let header ← render "partials/lesson_header.html" [("course_title", escapeHtml c.title),
    ("module_title", escapeHtml l.moduleTitle), ("lesson_title", escapeHtml l.title)]
  render "base.html" [("title", escapeHtml l.title ++ " — " ++ escapeHtml c.title),
    ("course_id", escapeHtml c.id), ("total_lessons", toString c.lessonCount),
    ("header_content", header), ("content", "\n".intercalate slides)]

end Courseware.Site

/-!
## The course manifest

`course.yaml` sums a course up: its duration, id, level, objectives, title and number of
lessons, and for each lesson in course order its title, module, page and number of slides.
Keys stand in sorted order at the top and in the order title, module, file, slides for each
lesson.
-/

namespace Courseware

open Yaml

def Lesson.manifestEntry (l : Lesson) : Value :=
  .map [("title", .text l.title), ("module", .text l.moduleTitle), ("file", .text l.fileName),
    ("slides", .count l.slides.length)]

def Course.manifest (c : Course) : String :=
  Value.document [
    ("duration", .text c.duration),
    ("id", .text c.id),
    ("lessons", .seq (c.lessons.map Lesson.manifestEntry)),
    ("level", .text c.level),
    ("objectives", .seq (c.objectives.map .text)),
    ("title", .text c.title),
    ("total_lessons", .count c.lessonCount)]

end Courseware

namespace Courseware.Site

/-- The paths a build wrote: the index, the manifest, and one page per lesson in course
order, repeated where lessons share a page. -/
structure Summary where
  index : String
  manifest : String
  lessons : List String
  deriving Repr

def createDirs (dir : String) : SiteM Unit := fun b =>
  match b.files.createDirs dir with
  | .ok files => .ok () { b with files }
  | .error cause => .error (.io dir cause) b

/-- Writes the site of a course into `dir`. -/
def renderTo (c : Course) (dir : String) : SiteM Summary := do
  createDirs dir
  let index ← writePage dir "index.html" (← indexPage c)
  let lessons ← c.lessons.mapM fun l => do writePage dir l.fileName (← lessonPage c l)
  let manifest ← writePage dir "course.yaml" c.manifest
  return { index, manifest, lessons }

/-- Builds a course's site into `dir` of a file store with a template engine and a seed: the
summary or the error, and the files afterwards, which keep what was written before an error. -/
def build (c : Course) (files : FileStore) (engine : Template.Engine) (seed : UInt64)
    (dir : String) : Except SiteError Summary × FileStore :=
  match (renderTo c dir).run { files, engine, rng := Random.Rng.ofSeed seed } with
  | .ok summary b => (.ok summary, b.files)
  | .error e b => (.error e, b.files)

end Courseware.Site

/-!
## Generating a site from a course file

`generate` reads a course file and builds its site with the built-in templates behind an
optional template directory. Its errors say which of the two steps failed: reading the
course, which leaves the files as they were, or generating the site in the output directory,
which keeps what it wrote before the failure.
-/

namespace Courseware.Site

/-- Why generating a site failed. -/
inductive GenerateError where
  | parse (path : String) (e : ParseError)
  | site (dir : String) (e : SiteError)
  deriving Repr

def GenerateError.chain : GenerateError → List String
  | .parse path e => s!"failed to parse course {path}" :: e.chain
  | .site dir e => s!"failed to generate site in {dir}" :: e.chain

def GenerateError.message (e : GenerateError) : String := ": ".intercalate e.chain

/-- Reads the course at `path` and writes its site into `dir`: the summary or the error, and
the files afterwards. -/
def generate (fs : FileStore) (path dir : String) (validator : Option Validator)
    (templateDir : Option String) (seed : UInt64) : Except GenerateError Summary × FileStore :=
  match Reader.parseFile fs path validator with
  | .error e => (.error (.parse path e), fs)
  | .ok course =>
    match build course fs { dir := templateDir } seed dir with
    | (.ok summary, files) => (.ok summary, files)
    | (.error e, files) => (.error (.site dir e), files)

end Courseware.Site
