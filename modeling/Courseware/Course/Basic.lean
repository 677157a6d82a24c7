import Courseware.Text.Slug

/-!
# Courses

A course has objectives and modules; a module, sorted by its order, has lessons; a lesson has
content blocks, activities and assessments. A lesson's page is named after its title
(`Lesson.fileName`), and its key for stored progress is its id or, without one, the slug of
its title (`Lesson.key`).
-/

/-!
## Questions

An assessment asks questions of nine kinds. Choice questions (`mcq`, one answer; `msq`,
several) have a stem and choices marked correct or not; a true/false question has a statement
and its answer; open questions (`short`, `long`) a prompt and perhaps a model solution; a code
question a prompt, a language, starter code, tests and perhaps a solution; a matching question
pairs left and right sides; an ordering question lists items in their right order. A question
of any other type is kept as written, with the XML it came from.
-/

namespace Courseware

structure Choice where
  text : String
  correct : Bool
  deriving Repr, BEq

structure MatchPair where
  left : String
  right : String
  deriving Repr, BEq

/-- What a question asks, by kind. -/
inductive QuestionKind where
  | mcq (stem : String) (choices : List Choice)
  | msq (stem : String) (choices : List Choice)
  | trueFalse (statement answer : String)
  | short (prompt : String) (solution : Option String)
  | long (prompt : String) (solution : Option String)
  | code (prompt lang starter tests : String) (solution : Option String)
  | matching (prompt : String) (pairs : List MatchPair)
  | ordering (prompt : String) (items : List String)
  | unsupported (typeName raw : String)
  deriving Repr, BEq

structure Question where
  points : Float
  kind : QuestionKind
  deriving Repr

namespace QuestionKind

/-- The canonical name of the kind, or the type as written for a kind not supported. -/
def typeName : QuestionKind → String
  | .mcq .. => "mcq"
  | .msq .. => "msq"
  | .trueFalse .. => "truefalse"
  | .short .. => "short"
  | .long .. => "long"
  | .code .. => "code"
  | .matching .. => "matching"
  | .ordering .. => "ordering"
  | .unsupported t _ => t

def tag : QuestionKind → String
  | .unsupported .. => "unsupported"
  | k => k.typeName

end QuestionKind

end Courseware

namespace Courseware

/-- How a content block is written: markdown, HTML, or another format kept by its tag. -/
inductive ContentFormat where
  | markdown
  | html
  | other (tag : String)
  deriving Repr, BEq, DecidableEq

/-- The format a tag names: `markdown` or `html` in any case and with blanks around, or
another format under the tag as written. -/
def ContentFormat.ofTag (tag : String) : ContentFormat :=
  match Case.lowercase (Text.trim tag) with
  | "markdown" => .markdown
  | "html" => .html
  | _ => .other tag

structure Content where
  format : ContentFormat
  lang : String
  value : String
  deriving Repr

/-- Something the learner does: its id, type, estimated time, instructions and what is
expected. -/
structure Activity where
  id : String
  type : String
  est : String
  instructions : String
  expected : String
  deriving Repr

/-- The activity type as compared: trimmed and in lower case. -/
def Activity.normalizedType (a : Activity) : String :=
  Case.lowercase (Text.trim a.type)

structure Assessment where
  id : String
  type : String
  passScore : Int
  questions : List Question
  deriving Repr

/-- A lesson, with the title of the module it belongs to. -/
structure Lesson where
  id : String
  title : String
  duration : String
  content : List Content
  activities : List Activity
  assessments : List Assessment
  moduleTitle : String
  deriving Repr

/-- The name of the lesson's page. Two lessons with titles of one slug share it. -/
def Lesson.fileName (l : Lesson) : String :=
  Text.fileSlug l.title ++ ".html"

/-- The key under which the lesson's progress is kept: its id, or its title's slug. -/
def Lesson.key (l : Lesson) : String :=
  if l.id.isEmpty then Text.fileSlug l.title else l.id

structure Module where
  id : String
  title : String
  order : Int
  lessons : List Lesson
  deriving Repr

structure Course where
  id : String
  title : String
  level : String
  duration : String
  objectives : List String
  modules : List Module
  deriving Repr

def Course.lessons (c : Course) : List Lesson :=
  c.modules.flatMap (·.lessons)

def Course.lessonCount (c : Course) : Nat :=
  c.lessons.length

end Courseware
