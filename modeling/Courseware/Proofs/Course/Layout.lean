import Mathlib
import Courseware.Proofs.Site.Run
import Courseware.Site.Build
import Courseware.Course.Reader

/-!
# How a course document is laid out

Reading a course keeps the document's order everywhere but in one place. A course's
objectives are the texts of its `objective` children that are not blank, in order. A module's
lessons, a lesson's content blocks, activities and assessments, and an assessment's questions
are read one from each child of their name, in order (`ModuleOf`, `LessonOf`,
`AssessmentOf`), and each lesson is given the title of its module.

The modules alone are reordered: sorted by their order, and stably, so that modules of one
order keep the order of the document (`filter_mergeSort_order`). A course's lessons run module
by module in that order, and their count is the sum of the modules' counts (`read_layout`).
-/

namespace Courseware.Reader

open Xml

/-! ## The layout of each element -/

/-- A question read from its element, in the assessment at `location`. -/
structure QuestionOf (location : String) (el : Element) (q : Question) : Prop where
  points : number Decimal.readDouble? el location "points" 1.0 "a number" = .ok q.points
  kind : q.kind = questionKind ((el.attr? "type").getD "mcq") el

/-- An assessment read from its element, in the lesson at `location`: its questions are read
from its `question` children, in order. -/
structure AssessmentOf (location : String) (el : Element) (a : Assessment) : Prop where
  id : a.id = el.attrOrEmpty "id"
  type : a.type = (el.attr? "type").getD "quiz"
  questions : List.Forall₂ (QuestionOf s!"{location} > assessment '{a.id}'")
    (el.childrenNamed "question") a.questions

/-- A lesson read from its element, in the module titled `moduleTitle` at `location`: its
content, activities and assessments are read from its children of those names, in order. -/
structure LessonOf (location moduleTitle : String) (el : Element) (l : Lesson) : Prop where
  title : el.attr? "title" = some l.title
  moduleTitle : l.moduleTitle = moduleTitle
  content : l.content = (el.childrenNamed "content").map content
  activities : l.activities = (el.childrenNamed "activity").map activity
  assessments : List.Forall₂ (AssessmentOf s!"{location} > lesson '{l.title}'")
    (el.childrenNamed "assessment") l.assessments

/-- A module read from its element, in the course at `location`: its lessons are read from its
`lesson` children, in order, each given the module's title. -/
structure ModuleOf (location : String) (el : Element) (m : Module) : Prop where
  title : el.attr? "title" = some m.title
  order : number Decimal.readInt? el location "order" 0 "an integer" = .ok m.order
  lessons : List.Forall₂ (LessonOf s!"{location} > module '{m.title}'" m.title)
    (el.childrenNamed "lesson") m.lessons

/-! ## Reading keeps the order of the children -/

theorem bind_eq_ok {ε α β : Type} {x : Except ε α} {f : α → Except ε β} {b : β}
    (h : (x >>= f) = .ok b) : ∃ a, x = .ok a ∧ f a = .ok b := by
  cases x with
  | error e => cases h
  | ok a => exact ⟨a, rfl, h⟩

theorem mapM_ok_forall₂ {ε α β : Type} {f : α → Except ε β} :
    ∀ {xs : List α} {ys : List β}, xs.mapM f = .ok ys → List.Forall₂ (fun x y => f x = .ok y) xs ys
  | [], ys, h => by
    cases h
    exact .nil
  | x :: xs, ys, h => by
    rw [List.mapM_cons] at h
    obtain ⟨y, hy, h⟩ := bind_eq_ok h
    obtain ⟨ys', hys', h⟩ := bind_eq_ok h
    cases h
    exact .cons hy (mapM_ok_forall₂ hys')

theorem number_eq_ok {α : Type} {read : String → Option α} {el : Element} {attr raw : String}
    {v : α} (hattr : el.attr? attr = some raw) (hblank : (Text.trim raw).isEmpty = false)
    (hread : read (Text.trim raw) = some v) (location : String) (default : α)
    (expected : String) : number read el location attr default expected = .ok v := by
  simp [number, hattr, hblank, hread]

theorem attr_of_required {el : Element} {location attr v : String}
    (h : required el location attr = .ok v) : el.attr? attr = some v := by
  unfold required at h
  cases hv : el.attr? attr with
  | none => rw [hv] at h; cases h
  | some w => rw [hv] at h; cases h; rfl

theorem assessmentOf_of_ok {location : String} {el : Element} {a : Assessment}
    (h : assessment el location = .ok a) : AssessmentOf location el a := by
  unfold assessment at h
  dsimp only at h
  obtain ⟨passScore, -, h⟩ := bind_eq_ok h
  obtain ⟨questions, hq, h⟩ := bind_eq_ok h
  injection h with h
  subst h
  refine ⟨rfl, rfl, (mapM_ok_forall₂ hq).imp fun q x hx => ?_⟩
  obtain ⟨points, hp, hx⟩ := bind_eq_ok hx
  injection hx with hx
  subst hx
  -- the kind is read off the record; `rfl` alone would unfold `questionKind`
  exact ⟨hp, by dsimp only⟩

theorem lessonOf_of_ok {location moduleTitle : String} {el : Element} {l : Lesson}
    (h : lesson el location moduleTitle = .ok l) : LessonOf location moduleTitle el l := by
  unfold lesson at h
  dsimp only at h
  obtain ⟨title, htitle, h⟩ := bind_eq_ok h
  obtain ⟨assessments, ha, h⟩ := bind_eq_ok h
  cases h
  exact ⟨attr_of_required htitle, rfl, rfl, rfl,
    (mapM_ok_forall₂ ha).imp fun _ _ hx => assessmentOf_of_ok hx⟩

theorem moduleOf_of_ok {location : String} {el : Element} {m : Module}
    (h : module el location = .ok m) : ModuleOf location el m := by
  unfold module at h
  dsimp only at h
  obtain ⟨title, htitle, h⟩ := bind_eq_ok h
  obtain ⟨order, horder, h⟩ := bind_eq_ok h
  obtain ⟨lessons, hl, h⟩ := bind_eq_ok h
  cases h
  exact ⟨attr_of_required htitle, horder,
    (mapM_ok_forall₂ hl).imp fun _ _ hx => lessonOf_of_ok hx⟩

/-! ## Sorting the modules -/

section Sorting

variable (ms : List Module)

theorem order_le_trans (a b c : Module) (hab : decide (a.order ≤ b.order) = true)
    (hbc : decide (b.order ≤ c.order) = true) : decide (a.order ≤ c.order) = true :=
  decide_eq_true (Int.le_trans (of_decide_eq_true hab) (of_decide_eq_true hbc))

theorem order_le_total (a b : Module) :
    (decide (a.order ≤ b.order) || decide (b.order ≤ a.order)) = true := by
  simpa only [Bool.or_eq_true, decide_eq_true_eq] using Int.le_total _ _

theorem mergeSort_order_pairwise :
    (ms.mergeSort fun a b => a.order ≤ b.order).Pairwise fun a b => a.order ≤ b.order :=
  (@List.pairwise_mergeSort Module (fun a b => decide (a.order ≤ b.order)) order_le_trans
    order_le_total ms).imp of_decide_eq_true

/-- Sorting by order is stable: the modules of any one order keep their order. -/
theorem filter_mergeSort_order (k : Int) :
    (ms.mergeSort fun a b => a.order ≤ b.order).filter (·.order == k) =
      ms.filter (·.order == k) := by
  have hsorted : (ms.filter (·.order == k)).Pairwise fun a b => decide (a.order ≤ b.order) := by
    refine List.pairwise_of_forall_mem_list fun a ha b hb => ?_
    simp only [List.mem_filter, beq_iff_eq] at ha hb
    simp [ha.2, hb.2]
  have hsub := @List.sublist_mergeSort Module (fun a b => decide (a.order ≤ b.order)) ms
    order_le_trans order_le_total _ hsorted List.filter_sublist
  have hsub' := hsub.filter (·.order == k)
  simp only [List.filter_filter, Bool.and_self] at hsub'
  refine (hsub'.eq_of_length ?_).symm
  exact (((List.mergeSort_perm ms _).filter _).length_eq).symm

end Sorting

/-! ## The course -/

/-- Reading a course lays it out in the document's order. Its objectives are the trimmed texts
of the root's `objective` children that are not empty, in order. Its modules are read from the
root's `module` children, one each, and then sorted by their order, stably: the modules of any
one order stand in the order of the document. Each module's lessons are read from its `lesson`
children in order, each with the module's title; each lesson's content, activities and
assessments, and each assessment's questions, from the children of those names in order. The
course's lessons run module by module in the sorted order, and there are as many as the
modules hold together. The manifest lists the lessons in that order, and the index page, from
any builder whose engine keeps only what loading finds, ends in a card per module in that order,
each listing the module's lessons in order. -/
theorem read_layout {document source : String} {c : Course} (h : read document source = .ok c) :
    ∃ root, Xml.parse source = .ok root ∧
      c.objectives = ((root.childrenNamed "objective").map Element.text).filter (!·.isEmpty) ∧
      (∃ ms, List.Forall₂ (ModuleOf s!"course '{c.title}'") (root.childrenNamed "module") ms ∧
        c.modules.Perm ms ∧ c.modules.Pairwise (fun a b => a.order ≤ b.order) ∧
        ∀ k, c.modules.filter (·.order == k) = ms.filter (·.order == k)) ∧
      c.lessons = c.modules.flatMap (·.lessons) ∧
      c.lessonCount = (c.modules.map (·.lessons.length)).foldr (· + ·) 0 ∧
      c.manifest = Yaml.Value.document [("duration", .text c.duration), ("id", .text c.id),
        ("lessons", .seq ((c.modules.flatMap (·.lessons)).map Lesson.manifestEntry)),
        ("level", .text c.level), ("objectives", .seq (c.objectives.map .text)),
        ("title", .text c.title), ("total_lessons", .count c.lessonCount)] ∧
      ∀ b page b', Template.Engine.Coherent b.files b.engine →
        (Site.indexPage c).run b = .ok page b' →
        ∃ cards, List.Forall₂ (Site.CardOf b.files b.engine.fresh) c.modules cards ∧
          ∃ header objectives, outcome ((Template.Engine.render b.files "base.html"
            [("title", Text.escapeHtml c.title ++ " — Course"), ("course_id", Text.escapeHtml c.id),
              ("total_lessons", toString c.lessonCount), ("header_content", header),
              ("content", objectives ++ "\n".intercalate cards)]).run b.engine.fresh) = .ok page := by
  have hindex := fun b page b' hb hr =>
    (Site.indexPage_reads c b.files b.engine.fresh b page b' ⟨rfl, rfl, hb⟩ hr).1
  unfold read at h
  split at h
  · cases h
  · rename_i root hroot
    refine ⟨root, hroot, ?_⟩
    unfold course at h
    dsimp only at h
    obtain ⟨ms, hms, h⟩ := bind_eq_ok h
    injection h with h
    subst h
    refine ⟨rfl, ⟨ms, (mapM_ok_forall₂ hms).imp fun _ _ hx => moduleOf_of_ok hx,
      List.mergeSort_perm ms _, mergeSort_order_pairwise ms, filter_mergeSort_order ms⟩, rfl,
      ?_, rfl, hindex⟩
    simp only [Course.lessonCount, Course.lessons, List.length_flatMap]
    rfl

theorem read_of_parse {document source : String} {root : Element}
    (h : Xml.parse source = .ok root) : read document source = course root := by
  simp only [read, h]

/-- A course whose first module in the document has order 2 and whose second has order 1. -/
def reorderedSource : String :=
  "<course title=\"C\"><module title=\"B\" order=\"2\"><lesson title=\"L\"/></module>" ++
    "<module title=\"A\" order=\"1\"/></course>"

def reorderedRoot : Element :=
  ⟨"course", [("title", "C")],
    [.element "module" [("title", "B"), ("order", "2")] [.element "lesson" [("title", "L")] []],
      .element "module" [("title", "A"), ("order", "1")] []]⟩

/-- The module of order 1 comes first in the course read, although it is second in the
document. -/
theorem reordered_modules_read :
    ∃ c, read inlineDocument reorderedSource = .ok c ∧ c.modules.map (·.order) = [1, 2] := by
  have hparse : Xml.parse reorderedSource = .ok reorderedRoot := by cbv
  have hread : read inlineDocument reorderedSource = course reorderedRoot := read_of_parse hparse
  have hok : (course reorderedRoot).toBool = true := by decide +kernel
  cases h : course reorderedRoot with
  | error e => rw [h] at hok; cases hok
  | ok c =>
    refine ⟨c, hread.trans h, ?_⟩
    obtain ⟨root, hroot, -, ⟨ms, hms, hperm, hsorted, -⟩, -⟩ := read_layout (hread.trans h)
    rw [hparse] at hroot
    injection hroot with hroot
    subst hroot
    have hdoc : ms.map (·.order) = [2, 1] := by
      cases hms with
      | cons hB hrest =>
        cases hrest with
        | cons hA hnil =>
          cases hnil
          have h₂ := hB.order.symm.trans (number_eq_ok (v := 2) rfl (by decide) (by decide) _ _ _)
          have h₁ := hA.order.symm.trans (number_eq_ok (v := 1) rfl (by decide) (by decide) _ _ _)
          simp only [Except.ok.injEq] at h₂ h₁
          simp [h₂, h₁]
    have hperm' : (c.modules.map (·.order)).Perm [1, 2] :=
      (hperm.map _).trans (by rw [hdoc]; exact List.Perm.swap 1 2 [])
    exact hperm'.eq_of_pairwise' (hsorted.map _ fun _ _ h => h) (by decide)

end Courseware.Reader
