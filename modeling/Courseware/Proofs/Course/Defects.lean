import Mathlib
import Courseware.Course.Reader

/-!
# The first defect of a course document

Reading a course checks its elements in document order: each module's title and order, then
its lessons; each lesson's title, then its assessments; each assessment's pass score, then its
questions' points. `defects` lists every defect of a document's tree in that order, each as the
error it is reported with, an element's own defects before those of its children. Reading fails
exactly when the list is not empty, and then with its first entry
(`read_fails_on_first_defect`). Modules are checked before they are sorted, so the order is
the document's.

`FirstOf x ds` says that a checked computation fails exactly with the first of `ds`. It is kept
by `bind` and `mapM`, so the statement for a document follows from one lemma per element.
-/

namespace Courseware.Reader

open Xml

/-! ## Defects -/

/-- The defect of an attribute an element needs: it is missing. The error names the element,
its id, where it stands, the attribute and the attributes the element has. -/
def missingDefects (el : Element) (location attr : String) : List ParseError :=
  match el.attr? attr with
  | some _ => []
  | none =>
    [.missingAttribute el.name (describeId el) location attr
      (if el.attributeNames.isEmpty then "none" else ", ".intercalate el.attributeNames)]

/-- The defect of a number attribute: it is written, is not blank once trimmed, and `read`
does not take the trimmed text. -/
def numberDefects {α : Type} (read : String → Option α) (el : Element)
    (location attr expected : String) : List ParseError :=
  match el.attr? attr with
  | none => []
  | some raw =>
    if (Text.trim raw).isEmpty = false ∧ read (Text.trim raw) = none then
      [.invalidAttribute el.name (describeId el) location attr (Text.trim raw) expected]
    else []

def questionDefects (location : String) (q : Element) : List ParseError :=
  numberDefects Decimal.readDouble? q location "points" "a number"

def assessmentDefects (location : String) (a : Element) : List ParseError :=
  let id := a.attrOrEmpty "id"
  numberDefects Decimal.readDouble? a location "passScore" "a number" ++
    (a.childrenNamed "question").flatMap (questionDefects s!"{location} > assessment '{id}'")

def lessonDefects (location : String) (l : Element) : List ParseError :=
  let title := l.attrOrEmpty "title"
  missingDefects l location "title" ++
    (l.childrenNamed "assessment").flatMap (assessmentDefects s!"{location} > lesson '{title}'")

def moduleDefects (location : String) (m : Element) : List ParseError :=
  let title := m.attrOrEmpty "title"
  missingDefects m location "title" ++
    numberDefects Decimal.readInt? m location "order" "an integer" ++
    (m.childrenNamed "lesson").flatMap (lessonDefects s!"{location} > module '{title}'")

/-- Every defect of a course's tree, in document order. -/
def defects (root : Element) : List ParseError :=
  let title := root.attrOrEmpty "title"
  (root.childrenNamed "module").flatMap (moduleDefects s!"course '{title}'")

/-! ## Failing on the first defect -/

/-- `x` fails exactly with the first of `ds`: it succeeds when there is none. -/
def FirstOf {ε α : Type} (x : Except ε α) (ds : List ε) : Prop :=
  ∀ e, x = .error e ↔ ds.head? = some e

namespace FirstOf

variable {ε α β : Type}

theorem ok_iff {x : Except ε α} {ds : List ε} (h : FirstOf x ds) : (∃ a, x = .ok a) ↔ ds = [] := by
  constructor
  · rintro ⟨a, hx⟩
    cases ds with
    | nil => rfl
    | cons d ds => cases hx.symm.trans ((h d).2 rfl)
  · rintro rfl
    cases x with
    | ok a => exact ⟨a, rfl⟩
    | error e => cases (h e).1 rfl

theorem pure (a : α) : FirstOf (Pure.pure a : Except ε α) [] :=
  fun _ => ⟨fun h => (by cases h), fun h => (by cases h)⟩

/-- A check and then what follows it: the check's defects come first, and what follows is only
run once the check passes. -/
theorem bind {m : Except ε α} {k : α → Except ε β} {ds ds' : List ε} (hm : FirstOf m ds)
    (hk : ∀ a, m = .ok a → FirstOf (k a) ds') : FirstOf (m >>= k) (ds ++ ds') := by
  cases hx : m with
  | error e₀ =>
    obtain ⟨d, ds₀, rfl⟩ : ∃ d ds₀, ds = d :: ds₀ := by
      cases hds : ds with
      | nil => rw [hds] at hm; cases (hm e₀).1 hx
      | cons d ds₀ => exact ⟨d, ds₀, rfl⟩
    have hd : d = e₀ := Option.some.inj ((hm e₀).1 hx)
    intro e
    show (Except.error e₀ : Except ε β) = .error e ↔ _
    simp only [Except.error.injEq, List.cons_append, List.head?_cons, Option.some.injEq, hd]
  | ok a =>
    have hnil : ds = [] := hm.ok_iff.1 ⟨a, hx⟩
    rw [hnil, List.nil_append]
    exact hk a hx

theorem map_pure {m : Except ε α} {ds : List ε} (hm : FirstOf m ds) (g : α → β) :
    FirstOf (m >>= fun a => Pure.pure (g a)) ds := by
  have h := bind hm fun a _ => pure (g a)
  rwa [List.append_nil] at h

/-- A check per item, in order: the first failing item fails the run. -/
theorem mapM {f : α → Except ε β} {D : α → List ε} :
    ∀ {xs : List α}, (∀ x ∈ xs, FirstOf (f x) (D x)) → FirstOf (xs.mapM f) (xs.flatMap D)
  | [], _ => pure []
  | x :: xs, h => by
    rw [List.mapM_cons, List.flatMap_cons]
    exact bind (h x List.mem_cons_self) fun y _ =>
      map_pure (mapM fun x' hx' => h x' (List.mem_cons_of_mem _ hx')) _

end FirstOf

/-! ## The checks of each element -/

theorem required_firstOf (el : Element) (location attr : String) :
    FirstOf (required el location attr) (missingDefects el location attr) := by
  intro e
  unfold required missingDefects
  cases el.attr? attr <;> simp

theorem attrOrEmpty_of_required {el : Element} {location attr v : String}
    (h : required el location attr = .ok v) : el.attrOrEmpty attr = v := by
  unfold required at h
  unfold Element.attrOrEmpty
  cases hv : el.attr? attr with
  | none => rw [hv] at h; cases h
  | some w => rw [hv] at h; cases h; rfl

theorem number_firstOf {α : Type} (read : String → Option α) (el : Element)
    (location attr : String) (default : α) (expected : String) :
    FirstOf (number read el location attr default expected)
      (numberDefects read el location attr expected) := by
  intro e
  unfold number numberDefects
  cases el.attr? attr with
  | none => simp
  | some raw =>
    dsimp only
    by_cases hblank : (Text.trim raw).isEmpty = true
    · simp [hblank]
    · cases read (Text.trim raw) <;> simp [hblank]

theorem assessment_firstOf (location : String) (a : Element) :
    FirstOf (assessment a location) (assessmentDefects location a) := by
  unfold assessment assessmentDefects
  refine FirstOf.bind (number_firstOf _ _ _ _ _ _) fun _ _ => FirstOf.map_pure ?_ _
  exact FirstOf.mapM fun q _ => FirstOf.map_pure (number_firstOf _ _ _ _ _ _) _

theorem lesson_firstOf (location moduleTitle : String) (l : Element) :
    FirstOf (lesson l location moduleTitle) (lessonDefects location l) := by
  unfold lesson lessonDefects
  refine FirstOf.bind (required_firstOf _ _ _) fun title htitle => ?_
  rw [← attrOrEmpty_of_required htitle]
  exact FirstOf.map_pure (FirstOf.mapM fun a _ => assessment_firstOf _ a) _

theorem module_firstOf (location : String) (m : Element) :
    FirstOf (module m location) (moduleDefects location m) := by
  unfold module moduleDefects
  rw [List.append_assoc]
  refine FirstOf.bind (required_firstOf _ _ _) fun title htitle => ?_
  refine FirstOf.bind (number_firstOf _ _ _ _ _ _) fun _ _ => ?_
  rw [← attrOrEmpty_of_required htitle]
  exact FirstOf.map_pure (FirstOf.mapM fun l _ => lesson_firstOf _ _ l) _

theorem course_firstOf (root : Element) : FirstOf (course root) (defects root) := by
  unfold course defects
  exact FirstOf.map_pure (FirstOf.mapM fun m _ => module_firstOf _ m) _

/-- Reading a well-formed document fails exactly when its tree has a defect: it succeeds when
there is none, and otherwise fails with the first defect in document order, an element's own
title and number before its children's. -/
theorem read_fails_on_first_defect {document source : String} {root : Element}
    (h : Xml.parse source = .ok root) :
    ((∃ c, read document source = .ok c) ↔ defects root = []) ∧
      ∀ e, read document source = .error e ↔ (defects root).head? = some e := by
  have hread : read document source = course root := by simp only [read, h]
  rw [hread]
  exact ⟨(course_firstOf root).ok_iff, course_firstOf root⟩

/-- A course whose first module has a lesson without a title and whose second module, first by
its order, has no title. -/
def untitledLessonCourse : String :=
  "<course title=\"C\"><module title=\"A\" order=\"2\"><lesson/></module><module order=\"1\"/></course>"

/-- The lesson's defect comes first in the document, so it is the one reported, although the
untitled module would come first by order. -/
theorem untitled_lesson_reported_first :
    Xml.parse untitledLessonCourse =
        .ok ⟨"course", [("title", "C")],
          [.element "module" [("title", "A"), ("order", "2")] [.element "lesson" [] []],
            .element "module" [("order", "1")] []]⟩ ∧
      read inlineDocument untitledLessonCourse =
        .error (.missingAttribute "lesson" "(no id)" "course 'C' > module 'A'" "title" "none") := by
  have hparse : Xml.parse untitledLessonCourse =
      .ok ⟨"course", [("title", "C")],
        [.element "module" [("title", "A"), ("order", "2")] [.element "lesson" [] []],
          .element "module" [("order", "1")] []]⟩ := by cbv
  refine ⟨hparse, ((read_fails_on_first_defect hparse).2 _).2 ?_⟩
  decide

end Courseware.Reader
