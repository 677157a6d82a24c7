import Mathlib
import Courseware.Proofs.Course.Layout

/-!
# Answers of true/false questions

A true/false question takes its answer from its `answer` child: the child's `value`, trimmed, or
else its text (`givenAnswer`), in lower case; with no `answer` child, or an empty answer, it is
`false`. Nothing else is checked. The answer is `true` or `false` exactly when the author wrote
one of them, in any letter case, or nothing (`trueFalseAnswer_bool_iff`); any other answer is
kept, in lower case.

So every answer of a true/false question in a course read from a document is what a question
element of the document says (`trueFalse_answers_as_written`), and `<answer value="yes"/>` gives
the answer `yes` (`yes_answer_kept`), which no choice of the rendered question matches.
-/

namespace Courseware

def Course.trueFalseAnswers (c : Course) : List String :=
  c.lessons.flatMap fun l => l.assessments.flatMap fun a => a.questions.filterMap fun q =>
    match q.kind with
    | .trueFalse _ answer => some answer
    | _ => none

theorem Course.mem_trueFalseAnswers {c : Course} {answer : String}
    (h : answer ∈ c.trueFalseAnswers) :
    ∃ l ∈ c.lessons, ∃ a ∈ l.assessments, ∃ q ∈ a.questions, ∃ statement,
      q.kind = .trueFalse statement answer := by
  simp only [Course.trueFalseAnswers, List.mem_flatMap, List.mem_filterMap] at h
  obtain ⟨l, hl, a, ha, q, hq, hkind⟩ := h
  refine ⟨l, hl, a, ha, q, hq, ?_⟩
  split at hkind
  · rename_i statement _ hk
    cases hkind
    exact ⟨statement, hk⟩
  · cases hkind

namespace Reader

open Xml

/-- The answer an author gives a true/false question, if it has an `answer` child: that child's
`value`, trimmed, or else its text. -/
def givenAnswer (el : Element) : Option String :=
  (el.child? "answer").map fun a =>
    match a.attr? "value" with
    | some v => Text.trim v
    | none => a.text

/-- The question elements of a document: the `question` children of the `assessment` children
of the `lesson` children of the root's `module` children. -/
def questionElements (root : Element) : List Element :=
  (root.childrenNamed "module").flatMap fun m => (m.childrenNamed "lesson").flatMap fun l =>
    (l.childrenNamed "assessment").flatMap fun a => a.childrenNamed "question"

/-! ## The answer of one question -/

theorem trueFalseAnswer_of_none {el : Element} (h : givenAnswer el = none) :
    trueFalseAnswer el = "false" := by
  unfold givenAnswer at h
  rw [Option.map_eq_none_iff] at h
  simp [trueFalseAnswer, h]

theorem trueFalseAnswer_of_some {el : Element} {g : String} (h : givenAnswer el = some g) :
    trueFalseAnswer el = if (Case.lowercase g).isEmpty then "false" else Case.lowercase g := by
  unfold givenAnswer at h
  obtain ⟨a, ha, hg⟩ := Option.map_eq_some_iff.1 h
  unfold trueFalseAnswer
  cases hv : a.attr? "value" <;> simp [ha, hv] at hg ⊢ <;> rw [hg]

/-- A true/false answer is `true` or `false` exactly when the author wrote one of them, in any
letter case, or wrote nothing. -/
theorem trueFalseAnswer_bool_iff (el : Element) :
    trueFalseAnswer el = "true" ∨ trueFalseAnswer el = "false" ↔
      ∀ g ∈ givenAnswer el, Case.lowercase g ∈ ["true", "false", ""] := by
  cases hg : givenAnswer el with
  | none => simp [trueFalseAnswer_of_none hg]
  | some g =>
    rw [trueFalseAnswer_of_some hg]
    by_cases he : (Case.lowercase g).isEmpty
    · simp [String.isEmpty_iff.1 he]
    · have hne : Case.lowercase g ≠ "" := fun h => he (String.isEmpty_iff.2 h)
      simp [he, hne]

theorem questionKind_eq_trueFalse {t : String} {el : Element} {statement answer : String}
    (h : questionKind t el = .trueFalse statement answer) :
    Case.lowercase (Text.trim t) = "truefalse" ∧ statement = el.childText "statement" ∧
      answer = trueFalseAnswer el := by
  unfold questionKind at h
  split at h <;> cases h
  exact ⟨‹_›, rfl, rfl⟩

/-! ## The answers of a course -/

theorem exists_of_forall₂_mem {α β : Type} {R : α → β → Prop} :
    ∀ {xs : List α} {ys : List β}, List.Forall₂ R xs ys →
      ∀ {y}, y ∈ ys → ∃ x ∈ xs, R x y
  | _, _, .nil, _, hy => absurd hy List.not_mem_nil
  | x :: _, _ :: _, .cons hxy hrest, _, hy => by
    rcases List.mem_cons.1 hy with rfl | hy
    · exact ⟨x, List.mem_cons_self, hxy⟩
    · obtain ⟨x', hx', hr⟩ := exists_of_forall₂_mem hrest hy
      exact ⟨x', List.mem_cons_of_mem _ hx', hr⟩

/-- Every answer of a true/false question in a course read from a document is what a question
element of type `truefalse` in the document says: its given answer in lower case, or `false`
when it gives none. It is `true` or `false` exactly when that given answer is one of them, in
any letter case, or empty; any other answer stands in the course as written, in lower case. -/
theorem trueFalse_answers_as_written {document source : String} {c : Course}
    (h : read document source = .ok c) :
    ∃ root, Xml.parse source = .ok root ∧
      ∀ answer ∈ c.trueFalseAnswers, ∃ el ∈ questionElements root,
        Case.lowercase (Text.trim ((el.attr? "type").getD "mcq")) = "truefalse" ∧
        answer = trueFalseAnswer el ∧
        (answer = "true" ∨ answer = "false" ↔
          ∀ g ∈ givenAnswer el, Case.lowercase g ∈ ["true", "false", ""]) := by
  obtain ⟨root, hroot, -, ⟨ms, hms, hperm, -⟩, hlessons, -⟩ := read_layout h
  refine ⟨root, hroot, fun answer hanswer => ?_⟩
  obtain ⟨l, hl, a, ha, q, hq, statement, hkind⟩ := c.mem_trueFalseAnswers hanswer
  rw [hlessons, List.mem_flatMap] at hl
  obtain ⟨m, hm, hl⟩ := hl
  obtain ⟨me, hme, hmod⟩ := exists_of_forall₂_mem hms (hperm.mem_iff.1 hm)
  obtain ⟨le, hle, hles⟩ := exists_of_forall₂_mem hmod.lessons hl
  obtain ⟨ae, hae, hass⟩ := exists_of_forall₂_mem hles.assessments ha
  obtain ⟨qe, hqe, hques⟩ := exists_of_forall₂_mem hass.questions hq
  obtain ⟨htype, -, hans⟩ := questionKind_eq_trueFalse (hques.kind.symm.trans hkind)
  refine ⟨qe, ?_, htype, hans, hans ▸ trueFalseAnswer_bool_iff qe⟩
  simp only [questionElements, List.mem_flatMap]
  exact ⟨me, hme, le, hle, ae, hae, hqe⟩

/-- A course with one true/false question whose answer is written `yes`. -/
def yesSource : String :=
  "<course title=\"C\"><module title=\"M\"><lesson title=\"L\"><assessment id=\"a\">" ++
    "<question type=\"truefalse\"><statement>S</statement><answer value=\"yes\"/></question>" ++
    "</assessment></lesson></module></course>"

/-- The answer written `yes` is read as `yes`: neither `true` nor `false`. -/
theorem yes_answer_kept :
    ∃ c, read inlineDocument yesSource = .ok c ∧ c.trueFalseAnswers = ["yes"] ∧
      ∃ root, Xml.parse yesSource = .ok root ∧ ∃ el ∈ questionElements root,
        "yes" = trueFalseAnswer el ∧
          ∃ g ∈ givenAnswer el, Case.lowercase g ∉ ["true", "false", ""] := by
  have hread : (read inlineDocument yesSource).toOption.map Course.trueFalseAnswers =
      some ["yes"] := by
    decide +kernel
  cases hc : read inlineDocument yesSource with
  | error x => rw [hc] at hread; cases hread
  | ok c =>
    rw [hc] at hread
    have hanswers : c.trueFalseAnswers = ["yes"] := Option.some.inj hread
    obtain ⟨root, hroot, hall⟩ := trueFalse_answers_as_written hc
    obtain ⟨el, hel, -, hyes, hiff⟩ :=
      hall "yes" (by rw [hanswers]; exact List.mem_singleton_self _)
    refine ⟨c, rfl, hanswers, root, hroot, el, hel, hyes, ?_⟩
    have hnot : ¬ ("yes" = "true" ∨ "yes" = "false") := by decide
    simpa using mt hiff.2 hnot

end Reader

end Courseware
