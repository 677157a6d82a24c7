import Courseware.Proofs.Template.BuiltinSet

/-!
# Filling templates that include no partials

A template whose text holds no partial reference comes out of expansion as it went in, so
rendering it only puts each variable's value (`fillVar`) in place of its reference
(`render_builtin_of_chars`). The cut of a fixed text is computed by `Pattern.cutBounded`, the
same walk with a bound on its steps, which the kernel can run; `cut_eq_cutBounded` says the
two agree once the bound covers the text.

The question widgets are built on the two built-in question templates, so their rendered text
is written out here once: `render_question` and `render_questionOpen`. A true/false widget
then gets its answer written after its type (`replaceFirst_questionFill`).
-/

namespace Courseware.Pattern

variable {α : Type}

/-- `cut` with at most `n` steps, by structural recursion on `n`. -/
def cutBounded (p : Pattern α) : Nat → List Char → List (Piece α)
  | 0, _ => []
  | _, [] => []
  | n + 1, c :: cs =>
    match p (c :: cs) with
    | some (a, k + 1) => .hit a :: cutBounded p n (cs.drop k)
    | _ => .char c :: cutBounded p n cs

/-- With a step for every character, the bounded walk is the walk. -/
theorem cut_eq_cutBounded (p : Pattern α) (n : Nat) :
    ∀ cs : List Char, cs.length ≤ n → cut p cs = cutBounded p n cs := by
  induction n with
  | zero =>
    intro cs h
    cases cs with
    | nil => simp only [cut, cutBounded]
    | cons c cs => simp at h
  | succ n ih =>
    intro cs h
    cases cs with
    | nil => simp only [cut, cutBounded]
    | cons c cs =>
      have hl : cs.length ≤ n := by simpa using h
      rw [cut, cutBounded]
      rcases p (c :: cs) with _ | ⟨a, _ | k⟩
      · rw [ih _ hl]
      · rw [ih _ hl]
      · dsimp only
        rw [ih _ (by simp; omega)]

theorem joinPieces_append (f : α → List Char) (ps qs : List (Piece α)) :
    joinPieces f (ps ++ qs) = joinPieces f ps ++ joinPieces f qs := by
  induction ps with
  | nil => rfl
  | cons p ps ih => cases p <;> simp [joinPieces, ih]

theorem joinPieces_chars (f : α → List Char) (cs : List Char) :
    joinPieces f (cs.map .char) = cs := by
  induction cs with
  | nil => rfl
  | cons c cs ih => simp [joinPieces, ih]

end Courseware.Pattern

namespace Courseware.Template

open Pattern

def chars {α : Type} (s : String) : List (Piece α) := s.toList.map .char

theorem joinPieces_chars_end {α : Type} (f : α → List Char) (s : String) :
    joinPieces f (chars s) = s.toList :=
  joinPieces_chars f s.toList

/-- A variable's value, or the reference written again when the context binds none. -/
def fillVar (ctx : Context) (name : String) : String :=
  match ctx.lookup name with
  | some value => value
  | none => "\x7b\x7b " ++ name ++ " \x7d\x7d"

theorem substitute_eq_joinPieces (ctx : Context) (text : List Char) :
    substitute ctx text = joinPieces (fun r => (fillVar ctx r.name).toList) (cut variableRef text) := by
  rw [substitute, replace_eq_joinPieces]
  congr
  funext r
  rcases h : ctx.lookup r.name <;> simp [fillVar, h]

namespace Engine

theorem foldlM_chars {α : Type} {f : String → Piece α → TemplateM String}
    (hf : ∀ out c, f out (.char c) = pure (out.push c)) (e : Engine) :
    ∀ (cs : List Char) (out : String),
      (List.foldlM f out (cs.map .char)).run e = .ok (out ++ String.ofList cs) e
  | [], out => by simp
  | c :: cs, out => by
    rw [List.map_cons, List.foldlM_cons, hf, EStateM.run_bind]
    show (List.foldlM f (out.push c) (cs.map .char)).run e = _
    rw [foldlM_chars hf e cs]
    rw [String.push_eq_append, String.append_assoc, ← String.ofList_cons]

theorem expand_of_chars (fs : FileStore) (chain : List String) (d : Nat) {text : List Char}
    (h : cut partialRef text = text.map .char) (e : Engine) :
    (expand fs chain d text).run e = .ok (String.ofList text) e := by
  rw [expand.eq_1, h, foldlM_chars (fun _ _ => rfl) e text ""]
  simp

/-- A built-in template without partial references renders, from the built-in set alone, as
its text with its variables filled. -/
theorem render_builtin_of_chars (fs : FileStore) {name text : String}
    (hb : builtin? name = some text) (h : cut partialRef text.toList = text.toList.map .char)
    (ctx : Context) :
    outcome ((render fs name ctx).run { dir := none }) =
      .ok (String.ofList (substitute ctx text.toList)) := by
  rw [render_builtin fs hb, builtinExpansion, expand_of_chars _ _ _ h, String.ofList_toList]
  rfl

theorem builtinExpansion_of_chars {text : String}
    (h : cut partialRef text.toList = text.toList.map .char) : builtinExpansion text = .ok text := by
  rw [builtinExpansion, expand_of_chars _ _ _ h, String.ofList_toList]
  rfl

end Engine

/-! ## The question templates -/

theorem builtin_question : builtin? "partials/question.html" = some Builtin.question := rfl

theorem builtin_questionOpen :
    builtin? "partials/question_open.html" = some Builtin.questionOpen := rfl

set_option maxRecDepth 4000 in
theorem question_chars :
    cut partialRef Builtin.question.toList = Builtin.question.toList.map .char := by
  simp only [Builtin.question, String.toList_intercalate, List.map_cons, List.map_nil]
  repeat rw [String.toList_ofList]
  rw [cut_eq_cutBounded _ _ _ (Nat.le_refl _)]
  rfl

set_option maxRecDepth 4000 in
theorem question_variables :
    cut variableRef Builtin.question.toList =
      chars "<div class=\"q\" data-type=\"" ++ .hit ⟨"q_type", "\x7b\x7b q_type \x7d\x7d".toList⟩ ::
      chars "\" data-points=\"" ++ .hit ⟨"points", "\x7b\x7b points \x7d\x7d".toList⟩ ::
      chars "\">\n  <div><strong>Q" ++ .hit ⟨"q_index", "\x7b\x7b q_index \x7d\x7d".toList⟩ ::
      chars ".</strong> " ++ .hit ⟨"stem", "\x7b\x7b stem \x7d\x7d".toList⟩ ::
      chars "</div>\n  " ++ .hit ⟨"choices", "\x7b\x7b choices \x7d\x7d".toList⟩ ::
      chars "\n</div>" := by
  simp only [Builtin.question, String.toList_intercalate, List.map_cons, List.map_nil, chars]
  repeat rw [String.toList_ofList]
  rw [cut_eq_cutBounded _ _ _ (Nat.le_refl _)]
  rfl

/-- The question template with its variables filled: the widget's type, points, number, stem
and inputs in place. -/
def questionFill (ctx : Context) : String :=
  "<div class=\"q\" data-type=\"" ++ fillVar ctx "q_type" ++ "\" data-points=\"" ++
    fillVar ctx "points" ++ "\">\n  <div><strong>Q" ++ fillVar ctx "q_index" ++ ".</strong> " ++
    fillVar ctx "stem" ++ "</div>\n  " ++ fillVar ctx "choices" ++ "\n</div>"

theorem render_question (fs : FileStore) (ctx : Context) :
    outcome ((Engine.render fs "partials/question.html" ctx).run { dir := none }) =
      .ok (questionFill ctx) := by
  refine (Engine.render_builtin_of_chars fs builtin_question question_chars ctx).trans
    (congrArg Except.ok (String.toList_injective ?_))
  rw [String.toList_ofList, substitute_eq_joinPieces, question_variables]
  -- unfolded by hand: a rewrite's closing check would decode the literals
  unfold questionFill
  simp only [joinPieces_append, joinPieces, joinPieces_chars_end, String.toList_append,
    List.append_assoc]

theorem fillVar_cons_self (ctx : Context) (name value : String) :
    fillVar ((name, value) :: ctx) name = value := by
  simp [fillVar]

theorem fillVar_cons_of_ne (ctx : Context) {key name : String} (value : String) (h : key ≠ name) :
    fillVar ((key, value) :: ctx) name = fillVar ctx name := by
  simp only [fillVar, List.lookup_cons, beq_false_of_ne (Ne.symm h)]

theorem firstMatch_truefalse (tail : List Char) :
    firstMatch (literal "data-type=\"truefalse\"".toList)
        ("<div class=\"q\" data-type=\"".toList ++
          ("truefalse".toList ++ ("\" data-points=\"".toList ++ tail))) =
      some ("<div class=\"q\" ".toList, (), " data-points=\"".toList ++ tail) := by
  repeat rw [String.toList_ofList]
  rfl

/-- The answer of a true/false widget, written after the first `data-type="truefalse"` of its
text, lands on the widget's own element: the result is the question template filled with the
answer attribute following the type. -/
theorem replaceFirst_questionFill (ctx : Context) (h : fillVar ctx "q_type" = "truefalse")
    (answer : String) :
    String.ofList (replaceFirst (literal "data-type=\"truefalse\"".toList)
        (fun _ => ("data-type=\"truefalse\" data-answer=\"" ++ answer ++ "\"").toList)
        (questionFill ctx).toList) =
      questionFill (("q_type", "truefalse\" data-answer=\"" ++ answer) :: ctx) := by
  apply String.toList_injective
  unfold questionFill
  rw [fillVar_cons_self, fillVar_cons_of_ne _ _ (by decide), fillVar_cons_of_ne _ _ (by decide),
    fillVar_cons_of_ne _ _ (by decide), fillVar_cons_of_ne _ _ (by decide), h]
  simp only [String.toList_ofList, String.toList_append, List.append_assoc]
  rw [replaceFirst, firstMatch_truefalse]
  simp only [List.append_assoc]
  repeat rw [String.toList_ofList]
  simp only [List.cons_append, List.nil_append]

set_option maxRecDepth 4000 in
theorem questionOpen_chars :
    cut partialRef Builtin.questionOpen.toList = Builtin.questionOpen.toList.map .char := by
  simp only [Builtin.questionOpen, String.toList_intercalate, List.map_cons, List.map_nil]
  repeat rw [String.toList_ofList]
  rw [cut_eq_cutBounded _ _ _ (Nat.le_refl _)]
  rfl

set_option maxRecDepth 4000 in
theorem questionOpen_variables :
    cut variableRef Builtin.questionOpen.toList =
      chars "<div class=\"q\" data-type=\"" ++ .hit ⟨"q_type", "\x7b\x7b q_type \x7d\x7d".toList⟩ ::
      chars "\" data-points=\"" ++ .hit ⟨"points", "\x7b\x7b points \x7d\x7d".toList⟩ ::
      chars "\">\n  <div><strong>Q" ++ .hit ⟨"q_index", "\x7b\x7b q_index \x7d\x7d".toList⟩ ::
      chars ".</strong> " ++ .hit ⟨"prompt", "\x7b\x7b prompt \x7d\x7d".toList⟩ ::
      chars "</div>\n  <textarea name=\"" ++ .hit ⟨"q_name", "\x7b\x7b q_name \x7d\x7d".toList⟩ ::
      chars "\" rows=\"" ++ .hit ⟨"rows", "\x7b\x7b rows \x7d\x7d".toList⟩ ::
      chars "\" data-lang=\"" ++ .hit ⟨"lang", "\x7b\x7b lang \x7d\x7d".toList⟩ ::
      chars "\">" ++ .hit ⟨"starter", "\x7b\x7b starter \x7d\x7d".toList⟩ ::
      chars "</textarea>\n  " ++
        .hit ⟨"solution_html", "\x7b\x7b solution_html \x7d\x7d".toList⟩ ::
      chars "\n</div>" := by
  simp only [Builtin.questionOpen, String.toList_intercalate, List.map_cons, List.map_nil, chars]
  repeat rw [String.toList_ofList]
  rw [cut_eq_cutBounded _ _ _ (Nat.le_refl _)]
  rfl

def questionOpenFill (ctx : Context) : String :=
  "<div class=\"q\" data-type=\"" ++ fillVar ctx "q_type" ++ "\" data-points=\"" ++
    fillVar ctx "points" ++ "\">\n  <div><strong>Q" ++ fillVar ctx "q_index" ++ ".</strong> " ++
    fillVar ctx "prompt" ++ "</div>\n  <textarea name=\"" ++ fillVar ctx "q_name" ++
    "\" rows=\"" ++ fillVar ctx "rows" ++ "\" data-lang=\"" ++ fillVar ctx "lang" ++ "\">" ++
    fillVar ctx "starter" ++ "</textarea>\n  " ++ fillVar ctx "solution_html" ++ "\n</div>"

theorem render_questionOpen (fs : FileStore) (ctx : Context) :
    outcome ((Engine.render fs "partials/question_open.html" ctx).run { dir := none }) =
      .ok (questionOpenFill ctx) := by
  refine (Engine.render_builtin_of_chars fs builtin_questionOpen questionOpen_chars ctx).trans
    (congrArg Except.ok (String.toList_injective ?_))
  rw [String.toList_ofList, substitute_eq_joinPieces, questionOpen_variables]
  -- unfolded by hand: a rewrite's closing check would decode the literals
  unfold questionOpenFill
  simp only [joinPieces_append, joinPieces, joinPieces_chars_end, String.toList_append,
    List.append_assoc]

/-! ## The templates with a click handler -/

theorem builtin_assessment : builtin? "partials/assessment.html" = some Builtin.assessment := rfl

theorem builtin_completion : builtin? "partials/completion.html" = some Builtin.completion := rfl

set_option maxRecDepth 4000 in
theorem assessment_chars :
    cut partialRef Builtin.assessment.toList = Builtin.assessment.toList.map .char := by
  simp only [Builtin.assessment, String.toList_intercalate, List.map_cons, List.map_nil]
  repeat rw [String.toList_ofList]
  rw [cut_eq_cutBounded _ _ _ (Nat.le_refl _)]
  rfl

set_option maxRecDepth 4000 in
theorem assessment_variables :
    cut variableRef Builtin.assessment.toList =
      chars "<div class=\"quiz\" data-assessment=\"" ++
        .hit ⟨"assess_id", "\x7b\x7b assess_id \x7d\x7d".toList⟩ ::
      chars "\" data-pass-score=\"" ++ .hit ⟨"pass_score", "\x7b\x7b pass_score \x7d\x7d".toList⟩ ::
      chars "\">\n  <h2>Assessment</h2>\n  <div class=\"small\">Pass score: " ++
        .hit ⟨"pass_score", "\x7b\x7b pass_score \x7d\x7d".toList⟩ ::
      chars "%</div>\n  " ++ .hit ⟨"questions", "\x7b\x7b questions \x7d\x7d".toList⟩ ::
      chars "\n  <button class=\"btn\" " ++ chars "onclick=\"checkQuiz('" ++
        .hit ⟨"course_js", "\x7b\x7b course_js \x7d\x7d".toList⟩ ::
      chars "','" ++ .hit ⟨"assess_js", "\x7b\x7b assess_js \x7d\x7d".toList⟩ ::
      chars "')\"" ++
        chars ">Check Answers</button>\n  <div class=\"quiz-result small\"></div>\n</div>" := by
  simp only [Builtin.assessment, String.toList_intercalate, List.map_cons, List.map_nil, chars]
  repeat rw [String.toList_ofList]
  rw [cut_eq_cutBounded _ _ _ (Nat.le_refl _)]
  rfl

/-- The assessment template with its variables filled: the key, the pass score, the questions,
and the check button calling `checkQuiz` with the course's and the assessment's script strings. -/
def assessmentFill (ctx : Context) : String :=
  "<div class=\"quiz\" data-assessment=\"" ++ fillVar ctx "assess_id" ++ "\" data-pass-score=\"" ++
    fillVar ctx "pass_score" ++ "\">\n  <h2>Assessment</h2>\n  <div class=\"small\">Pass score: " ++
    fillVar ctx "pass_score" ++ "%</div>\n  " ++ fillVar ctx "questions" ++
    "\n  <button class=\"btn\" " ++ "onclick=\"checkQuiz('" ++ fillVar ctx "course_js" ++ "','" ++
    fillVar ctx "assess_js" ++ "')\"" ++
    ">Check Answers</button>\n  <div class=\"quiz-result small\"></div>\n</div>"

theorem render_assessment (fs : FileStore) (ctx : Context) :
    outcome ((Engine.render fs "partials/assessment.html" ctx).run { dir := none }) =
      .ok (assessmentFill ctx) := by
  refine (Engine.render_builtin_of_chars fs builtin_assessment assessment_chars ctx).trans
    (congrArg Except.ok (String.toList_injective ?_))
  rw [String.toList_ofList, substitute_eq_joinPieces, assessment_variables]
  unfold assessmentFill
  simp only [joinPieces_append, joinPieces, joinPieces_chars_end, String.toList_append,
    List.append_assoc]

set_option maxRecDepth 4000 in
theorem completion_chars :
    cut partialRef Builtin.completion.toList = Builtin.completion.toList.map .char := by
  simp only [Builtin.completion, String.toList_intercalate, List.map_cons, List.map_nil]
  repeat rw [String.toList_ofList]
  rw [cut_eq_cutBounded _ _ _ (Nat.le_refl _)]
  rfl

set_option maxRecDepth 4000 in
theorem completion_variables :
    cut variableRef Builtin.completion.toList =
      chars "<h2>Lesson Complete</h2>\n<p>You have reached the end of <strong>" ++
        .hit ⟨"lesson_title", "\x7b\x7b lesson_title \x7d\x7d".toList⟩ ::
      chars ("</strong>.</p>\n<div class=\"progress\"><span></span></div>\n" ++
        "<div class=\"small\" id=\"progress-label\">0% complete</div>\n<button class=\"btn\" ") ++
        chars "onclick=\"markLessonComplete('" ++
        .hit ⟨"course_js", "\x7b\x7b course_js \x7d\x7d".toList⟩ ::
      chars "','" ++ .hit ⟨"lesson_js", "\x7b\x7b lesson_js \x7d\x7d".toList⟩ ::
      chars "')\"" ++
        chars ">Mark Lesson Complete</button>\n<p><a href=\"index.html\">Back to course</a></p>" := by
  simp only [Builtin.completion, String.toList_intercalate, List.map_cons, List.map_nil, chars]
  repeat rw [String.toList_ofList]
  rw [cut_eq_cutBounded _ _ _ (Nat.le_refl _)]
  rfl

def completionFill (ctx : Context) : String :=
  "<h2>Lesson Complete</h2>\n<p>You have reached the end of <strong>" ++
    fillVar ctx "lesson_title" ++
    ("</strong>.</p>\n<div class=\"progress\"><span></span></div>\n" ++
      "<div class=\"small\" id=\"progress-label\">0% complete</div>\n<button class=\"btn\" ") ++
    "onclick=\"markLessonComplete('" ++ fillVar ctx "course_js" ++ "','" ++
    fillVar ctx "lesson_js" ++ "')\"" ++
    ">Mark Lesson Complete</button>\n<p><a href=\"index.html\">Back to course</a></p>"

theorem render_completion (fs : FileStore) (ctx : Context) :
    outcome ((Engine.render fs "partials/completion.html" ctx).run { dir := none }) =
      .ok (completionFill ctx) := by
  refine (Engine.render_builtin_of_chars fs builtin_completion completion_chars ctx).trans
    (congrArg Except.ok (String.toList_injective ?_))
  rw [String.toList_ofList, substitute_eq_joinPieces, completion_variables]
  unfold completionFill
  simp only [joinPieces_append, joinPieces, joinPieces_chars_end, String.toList_append,
    List.append_assoc]

end Courseware.Template
