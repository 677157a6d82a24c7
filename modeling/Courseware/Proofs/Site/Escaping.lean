import Courseware.Proofs.Site.Safe
import Courseware.Site.Build

/-!
# Author text reaches a page only escaped

From a builder that renders with the built-in set alone, every step that makes a page returns
text of the `SafeHtml` grammar: each question widget, each slide body and slide, each module
card, and the two kinds of page. The one place author text is put in a page as written is a
content block in HTML, so the page of a lesson without one is safe, and the index page always
is (`pages_escape_author_text`).
-/

namespace Courseware.Site

open Template Text

/-! ## Question widgets -/

theorem choiceInputs_safe {inputType name : String} (htype : SafeHtml inputType)
    (hname : SafeHtml name) (choices : List Choice) :
    SafeHtml (choiceInputs inputType name choices) := by
  refine SafeHtml.intercalate (.renderer (by decide)) fun x hx => ?_
  obtain ⟨c, -, rfl⟩ := List.mem_map.1 hx
  repeat' apply SafeHtml.append
  · exact .renderer (by decide)
  · exact htype
  · exact .renderer (by decide)
  · exact hname
  · exact .renderer (by decide)
  · exact .ite (.renderer (by decide)) (.renderer (by decide))
  · exact .renderer (by decide)
  · exact .escaped _
  · exact .renderer (by decide)

theorem trueFalseInputs_safe {name : String} (hname : SafeHtml name) :
    SafeHtml (trueFalseInputs name) :=
  .append (.between (by decide) hname (by decide)) (.between (by decide) hname (by decide))

theorem solutionHtml_safe (a : OpenAnswer) : SafeHtml a.solutionHtml := by
  unfold OpenAnswer.solutionHtml
  split
  · exact (.renderer (by decide))
  · -- a code solution keeps its escaped language
    exact .ite
      (.append (.append (.between (by decide) (.escaped _) (by decide)) (.escaped _))
        (.renderer (by decide)))
      (.between (by decide) (.escaped _) (by decide))

theorem stemmed_eq (type : String) (number : Nat) (points stem choices : String) :
    Sat BuiltinEngine (· = questionFill [("q_type", type), ("q_index", toString number),
        ("points", points), ("stem", escapeHtml stem), ("choices", choices)])
      (stemmed type number points stem choices) :=
  (render_sat _ _).mono fun _ ⟨fs, hr⟩ => by
    rw [render_question] at hr
    exact (Except.ok.inj hr).symm

theorem stemmed_safe {type points choices : String} (htype : SafeHtml type)
    (hpoints : SafeHtml points) (hchoices : SafeHtml choices) (number : Nat) (stem : String) :
    Sat BuiltinEngine SafeHtml (stemmed type number points stem choices) :=
  render_safe rfl <| safeValues_cons htype <| safeValues_cons (.nat _) <|
    safeValues_cons hpoints <| safeValues_cons (.escaped _) <|
    safeValues_cons hchoices safeValues_nil

theorem openQuestion_safe {a : OpenAnswer} {points name : String} (htype : SafeHtml a.type)
    (hpoints : SafeHtml points) (hname : SafeHtml name) (number : Nat) :
    Sat BuiltinEngine SafeHtml (openQuestion a number points name) :=
  render_safe rfl <| safeValues_cons htype <| safeValues_cons (.nat _) <|
    safeValues_cons hpoints <| safeValues_cons (.escaped _) <| safeValues_cons hname <|
    safeValues_cons (.nat _) <| safeValues_cons (.escaped _) <| safeValues_cons (.escaped _) <|
    safeValues_cons (solutionHtml_safe a) safeValues_nil

theorem matchingRows_safe {name : String} (hname : SafeHtml name) (pairs : List MatchPair) :
    Sat BuiltinEngine SafeHtml (matchingRows pairs name) := by
  unfold matchingRows
  refine Sat.bind (shuffled_sat _) fun options _ => ?_
  have hoptions : SafeHtml (String.join ("<option value=\"\">Choose...</option>" ::
      options.map fun o => "<option value=\"" ++ escapeHtml o ++ "\">" ++ escapeHtml o ++
        "</option>")) := by
    refine SafeHtml.join (List.forall_mem_cons.2 ⟨(.renderer (by decide)), fun x hx => ?_⟩)
    obtain ⟨o, -, rfl⟩ := List.mem_map.1 hx
    exact .append (.append (.between (by decide) (.escaped _) (by decide)) (.escaped _))
      (.renderer (by decide))
  refine Sat.pure (SafeHtml.intercalate (.renderer (by decide)) fun x hx => ?_)
  obtain ⟨⟨p, i⟩, -, rfl⟩ := List.mem_map.1 hx
  repeat' apply SafeHtml.append
  · exact .renderer (by decide)
  · exact .escaped _
  · exact .renderer (by decide)
  · exact hname
  · exact .renderer (by decide)
  · exact .nat _
  · exact .renderer (by decide)
  · exact .renderer (by decide)
  · exact .escaped _
  · exact .renderer (by decide)
  · exact hoptions
  · exact .renderer (by decide)

theorem orderingRows_safe {name : String} (hname : SafeHtml name) (items : List String) :
    Sat BuiltinEngine SafeHtml (orderingRows items name) := by
  unfold orderingRows
  refine Sat.bind (shuffled_sat _) fun positions _ => Sat.pure ?_
  refine SafeHtml.intercalate (.renderer (by decide)) fun x hx => ?_
  obtain ⟨pos, -, rfl⟩ := List.mem_map.1 hx
  repeat' apply SafeHtml.append
  · exact .renderer (by decide)
  · exact hname
  · exact .renderer (by decide)
  · exact .nat _
  · exact .renderer (by decide)
  · exact .renderer (by decide)
  · exact .nat _
  · exact .renderer (by decide)
  · exact .nat _
  · exact .renderer (by decide)
  · exact .escaped _
  · exact .renderer (by decide)

theorem trueFalse_safe {points name : String} (hpoints : SafeHtml points)
    (hname : SafeHtml name) (number : Nat) (statement answer : String) :
    Sat BuiltinEngine SafeHtml (do
      let html ← stemmed "truefalse" number points statement (trueFalseInputs name)
      let answer := escapeHtml answer
      return String.ofList (Pattern.replaceFirst
        (Pattern.literal "data-type=\"truefalse\"".toList)
        (fun _ => s!"data-type=\"truefalse\" data-answer=\"{answer}\"".toList) html.toList)) := by
  refine Sat.bind (stemmed_eq _ _ _ _ _) fun html hhtml => Sat.pure ?_
  rw [hhtml]
  refine (congrArg SafeHtml (replaceFirst_questionFill _ ?_ (escapeHtml answer))).mpr ?_
  · rfl
  refine Engine.render_safe rfl ?_ (render_question {} _)
  exact safeValues_cons (.append (.renderer (by decide)) (.escaped _)) <|
    safeValues_cons (.renderer (by decide)) <| safeValues_cons (.nat _) <| safeValues_cons hpoints <| safeValues_cons (.escaped _) <|
    safeValues_cons (trueFalseInputs_safe hname) safeValues_nil

theorem questionHtml_safe (q : Question) (number : Nat) (name : String) :
    Sat BuiltinEngine SafeHtml (questionHtml q number name) := by
  have hpoints : SafeHtml (Double.display q.points) := .decimal _
  have hname : SafeHtml (escapeHtml name) := .escaped _
  unfold questionHtml
  cases q.kind with
  | mcq stem choices =>
    exact stemmed_safe (.renderer (by decide)) hpoints
      (choiceInputs_safe (.renderer (by decide)) hname choices) _ _
  | msq stem choices =>
    exact stemmed_safe (.renderer (by decide)) hpoints
      (choiceInputs_safe (.renderer (by decide)) hname choices) _ _
  | trueFalse statement answer => exact trueFalse_safe hpoints hname number statement answer
  | short prompt solution =>
    exact openQuestion_safe (.renderer (by decide) : SafeHtml "short") hpoints hname number
  | long prompt solution =>
    exact openQuestion_safe (.renderer (by decide) : SafeHtml "long") hpoints hname number
  | code prompt lang starter tests solution =>
    exact openQuestion_safe (.renderer (by decide) : SafeHtml "code") hpoints hname number
  | matching prompt pairs =>
    exact Sat.bind (matchingRows_safe hname pairs) fun rows hrows =>
      stemmed_safe (.renderer (by decide)) hpoints hrows _ _
  | ordering prompt items =>
    exact Sat.bind (orderingRows_safe hname items) fun rows hrows =>
      stemmed_safe (.renderer (by decide)) hpoints hrows _ _
  | unsupported typeName raw =>
    exact Sat.pure (.append
      (.append (.append (.between (by decide) (.escaped _) (by decide)) (.escaped _))
        (.renderer (by decide)))
      (.between (by decide) (.escaped _) (by decide)))

theorem questionsHtml_safe (questions : List Question) (key : String) :
    Sat BuiltinEngine SafeHtml (questionsHtml questions key) := by
  unfold questionsHtml
  refine Sat.bind (Sat.mapM_forall fun x _ => ?_) fun _ hparts => Sat.pure (SafeHtml.join hparts)
  obtain ⟨q, i⟩ := x
  exact questionHtml_safe q (i + 1) _

/-! ## Slides -/

theorem contentBody_safe {c : Content} (h : c.format ≠ .html) : SafeHtml (contentBody c) := by
  unfold contentBody
  split
  · exact .markdown _
  · contradiction
  · exact .between (by decide) (.escaped _) (by decide)

theorem slideNav_safe (slides : List Slide) (index : Nat) : SafeHtml (slideNav slides index) := by
  have hlink : ∀ (o : Option Slide) (f : Slide → String), (∀ s, SafeHtml (f s)) →
      ∀ x ∈ (o.map f).toList, SafeHtml x := by
    intro o f hf x hx
    cases o with
    | none => cases hx
    | some s =>
      rw [Option.map_some, Option.toList_some, List.mem_singleton] at hx
      rw [hx]
      exact hf s
  unfold slideNav
  refine SafeHtml.intercalate (.renderer (by decide)) fun x hx => ?_
  rcases List.mem_append.1 hx with hx | hx
  · split at hx
    · cases hx
    · exact hlink _ _ (fun _ => .between (by decide) (.escaped _) (by decide)) x hx
  · exact hlink _ _ (fun _ => .between (by decide) (.escaped _) (by decide)) x hx

theorem activityTemplate_builtin (a : Activity) :
    Sat BuiltinEngine (fun name => (builtin? name).isSome) (activityTemplate a) := by
  have hdefault : Sat BuiltinEngine (fun name => (builtin? name).isSome)
      (pure "partials/activity.html") := Sat.pure rfl
  unfold activityTemplate
  dsimp only
  split
  · refine Sat.bind (hasTemplate_sat _) fun found ⟨fs, hfound⟩ => ?_
    rw [Engine.hasTemplate_builtin] at hfound
    split
    · exact Sat.pure ((Except.ok.inj hfound).trans ‹_›)
    · exact hdefault
  · exact hdefault

theorem activityHtml_safe (a : Activity) : Sat BuiltinEngine SafeHtml (activityHtml a) := by
  have hest : SafeHtml (if a.est.isEmpty then "" else
      "<p class=\x27small\x27>Estimated: " ++ escapeHtml a.est ++ "</p>") :=
    .ite (.renderer (by decide)) (.between (by decide) (.escaped _) (by decide))
  unfold activityHtml
  dsimp only
  split
  · -- a worked example: escaped code, and its text as markdown
    exact render_safe rfl <| safeValues_cons (.escaped _) <| safeValues_cons hest <|
      safeValues_cons (.markdown _) <| safeValues_cons (.escaped _) <|
      safeValues_cons
        (.ite (.renderer (by decide)) (.between (by decide) (.markdown _) (by decide)))
        safeValues_nil
  · exact Sat.bind (activityTemplate_builtin a) fun _ htemplate =>
      render_safe htemplate <| safeValues_cons (.escaped _) <| safeValues_cons (.escaped _) <|
        safeValues_cons (.markdown _) <|
        safeValues_cons
          (.ite (.renderer (by decide)) (.between (by decide) (.escaped _) (by decide))) <|
        safeValues_cons hest safeValues_nil

/-! ## The click handlers -/

/-- The assessment template is text of the grammar when its values are, save the two arguments of
its check button, which are script strings. -/
theorem assessmentFill_safe {ctx : Context} {courseId key : String}
    (hid : SafeHtml (fillVar ctx "assess_id")) (hscore : SafeHtml (fillVar ctx "pass_score"))
    (hquestions : SafeHtml (fillVar ctx "questions"))
    (hcourse : fillVar ctx "course_js" = escapeScriptString courseId)
    (hkey : fillVar ctx "assess_js" = escapeScriptString key) : SafeHtml (assessmentFill ctx) := by
  have hruns := fun x (hx : x ∈ fixedRuns (Pattern.cut variableRef Builtin.assessment.toList) []) =>
    mem_templateText_of_chars builtin_assessment assessment_chars hx
  rw [assessment_variables] at hruns
  simp only [List.append_assoc, List.cons_append, fixedRuns_chars_append, fixedRuns_chars,
    fixedRuns, List.nil_append, List.forall_mem_cons, String.ofList_append,
    String.ofList_toList] at hruns
  obtain ⟨h₁, -, h₂, -, h₃, -, h₄, -, hpre, -, -, -, hpost, -⟩ := hruns
  unfold assessmentFill
  rw [hcourse, hkey]
  refine .append_handler _ _ ?_ (by decide) hpre hpost
  repeat' apply SafeHtml.append
  · exact .template h₁
  · exact hid
  · exact .template h₂
  · exact hscore
  · exact .template h₃
  · exact hscore
  · exact .template h₄
  · exact hquestions

/-- The closing slide's template is text of the grammar when the lesson's title is, and the two
arguments of its button are script strings. -/
theorem completionFill_safe {ctx : Context} {courseId lessonKey : String}
    (htitle : SafeHtml (fillVar ctx "lesson_title"))
    (hcourse : fillVar ctx "course_js" = escapeScriptString courseId)
    (hlesson : fillVar ctx "lesson_js" = escapeScriptString lessonKey) :
    SafeHtml (completionFill ctx) := by
  have hruns := fun x (hx : x ∈ fixedRuns (Pattern.cut variableRef Builtin.completion.toList) []) =>
    mem_templateText_of_chars builtin_completion completion_chars hx
  rw [completion_variables] at hruns
  simp only [List.append_assoc, List.cons_append, fixedRuns_chars_append, fixedRuns_chars,
    fixedRuns, List.nil_append, List.forall_mem_cons, String.ofList_append,
    String.ofList_toList] at hruns
  obtain ⟨h₁, -, hpre, -, -, -, hpost, -⟩ := hruns
  unfold completionFill
  rw [hcourse, hlesson]
  exact .append_handler _ _ (.append (.template h₁) htitle) (by decide) hpre hpost

theorem assessmentHtml_safe (courseId : String) (a : Assessment) (key : String) :
    Sat BuiltinEngine SafeHtml (assessmentHtml courseId a key) := by
  unfold assessmentHtml
  refine Sat.bind (questionsHtml_safe a.questions key) fun _ hquestions => ?_
  refine (render_sat _ _).mono fun _ ⟨_, hr⟩ => ?_
  rw [render_assessment, Except.ok.injEq] at hr
  rw [← hr]
  exact assessmentFill_safe (.escaped _) (.int _) hquestions rfl rfl

theorem slideBody_safe (course : Course) (l : Lesson) (s : Slide)
    (h : ∀ c, s.kind = .content c → c.format ≠ .html) :
    Sat BuiltinEngine SafeHtml (slideBody course l s) := by
  unfold slideBody
  split
  · next c hc => exact Sat.pure (contentBody_safe (h c hc))
  · exact activityHtml_safe _
  · exact assessmentHtml_safe _ _ _
  · refine (render_sat _ _).mono fun _ ⟨_, hr⟩ => ?_
    rw [render_completion, Except.ok.injEq] at hr
    rw [← hr]
    exact completionFill_safe (.escaped _) rfl rfl

theorem SlideKind.name_safe (k : SlideKind) : SafeHtml k.name := by
  cases k <;> simp only [SlideKind.name] <;> exact (.renderer (by decide))

theorem anchorAll_kinds (a : Anchors) : ∀ items : List (String × SlideKind),
    (anchorAll a items).1.map Slide.kind = items.map Prod.snd
  | [] => rfl
  | (label, k) :: rest => by
    simp only [anchorAll, List.map_cons, anchorAll_kinds _ rest]

theorem content_of_mem_slides {l : Lesson} {s : Slide} {c : Content} (hs : s ∈ l.slides)
    (hk : s.kind = .content c) : c ∈ l.content := by
  have hkind : SlideKind.content c ∈ l.slides.map Slide.kind := hk ▸ List.mem_map_of_mem hs
  unfold Lesson.slides at hkind
  rw [anchorAll_kinds] at hkind
  simp only [List.append_assoc, List.map_append, List.map_map, List.map_cons, List.map_nil,
    List.mem_append, List.mem_map, Function.comp_apply, SlideKind.content.injEq, Prod.exists,
    exists_and_right, exists_eq_right, reduceCtorEq, and_false, exists_false, List.mem_cons,
    List.not_mem_nil, or_self, or_false] at hkind
  obtain ⟨i, hi⟩ := hkind
  exact List.fst_mem_of_mem_zipIdx hi

theorem slidesHtml_safe (course : Course) (l : Lesson) (h : ∀ c ∈ l.content, c.format ≠ .html) :
    Sat BuiltinEngine (fun slides => ∀ x ∈ slides, SafeHtml x) (slidesHtml course l) := by
  unfold slidesHtml
  refine Sat.mapM_forall fun x hx => ?_
  obtain ⟨s, i⟩ := x
  have hs : s ∈ l.slides := List.fst_mem_of_mem_zipIdx hx
  refine Sat.bind (slideBody_safe course l s fun c hc => h c (content_of_mem_slides hs hc))
    fun _ hbody => ?_
  exact render_safe rfl <| safeValues_cons (SlideKind.name_safe s.kind) <|
    safeValues_cons (.escaped _) <| safeValues_cons (.nat _) <| safeValues_cons (.nat _) <|
    safeValues_cons hbody <| safeValues_cons (slideNav_safe _ _) safeValues_nil

/-! ## Pages -/

theorem moduleCard_safe (m : Module) : Sat BuiltinEngine SafeHtml (moduleCard m) := by
  unfold moduleCard
  refine Sat.bind (Sat.mapM_forall fun _ _ => render_safe rfl <| safeValues_cons (.escaped _) <|
    safeValues_cons (.escaped _) <| safeValues_cons (.escaped _) safeValues_nil) fun _ hitems => ?_
  exact render_safe rfl <| safeValues_cons (.escaped _) <|
    safeValues_cons (SafeHtml.intercalate (.renderer (by decide)) hitems) safeValues_nil

theorem indexPage_safe (c : Course) : Sat BuiltinEngine SafeHtml (indexPage c) := by
  have hobjectives : SafeHtml ("\n".intercalate (c.objectives.map fun o =>
      "<li>" ++ escapeHtml o ++ "</li>")) := by
    refine SafeHtml.intercalate (.renderer (by decide)) fun x hx => ?_
    obtain ⟨o, -, rfl⟩ := List.mem_map.1 hx
    exact .between (by decide) (.escaped _) (by decide)
  have hdetail : ∀ v, SafeHtml (orNotAvailable v) := fun _ =>
    .ite (.renderer (by decide)) (.escaped _)
  unfold indexPage
  refine Sat.bind (Sat.mapM_forall fun m _ => moduleCard_safe m) fun _ hcards => ?_
  refine Sat.bind (render_safe rfl <| safeValues_cons (.escaped _) <|
    safeValues_cons (hdetail _) <| safeValues_cons (hdetail _) safeValues_nil) fun _ hheader => ?_
  exact render_safe rfl <| safeValues_cons (.append (.escaped _) (.renderer (by decide))) <|
    safeValues_cons (.escaped _) <| safeValues_cons (.nat _) <| safeValues_cons hheader <|
    safeValues_cons (.append (.between (by decide) hobjectives (by decide))
      (SafeHtml.intercalate (.renderer (by decide)) hcards)) safeValues_nil

theorem lessonPage_safe (c : Course) (l : Lesson) (h : ∀ blk ∈ l.content, blk.format ≠ .html) :
    Sat BuiltinEngine SafeHtml (lessonPage c l) := by
  unfold lessonPage
  refine Sat.bind (slidesHtml_safe c l h) fun _ hslides => ?_
  refine Sat.bind (render_safe rfl <| safeValues_cons (.escaped _) <|
    safeValues_cons (.escaped _) <| safeValues_cons (.escaped _) safeValues_nil) fun _ hheader => ?_
  exact render_safe rfl <|
    safeValues_cons (.append (.append (.escaped _) (.renderer (by decide))) (.escaped _)) <|
    safeValues_cons (.escaped _) <| safeValues_cons (.nat _) <| safeValues_cons hheader <|
    safeValues_cons (SafeHtml.intercalate (.renderer (by decide)) hslides) safeValues_nil

/-- Author text reaches the pages of a site built with the built-in templates only escaped for
HTML, as a script string between the single quotes of a click handler's argument, or as markdown:
from any builder that renders with the built-in set alone,
whatever its files and its generator, the index page and the page of every lesson without an
HTML content block are text of the `SafeHtml` grammar. -/
theorem pages_escape_author_text (c : Course)
    (hc : ∀ l ∈ c.lessons, ∀ blk ∈ l.content, blk.format ≠ .html) :
    (∀ b page b', BuiltinEngine b → (indexPage c).run b = .ok page b' → SafeHtml page) ∧
      ∀ l ∈ c.lessons, ∀ b page b', BuiltinEngine b →
        (lessonPage c l).run b = .ok page b' → SafeHtml page :=
  ⟨fun b page b' hb hr => (indexPage_safe c b page b' hb hr).1,
    fun l hl b page b' hb hr => (lessonPage_safe c l (hc l hl) b page b' hb hr).1⟩

/-- A course whose only lesson is written in markdown meets the condition, so both of its pages
are safe. -/
theorem markdown_course_pages_safe :
    let c : Course :=
      { id := "c1", title := "<b>Intro</b>", level := "", duration := "1h",
        objectives := ["x < y"],
        modules := [
          { id := "m1", title := "Basics", order := 1,
            lessons := [
              { id := "", title := "First", duration := "", moduleTitle := "Basics",
                content := [{ format := .markdown, lang := "", value := "# <script>" }],
                activities := [], assessments := [] }] }] }
    (∀ l ∈ c.lessons, ∀ blk ∈ l.content, blk.format ≠ .html) ∧
      ((∀ b page b', BuiltinEngine b → (indexPage c).run b = .ok page b' → SafeHtml page) ∧
        ∀ l ∈ c.lessons, ∀ b page b', BuiltinEngine b →
          (lessonPage c l).run b = .ok page b' → SafeHtml page) :=
  ⟨by decide, pages_escape_author_text _ (by decide)⟩

end Courseware.Site
