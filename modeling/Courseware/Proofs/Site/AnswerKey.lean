import Courseware.Proofs.Site.Escaping

/-!
# Questions carry their answer keys

The page grades a quiz by reading its widgets: the values of choice inputs, the answer on a
true/false widget, the `data-answer` of each matching row and the `data-correct` of each
ordering input. From the built-in templates, whatever the generator draws, the `N`-th question
of an assessment keyed `key` renders as the question template filled with the escaped type
name, with controls named from the escaped `key__qN`, and carrying exactly its parsed answer
(`Rendered`, `questionsHtml_answer_keys`):

* choice questions get one input per choice in order, valued `true` exactly for the correct
  ones;
* a true/false widget carries its escaped answer on its own element;
* a matching question gets one row per pair in order, each with its escaped right-hand value
  as answer and the same options: a blank one, then the distinct right-hand values in a drawn
  order, each once;
* an ordering question gets one input per item in a drawn order of the places, the input of
  place `k` numbered `k` and showing the `k`-th item.

Every render of a built-in template succeeds, so so does every question (`Succeeds`).
-/

namespace Courseware

namespace Text

theorem escapeHtmlChar_cases (c : Char) :
    (escapeHtmlChar c = [c] ∧ c ≠ '&') ∨
      (c = '&' ∧ escapeHtmlChar c = "&amp;".toList) ∨
      (c = '<' ∧ escapeHtmlChar c = "&lt;".toList) ∨
      (c = '>' ∧ escapeHtmlChar c = "&gt;".toList) ∨
      (c = '"' ∧ escapeHtmlChar c = "&quot;".toList) ∨
      (c = '\'' ∧ escapeHtmlChar c = "&#x27;".toList) := by
  by_cases h1 : c = '&'
  · exact .inr (.inl ⟨h1, by subst h1; rfl⟩)
  by_cases h2 : c = '<'
  · exact .inr (.inr (.inl ⟨h2, by subst h2; rfl⟩))
  by_cases h3 : c = '>'
  · exact .inr (.inr (.inr (.inl ⟨h3, by subst h3; rfl⟩)))
  by_cases h4 : c = '"'
  · exact .inr (.inr (.inr (.inr (.inl ⟨h4, by subst h4; rfl⟩))))
  by_cases h5 : c = '\''
  · exact .inr (.inr (.inr (.inr (.inr ⟨h5, by subst h5; rfl⟩))))
  exact .inl ⟨escapeHtmlChar_of_none (htmlReference_eq_none_iff.2 ⟨h1, h2, h3, h4, h5⟩), h1⟩

theorem escapeHtmlChar_ne_nil (c : Char) : escapeHtmlChar c ≠ [] := by
  rcases escapeHtmlChar_cases c with ⟨h, -⟩ | ⟨-, h⟩ | ⟨-, h⟩ | ⟨-, h⟩ | ⟨-, h⟩ | ⟨-, h⟩ <;>
    rw [h] <;> simp

/-- The escapes form a prefix code: the first escape of a text fixes its character. A plain
character stands for itself, and the second character of a reference tells the five apart. -/
theorem escapeHtmlChar_append_inj {c d : Char} {xs ys : List Char}
    (h : escapeHtmlChar c ++ xs = escapeHtmlChar d ++ ys) : c = d ∧ xs = ys := by
  have hcd : c = d := by
    rcases escapeHtmlChar_cases c with ⟨hc, hc'⟩ | ⟨rfl, hc⟩ | ⟨rfl, hc⟩ | ⟨rfl, hc⟩ | ⟨rfl, hc⟩ |
        ⟨rfl, hc⟩ <;>
      rcases escapeHtmlChar_cases d with ⟨hd, hd'⟩ | ⟨rfl, hd⟩ | ⟨rfl, hd⟩ | ⟨rfl, hd⟩ |
          ⟨rfl, hd⟩ | ⟨rfl, hd⟩ <;>
      simp only [hc, hd, List.cons_append, List.nil_append, List.cons.injEq] at h <;> grind
  subst hcd
  exact ⟨rfl, List.append_cancel_left h⟩

theorem flatMap_escapeHtmlChar_inj :
    ∀ {xs ys : List Char}, xs.flatMap escapeHtmlChar = ys.flatMap escapeHtmlChar → xs = ys
  | [], [], _ => rfl
  | [], d :: _, h => absurd (List.append_eq_nil_iff.1 h.symm).1 (escapeHtmlChar_ne_nil d)
  | c :: _, [], h => absurd (List.append_eq_nil_iff.1 h).1 (escapeHtmlChar_ne_nil c)
  | c :: cs, d :: ds, h => by
    rw [List.flatMap_cons, List.flatMap_cons] at h
    obtain ⟨rfl, hrest⟩ := escapeHtmlChar_append_inj h
    rw [flatMap_escapeHtmlChar_inj hrest]

theorem escapeHtml_injective : Function.Injective escapeHtml := by
  intro s t h
  have hchars := congrArg String.toList h
  simp only [escapeHtml, String.toList_ofList] at hchars
  exact String.toList_injective (flatMap_escapeHtmlChar_inj hchars)

end Text

theorem nodup_eraseDups {α : Type} [BEq α] [LawfulBEq α] : ∀ l : List α, l.eraseDups.Nodup
  | [] => List.nodup_nil
  | a :: as => by
    rw [List.eraseDups_cons]
    refine List.nodup_cons.2 ⟨fun h => ?_, nodup_eraseDups _⟩
    simp [List.mem_eraseDups, List.mem_filter] at h
termination_by l => l.length
decreasing_by exact Nat.lt_succ_of_le (List.length_filter_le _ _)

namespace Site

open Template Text

/-! ## The widgets -/

/-- The question template filled: the widget's type and points, its number, the escaped stem
and the inputs. -/
def widget (type points : String) (number : Nat) (stem inputs : String) : String :=
  "<div class=\"q\" data-type=\"" ++ type ++ "\" data-points=\"" ++ points ++
    "\">\n  <div><strong>Q" ++ toString number ++ ".</strong> " ++ escapeHtml stem ++
    "</div>\n  " ++ inputs ++ "\n</div>"

/-- The open question template filled: type, points, number, the escaped prompt, a text box
named `name` with the answer's rows, language and starter code, and the hidden solution. -/
def openWidget (type points : String) (number : Nat) (name : String) (a : OpenAnswer) : String :=
  "<div class=\"q\" data-type=\"" ++ type ++ "\" data-points=\"" ++ points ++
    "\">\n  <div><strong>Q" ++ toString number ++ ".</strong> " ++ escapeHtml a.prompt ++
    "</div>\n  <textarea name=\"" ++ name ++ "\" rows=\"" ++ toString a.rows ++ "\" data-lang=\"" ++
    escapeHtml a.lang ++ "\">" ++ escapeHtml a.starter ++ "</textarea>\n  " ++ a.solutionHtml ++
    "\n</div>"

def optionList (options : List String) : String :=
  String.join ("<option value=\"\">Choose...</option>" :: options.map fun o =>
    "<option value=\"" ++ escapeHtml o ++ "\">" ++ escapeHtml o ++ "</option>")

/-- The row of the `i`-th pair (from 0) of a matching question named `name`, offering
`options`. -/
def matchRow (name options : String) (i : Nat) (p : MatchPair) : String :=
  "<div class=\"match\"><span>" ++ escapeHtml p.left ++ "</span> <select name=\"" ++ name ++ "__" ++
    toString (i + 1) ++ "\" " ++ ("data-answer=\"" ++ escapeHtml p.right ++ "\">" ++ options ++
      "</select></div>")

/-- The input of the item at place `pos` (from 0) of an ordering question named `name`. -/
def orderRow (name : String) (items : List String) (pos : Nat) : String :=
  "<div class=\"order\"><input type=\"number\" name=\"" ++ name ++ "__" ++ toString (pos + 1) ++
    "\" min=\"1\" " ++ ("max=\"" ++ toString items.length ++ "\" data-correct=\"" ++
      toString (pos + 1) ++ "\"> " ++ escapeHtml (items.getD pos "") ++ "</div>")

/-- The widget of the `i`-th question (from 0) of an assessment keyed `key`, whatever the
generator drew. Its type is the escaped type name and its controls are named from the escaped
`key__qN`, `N = i + 1`. -/
def Rendered (key : String) (q : Question) (i : Nat) (html : String) : Prop :=
  let name := escapeHtml (key ++ "__q" ++ toString (i + 1))
  let type := escapeHtml q.kind.typeName
  let points := Double.display q.points
  match q.kind with
  | .mcq stem choices => html = widget type points (i + 1) stem (choiceInputs "radio" name choices)
  | .msq stem choices =>
    html = widget type points (i + 1) stem (choiceInputs "checkbox" name choices)
  | .trueFalse statement answer =>
    html = widget (type ++ "\" data-answer=\"" ++ escapeHtml answer) points (i + 1) statement
      (trueFalseInputs name)
  | .short prompt solution =>
    html = openWidget type points (i + 1) name { type := "short", rows := 4, prompt, solution }
  | .long prompt solution =>
    html = openWidget type points (i + 1) name { type := "long", rows := 8, prompt, solution }
  | .code prompt lang starter _ solution =>
    html = openWidget type points (i + 1) name
      { type := "code", rows := 10, prompt, lang, starter, solution }
  | .matching prompt pairs =>
    ∃ options : List String, options.Perm (pairs.map (·.right)).eraseDups ∧ options.Nodup ∧
      (∀ p ∈ pairs, p.right ∈ options) ∧ (options.map escapeHtml).Nodup ∧
      html = widget type points (i + 1)
        (orInstruction prompt "Match each item on the left with its partner.")
        ("\n  ".intercalate (pairs.zipIdx.map fun x => matchRow name (optionList options) x.2 x.1))
  | .ordering prompt items =>
    ∃ positions : List Nat, positions.Perm (List.range items.length) ∧
      (positions.map (· + 1)).Perm (List.range' 1 items.length) ∧
      html = widget type points (i + 1)
        (orInstruction prompt "Number these items in the correct order.")
        ("\n  ".intercalate (positions.map (orderRow name items)))
  | .unsupported _ raw =>
    html = "<div class=\"q\" data-type=\"" ++ type ++ "\">\n  <div>Unsupported question type: " ++
      type ++ "</div>\n" ++ ("  <pre hidden>" ++ escapeHtml raw ++ "</pre>\n</div>")

/-! ## Every step succeeds -/

theorem stemmed_succeeds (type : String) (number : Nat) (points stem inputs : String) :
    Succeeds BuiltinEngine (· = widget type points number stem inputs)
      (stemmed type number points stem inputs) :=
  withEngine_succeeds (fun fs => Engine.render_cacheBlind fs _ _) fun fs =>
    ⟨_, render_question fs _, rfl⟩

theorem openQuestion_succeeds (a : OpenAnswer) (number : Nat) (points name : String) :
    Succeeds BuiltinEngine (· = openWidget a.type points number name a)
      (openQuestion a number points name) :=
  withEngine_succeeds (fun fs => Engine.render_cacheBlind fs _ _) fun fs =>
    ⟨_, render_questionOpen fs _, rfl⟩

theorem matchingRows_succeeds (pairs : List MatchPair) (name : String) :
    Succeeds BuiltinEngine (fun rows => ∃ options : List String,
        options.Perm (pairs.map (·.right)).eraseDups ∧
        rows = "\n  ".intercalate (pairs.zipIdx.map fun x => matchRow name (optionList options) x.2 x.1))
      (matchingRows pairs name) := by
  unfold matchingRows
  exact Succeeds.bind (shuffled_succeeds _) fun options hperm =>
    Succeeds.pure ⟨options, hperm, rfl⟩

theorem orderingRows_succeeds (items : List String) (name : String) :
    Succeeds BuiltinEngine (fun rows => ∃ positions : List Nat,
        positions.Perm (List.range items.length) ∧
        rows = "\n  ".intercalate (positions.map (orderRow name items)))
      (orderingRows items name) := by
  unfold orderingRows
  exact Succeeds.bind (shuffled_succeeds _) fun positions hperm =>
    Succeeds.pure ⟨positions, hperm, rfl⟩

/-- Options drawn from the distinct values are distinct, offer every value, and stay distinct
when escaped. -/
theorem drawn_options {xs options : List String} (h : options.Perm xs.eraseDups) :
    options.Nodup ∧ (∀ x ∈ xs, x ∈ options) ∧ (options.map escapeHtml).Nodup := by
  have hnodup : options.Nodup := h.nodup_iff.2 (nodup_eraseDups xs)
  exact ⟨hnodup, fun x hx => h.mem_iff.2 (List.mem_eraseDups.2 hx),
    List.Pairwise.map escapeHtml (fun _ _ hne heq => hne (escapeHtml_injective heq)) hnodup⟩

theorem drawn_places {n : Nat} {positions : List Nat} (h : positions.Perm (List.range n)) :
    (positions.map (· + 1)).Perm (List.range' 1 n) := by
  have hnumbers : (List.range n).map (· + 1) = List.range' 1 n := by
    rw [List.range'_eq_map_range]
    exact List.map_congr_left fun k _ => Nat.add_comm k 1
  exact hnumbers ▸ h.map (· + 1)

theorem questionHtml_rendered (q : Question) (i : Nat) (key : String) :
    Succeeds BuiltinEngine (Rendered key q i)
      (questionHtml q (i + 1) (key ++ "__q" ++ toString (i + 1))) := by
  obtain ⟨points, kind⟩ := q
  unfold questionHtml Rendered
  cases kind with
  | mcq stem choices =>
    dsimp only [QuestionKind.typeName]
    rw [show escapeHtml "mcq" = "mcq" by decide]
    exact stemmed_succeeds _ _ _ _ _
  | msq stem choices =>
    dsimp only [QuestionKind.typeName]
    rw [show escapeHtml "msq" = "msq" by decide]
    exact stemmed_succeeds _ _ _ _ _
  | trueFalse statement answer =>
    dsimp only [QuestionKind.typeName]
    rw [show escapeHtml "truefalse" ++ "\" data-answer=\"" = "truefalse\" data-answer=\"" by decide]
    refine Succeeds.bind (stemmed_succeeds _ _ _ _ _) fun html h => Succeeds.pure ?_
    subst h
    exact replaceFirst_questionFill [("q_type", "truefalse"), ("q_index", toString (i + 1)),
      ("points", Double.display points), ("stem", escapeHtml statement),
      ("choices", trueFalseInputs (escapeHtml (key ++ "__q" ++ toString (i + 1))))] rfl
      (escapeHtml answer)
  | short prompt solution =>
    dsimp only [QuestionKind.typeName]
    rw [show escapeHtml "short" = "short" by decide]
    exact openQuestion_succeeds { type := "short", rows := 4, prompt, solution } _ _ _
  | long prompt solution =>
    dsimp only [QuestionKind.typeName]
    rw [show escapeHtml "long" = "long" by decide]
    exact openQuestion_succeeds { type := "long", rows := 8, prompt, solution } _ _ _
  | code prompt lang starter tests solution =>
    dsimp only [QuestionKind.typeName]
    rw [show escapeHtml "code" = "code" by decide]
    exact openQuestion_succeeds { type := "code", rows := 10, prompt, lang, starter, solution } _ _ _
  | matching prompt pairs =>
    dsimp only [QuestionKind.typeName]
    rw [show escapeHtml "matching" = "matching" by decide]
    refine Succeeds.bind (matchingRows_succeeds _ _) fun rows ⟨options, hperm, hrows⟩ =>
      (stemmed_succeeds _ _ _ _ _).mono fun html h => ?_
    obtain ⟨hnodup, hmem, hescaped⟩ := drawn_options hperm
    exact ⟨options, hperm, hnodup, fun p hp => hmem _ (List.mem_map_of_mem hp), hescaped,
      h.trans (by rw [hrows])⟩
  | ordering prompt items =>
    dsimp only [QuestionKind.typeName]
    rw [show escapeHtml "ordering" = "ordering" by decide]
    refine Succeeds.bind (orderingRows_succeeds _ _) fun rows ⟨positions, hperm, hrows⟩ =>
      (stemmed_succeeds _ _ _ _ _).mono fun html h => ?_
    exact ⟨positions, hperm, drawn_places hperm, h.trans (by rw [hrows])⟩
  | unsupported typeName raw =>
    exact Succeeds.pure rfl

/-- The widgets of an assessment's questions are rendered one per question, in order, each
carrying its question's answer key. -/
theorem questionsHtml_answer_keys (questions : List Question) (key : String) :
    Succeeds BuiltinEngine (fun html => ∃ parts, html = String.join parts ∧
        List.Forall₂ (fun (x : Question × Nat) part => Rendered key x.1 x.2 part)
          questions.zipIdx parts)
      (questionsHtml questions key) := by
  unfold questionsHtml
  refine Succeeds.bind (Succeeds.mapM fun x _ => ?_) fun parts hparts =>
    Succeeds.pure ⟨parts, rfl, hparts⟩
  obtain ⟨q, i⟩ := x
  exact questionHtml_rendered q i key

end Site

end Courseware
