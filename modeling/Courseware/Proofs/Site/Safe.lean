import Courseware.Proofs.Site.Run
import Courseware.Proofs.Template.BuiltinSet
import Courseware.Proofs.Template.Fill
import Courseware.Markdown.Block
import Courseware.Number.Double

/-!
# Pages built from fixed text and escaped author text

`SafeHtml` is the grammar of what the site's pages are built from: text fixed by the renderer
(`rendererText`) or by the built-in templates (`templateText`), author text escaped for HTML
(`Text.escapeHtml`) or rendered as markdown (`Markdown.toHtml`), and numbers, joined in any
order. Text escaped for a script string (`Text.escapeScriptString`) stands only as an argument
of a click handler that a built-in template writes, between single quotes (`handlerCall`).
Neither list of fixed texts depends on anything an author writes.

Escaped text holds none of `<`, `>`, `"` and `'` (`escapeHtml_no_markup`,
`escapeScriptString_no_markup`), so what an author writes can neither open a tag nor leave a
quoted attribute. Rendering from the built-in set keeps the grammar: a built-in template
filled with values of the grammar is text of the grammar (`Engine.render_safe`, and
`render_safe` for a step of a build).
-/

namespace Courseware.Template

open Pattern

/-- The fixed text of template text cut at its variables: each run of characters between
references, and each reference as a render writes it back when its variable has no value.
`run` is the part of the current run read so far. -/
def fixedRuns : List (Piece Reference) → List Char → List String
  | [], run => [String.ofList run]
  | .char c :: ps, run => fixedRuns ps (run ++ [c])
  | .hit r :: ps, run =>
    String.ofList run :: ("\x7b\x7b " ++ r.name ++ " \x7d\x7d") :: fixedRuns ps []

/-- The fixed text of every built-in template, with its partials included. -/
def templateText : List String :=
  builtins.flatMap fun p =>
    match Engine.builtinExpansion p.2 with
    | .ok t => fixedRuns (cut variableRef t.toList) []
    | .error _ => []

theorem mem_builtins {name text : String} (h : builtin? name = some text) :
    (name, text) ∈ builtins := by
  obtain ⟨p, hp, rfl⟩ := Option.map_eq_some_iff.1 h
  have hname : p.1 = name := by simpa using List.find?_some hp
  rw [← hname]
  exact List.mem_of_find?_eq_some hp

theorem mem_templateText {name text t x : String} (hb : builtin? name = some text)
    (ht : Engine.builtinExpansion text = .ok t) (hx : x ∈ fixedRuns (cut variableRef t.toList) []) :
    x ∈ templateText :=
  List.mem_flatMap.2 ⟨(name, text), mem_builtins hb, by simpa only [ht] using hx⟩

theorem mem_templateText_of_chars {name text x : String} (hb : builtin? name = some text)
    (hc : cut partialRef text.toList = text.toList.map .char)
    (hx : x ∈ fixedRuns (cut variableRef text.toList) []) : x ∈ templateText :=
  mem_templateText hb (Engine.builtinExpansion_of_chars hc) hx

theorem fixedRuns_chars_append (s : String) (ps : List (Piece Reference)) (run : List Char) :
    fixedRuns (chars s ++ ps) run = fixedRuns ps (run ++ s.toList) := by
  unfold chars
  induction s.toList generalizing run with
  | nil => simp
  | cons c cs ih => simp [fixedRuns, ih]

theorem fixedRuns_chars (s : String) (run : List Char) :
    fixedRuns (chars s) run = [String.ofList (run ++ s.toList)] := by
  simpa [fixedRuns] using fixedRuns_chars_append s [] run

end Courseware.Template

namespace Courseware.Site

open Template Text Pattern

/-- The texts the renderer writes of its own around the values it puts in a page. -/
def rendererText : List String := [
  "", " ", "\n", "\n  ", "<br>",
  "<label><input type=\"", "\" name=\"", "\" value=\"", "\"> ", "</label>", "radio", "checkbox",
  "true", "false",
  "<label><input type=\"radio\" name=\"", "\" value=\"true\"> True</label>\n  ",
  "\" value=\"false\"> False</label>",
  "mcq", "msq", "truefalse", "matching", "ordering", "short", "long", "code",
  "truefalse\" data-answer=\"",
  "<div class=\"solution\" hidden><pre><code class=\"language-", "\">", "</code></pre></div>",
  "<div class=\"solution\" hidden>", "</div>",
  "<option value=\"\">Choose...</option>", "<option value=\"", "</option>",
  "<div class=\"match\"><span>", "</span> <select name=\"", "__", "\" ", "data-answer=\"",
  "</select></div>",
  "<div class=\"order\"><input type=\"number\" name=\"", "\" min=\"1\" ", "max=\"",
  "\" data-correct=\"",
  "<div class=\"q\" data-type=\"", "\">\n  <div>Unsupported question type: ", "</div>\n",
  "  <pre hidden>", "</pre>\n</div>",
  "<pre>", "</pre>", "<a class=\"btn\" href=\"#", "\">Previous</a>", "\">Next</a>",
  "<p class=\x27small\x27>Estimated: ", "</p>",
  "<div class=\"takeaways\">\n    <h3>Key Takeaways</h3>\n    ", "\n  </div>",
  "<p><strong>Expected:</strong> ", "Activity",
  "content", "activity", "assessment", "completion",
  "n/a", "<li>", "</li>", "<div class=\"card\">\n  <h2>Objectives</h2>\n  <ul>",
  "</ul>\n</div>\n", " — Course", " — "]

/-- How the click handlers of the built-in templates open: the function of the page's scripts
they call, and the quote of its first argument. -/
def handlerOpeners : List String := ["onclick=\"checkQuiz('", "onclick=\"markLessonComplete('"]

/-- A click handler that calls a function of the page's scripts with `a` and `b`, each escaped
for a script string and put between single quotes. -/
def handlerCall (opener a b : String) : String :=
  opener ++ escapeScriptString a ++ "','" ++ escapeScriptString b ++ "')\""

/-- Text a page may be built from. -/
inductive SafeHtml : String → Prop
  /-- Text the renderer writes of its own. -/
  | renderer {t : String} : t ∈ rendererText → SafeHtml t
  /-- Fixed text of a built-in template. -/
  | template {t : String} : t ∈ templateText → SafeHtml t
  /-- Text escaped for HTML. -/
  | escaped (s : String) : SafeHtml (escapeHtml s)
  /-- A click handler of a built-in template, with the template's text around it: `pre` and
  the handler's opener end one fixed run of the template, and the close of the handler starts
  another. -/
  | handler {pre opener post : String} (a b : String) : opener ∈ handlerOpeners →
      pre ++ opener ∈ templateText → "')\"" ++ post ∈ templateText →
      SafeHtml (pre ++ handlerCall opener a b ++ post)
  /-- Markdown rendered by the site's markdown renderer. -/
  | markdown (s : String) : SafeHtml (Markdown.toHtml s)
  | nat (n : Nat) : SafeHtml (toString n)
  | int (n : Int) : SafeHtml (toString n)
  | decimal (x : Float) : SafeHtml (Double.display x)
  | append {a b : String} : SafeHtml a → SafeHtml b → SafeHtml (a ++ b)

namespace SafeHtml

theorem empty : SafeHtml "" := renderer (by decide)

theorem between {pre post x : String} (hpre : pre ∈ rendererText) (hx : SafeHtml x)
    (hpost : post ∈ rendererText) : SafeHtml (pre ++ x ++ post) :=
  append (append (renderer hpre) hx) (renderer hpost)

theorem append_handler {x pre opener post : String} (a b : String) (hx : SafeHtml x)
    (hopener : opener ∈ handlerOpeners) (hpre : pre ++ opener ∈ templateText)
    (hpost : "')\"" ++ post ∈ templateText) :
    SafeHtml (x ++ pre ++ opener ++ escapeScriptString a ++ "','" ++ escapeScriptString b ++
      "')\"" ++ post) := by
  have h := append hx (handler a b hopener hpre hpost)
  simp only [handlerCall, String.append_assoc] at h ⊢
  exact h

theorem ite {c : Prop} [Decidable c] {a b : String} (ha : SafeHtml a) (hb : SafeHtml b) :
    SafeHtml (if c then a else b) := by
  split
  · exact ha
  · exact hb

theorem join : ∀ {xs : List String}, (∀ x ∈ xs, SafeHtml x) → SafeHtml (String.join xs)
  | [], _ => empty
  | x :: xs, h => by
    rw [String.join_cons]
    exact append (h x List.mem_cons_self) (join fun y hy => h y (List.mem_cons_of_mem _ hy))

theorem intercalate {sep : String} (hsep : SafeHtml sep) :
    ∀ {xs : List String}, (∀ x ∈ xs, SafeHtml x) → SafeHtml (sep.intercalate xs)
  | [], _ => empty
  | [x], h => by
    rw [String.intercalate_singleton]
    exact h x List.mem_cons_self
  | x :: y :: xs, h => by
    rw [String.intercalate_cons_cons]
    exact append (append (h x List.mem_cons_self) hsep)
      (intercalate hsep fun z hz => h z (List.mem_cons_of_mem _ hz))

end SafeHtml

/-! ## Escaped text holds no markup -/

def markupChars : List Char := ['<', '>', '"', '\'']

theorem no_markup_of_all {l : List Char} (h : (l.all fun d => !markupChars.contains d) = true) :
    ∀ d ∈ l, d ∉ markupChars := by
  simpa using h

theorem htmlReference_none {c : Char} (h : htmlReference c = none) : c ∉ markupChars := by
  obtain ⟨-, hlt, hgt, hquot, hapos⟩ := htmlReference_eq_none_iff.1 h
  simp [markupChars, hlt, hgt, hquot, hapos]

theorem htmlReference_no_markup {c : Char} {r : String} (h : htmlReference c = some r) :
    ∀ d ∈ r.toList, d ∉ markupChars := by
  rcases htmlReference_eq_some h with ⟨-, rfl⟩ | ⟨-, rfl⟩ | ⟨-, rfl⟩ | ⟨-, rfl⟩ | ⟨-, rfl⟩ <;>
    exact no_markup_of_all (by decide)

theorem escapeHtmlChar_no_markup (c : Char) : ∀ d ∈ escapeHtmlChar c, d ∉ markupChars := by
  rcases h : htmlReference c with _ | r
  · -- a character without a reference is kept as it is
    intro d hd
    rw [escapeHtmlChar_of_none h, List.mem_singleton] at hd
    rw [hd]
    exact htmlReference_none h
  · rw [escapeHtmlChar_of_some h]
    exact htmlReference_no_markup h

/-- HTML-escaped text holds none of `<`, `>`, `"` and `'`. -/
theorem escapeHtml_no_markup (s : String) : ∀ c ∈ (escapeHtml s).toList, c ∉ markupChars := by
  intro c hc
  simp only [escapeHtml, String.toList_ofList, List.mem_flatMap] at hc
  obtain ⟨a, -, hc⟩ := hc
  exact escapeHtmlChar_no_markup a c hc

theorem hex4_no_markup (n : Nat) : ∀ c ∈ hex4 n, c ∉ markupChars := by
  have hdigits : ∀ d ∈ "0123456789abcdef".toList, d ∉ markupChars := no_markup_of_all (by decide)
  have hdigit : ∀ k, "0123456789abcdef".toList.getD k '0' ∉ markupChars := by
    intro k
    rw [List.getD_eq_getElem?_getD]
    rcases h : "0123456789abcdef".toList[k]? with _ | d
    · decide
    · exact hdigits d (List.mem_of_getElem? h)
  simp only [hex4, List.mem_cons, List.not_mem_nil, or_false]
  rintro c (rfl | rfl | rfl | rfl) <;> exact hdigit _

theorem escapeScriptChar_no_markup (c : Char) : ∀ d ∈ escapeScriptChar c, d ∉ markupChars := by
  intro d hd
  unfold escapeScriptChar at hd
  split at hd
  · -- a kept character is a letter, a digit, `_`, `-` or `.`
    rename_i hkept
    rw [List.mem_singleton] at hd
    subst hd
    simp only [keptInScript, Bool.or_eq_true, Bool.and_eq_true, beq_iff_eq] at hkept
    simp only [markupChars, List.mem_cons, List.not_mem_nil, or_false]
    rcases hkept with ((⟨-, halnum⟩ | rfl) | rfl) | rfl
    · rintro (rfl | rfl | rfl | rfl) <;> exact absurd halnum (by decide)
    all_goals decide
  · simp only [List.mem_flatMap, List.mem_cons] at hd
    obtain ⟨u, -, rfl | rfl | hd⟩ := hd
    · decide
    · decide
    · exact hex4_no_markup u d hd

/-- Text escaped for a script string holds none of `<`, `>`, `"` and `'`. -/
theorem escapeScriptString_no_markup (s : String) :
    ∀ c ∈ (escapeScriptString s).toList, c ∉ markupChars := by
  intro c hc
  simp only [escapeScriptString, String.toList_ofList, List.mem_flatMap] at hc
  obtain ⟨a, -, hc⟩ := hc
  exact escapeScriptChar_no_markup a c hc

/-! ## Filling templates keeps the grammar -/

theorem fillVar_safe {ctx : Context} (hctx : ∀ p ∈ ctx, SafeHtml p.2) {name : String}
    (href : SafeHtml ("\x7b\x7b " ++ name ++ " \x7d\x7d")) : SafeHtml (fillVar ctx name) := by
  unfold fillVar
  split
  · rename_i value h
    exact hctx (name, value) (Engine.lookup_sound h)
  · exact href

/-- Pieces whose fixed runs are in the grammar, joined with values of the grammar, give text of
the grammar. -/
theorem joinPieces_safe {ctx : Context} (hctx : ∀ p ∈ ctx, SafeHtml p.2) :
    ∀ (ps : List (Piece Reference)) (run : List Char), (∀ t ∈ fixedRuns ps run, SafeHtml t) →
      SafeHtml (String.ofList (run ++ joinPieces (fun r => (fillVar ctx r.name).toList) ps))
  | [], run, h => by
    rw [joinPieces, List.append_nil]
    exact h _ (by simp [fixedRuns])
  | .char c :: ps, run, h => by
    rw [joinPieces, ← List.singleton_append, ← List.append_assoc]
    exact joinPieces_safe hctx ps (run ++ [c]) fun t ht => h t (by simpa [fixedRuns] using ht)
  | .hit r :: ps, run, h => by
    have hrest := joinPieces_safe hctx ps [] fun t ht => h t (by simp [fixedRuns, ht])
    rw [List.nil_append] at hrest
    rw [joinPieces, String.ofList_append, String.ofList_append, String.ofList_toList]
    exact .append (h _ (by simp [fixedRuns]))
      (.append (fillVar_safe hctx (h _ (by simp [fixedRuns]))) hrest)

theorem substitute_safe {ctx : Context} (hctx : ∀ p ∈ ctx, SafeHtml p.2) {t : String}
    (ht : ∀ x ∈ fixedRuns (cut variableRef t.toList) [], SafeHtml x) :
    SafeHtml (String.ofList (substitute ctx t.toList)) := by
  rw [substitute_eq_joinPieces]
  simpa using joinPieces_safe hctx _ [] ht

/-- From the built-in set alone, a built-in template filled with values of the grammar renders
as text of the grammar. -/
theorem Engine.render_safe {fs : FileStore} {name : String} {ctx : Context} {out : String}
    (hb : (builtin? name).isSome) (hctx : ∀ p ∈ ctx, SafeHtml p.2)
    (hr : outcome ((Engine.render fs name ctx).run { dir := none }) = .ok out) : SafeHtml out := by
  obtain ⟨text, htext⟩ := Option.isSome_iff_exists.1 hb
  rw [Engine.render_builtin fs htext] at hr
  rcases hx : Engine.builtinExpansion text with x | t <;> rw [hx] at hr <;> cases hr
  exact substitute_safe hctx fun x hx' => .template (mem_templateText htext hx hx')

theorem safeValues_nil : ∀ p ∈ ([] : Context), SafeHtml p.2 := by simp

theorem safeValues_cons {key value : String} {ctx : Context} (hv : SafeHtml value)
    (h : ∀ p ∈ ctx, SafeHtml p.2) : ∀ p ∈ (key, value) :: ctx, SafeHtml p.2 :=
  List.forall_mem_cons.2 ⟨hv, h⟩

/-- A step of a build that renders a built-in template with values of the grammar returns text
of the grammar. -/
theorem render_safe {name : String} {ctx : Context} (hb : (builtin? name).isSome)
    (hctx : ∀ p ∈ ctx, SafeHtml p.2) : Sat BuiltinEngine SafeHtml (render name ctx) :=
  (render_sat name ctx).mono fun _ ⟨_, hr⟩ => Engine.render_safe hb hctx hr

end Courseware.Site
