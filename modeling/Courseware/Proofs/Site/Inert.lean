import Courseware.Proofs.Site.Ops
import Courseware.Proofs.Template.Fill
import Courseware.Proofs.Text.Stem

/-!
# Template syntax in course data is inert

The renderer hands its engine only names it makes itself: a `FixedTemplate`, or the template
of an activity kind, which is the activity's type trimmed and lowered, and is used only when
it is a word of ASCII lower-case letters, digits, `_` and `-` (`isLowerWord`). So a build
depends on its template operations only at those names (`allowedName`): operations that agree
there run alike at every call of the renderer, whatever the course, the files, the engine and
the generator (`AgreeOnAllowed.simulates`).

Everything else a page takes from the course reaches the engine as a context value. The
engine reads the context only at the very end of a render (`Engine.render_eq_prepare`): it
loads the template and includes its partials first, and then puts each variable's value in
place of its references, cut from the template text alone (`substitute_eq_joinPieces`), so a
value is written as it is and never read for references of its own.
-/

namespace Courseware.Template.Engine

/-- What rendering `name` computes before it reads the context: the template's text with its
partials included, or nothing when no template of that name is found. -/
def prepare (fs : FileStore) (name : String) : TemplateM (Option String) := do
  match ← loadTemplate fs name with
  | some text => some <$> expand fs [] maxPartialDepth text.toList
  | none => pure none

/-- A prepared template with the context's values in place, or the comment for a template
that is not found. -/
def finish (name : String) (ctx : Context) : Option String → String
  | some expanded => String.ofList (substitute ctx expanded.toList)
  | none => s!"<!-- Template '{name}' not found -->"

/-- A render reads its context only at its end: what it loads, includes, caches and fails on
does not depend on the context. -/
theorem render_eq_prepare (fs : FileStore) (name : String) (ctx : Context) :
    render fs name ctx = finish name ctx <$> prepare fs name := by
  simp only [render, prepare, renderString, map_bind]
  congr 1
  funext loaded
  cases loaded <;> simp [finish]

end Courseware.Template.Engine

namespace Courseware.Site

open Template Pattern

/-- A word of ASCII lower-case letters, digits, `_` and `-`. -/
def isLowerWord (kind : String) : Bool :=
  !kind.isEmpty && kind.all fun c => c.isLower || c.isDigit || c == '_' || c == '-'

/-- The activity kind the renderer probes for is a lower-case word: the kind is a template word
and lower case has no ASCII capital. -/
theorem isLowerWord_normalizedType (a : Activity) (h : isTemplateWord a.normalizedType = true) :
    isLowerWord a.normalizedType = true := by
  have hlower := Case.lowercase_not_upper (Text.trim a.type)
  simp only [isTemplateWord, Bool.and_eq_true, String.all_bool_eq, List.all_eq_true] at h
  simp only [isLowerWord, Bool.and_eq_true, String.all_bool_eq, List.all_eq_true]
  refine ⟨h.1, fun c hc => ?_⟩
  have hupper : c.isUpper = false := hlower c hc
  have hc := h.2 c hc
  have halnum : c.isAlphanum = (c.isUpper || c.isLower || c.isDigit) := rfl
  rw [halnum, hupper, Bool.false_or] at hc
  simp only [Bool.or_eq_true, Bool.and_eq_true] at hc ⊢
  rcases hc with ((⟨-, hl | hd⟩ | hu) | hm)
  · exact .inl (.inl (.inl hl))
  · exact .inl (.inl (.inr hd))
  · exact .inl (.inr hu)
  · exact .inr hm

/-- The names the renderer may hand to its engine: a fixed template, or the template of a
lower-case word. -/
def allowedName (name : String) : Bool :=
  FixedTemplate.all.any (·.name == name) ||
    let rest := name.toList.drop "partials/activity_".length
    let kind := String.ofList (rest.take (rest.length - ".html".length))
    isLowerWord kind && name == activityName kind

theorem allowedName_fixed (t : FixedTemplate) : allowedName t.name = true := by
  simp only [allowedName, Bool.or_eq_true, List.any_eq_true, beq_iff_eq]
  exact .inl ⟨t, FixedTemplate.mem_all t, rfl⟩

theorem allowedName_activityName {kind : String} (h : isLowerWord kind = true) :
    allowedName (activityName kind) = true := by
  have hkind : (activityName kind).toList.drop "partials/activity_".length =
      kind.toList ++ ".html".toList := by
    rw [activityName_eq, String.toList_append, String.toList_append, List.append_assoc]
    exact List.drop_left' rfl
  have htake : (kind.toList ++ ".html".toList).take
      ((kind.toList ++ ".html".toList).length - ".html".length) = kind.toList := by
    have hsuffix : ".html".toList.length = ".html".length := rfl
    exact List.take_left' (by rw [List.length_append, hsuffix, Nat.add_sub_cancel])
  simp only [allowedName, hkind, htake, String.ofList_toList, h, beq_self_eq_true,
    Bool.and_self, Bool.or_true]

/-- Two sets of template operations that agree on every name the renderer may use. -/
def AgreeOnAllowed (T₁ T₂ : TemplateOps) : Prop :=
  ∀ name, allowedName name = true →
    T₁.render name = T₂.render name ∧ T₁.hasTemplate name = T₂.hasTemplate name

/-- Operations that agree on the names the renderer may use run alike at every call of the
renderer, from every builder. -/
theorem AgreeOnAllowed.simulates {T₁ T₂ : TemplateOps} (h : AgreeOnAllowed T₁ T₂) :
    Simulation (fun _ => True) (fun _ => True) T₁ T₂ where
  render t ctx _ := by
    rw [(h _ (allowedName_fixed t)).1]
    exact Agree.refl_true _
  probe a hword := by
    have hallowed := allowedName_activityName (isLowerWord_normalizedType a hword)
    rw [(h _ hallowed).2]
    refine (Agree.refl_true _).mono fun _ _ _ ctx _ => ?_
    rw [(h _ hallowed).1]
    exact Agree.refl_true _
  shuffle _ _ _ := ⟨_, _, rfl, trivial, trivial⟩
  files _ _ _ := trivial
  io _ _ := trivial

/-- Template syntax in course data is inert. A build depends on its engine only at the names the
renderer makes: any operations that agree with the engine there give the same build, from
every builder. A render reads its context only once it has loaded its template and included
its partials. It then puts each value, as it is, in place of each reference to its key, and it
cuts only the template text for references. -/
theorem course_template_syntax_inert (c : Course) (dir : String) :
    (∀ T : TemplateOps, AgreeOnAllowed T TemplateOps.engine →
      ∀ b, (T.renderTo c dir).run b = (renderTo c dir).run b) ∧
    (∀ fs name ctx,
      Engine.render fs name ctx = Engine.finish name ctx <$> Engine.prepare fs name) ∧
    ∀ ctx text, substitute ctx text =
      joinPieces (fun r => (fillVar ctx r.name).toList) (cut variableRef text) := by
  refine ⟨fun T hT b => ?_, Engine.render_eq_prepare, substitute_eq_joinPieces⟩
  rw [← TemplateOps.engine_renderTo]
  exact (hT.simulates.renderTo c dir b trivial).1

end Courseware.Site
