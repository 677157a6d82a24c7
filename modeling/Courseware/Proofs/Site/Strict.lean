import Courseware.Proofs.Site.Ops
import Courseware.Proofs.Template.Served

/-!
# The built-in templates fit the renderer

Every template the renderer renders by a fixed name is built in, includes its partials without
a cycle, and refers to no variable the renderer leaves unbound; no text of it outside its
references opens a reference or a comment (`servesBuiltin_fixed`). No activity kind names a
built-in template of its own (`builtin_activityName`), so the built-in set always falls back on
`partials/activity.html`.

The strict operations `TemplateOps.strict` render only the calls the built-in set serves in
full and refuse every other with a template error. From a builder on the built-in set alone
they run as the site's engine does at every call of the renderer (`strict_simulates`): a build
with the built-in templates runs as the strict one does, and fails only to write, never to
render (`builtin_build_renders_in_full`).
-/

namespace Courseware.Site

open Template Pattern

set_option maxRecDepth 20000 in
/-- Every fixed template is served by the built-in set with the variables the renderer binds
for it. -/
theorem servesBuiltin_fixed (t : FixedTemplate) : servesBuiltin t.name t.keys = true := by
  cases t
  case base =>
    obtain ⟨h₁, h₂, h₃, h₄⟩ := frame_partials_found
    rw [FixedTemplate.name, servesBuiltin_base, fills, String.toList_ofList, base_partials]
    simp only [joinPieces_append, joinPieces, joinPieces_chars_end, partialText_eq h₁,
      partialText_eq h₂, partialText_eq h₃, partialText_eq h₄, Builtin.styles, Builtin.header,
      Builtin.footer, Builtin.scripts, String.toList_intercalate, List.map_cons, List.map_nil]
    repeat rw [String.toList_ofList]
    rw [cut_eq_cutBounded _ _ _ (Nat.le_refl _)]
    decide +kernel
  all_goals
    rw [servesBuiltin_of_chars _ rfl (List.isEmpty_iff.1 ?_)]
    all_goals
      simp only [fills, Builtin.question, Builtin.questionOpen, Builtin.workedExample,
        Builtin.activity, Builtin.assessment, Builtin.completion, Builtin.slide,
        Builtin.lessonItem, Builtin.moduleCard, Builtin.indexHeader, Builtin.lessonHeader,
        String.toList_intercalate, List.map_cons, List.map_nil]
      repeat rw [String.toList_ofList]
      rw [cut_eq_cutBounded _ _ _ (Nat.le_refl _)]
      decide +kernel

theorem builtins_names :
    builtins.map Prod.fst = ["base.html", "index.html", "lesson.html", "partials/header.html",
      "partials/footer.html", "partials/styles.html", "partials/scripts.html",
      "partials/index_header.html", "partials/lesson_header.html", "partials/module_card.html",
      "partials/lesson_item.html", "partials/slide.html", "partials/activity.html",
      "partials/worked_example.html", "partials/assessment.html", "partials/question.html",
      "partials/question_open.html", "partials/completion.html"] :=
  rfl

/-- No activity kind names a built-in template. -/
theorem builtin_activityName (kind : String) : builtin? (activityName kind) = none := by
  have hnames : ∀ n ∈ builtins.map Prod.fst,
      "partials/activity_".toList.isPrefixOf n.toList = false := by
    rw [builtins_names]
    decide
  have hkind : "partials/activity_".toList.isPrefixOf (activityName kind).toList = true := by
    rw [activityName_eq, String.append_assoc, String.toList_append, List.isPrefixOf_iff_prefix]
    exact List.prefix_append _ _
  rw [builtin?, Option.map_eq_none_iff, List.find?_eq_none]
  intro p hp heq
  have hp := hnames p.1 (List.mem_map_of_mem hp)
  rw [beq_iff_eq.1 heq, hkind] at hp
  cases hp

theorem BuiltinEngine.withFiles {b : Builder} (hb : BuiltinEngine b) (files : FileStore) :
    BuiltinEngine { b with files } := by
  have hdir : b.engine.dir = none := by rw [← Engine.fresh_dir, hb.setup]
  refine ⟨hb.setup, fun p hp => ?_, fun p hp => ?_⟩
  · rw [Engine.findTemplate_dirless _ hdir, ← Engine.findTemplate_dirless b.files hdir]
    exact hb.coherent.templates p hp
  · rw [Engine.findPartial_dirless _ hdir, ← Engine.findPartial_dirless b.files hdir]
    exact hb.coherent.partials p hp

/-- A served render succeeds from the built-in set, with a text that fills the context's
variables put in place. -/
theorem render_served {name : String} {ctx : Context}
    (h : servesBuiltin name (ctx.map Prod.fst) = true) :
    Succeeds BuiltinEngine (fun out => ∃ t, fills (ctx.map Prod.fst) t = true ∧
      out = String.ofList (substitute ctx t.toList)) (render name ctx) := by
  rcases hb : builtin? name with _ | text
  · simp only [servesBuiltin, hb] at h
    cases h
  rcases he : Engine.builtinExpansion text with x | t
  · simp only [servesBuiltin, hb, he] at h
    cases h
  rw [servesBuiltin_of_expansion _ hb he] at h
  refine withEngine_succeeds (fun fs => Engine.render_cacheBlind fs name ctx) fun fs =>
    ⟨_, ?_, t, h, rfl⟩
  rw [Engine.render_builtin fs hb, he]
  rfl

namespace TemplateOps

/-- The site's engine on the calls the built-in set serves in full; every other render is
refused with a template error. -/
def strict : TemplateOps where
  render name ctx :=
    if servesBuiltin name (ctx.map Prod.fst) then Site.render name ctx
    else throw (.template (.cycle [name]))
  hasTemplate := Site.hasTemplate

end TemplateOps

def IsWriteError : SiteError → Prop
  | .io .. => True
  | .template _ => False

/-- From a builder on the built-in set alone, the strict operations run as the site's engine
at every call of the renderer, and no call fails. -/
theorem strict_simulates :
    Simulation BuiltinEngine IsWriteError TemplateOps.strict TemplateOps.engine where
  render t ctx hk := by
    have hs : servesBuiltin t.name (ctx.map Prod.fst) = true := hk ▸ servesBuiltin_fixed t
    show Agree _ _ _ (if _ then _ else _) (render t.name ctx)
    rw [if_pos hs]
    exact (Agree.of_succeeds (render_served hs)).mono fun _ _ => trivial
  probe a _ := by
    refine (Agree.of_succeeds (withEngine_succeeds (fun fs => Engine.hasTemplate_cacheBlind fs _)
      fun fs => ⟨_, Engine.hasTemplate_builtin fs _, rfl⟩)).mono fun found hfound hfound' => ?_
    rw [← hfound, builtin_activityName] at hfound'
    cases hfound'
  shuffle xs := (shuffled_succeeds xs).mono fun _ _ => trivial
  files _ files hb := hb.withFiles files
  io _ _ := trivial

/-- With the built-in templates, a build runs as the strict operations do, so the built-in set
serves every render of it in full, and the build fails with no template error. -/
theorem builtin_build_renders_in_full (c : Course) (files : FileStore) (seed : UInt64)
    (dir : String) :
    (TemplateOps.strict.renderTo c dir).run ⟨files, { dir := none }, .ofSeed seed⟩ =
        (renderTo c dir).run ⟨files, { dir := none }, .ofSeed seed⟩ ∧
      ∀ e, (build c files { dir := none } seed dir).1 ≠ .error (.template e) := by
  obtain ⟨heq, hout⟩ :=
    strict_simulates.renderTo c dir _ (builtinEngine_start files (.ofSeed seed))
  rw [TemplateOps.engine_renderTo] at heq hout
  refine ⟨heq, fun e he => ?_⟩
  unfold build at he
  rcases hx : (renderTo c dir).run ⟨files, { dir := none }, .ofSeed seed⟩ with
    ⟨s, b⟩ | ⟨x, b⟩ <;> rw [hx] at he hout <;> cases he
  exact hout

end Courseware.Site
