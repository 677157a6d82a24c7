import Courseware.Proofs.Template.Cache

/-!
# Rendering from the built-in set

An engine without a template directory reads no file: each of its computations runs alike over
any two file stores and leaves the engine without a directory (`DirlessEq`). What such an
engine renders therefore depends on the built-in templates alone: a built-in template renders
as its expansion with the built-in partials (`builtinExpansion`) with the variables filled
(`render_builtin`), and a template is found exactly when the built-in set holds one of that
name (`hasTemplate_builtin`).
-/

namespace Courseware.Template.Engine

/-- Two computations that give one result from every engine without a template directory, and
leave the engine without one. -/
structure DirlessEq {α : Type} (m₁ m₂ : TemplateM α) : Prop where
  run : ∀ e : Engine, e.dir = none → m₁.run e = m₂.run e
  keeps : ∀ e : Engine, e.dir = none → (after (m₁.run e)).dir = none

namespace DirlessEq

variable {α β : Type}

theorem pure (a : α) : DirlessEq (Pure.pure a : TemplateM α) (Pure.pure a) :=
  ⟨fun _ _ => rfl, fun _ h => h⟩

theorem throw (x : TemplateError) :
    DirlessEq (MonadExcept.throw x : TemplateM α) (MonadExcept.throw x) :=
  ⟨fun _ _ => rfl, fun _ h => h⟩

theorem bind {m₁ m₂ : TemplateM α} {f₁ f₂ : α → TemplateM β} (hm : DirlessEq m₁ m₂)
    (hf : ∀ a, DirlessEq (f₁ a) (f₂ a)) : DirlessEq (m₁ >>= f₁) (m₂ >>= f₂) := by
  refine ⟨fun e he => ?_, fun e he => ?_⟩
  · have k := hm.keeps e he
    rw [EStateM.run_bind, EStateM.run_bind, ← hm.run e he]
    rcases hx : m₁.run e with ⟨a, e'⟩ | ⟨x, e'⟩
    · rw [hx] at k
      exact (hf a).run e' k
    · rfl
  · have k := hm.keeps e he
    rw [after_run_bind]
    rcases hx : m₁.run e with ⟨a, e'⟩ | ⟨x, e'⟩ <;> rw [hx] at k
    · exact (hf a).keeps e' k
    · exact k

theorem ite {c : Prop} [Decidable c] {m₁ m₂ n₁ n₂ : TemplateM α} (hm : DirlessEq m₁ m₂)
    (hn : DirlessEq n₁ n₂) : DirlessEq (if c then m₁ else n₁) (if c then m₂ else n₂) := by
  split
  · exact hm
  · exact hn

theorem foldlM {γ : Type} {f₁ f₂ : α → γ → TemplateM α}
    (hf : ∀ a x, DirlessEq (f₁ a x) (f₂ a x)) :
    ∀ (xs : List γ) (init : α), DirlessEq (xs.foldlM f₁ init) (xs.foldlM f₂ init)
  | [], init => pure init
  | x :: xs, init => by
    rw [List.foldlM_cons, List.foldlM_cons]
    exact bind (hf init x) fun a => foldlM hf xs a

end DirlessEq

/-! ## Loading without a directory -/

/-- Without a directory, loading a template finds the built-in one of its name, if the
built-in set is in use. -/
theorem findTemplate_dirless (fs : FileStore) {e : Engine} (he : e.dir = none) (name : String) :
    findTemplate fs e name = .ok (if e.useDefaults then builtin? name else none) := by
  obtain ⟨dir, useDefaults, templates, partials⟩ := e
  cases he
  cases useDefaults
  · rfl
  · show outcome ((loadTemplate fs name).run { dir := none }) = .ok (builtin? name)
    rcases hb : builtin? name with _ | text <;>
      simp only [loadTemplate, readExternal, builtin, EStateM.run_bind, EStateM.run_get,
        List.lookup_nil, hb] <;> rfl

theorem findPartial_dirless (fs : FileStore) {e : Engine} (he : e.dir = none) (name : String) :
    findPartial fs e name =
      .ok (if e.useDefaults then builtin? ("partials/" ++ partialFile name) else none) := by
  obtain ⟨dir, useDefaults, templates, partials⟩ := e
  cases he
  cases useDefaults
  · rfl
  · show outcome ((loadPartial fs name).run { dir := none }) =
      .ok (builtin? ("partials/" ++ partialFile name))
    rcases hb : builtin? ("partials/" ++ partialFile name) with _ | text <;>
      simp only [loadPartial, readExternal, builtin, EStateM.run_bind, EStateM.run_get,
        List.lookup_nil, hb] <;> rfl

@[simp] theorem keepPartial_dir (e : Engine) (name : String) (r : Option String) :
    (keepPartial e name r).dir = e.dir := by
  cases r <;> rfl

theorem loadPartial_dirless (fs fs' : FileStore) (name : String) :
    DirlessEq (loadPartial fs name) (loadPartial fs' name) := by
  refine ⟨fun e he => ?_, fun e he => ?_⟩
  · rcases hl : e.partials.lookup name with _ | text
    · rw [loadPartial_run_uncached fs hl, loadPartial_run_uncached fs' hl,
        findPartial_dirless fs he, findPartial_dirless fs' he]
    · rw [loadPartial_run_cached fs hl, loadPartial_run_cached fs' hl]
  · rcases hl : e.partials.lookup name with _ | text
    · rw [loadPartial_run_uncached fs hl, findPartial_dirless fs he]
      exact (keepPartial_dir e name _).trans he
    · rw [loadPartial_run_cached fs hl]
      exact he

theorem expand_dirless (fs fs' : FileStore) (d : Nat) :
    ∀ (chain : List String) (text : List Char),
      DirlessEq (expand fs chain d text) (expand fs' chain d text) := by
  induction d with
  | zero =>
    intro chain text
    rw [expand.eq_1, expand.eq_1]
    refine DirlessEq.foldlM (fun out piece => ?_) _ _
    cases piece with
    | char c => exact DirlessEq.pure _
    | hit r =>
      exact DirlessEq.ite (DirlessEq.bind (DirlessEq.throw _) fun _ => DirlessEq.pure _)
        (DirlessEq.pure _)
  | succ d ih =>
    intro chain text
    rw [expand.eq_1, expand.eq_1]
    refine DirlessEq.foldlM (fun out piece => ?_) _ _
    cases piece with
    | char c => exact DirlessEq.pure _
    | hit r =>
      refine DirlessEq.ite (DirlessEq.bind (DirlessEq.throw _) fun _ => ?_) ?_ <;>
        refine DirlessEq.bind (loadPartial_dirless fs fs' _) fun res => ?_ <;>
        cases res with
        | some content => exact DirlessEq.bind (ih _ _) fun _ => DirlessEq.pure _
        | none => exact DirlessEq.pure _

theorem renderString_dirless (fs fs' : FileStore) (text : String) (ctx : Context) :
    DirlessEq (renderString fs text ctx) (renderString fs' text ctx) :=
  DirlessEq.bind (expand_dirless fs fs' _ _ _) fun _ => DirlessEq.pure _

/-! ## Rendering without a directory -/

/-- A built-in template with its partials included from the built-in set. -/
def builtinExpansion (text : String) : Except TemplateError String :=
  outcome ((expand {} [] maxPartialDepth text.toList).run { dir := none })

/-- From an engine of the built-in set alone, a built-in template renders as its expansion
with the variables filled, whatever the file store. -/
theorem render_builtin (fs : FileStore) {name text : String} (hb : builtin? name = some text)
    (ctx : Context) :
    outcome ((render fs name ctx).run { dir := none }) =
      (builtinExpansion text).map fun t => String.ofList (substitute ctx t.toList) := by
  have hload : (loadTemplate fs name).run { dir := none } =
      .ok (some text) (keepTemplate { dir := none } name (some text)) := by
    rw [loadTemplate_run_uncached fs rfl, findTemplate_dirless fs rfl, if_pos rfl, hb]
    rfl
  have h₀ : Coherent fs { dir := none } := coherent_fresh fs { dir := none }
  obtain ⟨hcoh, hfresh⟩ := (loadTemplate_spec h₀ name).2
  rw [hload, after_ok] at hcoh hfresh
  calc outcome ((render fs name ctx).run { dir := none })
      = outcome ((renderString fs text ctx).run (keepTemplate { dir := none } name (some text))) := by
        simp only [render, EStateM.run_bind, hload]
    _ = outcome ((renderString fs text ctx).run { dir := none }) :=
        (renderString_cacheBlind fs text ctx).result _ _ hcoh h₀ hfresh
    _ = outcome ((renderString {} text ctx).run { dir := none }) := by
        rw [(renderString_dirless fs {} text ctx).run _ rfl]
    _ = _ := by
        simp only [renderString, builtinExpansion, EStateM.run_bind]
        rcases (expand {} [] maxPartialDepth text.toList).run { dir := none } with
          ⟨t, e⟩ | ⟨x, e⟩ <;> rfl

/-- From an engine of the built-in set alone, a template is found exactly when the built-in
set holds one of its name. -/
theorem hasTemplate_builtin (fs : FileStore) (name : String) :
    outcome ((hasTemplate fs name).run { dir := none }) = .ok (builtin? name).isSome := by
  have hload : (loadTemplate fs name).run { dir := none } =
      .ok (builtin? name) (keepTemplate { dir := none } name (builtin? name)) := by
    rw [loadTemplate_run_uncached fs rfl, findTemplate_dirless fs rfl, if_pos rfl]
    rfl
  simp only [hasTemplate, EStateM.run_bind, hload]
  rfl

end Courseware.Template.Engine
