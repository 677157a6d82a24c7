import Courseware.Proofs.Template.Cache

/-!
# A session with one engine

A caller makes operations on one engine (`Op`: render a template, render a text, ask whether a
template exists), each against the files as they stand when it runs; between two operations the
files may change in any way. `Session e steps e'` says that the operations of `steps` run, in
order, taking the engine from `e` to `e'`; each may complete or fail, and a failure keeps what
was cached before it.

The engine's caches only grow (`Extends`), and each text they gain under a name is what loading
that name found afresh in the files of the operation that added it (`FoundIn`). So a name kept
once resolves to the same text for the rest of a session, whatever the files hold by then, and
every kept text is what its name found when it was first read (`session_keeps_texts`). The
caches are keyed by the name as written: `note` and `note.html` name the same partial file but
are kept apart, so the second can find a text the file gained after the first was read
(`note_kept_apart`).
-/

namespace Courseware.Template.Engine

/-! ## Caches that only grow -/

/-- The caches of `e'` keep every text those of `e` keep, under the same name. -/
structure Extends (e e' : Engine) : Prop where
  templates : ∀ name text, e.templates.lookup name = some text → e'.templates.lookup name = some text
  partials : ∀ name text, e.partials.lookup name = some text → e'.partials.lookup name = some text

theorem Extends.refl (e : Engine) : Extends e e := ⟨fun _ _ h => h, fun _ _ h => h⟩

theorem Extends.trans {e₁ e₂ e₃ : Engine} (h₁ : Extends e₁ e₂) (h₂ : Extends e₂ e₃) :
    Extends e₁ e₃ :=
  ⟨fun n t h => h₂.templates n t (h₁.templates n t h),
    fun n t h => h₂.partials n t (h₁.partials n t h)⟩

/-- Every text the caches of `e'` keep under a name was kept by `e` under it, or is what loading
the name finds in `fs` with nothing cached. -/
structure FoundIn (fs : FileStore) (e e' : Engine) : Prop where
  templates : ∀ name text, e'.templates.lookup name = some text →
    e.templates.lookup name = some text ∨ findTemplate fs e name = .ok (some text)
  partials : ∀ name text, e'.partials.lookup name = some text →
    e.partials.lookup name = some text ∨ findPartial fs e name = .ok (some text)

theorem FoundIn.refl (fs : FileStore) (e : Engine) : FoundIn fs e e :=
  ⟨fun _ _ h => .inl h, fun _ _ h => .inl h⟩

theorem FoundIn.trans {fs : FileStore} {e₁ e₂ e₃ : Engine} (h₁ : FoundIn fs e₁ e₂)
    (h₂ : FoundIn fs e₂ e₃) (hsetup : e₂.fresh = e₁.fresh) : FoundIn fs e₁ e₃ := by
  constructor
  · intro n t h
    rcases h₂.templates n t h with h | h
    · exact h₁.templates n t h
    · exact .inr ((findTemplate_congr fs hsetup n).symm.trans h)
  · intro n t h
    rcases h₂.partials n t h with h | h
    · exact h₁.partials n t h
    · exact .inr ((findPartial_congr fs hsetup n).symm.trans h)

/-- `m`, run against `fs`, keeps every text its engine kept, adds only texts found in `fs`,
and leaves the setup alone, whether it completes or fails. -/
def Grows {α : Type} (fs : FileStore) (m : TemplateM α) : Prop :=
  ∀ e, Extends e (after (m.run e)) ∧ FoundIn fs e (after (m.run e)) ∧
    (after (m.run e)).fresh = e.fresh

namespace Grows

variable {α β : Type} {fs : FileStore}

theorem pure (a : α) : Grows fs (Pure.pure a : TemplateM α) :=
  fun e => ⟨.refl e, .refl fs e, rfl⟩

theorem throw (x : TemplateError) : Grows fs (MonadExcept.throw x : TemplateM α) :=
  fun e => ⟨.refl e, .refl fs e, rfl⟩

theorem bind {m : TemplateM α} {f : α → TemplateM β} (hm : Grows fs m) (hf : ∀ a, Grows fs (f a)) :
    Grows fs (m >>= f) := by
  intro e
  obtain ⟨hext, hfound, hsetup⟩ := hm e
  rw [after_run_bind]
  rcases hx : m.run e with ⟨a, e'⟩ | ⟨x, e'⟩ <;> rw [hx] at hext hfound hsetup
  · obtain ⟨hext', hfound', hsetup'⟩ := hf a e'
    exact ⟨hext.trans hext', hfound.trans hfound' hsetup, hsetup'.trans hsetup⟩
  · exact ⟨hext, hfound, hsetup⟩

end Grows

/-! ## Loading -/

theorem lookup_cons_of_none {l : List (String × String)} {name text n t : String}
    (hnone : l.lookup name = none) (h : l.lookup n = some t) :
    ((name, text) :: l).lookup n = some t := by
  have hne : n ≠ name := by
    rintro rfl
    rw [hnone] at h
    cases h
  rw [List.lookup_cons, beq_false_of_ne hne]
  exact h

theorem lookup_cons_found {l : List (String × String)} {name text n t : String}
    (h : ((name, text) :: l).lookup n = some t) : (n = name ∧ t = text) ∨ l.lookup n = some t := by
  by_cases hn : n = name
  · subst hn
    simp only [List.lookup_cons, beq_self_eq_true, Option.some.injEq] at h
    exact .inl ⟨rfl, h.symm⟩
  · simp only [List.lookup_cons, beq_false_of_ne hn] at h
    exact .inr h

theorem loadTemplate_grows (fs : FileStore) (name : String) : Grows fs (loadTemplate fs name) := by
  intro e
  rcases hl : e.templates.lookup name with _ | text
  · rw [loadTemplate_run_uncached fs hl]
    rcases hf : findTemplate fs e name with x | r
    · exact ⟨.refl e, .refl fs e, rfl⟩
    cases r with
    | none => exact ⟨.refl e, .refl fs e, rfl⟩
    | some text =>
      refine ⟨⟨fun n t ht => lookup_cons_of_none hl ht, fun _ _ ht => ht⟩,
        ⟨fun n t ht => ?_, fun _ _ ht => .inl ht⟩, rfl⟩
      rcases lookup_cons_found ht with ⟨rfl, rfl⟩ | ht
      · exact .inr hf
      · exact .inl ht
  · rw [loadTemplate_run_cached fs hl]
    exact ⟨.refl e, .refl fs e, rfl⟩

theorem loadPartial_grows (fs : FileStore) (name : String) : Grows fs (loadPartial fs name) := by
  intro e
  rcases hl : e.partials.lookup name with _ | text
  · rw [loadPartial_run_uncached fs hl]
    rcases hf : findPartial fs e name with x | r
    · exact ⟨.refl e, .refl fs e, rfl⟩
    cases r with
    | none => exact ⟨.refl e, .refl fs e, rfl⟩
    | some text =>
      refine ⟨⟨fun _ _ ht => ht, fun n t ht => lookup_cons_of_none hl ht⟩,
        ⟨fun _ _ ht => .inl ht, fun n t ht => ?_⟩, rfl⟩
      rcases lookup_cons_found ht with ⟨rfl, rfl⟩ | ht
      · exact .inr hf
      · exact .inl ht
  · rw [loadPartial_run_cached fs hl]
    exact ⟨.refl e, .refl fs e, rfl⟩

theorem Grows.closed (fs : FileStore) : Closed (Grows fs) :=
  ⟨Grows.pure, Grows.throw, Grows.bind⟩

theorem renderString_grows (fs : FileStore) (text : String) (ctx : Context) :
    Grows fs (renderString fs text ctx) :=
  (Grows.closed fs).renderString (loadPartial_grows fs) text ctx

theorem render_grows (fs : FileStore) (name : String) (ctx : Context) :
    Grows fs (render fs name ctx) :=
  (Grows.closed fs).render (loadPartial_grows fs) (loadTemplate_grows fs) name ctx

theorem hasTemplate_grows (fs : FileStore) (name : String) : Grows fs (hasTemplate fs name) :=
  (Grows.closed fs).hasTemplate (loadTemplate_grows fs) name

/-! ## Sessions -/

/-- An operation a caller makes on an engine. -/
inductive Op where
  | render (name : String) (ctx : Context)
  | renderString (text : String) (ctx : Context)
  | hasTemplate (name : String)

def Op.run (fs : FileStore) : Op → TemplateM Unit
  | .render name ctx => do let _ ← Engine.render fs name ctx
  | .renderString text ctx => do let _ ← Engine.renderString fs text ctx
  | .hasTemplate name => do let _ ← Engine.hasTemplate fs name

theorem Op.run_grows (fs : FileStore) : ∀ op : Op, Grows fs (op.run fs)
  | .render name ctx => Grows.bind (render_grows fs name ctx) fun _ => Grows.pure _
  | .renderString text ctx => Grows.bind (renderString_grows fs text ctx) fun _ => Grows.pure _
  | .hasTemplate name => Grows.bind (hasTemplate_grows fs name) fun _ => Grows.pure _

/-- The operations of `steps` run in order, each against the files of its step and each
completing or failing, taking the engine from `e` to `e'`. -/
inductive Session : Engine → List (FileStore × Op) → Engine → Prop
  | nil (e : Engine) : Session e [] e
  | cons {e e₁ e₂ : Engine} {fs : FileStore} {op : Op} {steps : List (FileStore × Op)} :
      after ((op.run fs).run e) = e₁ → Session e₁ steps e₂ → Session e ((fs, op) :: steps) e₂

/-- Over a session the caches only grow, the setup stays, and each text gained under a name is
what loading the name found in the files of some step. -/
theorem Session.grows {e e' : Engine} {steps : List (FileStore × Op)} (h : Session e steps e') :
    Extends e e' ∧ e'.fresh = e.fresh ∧
      (∀ name text, e'.templates.lookup name = some text → e.templates.lookup name = some text ∨
        ∃ step ∈ steps, findTemplate step.1 e name = .ok (some text)) ∧
      (∀ name text, e'.partials.lookup name = some text → e.partials.lookup name = some text ∨
        ∃ step ∈ steps, findPartial step.1 e name = .ok (some text)) := by
  induction h with
  | nil e => exact ⟨.refl e, rfl, fun _ _ h => .inl h, fun _ _ h => .inl h⟩
  | @cons e e₁ e₂ fs op steps hop _ ih =>
    obtain ⟨hext, hfound, hsetup⟩ := op.run_grows fs e
    rw [hop] at hext hfound hsetup
    obtain ⟨hext', hsetup', htemplates, hpartials⟩ := ih
    refine ⟨hext.trans hext', hsetup'.trans hsetup, fun n t ht => ?_, fun n t ht => ?_⟩
    · -- kept before the step, found by the step, or found by a later one
      rcases htemplates n t ht with ht | ⟨step, hstep, hfind⟩
      · rcases hfound.templates n t ht with ht | hfind
        · exact .inl ht
        · exact .inr ⟨(fs, op), List.mem_cons_self, hfind⟩
      · exact .inr ⟨step, List.mem_cons_of_mem _ hstep,
          (findTemplate_congr _ hsetup n).symm.trans hfind⟩
    · rcases hpartials n t ht with ht | ⟨step, hstep, hfind⟩
      · rcases hfound.partials n t ht with ht | hfind
        · exact .inl ht
        · exact .inr ⟨(fs, op), List.mem_cons_self, hfind⟩
      · exact .inr ⟨step, List.mem_cons_of_mem _ hstep,
          (findPartial_congr _ hsetup n).symm.trans hfind⟩

/-- Texts are kept per name as written. Over any session of operations, each completing or
failing, against files that may change between them: a template or partial name the engine keeps a text for
resolves to that same text for the rest of the session, whatever the files hold; and every text
kept under a name at the end was kept under it at the start or is what loading that name found
in the files of one of the session's steps. -/
theorem session_keeps_texts {e e' : Engine} {steps : List (FileStore × Op)}
    (h : Session e steps e') :
    (∀ name text, e.templates.lookup name = some text →
      ∀ fs, (loadTemplate fs name).run e' = .ok (some text) e') ∧
    (∀ name text, e.partials.lookup name = some text →
      ∀ fs, (loadPartial fs name).run e' = .ok (some text) e') ∧
    (∀ name text, e'.templates.lookup name = some text → e.templates.lookup name = some text ∨
      ∃ step ∈ steps, findTemplate step.1 e name = .ok (some text)) ∧
    (∀ name text, e'.partials.lookup name = some text → e.partials.lookup name = some text ∨
      ∃ step ∈ steps, findPartial step.1 e name = .ok (some text)) := by
  obtain ⟨hext, -, htemplates, hpartials⟩ := h.grows
  exact ⟨fun name text ht fs => loadTemplate_run_cached fs (hext.templates name text ht),
    fun name text ht fs => loadPartial_run_cached fs (hext.partials name text ht),
    htemplates, hpartials⟩

theorem eq_of_fields {e e' : Engine}
    (h : (e.dir, e.useDefaults, e.templates, e.partials) =
      (e'.dir, e'.useDefaults, e'.templates, e'.partials)) : e = e' := by
  obtain ⟨dir, useDefaults, templates, partials⟩ := e
  simp only [Prod.mk.injEq] at h
  obtain ⟨rfl, rfl, rfl, rfl⟩ := h
  rfl

/-- A template directory `t` whose partial file `partials/note.html` holds `text` and whose
`partials/loop.html` includes itself. -/
def noteStore (text : String) : FileStore where
  entries := [(["t"], .dir), (["t", "partials"], .dir),
    (["t", "partials", "note.html"], .file text.toUTF8.toList),
    (["t", "partials", "loop.html"], .file "\x7b\x7b> loop \x7d\x7d".toUTF8.toList)]

/-- The engine after the session of `note_kept_apart`. -/
def noteEngine : Engine :=
  { dir := some "t",
    partials := [("note.html", "new"), ("loop", "\x7b\x7b> loop \x7d\x7d"), ("note", "old")] }

/-- `note` is read while `partials/note.html` holds `old`, and the render that read it then fails
on `loop`, which includes itself; the file then holds `new`, and `note.html` is read. The failed
render kept what it had read, and both names are kept, each with the text it found, so the one
file gives two texts: `note` still resolves to `old`, `note.html` to `new`. -/
theorem note_kept_apart :
    Session { dir := some "t" }
        [(noteStore "old", .renderString "\x7b\x7b> note \x7d\x7d\x7b\x7b> loop \x7d\x7d" []),
          (noteStore "new", .renderString "\x7b\x7b> note.html \x7d\x7d" [])]
        noteEngine ∧
      (outcome (((Op.renderString "\x7b\x7b> note \x7d\x7d\x7b\x7b> loop \x7d\x7d" []).run
        (noteStore "old")).run { dir := some "t" })).toOption = none ∧
      (loadPartial (noteStore "new") "note").run noteEngine = .ok (some "old") noteEngine ∧
      (loadPartial (noteStore "new") "note.html").run noteEngine = .ok (some "new") noteEngine := by
  have hsecond : Session
      { dir := some "t", partials := [("loop", "\x7b\x7b> loop \x7d\x7d"), ("note", "old")] }
      [(noteStore "new", .renderString "\x7b\x7b> note.html \x7d\x7d" [])] noteEngine :=
    .cons (eq_of_fields (by decide +kernel)) (.nil _)
  exact ⟨.cons (eq_of_fields (by decide +kernel)) hsecond, by decide +kernel,
    (session_keeps_texts hsecond).2.1 "note" "old" rfl _, loadPartial_run_cached _ rfl⟩

end Courseware.Template.Engine
