import Mathlib.Data.List.Forall2
import Courseware.Proofs.Template.Cache
import Courseware.Site.Render
import Courseware.Site.Build

/-!
# Steps of a site build

`Sat I P m` says that the build step `m`, run from a builder satisfying `I`, either fails or
returns a result satisfying `P` and leaves a builder satisfying `I`. It is closed under `pure`,
`bind` and `mapM`, so a property of a page follows from one lemma per step.

The builders of the page proofs satisfy `BuiltinEngine`: the engine has no template
directory, falls back on the built-in set and keeps only what loading finds. A render from such
a builder gives what a fresh engine `{ dir := none }` gives (`render_sat`), a shuffle gives a
permutation of its items (`shuffled_sat`), and neither leaves `BuiltinEngine`.
-/

namespace Courseware.Site

open Template

/-- From a builder with `I`, the step `m` returns only results with `P` and keeps `I`. -/
def Sat {α : Type} (I : Builder → Prop) (P : α → Prop) (m : SiteM α) : Prop :=
  ∀ b a b', I b → m.run b = .ok a b' → P a ∧ I b'

namespace Sat

variable {α β : Type} {I : Builder → Prop} {P : α → Prop} {Q : β → Prop}

theorem pure {a : α} (h : P a) : Sat I P (Pure.pure a) := by
  intro b a' b' hb hr
  cases hr
  exact ⟨h, hb⟩

theorem bind {m : SiteM α} {f : α → SiteM β} (hm : Sat I P m) (hf : ∀ a, P a → Sat I Q (f a)) :
    Sat I Q (m >>= f) := by
  intro b c b'' hb hr
  obtain ⟨a, b', hx, hr⟩ := run_bind_eq_ok hr
  obtain ⟨ha, hb'⟩ := hm b a b' hb hx
  exact hf a ha b' c b'' hb' hr

theorem mono {m : SiteM α} {P' : α → Prop} (h : Sat I P m) (hP : ∀ a, P a → P' a) :
    Sat I P' m := fun b a b' hb hr =>
  let ⟨ha, hb'⟩ := h b a b' hb hr
  ⟨hP a ha, hb'⟩

/-- A step per item, in order: each result is related to its item. -/
theorem mapM {R : α → β → Prop} {f : α → SiteM β} :
    ∀ {xs : List α}, (∀ x ∈ xs, Sat I (R x) (f x)) → Sat I (List.Forall₂ R xs) (xs.mapM f)
  | [], _ => pure .nil
  | x :: xs, h => by
    rw [List.mapM_cons]
    refine bind (h x List.mem_cons_self) fun y hy => ?_
    refine bind (mapM fun x' hx' => h x' (List.mem_cons_of_mem _ hx')) fun ys hys => ?_
    exact pure (.cons hy hys)

theorem mapM_forall {f : α → SiteM β} :
    ∀ {xs : List α}, (∀ x ∈ xs, Sat I Q (f x)) → Sat I (fun ys => ∀ y ∈ ys, Q y) (xs.mapM f)
  | [], _ => pure (by simp)
  | x :: xs, h => by
    rw [List.mapM_cons]
    refine bind (h x List.mem_cons_self) fun y hy => ?_
    refine bind (mapM_forall fun x' hx' => h x' (List.mem_cons_of_mem _ hx')) fun ys hys => ?_
    exact pure (List.forall_mem_cons.2 ⟨hy, hys⟩)

end Sat

/-- The builder renders from the built-in set alone. -/
structure BuiltinEngine (b : Builder) : Prop where
  /-- No template directory, and the built-in set in use. -/
  setup : b.engine.fresh = { dir := none }
  /-- Only what loading finds is kept. -/
  coherent : Engine.Coherent b.files b.engine

theorem builtinEngine_start (files : FileStore) (rng : Random.Rng) :
    BuiltinEngine { files, engine := { dir := none }, rng } :=
  ⟨rfl, Engine.coherent_fresh files { dir := none }⟩

/-- A render step that succeeds ran its template computation on the builder's files, from the
builder's engine, and changed the builder's engine only. -/
theorem withEngine_eq_ok {α : Type} {m : FileStore → TemplateM α} {b b' : Builder} {a : α}
    (h : (withEngine m).run b = .ok a b') :
    ∃ e', (m b.files).run b.engine = .ok a e' ∧ b' = { b with engine := e' } := by
  simp only [withEngine, EStateM.run] at h
  rcases hx : m b.files b.engine with ⟨a', e'⟩ | ⟨x, e'⟩ <;> rw [hx] at h <;> cases h
  exact ⟨e', hx, rfl⟩

theorem withEngine_sat {α : Type} {m : FileStore → TemplateM α}
    (hm : ∀ fs, Engine.CacheBlind fs (m fs)) :
    Sat BuiltinEngine (fun a => ∃ fs, outcome ((m fs).run { dir := none }) = .ok a)
      (withEngine m) := by
  intro b a b' hb hr
  obtain ⟨e', hx, rfl⟩ := withEngine_eq_ok hr
  obtain ⟨hfresh, hcoh, hsetup⟩ := (hm b.files).run_eq_fresh hb.coherent hx
  rw [hb.setup] at hfresh
  exact ⟨⟨b.files, hfresh⟩, ⟨hsetup.trans hb.setup, hcoh⟩⟩

theorem render_sat (name : String) (ctx : Context) :
    Sat BuiltinEngine
      (fun out => ∃ fs, outcome ((Engine.render fs name ctx).run { dir := none }) = .ok out)
      (render name ctx) :=
  withEngine_sat fun fs => Engine.render_cacheBlind fs name ctx

theorem hasTemplate_sat (name : String) :
    Sat BuiltinEngine
      (fun found => ∃ fs, outcome ((Engine.hasTemplate fs name).run { dir := none }) = .ok found)
      (hasTemplate name) :=
  withEngine_sat fun fs => Engine.hasTemplate_cacheBlind fs name

theorem foldl_keeps_perm {α β γ : Type} {xs : List α} {f : Array α × β → γ → Array α × β}
    (hf : ∀ acc k, acc.1.toList.Perm xs → (f acc k).1.toList.Perm xs) :
    ∀ (ks : List γ) (acc : Array α × β), acc.1.toList.Perm xs → (ks.foldl f acc).1.toList.Perm xs
  | [], _, h => h
  | k :: ks, acc, h => foldl_keeps_perm hf ks _ (hf acc k h)

theorem shuffle_perm {α : Type} (xs : List α) (g : Random.Rng) : (Random.shuffle xs g).1.Perm xs := by
  refine foldl_keeps_perm (fun acc k h => ?_) _ _ (by simp)
  simp only [Array.swapIfInBounds_def]
  split
  · split
    · exact (Array.perm_iff_toList_perm.1 (Array.swap_perm ‹_› ‹_›)).trans h
    · exact h
  · exact h

theorem shuffled_sat {α : Type} (xs : List α) :
    Sat BuiltinEngine (fun ys => ys.Perm xs) (shuffled xs) := by
  intro b ys b' hb hr
  simp only [shuffled, EStateM.run] at hr
  cases hr
  exact ⟨shuffle_perm xs b.rng, hb.setup, hb.coherent⟩

/-! ## Steps that succeed -/

/-- From every builder with `I`, the step `m` succeeds with a result satisfying `P` and leaves a
builder with `I`. -/
def Succeeds {α : Type} (I : Builder → Prop) (P : α → Prop) (m : SiteM α) : Prop :=
  ∀ b, I b → ∃ a b', m.run b = .ok a b' ∧ P a ∧ I b'

namespace Succeeds

variable {α β : Type} {I : Builder → Prop} {P : α → Prop} {Q : β → Prop}

theorem pure {a : α} (h : P a) : Succeeds I P (Pure.pure a) :=
  fun b hb => ⟨a, b, rfl, h, hb⟩

theorem bind {m : SiteM α} {f : α → SiteM β} (hm : Succeeds I P m)
    (hf : ∀ a, P a → Succeeds I Q (f a)) : Succeeds I Q (m >>= f) := by
  intro b hb
  obtain ⟨a, b₁, hrun, ha, hb₁⟩ := hm b hb
  obtain ⟨c, b₂, hrun', hc, hb₂⟩ := hf a ha b₁ hb₁
  refine ⟨c, b₂, ?_, hc, hb₂⟩
  rw [EStateM.run_bind, hrun]
  exact hrun'

theorem mono {m : SiteM α} {P' : α → Prop} (h : Succeeds I P m) (hP : ∀ a, P a → P' a) :
    Succeeds I P' m := fun b hb =>
  let ⟨a, b', hrun, ha, hb'⟩ := h b hb
  ⟨a, b', hrun, hP a ha, hb'⟩

/-- A step per item, in order, each succeeding: each result is related to its item. -/
theorem mapM {R : α → β → Prop} {f : α → SiteM β} :
    ∀ {xs : List α}, (∀ x ∈ xs, Succeeds I (R x) (f x)) →
      Succeeds I (List.Forall₂ R xs) (xs.mapM f)
  | [], _ => pure .nil
  | x :: xs, h => by
    rw [List.mapM_cons]
    refine bind (h x List.mem_cons_self) fun y hy => ?_
    refine bind (mapM fun x' hx' => h x' (List.mem_cons_of_mem _ hx')) fun ys hys => ?_
    exact pure (.cons hy hys)

end Succeeds

/-- A template computation that sees no cache, and succeeds from an engine of the built-in set
with nothing cached, succeeds from every builder that renders from the built-in set alone. -/
theorem withEngine_succeeds {α : Type} {m : FileStore → TemplateM α} {P : α → Prop}
    (hm : ∀ fs, Engine.CacheBlind fs (m fs))
    (hok : ∀ fs, ∃ a, outcome ((m fs).run { dir := none }) = .ok a ∧ P a) :
    Succeeds BuiltinEngine P (withEngine m) := by
  intro b hb
  obtain ⟨a, hfresh, ha⟩ := hok b.files
  have hres := (hm b.files).result b.engine b.engine.fresh hb.coherent
    (Engine.coherent_fresh _ _) rfl
  rw [hb.setup, hfresh] at hres
  obtain ⟨e', hx⟩ := outcome_eq_ok.1 hres
  have hkeep := (hm b.files).keeps b.engine hb.coherent
  rw [hx, after_ok] at hkeep
  refine ⟨a, { b with engine := e' }, ?_, ha, hkeep.2.trans hb.setup, hkeep.1⟩
  have hx' : m b.files b.engine = .ok a e' := hx
  simp only [withEngine, EStateM.run, hx']

theorem shuffled_succeeds {α : Type} (xs : List α) :
    Succeeds BuiltinEngine (fun ys => ys.Perm xs) (shuffled xs) :=
  fun b hb => ⟨_, _, rfl, shuffle_perm xs b.rng, hb.setup, hb.coherent⟩

end Courseware.Site

/-!
## Invariants every page step keeps

The pages of a site are built from three kinds of step: rendering a template, asking whether a
template exists, and shuffling. An invariant of builders that each of the three keeps
(`Steady`) is kept by every step that builds a question, a slide, a module card or a page, by
the same walk through their definitions; each such lemma here is one case of that walk.

`Reads files setup` is such an invariant: the builder reads `files` with an engine of the setup
`setup` that keeps only what loading finds. While it holds, every render gives what an engine of
that setup with nothing cached renders from `files` (`render_reads`).
-/

namespace Courseware.Site

open Template

/-- An invariant of builders that every render, template lookup and shuffle keeps. -/
structure Steady (I : Builder → Prop) : Prop where
  render : ∀ name ctx, Sat I (fun _ => True) (render name ctx)
  hasTemplate : ∀ name, Sat I (fun _ => True) (hasTemplate name)
  shuffled : ∀ {α : Type} (xs : List α), Sat I (fun _ => True) (shuffled xs)

namespace Steady

variable {I : Builder → Prop} (h : Steady I)
include h

theorem matchingRows (pairs : List MatchPair) (name : String) :
    Sat I (fun _ => True) (Site.matchingRows pairs name) :=
  Sat.bind (h.shuffled _) fun _ _ => Sat.pure trivial

theorem orderingRows (items : List String) (name : String) :
    Sat I (fun _ => True) (Site.orderingRows items name) :=
  Sat.bind (h.shuffled _) fun _ _ => Sat.pure trivial

theorem questionHtml (q : Question) (number : Nat) (name : String) :
    Sat I (fun _ => True) (Site.questionHtml q number name) := by
  unfold Site.questionHtml
  cases q.kind with
  | mcq | msq | short | long | code => exact h.render _ _
  | trueFalse => exact Sat.bind (h.render _ _) fun _ _ => Sat.pure trivial
  | matching => exact Sat.bind (h.matchingRows _ _) fun _ _ => h.render _ _
  | ordering => exact Sat.bind (h.orderingRows _ _) fun _ _ => h.render _ _
  | unsupported => exact Sat.pure trivial

theorem questionsHtml (questions : List Question) (key : String) :
    Sat I (fun _ => True) (Site.questionsHtml questions key) :=
  Sat.bind (Sat.mapM_forall fun x _ => h.questionHtml x.1 _ _) fun _ _ => Sat.pure trivial

theorem activityTemplate (a : Activity) : Sat I (fun _ => True) (Site.activityTemplate a) := by
  unfold Site.activityTemplate
  dsimp only
  split
  · refine Sat.bind (h.hasTemplate _) fun found _ => ?_
    split
    · exact Sat.pure trivial
    · exact Sat.pure trivial
  · exact Sat.pure trivial

theorem activityHtml (a : Activity) : Sat I (fun _ => True) (Site.activityHtml a) := by
  unfold Site.activityHtml
  dsimp only
  split
  · exact h.render _ _
  · exact Sat.bind (h.activityTemplate a) fun _ _ => h.render _ _

theorem slideBody (course : Course) (l : Lesson) (s : Slide) :
    Sat I (fun _ => True) (Site.slideBody course l s) := by
  unfold Site.slideBody
  split
  · exact Sat.pure trivial
  · exact h.activityHtml _
  · exact Sat.bind (h.questionsHtml _ _) fun _ _ => h.render _ _
  · exact h.render _ _

theorem slidesHtml (course : Course) (l : Lesson) :
    Sat I (fun _ => True) (Site.slidesHtml course l) := by
  unfold Site.slidesHtml
  exact (Sat.mapM_forall fun x _ =>
    Sat.bind (h.slideBody course l x.1) fun _ _ => h.render _ _).mono fun _ _ => trivial

theorem moduleCard (m : Module) : Sat I (fun _ => True) (Site.moduleCard m) :=
  Sat.bind (Sat.mapM_forall fun _ _ => h.render _ _) fun _ _ => h.render _ _

theorem indexPage (c : Course) : Sat I (fun _ => True) (Site.indexPage c) :=
  Sat.bind (Sat.mapM_forall fun m _ => h.moduleCard m) fun _ _ =>
    Sat.bind (h.render _ _) fun _ _ => h.render _ _

theorem lessonPage (c : Course) (l : Lesson) : Sat I (fun _ => True) (Site.lessonPage c l) :=
  Sat.bind (h.slidesHtml c l) fun _ _ => Sat.bind (h.render _ _) fun _ _ => h.render _ _

end Steady

/-! ### Rendering writes no file -/

theorem withEngine_keeps_files {α : Type} (fs : FileStore) (m : FileStore → TemplateM α) :
    Sat (fun b => b.files = fs) (fun _ => True) (withEngine m) := by
  intro b a b' hb hr
  obtain ⟨e', -, rfl⟩ := withEngine_eq_ok hr
  exact ⟨trivial, hb⟩

theorem steady_files (fs : FileStore) : Steady (fun b => b.files = fs) where
  render _ _ := withEngine_keeps_files fs _
  hasTemplate _ := withEngine_keeps_files fs _
  shuffled xs := by
    intro b ys b' hb hr
    simp only [shuffled, EStateM.run] at hr
    cases hr
    exact ⟨trivial, hb⟩

/-! ### Reading one set of files -/

/-- The builder reads `files`, with an engine of the setup `setup` that keeps only what loading
finds. -/
structure Reads (files : FileStore) (setup : Engine) (b : Builder) : Prop where
  files_eq : b.files = files
  setup_eq : b.engine.fresh = setup
  coherent : Engine.Coherent b.files b.engine

theorem withEngine_reads {α : Type} {files : FileStore} {setup : Engine}
    {m : FileStore → TemplateM α} (hm : ∀ fs, Engine.CacheBlind fs (m fs)) :
    Sat (Reads files setup) (fun a => outcome ((m files).run setup) = .ok a) (withEngine m) := by
  intro b a b' hb hr
  obtain ⟨e', hx, rfl⟩ := withEngine_eq_ok hr
  obtain ⟨hfresh, hcoh, hsetup⟩ := (hm b.files).run_eq_fresh hb.coherent hx
  rw [hb.setup_eq, hb.files_eq] at hfresh
  exact ⟨hfresh, ⟨hb.files_eq, hsetup.trans hb.setup_eq, hcoh⟩⟩

theorem render_reads {files : FileStore} {setup : Engine} (name : String) (ctx : Context) :
    Sat (Reads files setup)
      (fun out => outcome ((Engine.render files name ctx).run setup) = .ok out)
      (render name ctx) :=
  withEngine_reads fun fs => Engine.render_cacheBlind fs name ctx

theorem steady_reads (files : FileStore) (setup : Engine) : Steady (Reads files setup) where
  render name ctx := (render_reads name ctx).mono fun _ _ => trivial
  hasTemplate name :=
    (withEngine_reads fun fs => Engine.hasTemplate_cacheBlind fs name).mono fun _ _ => trivial
  shuffled xs := by
    intro b ys b' hb hr
    simp only [shuffled, EStateM.run] at hr
    cases hr
    exact ⟨trivial, hb.files_eq, hb.setup_eq, hb.coherent⟩

/-! ### The index page -/

open Text (escapeHtml)

/-- `card` is the card of the module `m` as an engine of the setup `setup` renders it from
`files`: an item per lesson, in the module's order, inside `partials/module_card.html`. -/
def CardOf (files : FileStore) (setup : Engine) (m : Module) (card : String) : Prop :=
  ∃ items, List.Forall₂ (fun (l : Lesson) item =>
      outcome ((Engine.render files "partials/lesson_item.html"
        [("lesson_file", escapeHtml l.fileName), ("lesson_title", escapeHtml l.title),
          ("duration", escapeHtml l.duration)]).run setup) = .ok item) m.lessons items ∧
    outcome ((Engine.render files "partials/module_card.html"
      [("mod_title", escapeHtml m.title), ("lessons", "\n".intercalate items)]).run setup) =
      .ok card

theorem moduleCard_reads (m : Module) (files : FileStore) (setup : Engine) :
    Sat (Reads files setup) (CardOf files setup m) (moduleCard m) := by
  unfold moduleCard
  refine Sat.bind (Sat.mapM fun l _ => render_reads _ _) fun items hitems => ?_
  exact (render_reads _ _).mono fun card h => ⟨items, hitems, h⟩

/-- The index page is `base.html` filled with content that ends in the cards of the course's
modules, in the course's order. -/
theorem indexPage_reads (c : Course) (files : FileStore) (setup : Engine) :
    Sat (Reads files setup)
      (fun page => ∃ cards, List.Forall₂ (CardOf files setup) c.modules cards ∧
        ∃ header objectives, outcome ((Engine.render files "base.html"
          [("title", escapeHtml c.title ++ " — Course"), ("course_id", escapeHtml c.id),
            ("total_lessons", toString c.lessonCount), ("header_content", header),
            ("content", objectives ++ "\n".intercalate cards)]).run setup) = .ok page)
      (indexPage c) := by
  unfold indexPage
  refine Sat.bind (Sat.mapM fun m _ => moduleCard_reads m files setup) fun cards hcards => ?_
  refine Sat.bind (render_reads _ _) fun header _ => ?_
  exact (render_reads _ _).mono fun page h => ⟨cards, hcards, header, _, h⟩

end Courseware.Site
