import Courseware.Template.Engine

/-!
# Caching does not change what renders

An engine keeps every template and partial it has loaded. As long as each kept text is what
loading would find afresh (`Coherent`), the caches are invisible: every computation of the
engine gives the same result from any two engines of one setup, whatever they hold
(`CacheBlind`), and leaves such engines behind. In particular an engine renders what an
engine of its setup with empty caches renders (`CacheBlind.run_eq_fresh`).
-/

namespace Courseware

@[simp] theorem except_ok_bind {ε α β : Type} (a : α) (f : α → Except ε β) :
    (Except.ok a >>= f) = f a := rfl

@[simp] theorem except_error_bind {ε α β : Type} (x : ε) (f : α → Except ε β) :
    (Except.error x >>= f) = Except.error x := rfl

@[simp] theorem except_map_ok {ε α β : Type} (f : α → β) (a : α) :
    (Except.ok a : Except ε α).map f = .ok (f a) := rfl

@[simp] theorem except_map_error {ε α β : Type} (f : α → β) (x : ε) :
    (Except.error x : Except ε α).map f = .error x := rfl

def ofOutcome {ε σ α : Type} (x : Except ε α) (next : α → σ) (s : σ) : EStateM.Result ε σ α :=
  match x with
  | .ok a => .ok a (next a)
  | .error e => .error e s

@[simp] theorem outcome_ok {ε σ α : Type} (a : α) (s : σ) :
    outcome (.ok a s : EStateM.Result ε σ α) = .ok a := rfl

@[simp] theorem outcome_error {ε σ α : Type} (e : ε) (s : σ) :
    outcome (.error e s : EStateM.Result ε σ α) = .error e := rfl

@[simp] theorem after_ok {ε σ α : Type} (a : α) (s : σ) :
    after (.ok a s : EStateM.Result ε σ α) = s := rfl

@[simp] theorem after_error {ε σ α : Type} (e : ε) (s : σ) :
    after (.error e s : EStateM.Result ε σ α) = s := rfl

@[simp] theorem ofOutcome_ok {ε σ α : Type} (a : α) (next : α → σ) (s : σ) :
    ofOutcome (.ok a : Except ε α) next s = .ok a (next a) := rfl

@[simp] theorem ofOutcome_error {ε σ α : Type} (e : ε) (next : α → σ) (s : σ) :
    ofOutcome (.error e : Except ε α) next s = .error e s := rfl

theorem outcome_ofOutcome {ε σ α : Type} (x : Except ε α) (next : α → σ) (s : σ) :
    outcome (ofOutcome x next s) = x := by
  cases x <;> rfl

theorem outcome_eq_ok {ε σ α : Type} {r : EStateM.Result ε σ α} {a : α} :
    outcome r = .ok a ↔ ∃ s, r = .ok a s := by
  cases r <;> simp [outcome]

theorem outcome_eq_error {ε σ α : Type} {r : EStateM.Result ε σ α} {x : ε} :
    outcome r = .error x ↔ ∃ s, r = .error x s := by
  cases r <;> simp [outcome]

theorem run_bind_eq_ok {σ ε α β : Type} {m : EStateM ε σ α} {f : α → EStateM ε σ β}
    {s s' : σ} {b : β} (h : (m >>= f).run s = .ok b s') :
    ∃ a s₁, m.run s = .ok a s₁ ∧ (f a).run s₁ = .ok b s' := by
  rw [EStateM.run_bind] at h
  rcases hx : m.run s with ⟨a, s₁⟩ | ⟨x, s₁⟩ <;> rw [hx] at h
  · exact ⟨a, s₁, rfl, h⟩
  · cases h

theorem run_bind_eq_error {σ ε α β : Type} {m : EStateM ε σ α} {f : α → EStateM ε σ β}
    {s s' : σ} {x : ε} (h : (m >>= f).run s = .error x s') :
    m.run s = .error x s' ∨ ∃ a s₁, m.run s = .ok a s₁ ∧ (f a).run s₁ = .error x s' := by
  rw [EStateM.run_bind] at h
  rcases hx : m.run s with ⟨a, s₁⟩ | ⟨y, s₁⟩ <;> rw [hx] at h
  · exact .inr ⟨a, s₁, rfl, h⟩
  · cases h
    exact .inl rfl

theorem after_run_bind {σ ε α β : Type} (m : EStateM ε σ α) (f : α → EStateM ε σ β) (s : σ) :
    after ((m >>= f).run s) = match m.run s with
      | .ok a s₁ => after ((f a).run s₁)
      | .error _ s₁ => s₁ := by
  rw [EStateM.run_bind]
  cases m.run s <;> rfl

theorem outcome_run_bind {σ ε α β : Type} (m : EStateM ε σ α) (f : α → EStateM ε σ β) (s : σ) :
    outcome ((m >>= f).run s) = match m.run s with
      | .ok a s₁ => outcome ((f a).run s₁)
      | .error x _ => .error x := by
  rw [EStateM.run_bind]
  cases m.run s <;> rfl

end Courseware

namespace Courseware.Template.Engine

/-- The engine's setup, with nothing cached. -/
def fresh (e : Engine) : Engine := { dir := e.dir, useDefaults := e.useDefaults }

@[simp] theorem fresh_dir (e : Engine) : e.fresh.dir = e.dir := rfl
@[simp] theorem fresh_useDefaults (e : Engine) : e.fresh.useDefaults = e.useDefaults := rfl
@[simp] theorem fresh_templates (e : Engine) : e.fresh.templates = [] := rfl
@[simp] theorem fresh_partials (e : Engine) : e.fresh.partials = [] := rfl
@[simp] theorem fresh_fresh (e : Engine) : e.fresh.fresh = e.fresh := rfl

@[simp] theorem fresh_cacheTemplate (e : Engine) (p : String × String) :
    { e with templates := p :: e.templates }.fresh = e.fresh := rfl

@[simp] theorem fresh_cachePartial (e : Engine) (p : String × String) :
    { e with partials := p :: e.partials }.fresh = e.fresh := rfl

/-! ## Reading the setup -/

theorem readExternal_run (fs : FileStore) (rel : String) (e : Engine) :
    (readExternal fs rel).run e =
      ofOutcome (outcome ((readExternal fs rel).run e.fresh)) (fun _ => e) e := by
  simp only [readExternal, EStateM.run_bind, EStateM.run_get, fresh_dir]
  cases e.dir with
  | none => rfl
  | some dir =>
    simp only
    split
    · rfl
    · split <;> rfl

theorem builtin_run (key : String) (e : Engine) :
    (builtin key).run e = ofOutcome (outcome ((builtin key).run e.fresh)) (fun _ => e) e := by
  simp only [builtin, EStateM.run_bind, EStateM.run_get, fresh_useDefaults]
  by_cases h : e.useDefaults = true <;> simp only [h] <;> rfl

/-! ## Loading -/

/-- What loading a template finds with nothing cached. -/
def findTemplate (fs : FileStore) (e : Engine) (name : String) :
    Except TemplateError (Option String) :=
  outcome ((loadTemplate fs name).run e.fresh)

/-- What loading a partial finds with nothing cached. -/
def findPartial (fs : FileStore) (e : Engine) (name : String) :
    Except TemplateError (Option String) :=
  outcome ((loadPartial fs name).run e.fresh)

def keepPartial (e : Engine) (name : String) : Option String → Engine
  | some text => { e with partials := (name, text) :: e.partials }
  | none => e

theorem loadPartial_run_uncached (fs : FileStore) {e : Engine} {name : String}
    (h : e.partials.lookup name = none) :
    (loadPartial fs name).run e = ofOutcome (findPartial fs e name) (keepPartial e name) e := by
  simp only [findPartial, loadPartial, EStateM.run_bind, EStateM.run_get, h, fresh_partials,
    List.lookup_nil]
  rw [readExternal_run fs _ e]
  have hr := readExternal_run fs (FileStore.join "partials" (partialFile name)) e.fresh
  rw [fresh_fresh] at hr
  rcases hx : (readExternal fs (FileStore.join "partials" (partialFile name))).run e.fresh with
    ⟨r, e'⟩ | ⟨x, e'⟩
  · rw [hx] at hr
    cases r with
    | some text => rw [hr]; rfl
    | none =>
      rw [hr]
      simp only [outcome_ok, ofOutcome_ok, EStateM.run_bind]
      rw [builtin_run _ e]
      have hb := builtin_run ("partials/" ++ partialFile name) e.fresh
      rw [fresh_fresh] at hb
      rcases hy : (builtin ("partials/" ++ partialFile name)).run e.fresh with ⟨r, e''⟩ | ⟨y, e''⟩
      · rw [hy] at hb
        rw [hb]
        cases r <;> rfl
      · rw [hy] at hb
        rw [hb]
        rfl
  · rw [hx] at hr
    rw [hr]
    rfl

theorem loadPartial_run_cached (fs : FileStore) {e : Engine} {name text : String}
    (h : e.partials.lookup name = some text) :
    (loadPartial fs name).run e = .ok (some text) e := by
  simp only [loadPartial, EStateM.run_bind, EStateM.run_get, h]
  rfl

def keepTemplate (e : Engine) (name : String) : Option String → Engine
  | some text => { e with templates := (name, text) :: e.templates }
  | none => e

theorem loadTemplate_run_uncached (fs : FileStore) {e : Engine} {name : String}
    (h : e.templates.lookup name = none) :
    (loadTemplate fs name).run e = ofOutcome (findTemplate fs e name) (keepTemplate e name) e := by
  simp only [findTemplate, loadTemplate, EStateM.run_bind, EStateM.run_get, h, fresh_templates,
    List.lookup_nil]
  rw [readExternal_run fs _ e]
  have hr := readExternal_run fs name e.fresh
  rw [fresh_fresh] at hr
  rcases hx : (readExternal fs name).run e.fresh with ⟨r, e'⟩ | ⟨x, e'⟩
  · rw [hx] at hr
    cases r with
    | some text => rw [hr]; rfl
    | none =>
      rw [hr]
      simp only [outcome_ok, ofOutcome_ok, EStateM.run_bind]
      rw [builtin_run _ e]
      have hb := builtin_run name e.fresh
      rw [fresh_fresh] at hb
      rcases hy : (builtin name).run e.fresh with ⟨r, e''⟩ | ⟨y, e''⟩
      · rw [hy] at hb
        rw [hb]
        cases r <;> rfl
      · rw [hy] at hb
        rw [hb]
        rfl
  · rw [hx] at hr
    rw [hr]
    rfl

theorem loadTemplate_run_cached (fs : FileStore) {e : Engine} {name text : String}
    (h : e.templates.lookup name = some text) :
    (loadTemplate fs name).run e = .ok (some text) e := by
  simp only [loadTemplate, EStateM.run_bind, EStateM.run_get, h]
  rfl

/-! ## Coherent engines -/

/-- Every text an engine keeps is what loading finds with nothing cached. -/
structure Coherent (fs : FileStore) (e : Engine) : Prop where
  templates : ∀ p ∈ e.templates, findTemplate fs e p.1 = .ok (some p.2)
  partials : ∀ p ∈ e.partials, findPartial fs e p.1 = .ok (some p.2)

theorem findTemplate_congr (fs : FileStore) {e₁ e₂ : Engine} (h : e₁.fresh = e₂.fresh)
    (name : String) : findTemplate fs e₁ name = findTemplate fs e₂ name := by
  simp only [findTemplate, h]

theorem findPartial_congr (fs : FileStore) {e₁ e₂ : Engine} (h : e₁.fresh = e₂.fresh)
    (name : String) : findPartial fs e₁ name = findPartial fs e₂ name := by
  simp only [findPartial, h]

theorem coherent_fresh (fs : FileStore) (e : Engine) : Coherent fs e.fresh :=
  ⟨by simp, by simp⟩

theorem lookup_sound {l : List (String × String)} {name text : String}
    (h : l.lookup name = some text) : (name, text) ∈ l := by
  obtain ⟨l₁, l₂, rfl, -⟩ := List.lookup_eq_some_iff.1 h
  simp

theorem loadPartial_spec {fs : FileStore} {e : Engine} (h : Coherent fs e) (name : String) :
    outcome ((loadPartial fs name).run e) = findPartial fs e name ∧
      Coherent fs (after ((loadPartial fs name).run e)) ∧
        (after ((loadPartial fs name).run e)).fresh = e.fresh := by
  rcases hl : e.partials.lookup name with _ | text
  · rw [loadPartial_run_uncached fs hl, outcome_ofOutcome]
    refine ⟨rfl, ?_⟩
    rcases hf : findPartial fs e name with x | r
    · exact ⟨h, rfl⟩
    · cases r with
      | none => exact ⟨h, rfl⟩
      | some text =>
        refine ⟨⟨h.templates, fun p hp => ?_⟩, rfl⟩
        rcases List.mem_cons.1 hp with rfl | hp
        · exact hf
        · exact h.partials p hp
  · rw [loadPartial_run_cached fs hl]
    exact ⟨(h.partials _ (lookup_sound hl)).symm, h, rfl⟩

theorem loadTemplate_spec {fs : FileStore} {e : Engine} (h : Coherent fs e) (name : String) :
    outcome ((loadTemplate fs name).run e) = findTemplate fs e name ∧
      Coherent fs (after ((loadTemplate fs name).run e)) ∧
        (after ((loadTemplate fs name).run e)).fresh = e.fresh := by
  rcases hl : e.templates.lookup name with _ | text
  · rw [loadTemplate_run_uncached fs hl, outcome_ofOutcome]
    refine ⟨rfl, ?_⟩
    rcases hf : findTemplate fs e name with x | r
    · exact ⟨h, rfl⟩
    · cases r with
      | none => exact ⟨h, rfl⟩
      | some text =>
        refine ⟨⟨fun p hp => ?_, h.partials⟩, rfl⟩
        rcases List.mem_cons.1 hp with rfl | hp
        · exact hf
        · exact h.templates p hp
  · rw [loadTemplate_run_cached fs hl]
    exact ⟨(h.templates _ (lookup_sound hl)).symm, h, rfl⟩

/-! ## Properties every operation has -/

/-- A property of computations that returning and failing have and that running one computation
after another keeps. The engine's operations are built from these, `if` and the two loads, so a
property of this kind that the loads have, every operation has. -/
structure Closed (P : ∀ {α : Type}, TemplateM α → Prop) : Prop where
  pure {α : Type} (a : α) : P (Pure.pure a : TemplateM α)
  throw {α : Type} (x : TemplateError) : P (MonadExcept.throw x : TemplateM α)
  bind {α β : Type} {m : TemplateM α} {f : α → TemplateM β} : P m → (∀ a, P (f a)) → P (m >>= f)

namespace Closed

variable {P : ∀ {α : Type}, TemplateM α → Prop} {fs : FileStore}

theorem ite {α : Type} {c : Prop} [Decidable c] {m₁ m₂ : TemplateM α} (h₁ : P m₁) (h₂ : P m₂) :
    P (if c then m₁ else m₂) := by
  split
  · exact h₁
  · exact h₂

theorem foldlM (hP : Closed P) {α γ : Type} {f : α → γ → TemplateM α} (hf : ∀ a x, P (f a x)) :
    ∀ (xs : List γ) (init : α), P (xs.foldlM f init)
  | [], init => hP.pure init
  | x :: xs, init => by
    rw [List.foldlM_cons]
    exact hP.bind (hf init x) fun a => foldlM hP hf xs a

theorem expand (hP : Closed P) (hload : ∀ name, P (loadPartial fs name)) (d : Nat) :
    ∀ (chain : List String) (text : List Char), P (Engine.expand fs chain d text) := by
  induction d with
  | zero =>
    intro chain text
    rw [Engine.expand.eq_1]
    refine hP.foldlM (fun out piece => ?_) _ _
    cases piece with
    | char c => exact hP.pure _
    | hit r => exact ite (hP.bind (hP.throw _) fun _ => hP.pure _) (hP.pure _)
  | succ d ih =>
    intro chain text
    rw [Engine.expand.eq_1]
    refine hP.foldlM (fun out piece => ?_) _ _
    cases piece with
    | char c => exact hP.pure _
    | hit r =>
      -- both branches of the cycle check go on to load the partial
      refine ite (hP.bind (hP.throw _) fun _ => ?_) ?_ <;>
        refine hP.bind (hload _) fun res => ?_ <;>
        cases res with
        | some content => exact hP.bind (ih _ _) fun _ => hP.pure _
        | none => exact hP.pure _

theorem renderString (hP : Closed P) (hload : ∀ name, P (loadPartial fs name)) (text : String)
    (ctx : Context) : P (Engine.renderString fs text ctx) :=
  hP.bind (hP.expand hload _ _ _) fun _ => hP.pure _

theorem render (hP : Closed P) (hpartial : ∀ name, P (loadPartial fs name))
    (htemplate : ∀ name, P (loadTemplate fs name)) (name : String) (ctx : Context) :
    P (Engine.render fs name ctx) :=
  hP.bind (htemplate name) fun res => by
    cases res with
    | some text => exact hP.renderString hpartial text ctx
    | none => exact hP.pure _

theorem hasTemplate (hP : Closed P) (htemplate : ∀ name, P (loadTemplate fs name))
    (name : String) : P (Engine.hasTemplate fs name) :=
  hP.bind (htemplate name) fun _ => hP.pure _

end Closed

/-! ## Computations that do not see the caches -/

/-- `m` gives one result from every coherent engine of a setup, and whatever its outcome leaves
a coherent engine of that setup behind. -/
structure CacheBlind {α : Type} (fs : FileStore) (m : TemplateM α) : Prop where
  result : ∀ e₁ e₂, Coherent fs e₁ → Coherent fs e₂ → e₁.fresh = e₂.fresh →
    outcome (m.run e₁) = outcome (m.run e₂)
  keeps : ∀ e, Coherent fs e → Coherent fs (after (m.run e)) ∧ (after (m.run e)).fresh = e.fresh

namespace CacheBlind

variable {α β : Type} {fs : FileStore}

theorem pure (a : α) : CacheBlind fs (Pure.pure a : TemplateM α) :=
  ⟨fun _ _ _ _ _ => rfl, fun _ h => ⟨h, rfl⟩⟩

theorem throw (x : TemplateError) : CacheBlind fs (MonadExcept.throw x : TemplateM α) :=
  ⟨fun _ _ _ _ _ => rfl, fun _ h => ⟨h, rfl⟩⟩

theorem bind {m : TemplateM α} {f : α → TemplateM β} (hm : CacheBlind fs m)
    (hf : ∀ a, CacheBlind fs (f a)) : CacheBlind fs (m >>= f) := by
  refine ⟨fun e₁ e₂ h₁ h₂ he => ?_, fun e h => ?_⟩
  · have hres := hm.result e₁ e₂ h₁ h₂ he
    have k₁ := hm.keeps e₁ h₁
    have k₂ := hm.keeps e₂ h₂
    rw [outcome_run_bind, outcome_run_bind]
    rcases hx₁ : m.run e₁ with ⟨a₁, e₁'⟩ | ⟨x₁, e₁'⟩ <;>
      rcases hx₂ : m.run e₂ with ⟨a₂, e₂'⟩ | ⟨x₂, e₂'⟩ <;>
      rw [hx₁, hx₂] at hres <;> cases hres
    · -- both first steps gave one value and left coherent engines of the setup
      rw [hx₁, after_ok] at k₁
      rw [hx₂, after_ok] at k₂
      exact (hf a₁).result e₁' e₂' k₁.1 k₂.1 (by rw [k₁.2, k₂.2, he])
    · rfl
  · have k := hm.keeps e h
    rw [after_run_bind]
    rcases hx : m.run e with ⟨a, e₁⟩ | ⟨x, e₁⟩ <;> rw [hx] at k
    · rw [after_ok] at k
      obtain ⟨k', f'⟩ := (hf a).keeps e₁ k.1
      exact ⟨k', f'.trans k.2⟩
    · exact k

end CacheBlind

theorem loadPartial_cacheBlind (fs : FileStore) (name : String) :
    CacheBlind fs (loadPartial fs name) :=
  ⟨fun e₁ e₂ h₁ h₂ he => by
    rw [(loadPartial_spec h₁ name).1, (loadPartial_spec h₂ name).1, findPartial_congr fs he],
   fun _ h => (loadPartial_spec h name).2⟩

theorem loadTemplate_cacheBlind (fs : FileStore) (name : String) :
    CacheBlind fs (loadTemplate fs name) :=
  ⟨fun e₁ e₂ h₁ h₂ he => by
    rw [(loadTemplate_spec h₁ name).1, (loadTemplate_spec h₂ name).1, findTemplate_congr fs he],
   fun _ h => (loadTemplate_spec h name).2⟩

theorem CacheBlind.closed (fs : FileStore) : Closed (CacheBlind fs) :=
  ⟨CacheBlind.pure, CacheBlind.throw, CacheBlind.bind⟩

theorem renderString_cacheBlind (fs : FileStore) (text : String) (ctx : Context) :
    CacheBlind fs (renderString fs text ctx) :=
  (CacheBlind.closed fs).renderString (loadPartial_cacheBlind fs) text ctx

theorem render_cacheBlind (fs : FileStore) (name : String) (ctx : Context) :
    CacheBlind fs (render fs name ctx) :=
  (CacheBlind.closed fs).render (loadPartial_cacheBlind fs) (loadTemplate_cacheBlind fs) name ctx

theorem hasTemplate_cacheBlind (fs : FileStore) (name : String) :
    CacheBlind fs (hasTemplate fs name) :=
  (CacheBlind.closed fs).hasTemplate (loadTemplate_cacheBlind fs) name

/-- What a coherent engine computes, an engine of its setup with nothing cached computes too. -/
theorem CacheBlind.run_eq_fresh {α : Type} {fs : FileStore} {m : TemplateM α}
    (hm : CacheBlind fs m) {e e' : Engine} {a : α} (h : Coherent fs e)
    (hr : m.run e = .ok a e') :
    outcome (m.run e.fresh) = .ok a ∧ Coherent fs e' ∧ e'.fresh = e.fresh := by
  have hk := hm.keeps e h
  rw [hr, after_ok] at hk
  have hres := hm.result e e.fresh h (coherent_fresh fs e) rfl
  rw [hr, outcome_ok] at hres
  exact ⟨hres.symm, hk⟩

end Courseware.Template.Engine
