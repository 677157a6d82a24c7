import Courseware.Proofs.Template.Fill
import Courseware.Proofs.Text.Cut

/-!
# Built-in templates that render in full

A template text *fills* a set of variables (`fills`) when every reference left in it is a
variable of the set and no text between two references opens a reference or a comment: with a
context that binds the set, rendering it replaces every reference by a value and adds no
template syntax and no comment of its own. The built-in set *serves* a template name and a set
of variables (`servesBuiltin`) when it holds the template, includes its partials without a
cycle, and the text they give fills the set.

A built-in template without partial references expands to itself (`servesBuiltin_of_chars`).
The page frame `base.html` includes four built-in partials, none of which includes another, so
it expands in one level to its text with each reference replaced by its partial
(`builtinExpansion_base`).
-/

namespace Courseware.Template

open Pattern

/-- With a context that binds `keys`, the template text renders in full: each of its
references is a variable among `keys`, and no text between them opens a reference (two
braces) or an HTML comment, such as the one a missing partial leaves. -/
def fills (keys : List String) (text : String) : Bool :=
  let ps := cut variableRef text.toList
  (hits ps).all (fun r => keys.contains r.name) &&
    (runs ps).all fun run =>
      !(['{', '{'].isInfixOf_internal run) && !(['<', '!', '-', '-'].isInfixOf_internal run)

/-- The built-in set renders the template `name` in full with a context that binds `keys`: it
holds the template, includes its partials without a cycle, and the text they give `fills`. -/
def servesBuiltin (name : String) (keys : List String) : Bool :=
  match builtin? name with
  | some text =>
    match Engine.builtinExpansion text with
    | .ok t => fills keys t
    | .error _ => false
  | none => false

/-- The text of the built-in partial a reference includes. -/
def partialText (r : Reference) : List Char :=
  ((builtin? ("partials/" ++ partialFile r.name)).getD "").toList

namespace Engine

theorem foldlM_replacing {f : String → Piece Reference → TemplateM String} {J : Engine → Prop}
    {P : Reference → List Char} (hchar : ∀ out c, f out (.char c) = pure (out.push c)) :
    ∀ (ps : List (Piece Reference)),
      (∀ r, Piece.hit r ∈ ps → ∀ out e, J e →
        ∃ e', (f out (.hit r)).run e = .ok (out ++ String.ofList (P r)) e' ∧ J e') →
      ∀ out e, J e →
        ∃ e', (ps.foldlM f out).run e = .ok (out ++ String.ofList (joinPieces P ps)) e' ∧ J e'
  | [], _, out, e, he => ⟨e, by simp [joinPieces], he⟩
  | .char c :: ps, hps, out, e, he => by
    obtain ⟨e', hrun, he'⟩ :=
      foldlM_replacing hchar ps (fun r hr => hps r (List.mem_cons_of_mem _ hr)) (out.push c) e he
    refine ⟨e', ?_, he'⟩
    rw [List.foldlM_cons, hchar, EStateM.run_bind]
    show (ps.foldlM f (out.push c)).run e = _
    rw [hrun, String.push_eq_append, String.append_assoc, ← String.ofList_cons]
    rfl
  | .hit r :: ps, hps, out, e, he => by
    obtain ⟨e₁, hstep, he₁⟩ := hps r List.mem_cons_self out e he
    obtain ⟨e', hrun, he'⟩ := foldlM_replacing hchar ps
      (fun r hr => hps r (List.mem_cons_of_mem _ hr)) _ e₁ he₁
    refine ⟨e', ?_, he'⟩
    rw [List.foldlM_cons, EStateM.run_bind, hstep]
    show (ps.foldlM f _).run e₁ = _
    rw [hrun, String.append_assoc, ← String.ofList_append]
    rfl

theorem foldlM_replacing_run {f : String → Piece Reference → TemplateM String}
    {J : Engine → Prop} {P : Reference → List Char}
    (hchar : ∀ out c, f out (.char c) = pure (out.push c)) {ps : List (Piece Reference)}
    (hhit : ∀ r, Piece.hit r ∈ ps → ∀ out e, J e →
      ∃ e', (f out (.hit r)).run e = .ok (out ++ String.ofList (P r)) e' ∧ J e')
    {e : Engine} (he : J e) :
    ∃ e', (ps.foldlM f "").run e = .ok (String.ofList (joinPieces P ps)) e' ∧ J e' := by
  obtain ⟨e', hrun, he'⟩ := foldlM_replacing hchar ps hhit "" e he
  exact ⟨e', by rw [hrun, String.empty_append], he'⟩

/-- Including the partials of a text whose every reference names a built-in partial that
includes none replaces each reference by its partial's text. -/
theorem expand_flat (fs : FileStore) (d : Nat) {text : List Char}
    (hflat : ∀ r, Piece.hit r ∈ cut partialRef text → ∃ t,
      builtin? ("partials/" ++ partialFile r.name) = some t ∧
        cut partialRef t.toList = t.toList.map .char)
    {e : Engine} (hdir : e.dir = none) (hdef : e.useDefaults = true) (hcoh : Coherent fs e) :
    outcome ((expand fs [] (d + 1) text).run e) =
      .ok (String.ofList (joinPieces partialText (cut partialRef text))) := by
  rw [expand.eq_1, outcome_eq_ok]
  refine (foldlM_replacing_run (J := fun e => e.dir = none ∧ e.useDefaults = true ∧ Coherent fs e)
    ?_ ?_ ⟨hdir, hdef, hcoh⟩).imp fun _ h => h.1
  · intro out c
    rfl
  intro r hr out e he
  obtain ⟨t, hb, hchars⟩ := hflat r hr
  obtain ⟨hdir, hdef, hcoh⟩ := he
  obtain ⟨hfind, hcoh₁, hfresh⟩ := loadPartial_spec hcoh r.name
  rw [findPartial_dirless fs hdir, hdef, if_pos rfl, hb] at hfind
  rcases hload : (loadPartial fs r.name).run e with ⟨res, e₁⟩ | ⟨x, e₁⟩ <;>
    simp only [hload, outcome_ok, outcome_error, after_ok, reduceCtorEq] at hfind hcoh₁ hfresh
  cases hfind
  have hdir₁ : e₁.dir = none := by rw [← fresh_dir, hfresh, fresh_dir, hdir]
  have hdef₁ : e₁.useDefaults = true := by
    rw [← fresh_useDefaults, hfresh, fresh_useDefaults, hdef]
  refine ⟨e₁, ?_, hdir₁, hdef₁, hcoh₁⟩
  simp only [List.contains_nil, Bool.false_eq_true, ↓reduceIte, EStateM.run_bind, hload]
  rw [expand_of_chars fs _ d hchars e₁]
  simp only [partialText, hb, Option.getD_some, String.ofList_toList]
  rfl

end Engine

theorem servesBuiltin_of_expansion {name text t : String} (keys : List String)
    (hb : builtin? name = some text) (he : Engine.builtinExpansion text = .ok t) :
    servesBuiltin name keys = fills keys t := by
  simp only [servesBuiltin, hb, he]

/-- A built-in template without partial references is served when its own text fills. -/
theorem servesBuiltin_of_chars {name text : String} (keys : List String)
    (hb : builtin? name = some text) (hc : hits (cut partialRef text.toList) = []) :
    servesBuiltin name keys = fills keys text := by
  refine servesBuiltin_of_expansion keys hb ?_
  rw [Engine.builtinExpansion, Engine.expand_of_chars _ _ _ (cut_eq_chars hc),
    String.ofList_toList]
  rfl

theorem hit_not_mem_chars {α : Type} (a : α) (s : String) :
    Piece.hit a ∉ (chars s : List (Piece α)) := by
  simp [chars]

theorem partialText_eq {name t : String} (h : builtin? ("partials/" ++ partialFile name) = some t)
    (source : List Char) : partialText ⟨name, source⟩ = t.toList := by
  rw [partialText, h]
  rfl

/-! ## The page frame -/

set_option maxRecDepth 10000 in
theorem base_partials :
    cut partialRef Builtin.base.toList =
      chars ("<!doctype html>\n<html>\n<head>\n  <meta charset=\"utf-8\">\n" ++
        "  <meta name=\"viewport\" content=\"width=device-width,initial-scale=1\">\n" ++
        "  <title>\x7b\x7b title \x7d\x7d</title>\n  ") ++
      .hit ⟨"styles", "\x7b\x7b> styles \x7d\x7d".toList⟩ ::
      chars ("\n</head>\n<body data-course-id=\"\x7b\x7b course_id \x7d\x7d\" " ++
        "data-total-lessons=\"\x7b\x7b total_lessons \x7d\x7d\">\n  ") ++
      .hit ⟨"header", "\x7b\x7b> header \x7d\x7d".toList⟩ ::
      chars ("\n  <main>\n    <div class=\"container\">\n" ++
        "      \x7b\x7b content \x7d\x7d\n    </div>\n  </main>\n  ") ++
      .hit ⟨"footer", "\x7b\x7b> footer \x7d\x7d".toList⟩ ::
      chars "\n  " ++
      .hit ⟨"scripts", "\x7b\x7b> scripts \x7d\x7d".toList⟩ ::
      chars "\n</body>\n</html>" := by
  simp only [Builtin.base, String.toList_intercalate, List.map_cons, List.map_nil, chars,
    String.toList_append, List.map_append]
  repeat rw [String.toList_ofList]
  rw [cut_eq_cutBounded _ _ _ (Nat.le_refl _)]
  rfl

theorem frame_partials_found :
    builtin? ("partials/" ++ partialFile "styles") = some Builtin.styles ∧
      builtin? ("partials/" ++ partialFile "header") = some Builtin.header ∧
      builtin? ("partials/" ++ partialFile "footer") = some Builtin.footer ∧
      builtin? ("partials/" ++ partialFile "scripts") = some Builtin.scripts := by
  have hfile :
      ∀ n ∈ ["styles", "header", "footer", "scripts"], partialFile n = n ++ ".html" := by
    decide +kernel
  simp only [List.mem_cons, List.not_mem_nil, or_false, forall_eq_or_imp, forall_eq] at hfile
  obtain ⟨h₁, h₂, h₃, h₄⟩ := hfile
  rw [h₁, h₂, h₃, h₄]
  exact ⟨rfl, rfl, rfl, rfl⟩

set_option maxRecDepth 10000 in
theorem frame_partials_chars :
    ∀ t ∈ [Builtin.styles, Builtin.header, Builtin.footer, Builtin.scripts],
      cut partialRef t.toList = t.toList.map .char := by
  simp only [List.mem_cons, List.not_mem_nil, or_false]
  rintro t (rfl | rfl | rfl | rfl) <;> refine cut_eq_chars (List.isEmpty_iff.1 ?_) <;>
    simp only [Builtin.styles, Builtin.header, Builtin.footer, Builtin.scripts,
      String.toList_intercalate, List.map_cons, List.map_nil] <;>
    repeat rw [String.toList_ofList]
  all_goals
    rw [cut_eq_cutBounded _ _ _ (Nat.le_refl _)]
    decide

theorem base_partials_flat (r : Reference)
    (hr : Piece.hit r ∈ cut partialRef Builtin.base.toList) :
    ∃ t, builtin? ("partials/" ++ partialFile r.name) = some t ∧
      cut partialRef t.toList = t.toList.map .char := by
  obtain ⟨h₁, h₂, h₃, h₄⟩ := frame_partials_found
  rw [base_partials] at hr
  simp only [List.mem_append, List.mem_cons, hit_not_mem_chars, Piece.hit.injEq, false_or,
    or_false] at hr
  rcases hr with ((rfl | rfl) | rfl) | rfl
  · exact ⟨_, h₁, frame_partials_chars _ (by simp)⟩
  · exact ⟨_, h₂, frame_partials_chars _ (by simp)⟩
  · exact ⟨_, h₃, frame_partials_chars _ (by simp)⟩
  · exact ⟨_, h₄, frame_partials_chars _ (by simp)⟩

/-- The page frame expands, without a cycle, to its text with each partial in place. -/
theorem builtinExpansion_base :
    Engine.builtinExpansion Builtin.base =
      .ok (String.ofList (joinPieces partialText (cut partialRef Builtin.base.toList))) :=
  Engine.expand_flat {} 9 base_partials_flat rfl rfl (Engine.coherent_fresh {} { dir := none })

theorem servesBuiltin_base (keys : List String) :
    servesBuiltin "base.html" keys =
      fills keys (String.ofList (joinPieces partialText (cut partialRef Builtin.base.toList))) :=
  servesBuiltin_of_expansion keys rfl builtinExpansion_base

end Courseware.Template
