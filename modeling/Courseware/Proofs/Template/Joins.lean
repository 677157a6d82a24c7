import Courseware.Proofs.Template.Limit
import Courseware.Proofs.Template.Cycle

/-!
# Where expansion can leave a partial reference

`expand` reads the references of each text once, the template's and then each partial's, level
by level, and writes each partial's expansion where its reference stood. The text it builds is
therefore made of *stretches*: the runs of the template's text and of each partial's text
between their references, laid end to end (`stretches`, `expand_run_of_resolves`). No stretch
holds a partial reference, since each is a run its own text was read across (`runs_cut_free`).
So where every reference met names a partial that is found, outside the chain and within the
depth limit (`Resolves`), a partial reference in the expanded text can only be one formed across
the join of two stretches (`reference_crosses_join`); it is never read again.
-/

namespace Courseware.Template.Engine

open Pattern

/-- What loading a partial afresh finds, a failure read as nothing. -/
def foundPartial (fs : FileStore) (s : Engine) (name : String) : Option String :=
  match findPartial fs s name with
  | .ok r => r
  | .error _ => none

theorem findPartial_of_found {fs : FileStore} {s : Engine} {name content : String}
    (h : foundPartial fs s name = some content) : findPartial fs s name = .ok (some content) := by
  unfold foundPartial at h
  split at h
  · rename_i r hr
    rw [hr, h]
  · cases h

/-! ## Stretches -/

/-- The runs between the matches of a list of pieces, each match replaced by the texts `f` gives
for it. -/
def weave {α : Type} (f : α → List (List Char)) : List (Piece α) → List (List Char)
  | [] => [[]]
  | .char c :: ps => (weave f ps).modifyHead (c :: ·)
  | .hit a :: ps => [] :: (f a ++ weave f ps)

/-- The stretches of the text that expanding `text` with `d` levels left builds, `find` giving the
partials: each reference is replaced by the stretches of its partial's text one level down, or
by the comment saying that it was not found; with no level left the text stays whole. -/
def stretches (find : String → Option String) : Nat → List Char → List (List Char)
  | 0, text => [text]
  | d + 1, text => weave (fun r => match find r.name with
      | some content => stretches find d content.toList
      | none => [(s!"<!-- Partial '{r.name}' not found -->").toList]) (cut partialRef text)

/-- Every reference met in expanding `text` with `d` levels left, the keys `chain` being
included, names a partial that `find` gives and whose key is not in the chain; with no level
left, the text holds no reference. -/
def Resolves (find : String → Option String) : List String → Nat → List Char → Prop
  | _, 0, text => ∀ r, Piece.hit r ∉ cut partialRef text
  | chain, d + 1, text => ∀ r, Piece.hit r ∈ cut partialRef text →
      partialKey r.name ∉ chain ∧ ∃ content, find r.name = some content ∧
        Resolves find (chain ++ [partialKey r.name]) d content.toList

section Weave

variable {α : Type} {f : α → List (List Char)}

theorem weave_runs_head : ∀ ps : List (Piece α),
    ∃ h t t', weave f ps = h :: t ∧ runs ps = h :: t'
  | [] => ⟨[], [], [], rfl, rfl⟩
  | .char c :: ps => by
    obtain ⟨h, t, t', hw, hr⟩ := weave_runs_head ps
    exact ⟨c :: h, t, t', by rw [weave, hw, List.modifyHead_cons],
      by rw [runs, hr, List.modifyHead_cons]⟩
  | .hit a :: ps => ⟨[], _, _, rfl, rfl⟩

theorem mem_weave_tail : ∀ {ps : List (Piece α)} {st : List Char}, st ∈ (weave f ps).tail →
    st ∈ (runs ps).tail ∨ ∃ a, Piece.hit a ∈ ps ∧ st ∈ f a
  | [], st, h => by simp [weave] at h
  | .char c :: ps, st, h => by
    rw [weave, List.tail_modifyHead] at h
    rw [runs, List.tail_modifyHead]
    rcases mem_weave_tail h with h | ⟨a, ha, h⟩
    · exact .inl h
    · exact .inr ⟨a, List.mem_cons_of_mem _ ha, h⟩
  | .hit a :: ps, st, h => by
    rw [weave, List.tail_cons, List.mem_append] at h
    rw [runs, List.tail_cons]
    obtain ⟨h₀, t, t', hw, hr⟩ := weave_runs_head (f := f) ps
    rcases h with h | h
    · exact .inr ⟨a, List.mem_cons_self, h⟩
    · -- the first text after the match is the first run after it
      rw [hw] at h
      rcases List.mem_cons.1 h with rfl | h
      · exact .inl (by rw [hr]; exact List.mem_cons_self)
      · rcases mem_weave_tail (by rw [hw]; exact h) with h | ⟨b, hb, h⟩
        · exact .inl (List.mem_of_mem_tail h)
        · exact .inr ⟨b, List.mem_cons_of_mem _ hb, h⟩

theorem flatten_weave : ∀ ps : List (Piece α),
    (weave f ps).flatten = joinPieces (fun a => (f a).flatten) ps
  | [] => rfl
  | .char c :: ps => by
    obtain ⟨h, t, t', hw, -⟩ := weave_runs_head (f := f) ps
    rw [weave, joinPieces, ← flatten_weave ps, hw, List.modifyHead_cons, List.flatten_cons,
      List.flatten_cons, List.cons_append]
  | .hit a :: ps => by simp [weave, joinPieces, flatten_weave ps]

theorem mem_weave {st : List Char} {ps : List (Piece α)} (h : st ∈ weave f ps) :
    st ∈ runs ps ∨ ∃ a, Piece.hit a ∈ ps ∧ st ∈ f a := by
  obtain ⟨h₀, t, t', hw, hr⟩ := weave_runs_head (f := f) ps
  rw [hw] at h
  rcases List.mem_cons.1 h with rfl | h
  · exact .inl (by rw [hr]; exact List.mem_cons_self)
  · exact (mem_weave_tail (by rw [hw]; exact h)).imp_left List.mem_of_mem_tail

end Weave

theorem weave_chars {α : Type} (f : α → List (List Char)) (cs : List Char) :
    weave f (cs.map .char) = [cs] := by
  induction cs with
  | nil => rfl
  | cons c cs ih => rw [List.map_cons, weave, ih, List.modifyHead_cons]

theorem runs_chars (cs : List Char) : runs (cs.map (Piece.char (α := Reference))) = [cs] := by
  induction cs with
  | nil => rfl
  | cons c cs ih => rw [List.map_cons, runs, ih, List.modifyHead_cons]

/-! ## The stretches of a text that resolves -/

section Resolving

variable {find : String → Option String}

theorem mem_stretches : ∀ {d : Nat} {chain : List String} {text : List Char},
    Resolves find chain d text → ∀ st ∈ stretches find d text,
      st ∈ runs (cut partialRef text) ∨
        ∃ name content, find name = some content ∧ st ∈ runs (cut partialRef content.toList)
  | 0, chain, text, hres, st, hst => by
    have hcut : cut partialRef text = text.map .char :=
      cut_eq_chars (List.eq_nil_iff_forall_not_mem.2 fun r hr => hres r (mem_hits hr))
    rw [stretches, List.mem_singleton] at hst
    left
    rw [hcut, runs_chars, hst]
    exact List.mem_singleton_self _
  | d + 1, chain, text, hres, st, hst => by
    rcases mem_weave hst with h | ⟨r, hr, h⟩
    · exact .inl h
    · obtain ⟨-, content, hfind, hres'⟩ := hres r hr
      rw [hfind] at h
      rcases mem_stretches hres' st h with h | h
      · exact .inr ⟨r.name, content, hfind, h⟩
      · exact .inr h

theorem stretches_free {d : Nat} {chain : List String} {text : List Char}
    (hres : Resolves find chain d text) :
    ∀ st ∈ stretches find d text, ∀ i, partialRef (st.drop i) = none := by
  intro st hst
  rcases mem_stretches hres st hst with h | ⟨_, _, _, h⟩ <;> exact runs_cut_free st h

end Resolving

/-- From a coherent engine of the setup `s`, expanding a text that resolves in what loading
afresh finds builds its stretches laid end to end, and leaves a coherent engine of the setup. -/
theorem expand_run_of_resolves (fs : FileStore) (s : Engine) :
    ∀ (d : Nat) (chain : List String) (text : List Char),
      Resolves (foundPartial fs s) chain d text → ∀ e, Coherent fs e → e.fresh = s.fresh →
        ∃ e', (expand fs chain d text).run e =
            .ok (String.ofList (stretches (foundPartial fs s) d text).flatten) e' ∧
          Coherent fs e' ∧ e'.fresh = s.fresh := by
  intro d
  induction d with
  | zero =>
    intro chain text hres e he hs
    refine ⟨e, ?_, he, hs⟩
    rw [expand_zero fs chain text (fun r hr => absurd hr (hres r)) e, stretches,
      List.flatten_singleton]
  | succ d ih =>
    intro chain text hres e he hs
    rw [expand.eq_1, stretches, flatten_weave]
    refine foldlM_replacing_run (J := fun e => Coherent fs e ∧ e.fresh = s.fresh) ?_ ?_ ⟨he, hs⟩
    · intro out c
      rfl
    rintro r hr out e ⟨he, hs⟩
    obtain ⟨hkey, content, hfind, hres'⟩ := hres r hr
    obtain ⟨e₁, hload, he₁, hs₁⟩ := loadPartial_run_ok he hs (findPartial_of_found hfind)
    obtain ⟨e₂, hexp, he₂, hs₂⟩ := ih _ _ hres' e₁ he₁ hs₁
    refine ⟨e₂, ?_, he₂, hs₂⟩
    have hkey' : chain.contains (partialKey r.name) = false := by simpa using hkey
    simp only [hkey', Bool.false_eq_true, ↓reduceIte, EStateM.run_bind, hload]
    rw [hexp, hfind]
    rfl

/-- The stretches of the text that rendering `text` expands, from an engine `e` of the store. -/
def renderStretches (fs : FileStore) (e : Engine) (text : String) : List (List Char) :=
  stretches (foundPartial fs e) maxPartialDepth text.toList

/-- From a coherent engine, rendering a text that resolves fills the variables of its stretches
laid end to end. -/
theorem renderString_run_of_resolves {fs : FileStore} {e : Engine} (he : Coherent fs e)
    (text : String) (ctx : Context)
    (hres : Resolves (foundPartial fs e) [] maxPartialDepth text.toList) :
    outcome ((renderString fs text ctx).run e) =
      .ok (String.ofList (substitute ctx (renderStretches fs e text).flatten)) := by
  obtain ⟨e', hrun, -⟩ := expand_run_of_resolves fs e _ _ _ hres e he rfl
  simp only [renderString, EStateM.run_bind, hrun]
  rw [String.toList_ofList]
  rfl

/-- Where every partial reference met in rendering names a partial that is found, outside the
chain of partials being included and within the depth limit, rendering fills the variables of
the text that expansion builds; that text is made of stretches, each a run of the template's text
or of a found partial's text between their references, and a partial reference in it is one read
across the join of two stretches, never one within a stretch. -/
theorem expanded_references_cross_joins {fs : FileStore} {e : Engine} (he : Coherent fs e)
    (text : String) (ctx : Context)
    (hres : Resolves (foundPartial fs e) [] maxPartialDepth text.toList) :
    outcome ((renderString fs text ctx).run e) =
        .ok (String.ofList (substitute ctx (renderStretches fs e text).flatten)) ∧
      (∀ st ∈ renderStretches fs e text, st ∈ runs (cut partialRef text.toList) ∨
        ∃ name content, foundPartial fs e name = some content ∧
          st ∈ runs (cut partialRef content.toList)) ∧
      ∀ i r n, partialRef ((renderStretches fs e text).flatten.drop i) = some (r, n) →
        ∃ k, i < ((renderStretches fs e text).take k).flatten.length ∧
          ((renderStretches fs e text).take k).flatten.length < i + n :=
  ⟨renderString_run_of_resolves he text ctx hres, mem_stretches hres,
    reference_crosses_join (stretches_free hres)⟩

/-! ## A partial ending in `{{` -/

/-- A template directory `t` whose partial `a` is `{{` and whose partial `b` is `B`. -/
def braceStore : FileStore where
  entries := [(["t"], .dir), (["t", "partials"], .dir),
    (["t", "partials", "a.html"], .file "\x7b\x7b".toUTF8.toList),
    (["t", "partials", "b.html"], .file "B".toUTF8.toList)]

/-- `{{> a }}` followed by `> b }}`. -/
def braceTemplate : String := "\x7b\x7b> a \x7d\x7d> b \x7d\x7d"

theorem braceStore_found :
    findPartial braceStore { dir := some "t" } "a" = .ok (some "\x7b\x7b") ∧
      findPartial braceStore { dir := some "t" } "b" = .ok (some "B") :=
  ⟨eq_ok_of_toOption (by decide +kernel), eq_ok_of_toOption (by decide +kernel)⟩

theorem braceStore_a : foundPartial braceStore { dir := some "t" } "a" = some "\x7b\x7b" := by
  simp only [foundPartial, braceStore_found.1]

theorem cut_braceTemplate : cut partialRef braceTemplate.toList =
    .hit ⟨"a", "\x7b\x7b> a \x7d\x7d".toList⟩ :: "> b \x7d\x7d".toList.map .char := by
  rw [cut_eq_cutBounded _ _ _ (Nat.le_refl _)]
  rfl

theorem cut_braces : cut partialRef "\x7b\x7b".toList = "\x7b\x7b".toList.map .char := by
  rw [cut_eq_cutBounded _ _ _ (Nat.le_refl _)]
  rfl

theorem braceStore_coherent : Coherent braceStore { dir := some "t" } :=
  coherent_fresh braceStore { dir := some "t" }

theorem braceTemplate_resolves :
    Resolves (foundPartial braceStore { dir := some "t" }) [] maxPartialDepth
      braceTemplate.toList := by
  rw [show maxPartialDepth = 9 + 1 from rfl, Resolves, cut_braceTemplate]
  intro r hr
  rcases List.mem_cons.1 hr with h | h
  · cases h
    refine ⟨List.not_mem_nil, _, braceStore_a, ?_⟩
    rw [show (9 : Nat) = 8 + 1 from rfl, Resolves, cut_braces]
    exact fun r' hr' => absurd hr' (hit_not_mem_chars r' _)
  · exact absurd h (hit_not_mem_chars r _)

theorem braceTemplate_stretches :
    renderStretches braceStore { dir := some "t" } braceTemplate =
      [[], "\x7b\x7b".toList, "> b \x7d\x7d".toList] := by
  rw [renderStretches, show maxPartialDepth = 9 + 1 from rfl, stretches, cut_braceTemplate, weave,
    weave_chars]
  simp only [braceStore_a, stretches, cut_braces, weave_chars]
  rfl

/-- Partial `a` is `{{`, and every reference met resolves: rendering `{{> a }}> b }}` joins `{{`
to the text after the reference, and gives `{{> b }}`, a partial reference to `b`, which is
found. -/
theorem partial_reference_across_join :
    Resolves (foundPartial braceStore { dir := some "t" }) [] maxPartialDepth
        braceTemplate.toList ∧
      outcome ((renderString braceStore braceTemplate []).run { dir := some "t" }) =
        .ok "\x7b\x7b> b \x7d\x7d" ∧
      partialRef "\x7b\x7b> b \x7d\x7d".toList =
        some (⟨"b", "\x7b\x7b> b \x7d\x7d".toList⟩, 8) ∧
      findPartial braceStore { dir := some "t" } "b" = .ok (some "B") := by
  refine ⟨braceTemplate_resolves, ?_, rfl, braceStore_found.2⟩
  rw [renderString_run_of_resolves braceStore_coherent _ _ braceTemplate_resolves,
    braceTemplate_stretches]
  have hflat : [[], "\x7b\x7b".toList, "> b \x7d\x7d".toList].flatten =
      "\x7b\x7b> b \x7d\x7d".toList := by decide
  have hsub : substitute [] "\x7b\x7b> b \x7d\x7d".toList = "\x7b\x7b> b \x7d\x7d".toList := by
    rw [substitute_eq_joinPieces, cut_eq_cutBounded _ _ _ (Nat.le_refl _)]
    rfl
  rw [hflat, hsub, String.ofList_toList]

/-- The stretches of `{{> a }}> b }}` are the empty run before the reference, the text of `a` and
the run after it, and the partial reference that rendering leaves crosses a join between them. -/
theorem braceTemplate_joins :
    renderStretches braceStore { dir := some "t" } braceTemplate =
        [[], "\x7b\x7b".toList, "> b \x7d\x7d".toList] ∧
      ∃ k, 0 < ((renderStretches braceStore { dir := some "t" } braceTemplate).take k).flatten.length ∧
        ((renderStretches braceStore { dir := some "t" } braceTemplate).take k).flatten.length < 8 := by
  obtain ⟨-, -, hjoin⟩ := expanded_references_cross_joins braceStore_coherent braceTemplate []
    braceTemplate_resolves
  refine ⟨braceTemplate_stretches, hjoin 0 ⟨"b", "\x7b\x7b> b \x7d\x7d".toList⟩ 8 ?_⟩
  rw [braceTemplate_stretches]
  rfl

end Courseware.Template.Engine
