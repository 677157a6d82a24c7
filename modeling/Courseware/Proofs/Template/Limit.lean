import Courseware.Proofs.Template.Canonical
import Courseware.Proofs.Template.Served

/-!
# References below the last level

`expand` enters at most `maxPartialDepth` levels of partials. Below the last one a reference is
written as it stands (`expand_zero`), and so it reaches variable substitution, which runs over
the whole expanded text and also reads `{{`. A partial reference written with no blank after its
`>` is read there as the variable whose name starts with `>` (`substitute_unspaced`): it is
filled from the context, or written again as `{{ >name }}`. One written with a blank after its
`>` reads as no variable, and no variable read before it reaches into it: past its `>` a blank
ends any name, and then stands a name character where `}}` would have to (`variableRef_before_spaced`).
With no `{` in its name, it is kept as written whatever text stands around it
(`substitute_spaced`).
-/

namespace Courseware.Template

open Pattern

abbrev partialOpener : List Char := ['{', '{', '>']

/-- A partial reference with no blank after its `>`, read as a variable: the `>` starts the
name. -/
def Spelling.marked (s : Spelling) : Spelling :=
  ⟨[], '>' :: s.name, s.trail, by simp, List.cons_ne_nil _ _,
    fun c hc => by
      rcases List.mem_cons.1 hc with rfl | hc
      · decide
      · exact s.name_chars c hc,
    s.trail_blank⟩

theorem Spelling.text_marked {s : Spelling} (h : s.lead = []) :
    s.text partialOpener = s.marked.text ['{', '{'] := by
  simp [Spelling.text, Spelling.marked, h]

theorem partialRef_eq : partialRef = reference partialOpener := rfl

/-! ## Expansion below the last level -/

theorem Engine.foldlM_keeping {f : String → Piece Reference → TemplateM String}
    {P : Reference → List Char} (hchar : ∀ out c, f out (.char c) = pure (out.push c))
    {ps : List (Piece Reference)}
    (hhit : ∀ r, Piece.hit r ∈ ps → ∀ out e,
      (f out (.hit r)).run e = .ok (out ++ String.ofList (P r)) e) (e : Engine) :
    (ps.foldlM f "").run e = .ok (String.ofList (joinPieces P ps)) e := by
  obtain ⟨e', hrun, rfl⟩ := Engine.foldlM_replacing_run (J := (· = e)) hchar
    (fun r hr out e' he' => ⟨e', hhit r hr out e', he'⟩) rfl
  exact hrun

/-- With no levels left, expansion writes every reference as it stands, unless one names a
partial of the chain. -/
theorem Engine.expand_zero (fs : FileStore) (chain : List String) (text : List Char)
    (hfree : ∀ r, Piece.hit r ∈ cut partialRef text → partialKey r.name ∉ chain) (e : Engine) :
    (Engine.expand fs chain 0 text).run e = .ok (String.ofList text) e := by
  have htext : String.ofList text = String.ofList (joinPieces (·.source) (cut partialRef text)) := by
    rw [partialRef_eq, joinPieces_cut (reference_spells _)]
  rw [Engine.expand.eq_1, htext]
  refine Engine.foldlM_keeping (fun _ _ => rfl) ?_ e
  intro r hr out e'
  simp [hfree r hr]

/-! ## What substitution makes of a written partial reference -/

theorem substitute_unspaced (ctx : Context) {s : Spelling} (h : s.lead = []) (y : List Char) :
    substitute ctx (s.text partialOpener ++ y) =
      (fillVar ctx (">" ++ String.ofList s.name)).toList ++ substitute ctx y := by
  have hname : String.ofList ('>' :: s.name) = ">" ++ String.ofList s.name := by
    have hmark : String.singleton '>' = ">" := by decide
    rw [String.ofList_cons, hmark]
  rw [substitute_eq_joinPieces, Spelling.text_marked h, variableRef_eq, cut_spelling (by simp),
    joinPieces, ← variableRef_eq, ← substitute_eq_joinPieces, Spelling.ref_name]
  simp only [Spelling.marked, hname]

/-- A variable reference read from a text that goes on with a partial reference written with a
blank after its `>` ends before it. -/
theorem variableRef_before_spaced (x : List Char) {s : Spelling} (hs : s.lead ≠ [])
    (w : List Char) {r : Reference} {n : Nat}
    (h : variableRef (x ++ (s.text partialOpener ++ w)) = some (r, n)) : n ≤ x.length := by
  obtain ⟨t, rest, hT, -, rfl⟩ := reference_eq_some h
  obtain ⟨b, bs, hlead⟩ := List.exists_cons_of_ne_nil hs
  obtain ⟨d, ds, hname⟩ := List.exists_cons_of_ne_nil s.name_ne_nil
  have hb : Text.isBlank b = true := s.lead_blank b (by simp [hlead])
  have hd : isNameChar d = true := s.name_chars d (by simp [hname])
  generalize hT' : x ++ (s.text partialOpener ++ w) = T at hT
  have hsrc : T = (x ++ partialOpener) ++ s.lead ++ (s.name ++ s.trail ++ ['}', '}'] ++ w) := by
    simp [← hT', Spelling.text]
  have hC : T = x ++ ('{' :: '{' :: '>' :: b :: (bs ++ s.name ++ s.trail ++ ['}', '}'] ++ w)) := by
    simp [← hT', Spelling.text, hlead]
  have h₀ : T[x.length]? = some '{' := by simp [hC]
  have h₁ : T[x.length + 1]? = some '{' := by simp [hC]
  have h₂ : T[x.length + 2]? = some '>' := by simp [hC]
  have h₃ : T[x.length + 3]? = some b := by simp [hC]
  have h₄ : T[(x ++ partialOpener ++ s.lead).length]? = some d := by
    have hT₄ : T = (x ++ partialOpener ++ s.lead) ++ d :: (ds ++ s.trail ++ ['}', '}'] ++ w) := by
      simp [hsrc, hname]
    rw [hT₄, List.getElem?_append_right (Nat.le_refl _), Nat.sub_self]
    rfl
  obtain ⟨hlead', hname', htrail, hclose⟩ := Spelling.parts hT
  have hD : T[(['{', '{'] ++ t.lead ++ t.name ++ t.trail).length]? = some '}' := by
    rw [hclose, List.append_assoc _ ['}', '}'], List.getElem?_append_right (Nat.le_refl _),
      Nat.sub_self]
    rfl
  have hbrace : ∀ c ∈ ['}', '}'], (c == '}') = true := by simp
  have hb' : (b == '}') = false := by
    rw [beq_eq_false_iff_ne]
    rintro rfl
    exact absurd hb (by decide)
  have hd' : (d == '}') = false := by simpa using ne_brace_of_isNameChar hd
  have hdb : Text.isBlank d = false := not_blank_of_isNameChar hd
  have l₀ := not_mem_region hlead' t.lead_blank h₀ (by decide)
  have t₀ := not_mem_region htrail t.trail_blank h₀ (by decide)
  have c₀ := not_mem_region hclose hbrace h₀ (by decide)
  have l₁ := not_mem_region hlead' t.lead_blank h₁ (by decide)
  have t₁ := not_mem_region htrail t.trail_blank h₁ (by decide)
  have c₁ := not_mem_region hclose hbrace h₁ (by decide)
  have l₂ := not_mem_region hlead' t.lead_blank h₂ (by decide)
  have t₂ := not_mem_region htrail t.trail_blank h₂ (by decide)
  have c₂ := not_mem_region hclose hbrace h₂ (by decide)
  have n₃ := not_mem_region hname' t.name_chars h₃ (isNameChar_of_blank hb)
  have c₃ := not_mem_region hclose hbrace h₃ hb'
  have l₄ := not_mem_region hlead' t.lead_blank h₄ hdb
  have t₄ := not_mem_region htrail t.trail_blank h₄ hdb
  have c₄ := not_mem_region hclose hbrace h₄ hd'
  have sD := not_mem_region hsrc s.lead_blank hD (by decide)
  have hn₀ : 0 < t.name.length := List.length_pos_iff.2 t.name_ne_nil
  have hb₀ : 0 < s.lead.length := List.length_pos_iff.2 hs
  simp only [List.length_append, List.length_cons, List.length_nil] at *
  rw [Spelling.length_text]
  simp only [List.length_cons, List.length_nil]
  omega

/-- No variable is read at any place of a partial reference written with a blank after its `>`
and no `{` in its name. -/
theorem variableRef_spaced_none {s : Spelling} (hs : s.lead ≠ []) (hn : '{' ∉ s.name)
    (w : List Char) (i : Nat) (hi : i < (s.text partialOpener).length) :
    variableRef ((s.text partialOpener ++ w).drop i) = none := by
  cases i with
  | zero =>
    cases hr : variableRef ((s.text partialOpener ++ w).drop 0) with
    | none => rfl
    | some p =>
      rw [List.drop_zero, ← List.nil_append (s.text partialOpener ++ w)] at hr
      have hle := variableRef_before_spaced [] hs w hr
      have := (reference_length hr).1
      simp at hle this
      omega
  | succ k =>
    apply reference_eq_none
    rintro ⟨u, hu⟩
    have hk₁ : (s.text partialOpener ++ w)[k + 1]? = some '{' := by
      rw [← Nat.add_zero (k + 1), ← List.getElem?_drop, ← hu]
      rfl
    have hk₂ : (s.text partialOpener ++ w)[k + 2]? = some '{' := by
      rw [show k + 2 = k + 1 + 1 by omega, ← List.getElem?_drop, ← hu]
      rfl
    have hT : s.text partialOpener ++ w =
        ['{', '{'] ++ ('>' :: (s.lead ++ s.name ++ s.trail ++ ['}', '}'])) ++ w := by
      simp [Spelling.text]
    have hseg : ∀ c ∈ '>' :: (s.lead ++ s.name ++ s.trail ++ ['}', '}']), (c != '{') = true := by
      intro c hc
      simp only [List.mem_cons, List.mem_append, List.not_mem_nil, or_false] at hc
      rcases hc with rfl | ((hc | hc) | hc) | rfl | rfl
      · decide
      · have := s.lead_blank c hc
        exact bne_iff_ne.2 fun h => absurd (h ▸ this) (by decide)
      · exact bne_iff_ne.2 fun h => hn (h ▸ hc)
      · have := s.trail_blank c hc
        exact bne_iff_ne.2 fun h => absurd (h ▸ this) (by decide)
      · decide
      · decide
    have r₁ := not_mem_region hT hseg hk₁ (by decide)
    have r₂ := not_mem_region hT hseg hk₂ (by decide)
    rw [Spelling.length_text] at hi
    simp only [List.length_append, List.length_cons, List.length_nil] at r₁ r₂ hi
    omega

/-- A partial reference written with a blank after its `>` and no `{` in its name is kept as
written by substitution, whatever text stands around it. -/
theorem substitute_spaced (ctx : Context) {s : Spelling} (hs : s.lead ≠ []) (hn : '{' ∉ s.name)
    (x y : List Char) :
    substitute ctx (x ++ s.text partialOpener ++ y) =
      substitute ctx x ++ s.text partialOpener ++ substitute ctx y := by
  have hwithin : ReadsWithin ['{', '{'] x (s.text partialOpener ++ y) := by
    intro i r n hi h
    rw [List.drop_append_of_le_length (Nat.le_of_lt hi)] at h
    have := variableRef_before_spaced (x.drop i) hs y h
    simp only [List.length_drop] at this
    omega
  rw [substitute_eq_joinPieces, List.append_assoc, variableRef_eq,
    cut_append_of_readsWithin hwithin, cut_append_of_none (variableRef_spaced_none hs hn y),
    joinPieces_append, joinPieces_append, joinPieces_chars, ← variableRef_eq,
    ← substitute_eq_joinPieces, ← substitute_eq_joinPieces, List.append_assoc]

/-! ## A reference below the last level -/

/-- A partial reference reached below the last level of partials stays in the expanded text as
written, and what becomes of it is up to variable substitution. Written with no blank after its
`>`, it is read as the variable named by `>` and its name, and filled as one: with the context's
value for that name, or as `{{ >name }}`. Written with a blank there and no `{` in its name, it
is kept as written, whatever text surrounds it. -/
theorem reference_below_depth_limit (fs : FileStore) (chain : List String) (e : Engine)
    (ctx : Context) (s : Spelling) (x y : List Char)
    (hfree : ∀ r, Piece.hit r ∈ cut partialRef (x ++ s.text partialOpener ++ y) →
      partialKey r.name ∉ chain) :
    (Engine.expand fs chain 0 (x ++ s.text partialOpener ++ y)).run e =
        .ok (String.ofList (x ++ s.text partialOpener ++ y)) e ∧
      (s.lead = [] → substitute ctx (s.text partialOpener ++ y) =
        (fillVar ctx (">" ++ String.ofList s.name)).toList ++ substitute ctx y) ∧
      (s.lead ≠ [] → '{' ∉ s.name → substitute ctx (x ++ s.text partialOpener ++ y) =
        substitute ctx x ++ s.text partialOpener ++ substitute ctx y) :=
  ⟨Engine.expand_zero fs chain _ hfree e, fun h => substitute_unspaced ctx h y,
    fun hs hn => substitute_spaced ctx hs hn x y⟩

/-- Below the ten partials `p0` to `p9`, expansion keeps `{{>p10}}`, and substitution with no
bindings writes it as `{{ >p10 }}`; written `{{> p10 }}`, it is kept. -/
theorem p10_below_depth_limit :
    (Engine.expand {} ["p0", "p1", "p2", "p3", "p4", "p5", "p6", "p7", "p8", "p9"] 0
        "\x7b\x7b>p10\x7d\x7d".toList).run { dir := some "t" } =
      .ok "\x7b\x7b>p10\x7d\x7d" { dir := some "t" } ∧
    substitute [] "\x7b\x7b>p10\x7d\x7d".toList = "\x7b\x7b >p10 \x7d\x7d".toList ∧
    substitute [] "\x7b\x7b> p10 \x7d\x7d".toList = "\x7b\x7b> p10 \x7d\x7d".toList := by
  let unspaced : Spelling :=
    ⟨[], ['p', '1', '0'], [], by simp, by simp, List.all_eq_true.1 (by decide), by simp⟩
  let spaced : Spelling :=
    ⟨[' '], ['p', '1', '0'], [' '], fun c hc => by rw [List.mem_singleton.1 hc]; decide, by simp,
      List.all_eq_true.1 (by decide), fun c hc => by rw [List.mem_singleton.1 hc]; decide⟩
  have hunspaced : [] ++ unspaced.text partialOpener ++ [] = "\x7b\x7b>p10\x7d\x7d".toList := by
    decide
  have hspaced : [] ++ spaced.text partialOpener ++ [] = "\x7b\x7b> p10 \x7d\x7d".toList := by
    decide
  have hcut : cut partialRef ([] ++ unspaced.text partialOpener ++ []) =
      [.hit (unspaced.ref partialOpener)] := by
    rw [List.nil_append, List.append_nil, partialRef_eq, ← List.append_nil (unspaced.text _),
      cut_spelling (by simp), cut_nil]
  have hfree : ∀ r, Piece.hit r ∈ cut partialRef ([] ++ unspaced.text partialOpener ++ []) →
      partialKey r.name ∉ ["p0", "p1", "p2", "p3", "p4", "p5", "p6", "p7", "p8", "p9"] := by
    intro r hr
    rw [hcut, List.mem_singleton, Piece.hit.injEq] at hr
    subst hr
    decide
  obtain ⟨hexp, hread, -⟩ := reference_below_depth_limit {} _ { dir := some "t" } []
    unspaced [] [] hfree
  obtain ⟨-, -, hkept⟩ := reference_below_depth_limit {} [] { dir := some "t" } []
    spaced [] [] fun _ _ => List.not_mem_nil
  rw [hunspaced, String.ofList_toList] at hexp
  refine ⟨hexp, ?_, ?_⟩
  · have h := hread rfl
    rw [List.append_nil, substitute_nil_text, List.append_nil] at h
    rw [← hunspaced, List.nil_append, List.append_nil, h]
    decide
  · rw [← hspaced, hkept (List.cons_ne_nil _ _) (by decide), substitute_nil_text]

end Courseware.Template
