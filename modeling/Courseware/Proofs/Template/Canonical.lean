import Courseware.Proofs.Template.Fill
import Courseware.Proofs.Template.Scan

/-!
# Filling no variables

With a context that binds nothing, `substitute` writes every variable again in its canonical
form `{{ name }}` (`Reference.canonical`). Reading the result finds exactly the references of
the text again, in order, each with its name and now spelled canonically, and nothing else
(`cut_substitute_nil`). The canonical form reads back whole, and no reference can read into
it from the text before it: past its opener stand a blank and then a name character, so a
reference that reaches it cannot close (`variableRef_before_canonical`). Filling nothing
twice is therefore filling it once (`substitute_nil_stable`).
-/

namespace Courseware.Template

open Pattern

/-- A variable written in canonical form, `{{ name }}`: the text a fill with no binding
writes. -/
def Reference.canonical (r : Reference) : Reference :=
  ⟨r.name, (fillVar [] r.name).toList⟩

def canonicalPiece : Piece Reference → Piece Reference
  | .char c => .char c
  | .hit r => .hit r.canonical

/-- A spelling's name with one blank on each side. -/
def Spelling.canonical (s : Spelling) : Spelling :=
  ⟨[' '], s.name, [' '], fun c hc => by rw [List.mem_singleton.1 hc]; decide, s.name_ne_nil,
    s.name_chars, fun c hc => by rw [List.mem_singleton.1 hc]; decide⟩

theorem variableRef_eq : variableRef = reference ['{', '{'] := rfl

theorem fillVar_nil_spelling (s : Spelling) :
    (fillVar [] (String.ofList s.name)).toList = s.canonical.text ['{', '{'] := by
  have hopen : "\x7b\x7b ".toList = ['{', '{', ' '] := by decide
  have hclose : " \x7d\x7d".toList = [' ', '}', '}'] := by decide
  simp only [fillVar, List.lookup_nil, String.toList_append, hopen, hclose, String.toList_ofList,
    Spelling.text, Spelling.canonical, List.append_assoc, List.cons_append, List.nil_append]

theorem canonical_ref (s : Spelling) :
    (s.ref ['{', '{']).canonical = s.canonical.ref ['{', '{'] := by
  simp only [Reference.canonical, Spelling.ref_name, fillVar_nil_spelling]
  rfl

/-! ## Substitution, piece by piece -/

theorem substitute_of_hit (ctx : Context) {c : Char} {cs : List Char} {a : Reference} {n : Nat}
    (h : variableRef (c :: cs) = some (a, n + 1)) :
    substitute ctx (c :: cs) = (fillVar ctx a.name).toList ++ substitute ctx (cs.drop n) := by
  rw [substitute_eq_joinPieces, cut_hit h, joinPieces, ← substitute_eq_joinPieces]

theorem substitute_of_char (ctx : Context) {c : Char} {cs : List Char}
    (h : ∀ a n, variableRef (c :: cs) ≠ some (a, n + 1)) :
    substitute ctx (c :: cs) = c :: substitute ctx cs := by
  rw [substitute_eq_joinPieces, cut_char h, joinPieces, ← substitute_eq_joinPieces]

@[simp] theorem substitute_nil_text (ctx : Context) : substitute ctx [] = [] := by
  rw [substitute_eq_joinPieces, cut_nil, joinPieces]

/-! ## No reference reads into a canonical form -/

/-- A variable reference read from a text that goes on with a canonical form ends before the
canonical form, unless it starts there. -/
theorem variableRef_before_canonical {x w : List Char} (hx : x ≠ []) (s : Spelling)
    {r : Reference} {n : Nat}
    (h : variableRef (x ++ (s.canonical.text ['{', '{'] ++ w)) = some (r, n)) :
    n ≤ x.length := by
  obtain ⟨t, rest, hT, -, rfl⟩ := reference_eq_some h
  obtain ⟨d, ds, hname⟩ := List.exists_cons_of_ne_nil s.name_ne_nil
  have hd : isNameChar d = true := s.name_chars d (by simp [hname])
  generalize hT' : x ++ (s.canonical.text ['{', '{'] ++ w) = T at hT
  have hC : x ++ (s.canonical.text ['{', '{'] ++ w) =
      x ++ ('{' :: '{' :: ' ' :: d :: (ds ++ ' ' :: '}' :: '}' :: w)) := by
    simp [Spelling.text, Spelling.canonical, hname]
  rw [hC] at hT'
  have h₀ : T[x.length]? = some '{' := by simp [← hT']
  have h₁ : T[x.length + 1]? = some '{' := by simp [← hT']
  have h₂ : T[x.length + 2]? = some ' ' := by simp [← hT']
  have h₃ : T[x.length + 3]? = some d := by simp [← hT']
  obtain ⟨hlead, hname', htrail, hclose⟩ := Spelling.parts hT
  have hbrace : ∀ c ∈ ['}', '}'], (c == '}') = true := by simp
  have hd' : (d == '}') = false := by simpa using ne_brace_of_isNameChar hd
  have hdb : Text.isBlank d = false := not_blank_of_isNameChar hd
  have l₀ := not_mem_region hlead t.lead_blank h₀ (by decide)
  have t₀ := not_mem_region htrail t.trail_blank h₀ (by decide)
  have c₀ := not_mem_region hclose hbrace h₀ (by decide)
  have l₁ := not_mem_region hlead t.lead_blank h₁ (by decide)
  have t₁ := not_mem_region htrail t.trail_blank h₁ (by decide)
  have c₁ := not_mem_region hclose hbrace h₁ (by decide)
  have n₂ := not_mem_region hname' t.name_chars h₂ (by decide)
  have c₂ := not_mem_region hclose hbrace h₂ (by decide)
  have l₃ := not_mem_region hlead t.lead_blank h₃ hdb
  have t₃ := not_mem_region htrail t.trail_blank h₃ hdb
  have c₃ := not_mem_region hclose hbrace h₃ hd'
  have hx₀ : 0 < x.length := List.length_pos_iff.2 hx
  have hn₀ : 0 < t.name.length := List.length_pos_iff.2 t.name_ne_nil
  simp only [List.length_append, List.length_cons, List.length_nil] at *
  rw [Spelling.length_text]
  simp only [List.length_cons, List.length_nil]
  omega

theorem variableRef_of_substitute_nil (y : List Char) :
    ∀ {x : List Char} {r : Reference} {n : Nat}, x ≠ [] →
      variableRef (x ++ substitute [] y) = some (r, n) → variableRef (x ++ y) = some (r, n) := by
  induction y using cut_induction variableRef with
  | nil =>
    intro x r n _ h
    rwa [substitute_nil_text] at h
  | hit c cs a k hmatch ih =>
    intro x r n hx h
    obtain ⟨s, rest, -, rfl, -⟩ := reference_eq_some hmatch
    rw [substitute_of_hit [] hmatch, Spelling.ref_name, fillVar_nil_spelling] at h
    exact reference_append_of_le h (variableRef_before_canonical hx s h) _
  | char c cs hnone ih =>
    intro x r n hx h
    rw [substitute_of_char [] hnone, ← List.singleton_append, ← List.append_assoc] at h
    have := ih (by simp) h
    rwa [List.append_assoc, List.singleton_append] at this

/-- The references of a text filled with nothing are the text's own references, each in
canonical form, and nothing else. -/
theorem cut_substitute_nil (t : List Char) :
    cut variableRef (substitute [] t) = (cut variableRef t).map canonicalPiece := by
  induction t using cut_induction variableRef with
  | nil => rw [substitute_nil_text, cut_nil, List.map_nil]
  | hit c cs a k hmatch ih =>
    obtain ⟨s, rest, -, rfl, -⟩ := reference_eq_some hmatch
    rw [substitute_of_hit [] hmatch, cut_hit hmatch, Spelling.ref_name, fillVar_nil_spelling,
      variableRef_eq, cut_spelling (by simp) s.canonical, ← variableRef_eq, ih, List.map_cons,
      canonicalPiece, canonical_ref]
  | char c cs hnone ih =>
    have hnone' : ∀ a n, variableRef (c :: substitute [] cs) ≠ some (a, n + 1) := by
      intro a n h
      have h' := variableRef_of_substitute_nil cs (x := [c]) (by simp) h
      exact hnone a n h'
    rw [substitute_of_char [] hnone, cut_char hnone', cut_char hnone, ih, List.map_cons,
      canonicalPiece]

theorem joinPieces_canonicalPiece (ctx : Context) (ps : List (Piece Reference)) :
    joinPieces (fun r => (fillVar ctx r.name).toList) (ps.map canonicalPiece) =
      joinPieces (fun r => (fillVar ctx r.name).toList) ps := by
  induction ps with
  | nil => rfl
  | cons p ps ih => cases p <;> simp [canonicalPiece, joinPieces, Reference.canonical, ih]

/-- Filling a text with no bindings writes each of its variables again as `{{ name }}`, and
the result is read as exactly those references, each with its own name and spelled
canonically, with no reference formed across the rewritten ones and the text around them. A
second fill with no bindings therefore gives the same text. -/
theorem substitute_nil_stable (t : List Char) :
    cut variableRef (substitute [] t) = (cut variableRef t).map canonicalPiece ∧
      substitute [] (substitute [] t) = substitute [] t := by
  refine ⟨cut_substitute_nil t, ?_⟩
  rw [substitute_eq_joinPieces [] (substitute [] t), cut_substitute_nil,
    joinPieces_canonicalPiece, ← substitute_eq_joinPieces]

end Courseware.Template
