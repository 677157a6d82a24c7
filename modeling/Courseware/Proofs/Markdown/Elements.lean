import Mathlib
import Courseware.Proofs.Markdown.Render

/-!
# Inline elements of rendered markdown

Emphasis and code spans write elements: `<em>` … `</em>` and `<code>` … `</code>` around the
text between two marks. `Enclosed W o c` is such an element around text of the words `W`,
without line breaks, and the pass that writes the elements turns text of `W` into text of `W`
and elements (`Words.rewrap_enclosed`). A later pass that only writes some marks anew as words
(`Subst`) keeps every element an element, wherever the marks stand (`Words.subst`). Cutting
into lines and trimming keep elements whole too, since an element holds no line break and
begins and ends with markup (`Delimited`).

Each pass sees only its own marks. So a prose block has two readings (`proseBlock_views`): its
emphasis elements around text in which code tags are plain words, and its code elements around
text in which emphasis tags are plain words. Either kind is well formed on its own; the two
need not nest in each other.
-/

namespace Courseware.Pattern

/-! ## Cutting a text with a tail -/

theorem cut_append {α : Type} {p : Pattern α} {text : α → List Char} (hp : Spells p text)
    {y : List Char} (hy : ∀ z, p (z ++ y) = p z) (x : List Char) :
    cut p (x ++ y) = cut p x ++ cut p y := by
  induction x using cut_induction p with
  | nil => rw [cut_nil, List.nil_append, List.nil_append]
  | hit c cs a n hmatch ih =>
    have hn : n ≤ cs.length := by
      have := (hp _ _ _ hmatch).1.length_le
      rw [← (hp _ _ _ hmatch).2, List.length_cons] at this
      omega
    have hmatch' : p (c :: (cs ++ y)) = some (a, n + 1) := by
      rw [← List.cons_append, hy, hmatch]
    rw [List.cons_append, cut_hit hmatch', cut_hit hmatch, List.drop_append_of_le_length hn, ih,
      List.cons_append]
  | char c cs hnone ih =>
    have hnone' : ∀ a n, p (c :: (cs ++ y)) ≠ some (a, n + 1) := fun a n h =>
      hnone a n (by rw [← hy, List.cons_append]; exact h)
    rw [List.cons_append, cut_char hnone', cut_char fun a n h => hnone a n h, ih, List.cons_append]

theorem replace_append {α : Type} {p : Pattern α} {text : α → List Char}
    (hp : Spells p text) {y : List Char} (hy : ∀ z, p (z ++ y) = p z) (f : α → List Char)
    (x : List Char) : replace p f (x ++ y) = replace p f x ++ replace p f y := by
  unfold replace
  rw [cut_append hp hy, List.flatMap_append]

theorem Rewraps.inner_infix {α : Type} {p : Pattern α} {f : α → List Char}
    {ds es rs rs' : List Char} {inner : α → List Char} (h : Rewraps p f ds es rs rs' inner)
    {cs : List Char} {a : α} (ha : Piece.hit a ∈ cut p cs) : inner a <:+: cs := by
  obtain ⟨rest, n, hsuf, hmatch⟩ := exists_suffix_of_hit_mem_cut ha
  exact ((List.infix_append ds (inner a) es).trans (h.spells rest a n hmatch).1.isInfix).trans
    hsuf.isInfix

end Courseware.Pattern

namespace Courseware.Markdown

open Pattern

/-! ## Marks written anew -/

/-- `y` is `x` with some of its marks `m` each written as a text of `R`. -/
inductive Subst (m : Char) (R : List Char → Prop) : List Char → List Char → Prop
  | nil : Subst m R [] []
  | keep (c : Char) {x y : List Char} : Subst m R x y → Subst m R (c :: x) (c :: y)
  | swap {r x y : List Char} : R r → Subst m R x y → Subst m R (m :: x) (r ++ y)

namespace Subst

variable {m : Char} {R : List Char → Prop}

theorem refl : ∀ x : List Char, Subst m R x x
  | [] => nil
  | c :: x => keep c (refl x)

theorem append {x y x' y' : List Char} (h : Subst m R x y) (h' : Subst m R x' y') :
    Subst m R (x ++ x') (y ++ y') := by
  induction h with
  | nil => exact h'
  | keep c _ ih => exact keep c ih
  | swap hr _ ih =>
    rw [List.append_assoc]
    exact swap hr ih

theorem of_append {y : List Char} :
    ∀ {a b : List Char}, Subst m R (a ++ b) y →
      ∃ y₁ y₂, y = y₁ ++ y₂ ∧ Subst m R a y₁ ∧ Subst m R b y₂
  | [], _, h => ⟨[], _, rfl, nil, h⟩
  | c :: a, b, h => by
    cases h with
    | keep _ h =>
      obtain ⟨y₁, y₂, rfl, h₁, h₂⟩ := of_append h
      exact ⟨c :: y₁, y₂, rfl, keep c h₁, h₂⟩
    | swap hr h =>
      obtain ⟨y₁, y₂, rfl, h₁, h₂⟩ := of_append h
      exact ⟨_ ++ y₁, y₂, (List.append_assoc _ _ _).symm, swap hr h₁, h₂⟩

theorem eq_of_not_mem {x y : List Char} (h : Subst m R x y) (hx : m ∉ x) : y = x := by
  induction h with
  | nil => rfl
  | keep c _ ih => rw [ih fun h => hx (List.mem_cons_of_mem _ h)]
  | swap _ _ _ => exact absurd List.mem_cons_self hx

theorem newline_not_mem {x y : List Char} (h : Subst m R x y) (hR : ∀ r, R r → '\n' ∉ r)
    (hx : '\n' ∉ x) : '\n' ∉ y := by
  induction h with
  | nil => exact hx
  | keep c _ ih =>
    simp only [List.mem_cons, not_or] at hx ⊢
    exact ⟨hx.1, ih hx.2⟩
  | swap hr _ ih =>
    simp only [List.mem_cons, List.mem_append, not_or] at hx ⊢
    exact ⟨hR _ hr, ih hx.2⟩

theorem rewrap {α : Type} {p : Pattern α} {f : α → List Char} {rs rs' : List Char}
    {inner : α → List Char} (h : Rewraps p f [m] [m] rs rs' inner) (hrs : R rs) (hrs' : R rs')
    (cs : List Char) : Subst m R cs (replace p f cs) := by
  conv => lhs; rw [h.text_eq cs]
  rw [h.replace_eq cs]
  induction cut p cs with
  | nil => exact .nil
  | cons piece ps ih =>
    cases piece with
    | char c => exact .keep c ih
    | hit a =>
      simpa only [joinPieces, List.append_assoc, List.cons_append, List.nil_append] using
        swap hrs ((refl (inner a)).append (swap hrs' ih))

end Subst

/-! ## Elements -/

/-- An element `o … c` around text of the words `W`, without line breaks. -/
def Enclosed (W : List Char → Prop) (o c w : List Char) : Prop :=
  ∃ x, w = o ++ x ++ c ∧ Words W x ∧ '\n' ∉ x

/-- A word of `W`, or an element `o … c` around text of `W`. -/
def OrEnclosed (W : List Char → Prop) (o c w : List Char) : Prop := W w ∨ Enclosed W o c w

/-- Every word begins with `<` or `&` and ends with `>` or `;`, as tags and references do. -/
def Delimited (W : List Char → Prop) : Prop :=
  ∀ w, W w → (w.head? = some '<' ∨ w.head? = some '&') ∧
    (w.getLast? = some '>' ∨ w.getLast? = some ';')

/-- A word among the fixed markup `ws`. -/
def Tagged (ws : List String) (w : List Char) : Prop := w ∈ ws.map String.toList

instance (ws : List String) : DecidablePred (Tagged ws) := fun w =>
  inferInstanceAs (Decidable (w ∈ ws.map String.toList))

def strongTags : List String := ["<strong>", "</strong>"]
def emTags : List String := ["<em>", "</em>"]
def codeTags : List String := ["<code>", "</code>"]

theorem tagged_not_mem {ws : List String} {c : Char}
    (h : (ws.all fun w => !w.toList.contains c) = true) : ∀ w, Tagged ws w → c ∉ w := by
  intro w hw
  obtain ⟨v, hv, rfl⟩ := List.mem_map.1 hw
  simpa using List.all_eq_true.1 h v hv

theorem tagged_seps {ws : List String} {m : List Char}
    (h : (m.all fun c => ws.all fun w => !w.toList.contains c) = true) :
    ∀ c ∈ m, ∀ w, Tagged ws w → c ∉ w :=
  fun c hc => tagged_not_mem (List.all_eq_true.1 h c hc)

theorem Tagged.delimited {ws : List String}
    (h : (ws.all fun w => (w.toList.head? == some '<' || w.toList.head? == some '&') &&
      (w.toList.getLast? == some '>' || w.toList.getLast? == some ';')) = true) :
    Delimited (Tagged ws) := by
  intro w hw
  obtain ⟨v, hv, rfl⟩ := List.mem_map.1 hw
  simpa using List.all_eq_true.1 h v hv

theorem Tagged.mono {ws ws' : List String} (h : ws ⊆ ws') {w : List Char} (hw : Tagged ws w) :
    Tagged ws' w := by
  obtain ⟨v, hv, rfl⟩ := List.mem_map.1 hw
  exact List.mem_map_of_mem (h hv)

namespace OrEnclosed

variable {W W' : List Char → Prop} {o c : List Char}

theorem mono (hW : ∀ w, W w → W' w) {w : List Char} :
    OrEnclosed W o c w → OrEnclosed W' o c w
  | .inl hw => .inl (hW w hw)
  | .inr ⟨x, hx, hxs, hnl⟩ => .inr ⟨x, hx, hxs.mono hW, hnl⟩

theorem words (hW : ∀ w, W w → W' w) (ho : W' o) (hc : W' c) {w : List Char}
    (hw : OrEnclosed W o c w) : Words W' w := by
  rcases hw with hw | ⟨x, rfl, hx, -⟩
  · exact .of_word (hW w hw)
  · exact ((Words.of_word ho).append (hx.mono hW)).append (.of_word hc)

theorem newline_not_mem (hW : ∀ w, W w → '\n' ∉ w) (ho : '\n' ∉ o) (hc : '\n' ∉ c)
    {w : List Char} (hw : OrEnclosed W o c w) : '\n' ∉ w := by
  rcases hw with hw | ⟨x, rfl, -, hnl⟩
  · exact hW w hw
  · simp only [List.mem_append, not_or]
    exact ⟨⟨ho, hnl⟩, hc⟩

end OrEnclosed

theorem Words.bind {W W' : List Char → Prop} (hW : ∀ w, W w → Words W' w) {x : List Char}
    (hx : Words W x) : Words W' x := by
  induction hx with
  | nil => exact .nil
  | plain hc _ ih => exact .plain hc ih
  | word hw _ ih => exact (hW _ hw).append ih

/-- Writing marks anew as text of the words keeps text of the words, as long as the words
themselves stay words. -/
theorem Words.subst {W : List Char → Prop} {m : Char} {R : List Char → Prop}
    (hW : ∀ w w', W w → Subst m R w w' → W w') (hR : ∀ r, R r → Words W r) {x y : List Char}
    (hx : Words W x) (h : Subst m R x y) : Words W y := by
  induction hx generalizing y with
  | nil =>
    cases h
    exact .nil
  | plain hc _ ih =>
    cases h with
    | keep _ h => exact .plain hc (ih h)
    | swap hr h => exact (hR _ hr).append (ih h)
  | word hw _ ih =>
    obtain ⟨y₁, y₂, rfl, h₁, h₂⟩ := Subst.of_append h
    exact .word (hW _ _ hw h₁) (ih h₂)

/-- Elements around text of words without the mark stay elements when marks are written anew
as text of the words without line breaks. -/
theorem OrEnclosed.subst {W : List Char → Prop} {o c : List Char} {m : Char}
    {R : List Char → Prop} (hW : ∀ w, W w → m ∉ w) (ho : m ∉ o) (hc : m ∉ c)
    (hR : ∀ r, R r → Words W r ∧ '\n' ∉ r) {w w' : List Char}
    (hw : OrEnclosed W o c w) (h : Subst m R w w') : OrEnclosed W o c w' := by
  have hkeep : ∀ w w', W w → Subst m R w w' → W w' := fun w w' hw h =>
    h.eq_of_not_mem (hW w hw) ▸ hw
  rcases hw with hw | ⟨x, rfl, hx, hnl⟩
  · exact .inl (hkeep w w' hw h)
  · -- the tags keep their form, and the text between them stays text of the words
    obtain ⟨y₁, y₂, rfl, h₁, h₂⟩ := Subst.of_append h
    obtain ⟨o', x', rfl, ho', hx'⟩ := Subst.of_append h₁
    rw [ho'.eq_of_not_mem ho, h₂.eq_of_not_mem hc]
    exact .inr ⟨x', rfl, Words.subst hkeep (fun r hr => (hR r hr).1) hx hx',
      hx'.newline_not_mem (fun r hr => (hR r hr).2) hnl⟩

/-- A pattern that rewraps text between separator marks, writing it between two other texts,
turns text of the words into text of the words and elements, as long as no text it rewraps
holds a line break. -/
theorem Words.rewrap_enclosed {α : Type} {W : List Char → Prop} {p : Pattern α}
    {f : α → List Char} {ds es o c : List Char} {inner : α → List Char}
    (h : Rewraps p f ds es o c inner) (hds : ds ≠ []) (hes : es ≠ [])
    (hsep : ∀ d ∈ ds ++ es, ∀ w, W w → d ∉ w) {cs : List Char}
    (hinner : ∀ a, Piece.hit a ∈ cut p cs → '\n' ∉ inner a) (hcs : Words W cs) :
    Words (OrEnclosed W o c) (replace p f cs) :=
  Words.rewrap_of h hds hes hsep (fun _ hw => Or.inl hw)
    (fun a ha hin => .of_word (Or.inr ⟨inner a, rfl, hin, hinner a ha⟩)) hcs

/-! ## Trimming keeps elements whole -/

namespace Words

variable {W : List Char → Prop}

theorem dropWhile_of_head {p : Char → Bool} (hp : ∀ c, p c = true → ∀ w, W w → w.head? ≠ some c) :
    ∀ {s : List Char}, Words W s → Words W (s.dropWhile p)
  | [], h => h
  | c :: s, h => by
    rw [List.dropWhile_cons]
    split
    · exact dropWhile_of_head hp (tail_of_plain (hp c ‹_›) h)
    · exact h

theorem of_append_last {c : Char} (hc : ∀ w, W w → w.getLast? ≠ some c) {a : List Char}
    (h : Words W (a ++ [c])) : Words W a := by
  generalize hx : a ++ [c] = x at h
  induction h generalizing a with
  | nil => simp at hx
  | @plain d s hd _ ih =>
    cases a with
    | nil =>
      cases hx
      exact .nil
    | cons e a =>
      cases hx
      exact .plain hd (ih rfl)
  | @word w s hw _ ih =>
    rcases List.eq_nil_or_concat' s with rfl | ⟨s', d, rfl⟩
    · -- the word would end with the character
      rw [List.append_nil] at hx
      subst hx
      exact absurd (by simp) (hc _ hw)
    · rw [← List.append_assoc] at hx
      obtain ⟨rfl, hcd⟩ := List.append_inj' hx rfl
      cases hcd
      exact .word hw (ih rfl)

theorem of_append_lasts {m : List Char} (hm : ∀ c ∈ m, ∀ w, W w → w.getLast? ≠ some c) :
    ∀ {a : List Char}, Words W (a ++ m) → Words W a := by
  induction m with
  | nil => exact fun h => by simpa using h
  | cons c m ih =>
    intro a h
    have h' := ih (fun d hd => hm d (List.mem_cons_of_mem _ hd)) (a := a ++ [c]) (by simpa using h)
    exact of_append_last (hm c List.mem_cons_self) h'

theorem dropEndWhile_of_last {p : Char → Bool}
    (hp : ∀ c, p c = true → ∀ w, W w → w.getLast? ≠ some c) {s : List Char} (h : Words W s) :
    Words W (Text.dropEndWhile p s) := by
  rw [← Text.dropEndWhile_append_dropped p s] at h
  refine of_append_lasts (fun c hc => hp c ?_) h
  exact List.all_eq_true.1 List.all_takeWhile c (List.mem_reverse.1 hc)

end Words

namespace Delimited

variable {W : List Char → Prop}

theorem orEnclosed (hW : Delimited W) {o c : List Char} (ho : o.head? = some '<')
    (hc : c.getLast? = some '>') : Delimited (OrEnclosed W o c) := by
  rintro w (hw | ⟨x, rfl, -, -⟩)
  · exact hW w hw
  · have ho' : o ≠ [] := fun h => by simp [h] at ho
    have hc' : c ≠ [] := fun h => by simp [h] at hc
    simp [List.head?_append, List.getLast?_append, ho, hc]

theorem blank_not_end (hW : Delimited W) {c : Char} (hc : Text.isBlank c = true) {w : List Char}
    (hw : W w) : w.head? ≠ some c ∧ w.getLast? ≠ some c := by
  have hends : (['<', '&', '>', ';'].all fun c => !Text.isBlank c) = true := by decide
  have hnot : c ∉ ['<', '&', '>', ';'] := fun hmem => by
    have := List.all_eq_true.1 hends c hmem
    rw [hc] at this
    cases this
  obtain ⟨hhead, hlast⟩ := hW w hw
  refine ⟨fun h => hnot ?_, fun h => hnot ?_⟩
  · rcases hhead with h' | h' <;> rw [h', Option.some.injEq] at h <;> simp [← h]
  · rcases hlast with h' | h' <;> rw [h', Option.some.injEq] at h <;> simp [← h]

theorem trimLine (hW : Delimited W) {l : List Char} (h : Words W l) : Words W (trimLine l) :=
  Words.dropEndWhile_of_last (fun _ hc _ hw => (hW.blank_not_end hc hw).2)
    (Words.dropWhile_of_head (fun _ hc _ hw => (hW.blank_not_end hc hw).1) h)

theorem drop_marker (hW : Delimited W) {m line : List Char} (hm : m.isPrefixOf line = true)
    (hplain : (m.all fun c => !markupChar c) = true) (h : Words W line) :
    Words W (line.drop m.length) := by
  have hline : m ++ line.drop m.length = line :=
    List.prefix_iff_eq_append.1 (List.isPrefixOf_iff_prefix.1 hm)
  rw [← hline] at h
  refine Words.of_plain_append (fun c hc w hw hhead => ?_) h
  have hc' : markupChar c = false := by simpa using List.all_eq_true.1 hplain c hc
  rcases (hW w hw).1 with h' | h' <;> rw [h', Option.some.injEq] at hhead <;>
    · rw [← hhead] at hc'
      cases hc'

end Delimited

/-! ## The lines of emphasised text -/

theorem newline_not_mem_of_mem_splitOn : ∀ {s l : List Char}, l ∈ s.splitOn '\n' → '\n' ∉ l
  | [], l, hl => by
    rw [List.splitOn_nil, List.mem_singleton] at hl
    rw [hl]
    exact List.not_mem_nil
  | x :: s, l, hl => by
    rw [List.splitOn_cons_eq_if_modifyHead] at hl
    by_cases hx : x = '\n'
    · rw [if_pos (by simp [hx])] at hl
      rcases List.mem_cons.1 hl with rfl | hl
      · exact List.not_mem_nil
      · exact newline_not_mem_of_mem_splitOn hl
    · -- the character joins the first line of the rest
      rw [if_neg (by simpa using hx)] at hl
      obtain ⟨r, rs, hr⟩ := List.exists_cons_of_ne_nil (List.splitOn_ne_nil '\n' s)
      rw [hr, List.modifyHead_cons] at hl
      rcases List.mem_cons.1 hl with rfl | hl
      · simp only [List.mem_cons, not_or]
        exact ⟨fun h => hx h.symm, newline_not_mem_of_mem_splitOn (hr ▸ List.mem_cons_self)⟩
      · exact newline_not_mem_of_mem_splitOn (hr ▸ List.mem_cons_of_mem _ hl)

theorem between_inner {c : Char} {stop : Char → Bool} {cs inner after : List Char}
    (h : between c stop cs = some (inner, after)) : ∀ d ∈ inner, d ≠ c ∧ stop d = false := by
  unfold between at h
  dsimp only at h
  split at h
  · split at h
    · obtain ⟨rfl, -⟩ := Prod.mk.inj (Option.some.inj h)
      intro d hd
      simpa using List.mem_takeWhile_imp hd
    · cases h
  · cases h

theorem newline_not_mem_emphasis_hit {cs inner : List Char}
    (h : Piece.hit inner ∈ cut emphasis cs) : '\n' ∉ inner := by
  obtain ⟨rest, n, -, hmatch⟩ := exists_suffix_of_hit_mem_cut h
  unfold emphasis at hmatch
  split at hmatch
  · obtain ⟨⟨inner', after⟩, hb, hm⟩ := Option.map_eq_some_iff.1 hmatch
    obtain ⟨rfl, -⟩ := Prod.mk.inj hm
    exact fun hmem => by simpa using (between_inner hb '\n' hmem).2
  · cases hmatch

theorem emphasise_elements {cs : List Char} (h : Words (Tagged (entities ++ strongTags)) cs) :
    Words (OrEnclosed (Tagged (entities ++ strongTags)) "<em>".toList "</em>".toList)
      (emphasise cs) := by
  have hbold := Words.rewrap strong_rewraps (by simp) (by simp) (tagged_seps (by decide))
    (.of_word (by decide)) (.of_word (by decide)) h
  have hshielded := Words.rewrap (pair_rewraps '*' '*' shield shield) (by simp) (by simp)
    (tagged_seps (by decide)) (.plain (by decide) .nil) (.plain (by decide) .nil) hbold
  have hsoft := Words.rewrap_enclosed emphasis_rewraps (by simp) (by simp)
    (tagged_seps (by decide)) (fun _ ha => newline_not_mem_emphasis_hit ha) hshielded
  have hstar : ∀ r : List Char, ['*'] = r →
      Words (Tagged (entities ++ strongTags)) r ∧ '\n' ∉ r := by
    rintro r rfl
    exact ⟨.plain rfl .nil, by decide⟩
  refine Words.subst (fun w w' hw h => hw.subst (tagged_not_mem (by decide)) (by decide)
    (by decide) hstar h) (fun r hr => ?_) hsoft
    (Subst.rewrap (pair_rewraps shield shield '*' '*') rfl rfl _)
  exact (hstar r hr).1.mono fun _ => Or.inl

theorem emphasisedLines_elements {text : String} :
    ∀ l ∈ emphasisedLines text,
      Words (OrEnclosed (Tagged (entities ++ strongTags)) "<em>".toList "</em>".toList) l :=
  Words.splitOn (fun _ hw => hw.newline_not_mem (tagged_not_mem (by decide)) (by decide)
    (by decide)) _ (Nat.le_refl _)
    (emphasise_elements (Words.escape (fun _ he => List.mem_map_of_mem
      (List.mem_append_left _ he)) _))

/-! ## Code spans inside a block -/

theorem between_append {c : Char} {stop : Char → Bool} {y : List Char}
    (hy : ∀ d ∈ y, (d != c && !stop d) = true) (r : List Char) :
    between c stop (r ++ y) = (between c stop r).map fun p => (p.1, p.2 ++ y) := by
  have hlen := congrArg List.length
    (List.takeWhile_append_dropWhile (p := fun d => d != c && !stop d) (l := r))
  rw [List.length_append] at hlen
  unfold between
  dsimp only
  rw [List.takeWhile_append, List.dropWhile_append]
  cases hdrop : r.dropWhile (fun d => d != c && !stop d) with
  | nil =>
    rw [hdrop, List.length_nil, Nat.add_zero] at hlen
    simp [List.dropWhile_eq_nil_iff.2 hy]
  | cons d after =>
    rw [hdrop, List.length_cons] at hlen
    have hshort : (r.takeWhile fun d => d != c && !stop d).length ≠ r.length := by omega
    simp only [hshort, if_false, List.isEmpty_cons, Bool.false_eq_true, List.cons_append]
    split <;> rfl

theorem codeSpan_append {y : List Char} (hy : '`' ∉ y) (z : List Char) :
    codeSpan (z ++ y) = codeSpan z := by
  have hplain : ∀ d ∈ y, (d != '`' && !(fun _ => false) d) = true := fun d hd => by
    simpa using fun h : d = '`' => hy (h ▸ hd)
  cases z with
  | nil =>
    cases y with
    | nil => rfl
    | cons d y =>
      have hd : d ≠ '`' := fun h => hy (h ▸ List.mem_cons_self)
      simp [codeSpan, hd]
  | cons d r =>
    by_cases hd : d = '`'
    · subst hd
      simp only [codeSpan, List.cons_append, between_append hplain, Option.map_map]
      rfl
    · simp [codeSpan, hd]

theorem codeSpans_cons {c : Char} (hc : c ≠ '`') (x : List Char) :
    codeSpans (c :: x) = c :: codeSpans x := by
  have hnone : ∀ a n, codeSpan (c :: x) ≠ some (a, n + 1) := fun a n h => by
    simp [codeSpan, hc] at h
  unfold codeSpans replace
  rw [cut_char hnone, List.flatMap_cons]
  rfl

theorem codeSpans_prepend {pre : List Char} (hpre : '`' ∉ pre) (x : List Char) :
    codeSpans (pre ++ x) = pre ++ codeSpans x := by
  induction pre with
  | nil => rfl
  | cons c pre ih =>
    simp only [List.mem_cons, not_or] at hpre
    rw [List.cons_append, codeSpans_cons (Ne.symm hpre.1), ih hpre.2, List.cons_append]

theorem codeSpans_wrapTag {tag : String} (hopen : '`' ∉ ("<" ++ tag ++ ">").toList)
    (hclose : '`' ∉ ("</" ++ tag ++ ">").toList) (x : List Char) :
    codeSpans (wrapTag tag x) = wrapTag tag (codeSpans x) := by
  have hend : codeSpans ("</" ++ tag ++ ">").toList = ("</" ++ tag ++ ">").toList := by
    have hnil : codeSpans [] = [] := by simp [codeSpans, replace]
    simpa [hnil] using codeSpans_prepend hclose []
  have htail : codeSpans (x ++ ("</" ++ tag ++ ">").toList) =
      codeSpans x ++ codeSpans ("</" ++ tag ++ ">").toList :=
    replace_append codeSpan_rewraps.spells (codeSpan_append hclose) _ x
  unfold wrapTag
  rw [List.append_assoc, codeSpans_prepend hopen, htail, hend, List.append_assoc]

/-! ## Prose blocks -/

def blockNames : List String := ["p", "h1", "h2", "h3", "li"]

theorem lineToHtml_cases (line : List Char) :
    ∃ name ∈ blockNames, ∃ m : List Char, m.isPrefixOf line = true ∧
      (m.all fun c => !markupChar c) = true ∧
      (lineToHtml line).toList = wrapTag name (codeSpans (line.drop m.length)) := by
  unfold lineToHtml
  rw [String.toList_ofList]
  split_ifs with h3 h2 h1 hli
  · exact ⟨"h3", by decide, "### ".toList, h3, by decide,
      codeSpans_wrapTag (by decide) (by decide) _⟩
  · exact ⟨"h2", by decide, "## ".toList, h2, by decide,
      codeSpans_wrapTag (by decide) (by decide) _⟩
  · exact ⟨"h1", by decide, "# ".toList, h1, by decide,
      codeSpans_wrapTag (by decide) (by decide) _⟩
  · exact ⟨"li", by decide, "- ".toList, hli, by decide,
      codeSpans_wrapTag (by decide) (by decide) _⟩
  · exact ⟨"p", by decide, [], rfl, rfl, codeSpans_wrapTag (by decide) (by decide) _⟩

theorem delimited_emphasis :
    Delimited (OrEnclosed (Tagged (entities ++ strongTags)) "<em>".toList "</em>".toList) :=
  (Tagged.delimited (by decide)).orEnclosed (by decide) (by decide)

/-- A prose block is one element around text with two readings. Read for emphasis, it is
references, strong and code tags and plain text, with emphasis elements; read for code spans,
it is references, strong and emphasis tags and plain text, with code elements. -/
theorem proseBlock_views {l : List Char} (hnl : '\n' ∉ l)
    (h : Words (OrEnclosed (Tagged (entities ++ strongTags)) "<em>".toList "</em>".toList) l) :
    ∃ name ∈ blockNames, ∃ body, (lineToHtml (trimLine l)).toList = wrapTag name body ∧
      Words (OrEnclosed (Tagged (entities ++ strongTags ++ codeTags)) "<em>".toList
        "</em>".toList) body ∧
      Words (OrEnclosed (Tagged (entities ++ strongTags ++ emTags)) "<code>".toList
        "</code>".toList) body := by
  obtain ⟨name, hname, m, hm, hplain, hblock⟩ := lineToHtml_cases (trimLine l)
  have hx := delimited_emphasis.drop_marker hm hplain (delimited_emphasis.trimLine h)
  have hxnl : '\n' ∉ (trimLine l).drop m.length := fun h =>
    hnl (mem_of_mem_trimLine (List.mem_of_mem_drop h))
  refine ⟨name, hname, _, hblock, ?_, ?_⟩
  · -- code spans only write backticks anew, as code tags
    have hcode : ∀ r, Tagged codeTags r → Tagged (entities ++ strongTags ++ codeTags) r :=
      fun _ => Tagged.mono (List.subset_append_right _ _)
    refine Words.subst (fun w w' hw h => hw.subst (tagged_not_mem (by decide)) (by decide)
      (by decide) (fun r hr => ⟨.of_word (hcode r hr), tagged_not_mem (by decide) r hr⟩) h)
      (fun r hr => .of_word (.inl (hcode r hr)))
      (hx.mono fun _ hw => hw.mono fun _ => Tagged.mono (List.subset_append_left _ _))
      (Subst.rewrap codeSpan_rewraps (by decide) (by decide) _)
  · -- the emphasis tags are words of the text that code spans rewrap
    have hflat : Words (Tagged (entities ++ strongTags ++ emTags)) ((trimLine l).drop m.length) :=
      hx.bind fun _ hw => hw.words (fun _ => Tagged.mono (List.subset_append_left _ _))
        (by decide) (by decide)
    exact Words.rewrap_enclosed codeSpan_rewraps (by simp) (by simp) (tagged_seps (by decide))
      (fun _ ha hmem => hxnl ((codeSpan_rewraps.inner_infix ha).subset hmem)) hflat

end Courseware.Markdown
