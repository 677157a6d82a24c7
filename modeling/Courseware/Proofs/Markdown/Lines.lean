import Mathlib.Data.List.Forall2
import Courseware.Markdown.Block
import Courseware.Proofs.Text.Cut

/-!
# Where the code blocks stand among the lines

While the prose of lesson markdown is escaped and given emphasis, each fenced block waits in
the text as a token line: a NUL, `CODEBLOCK`, the block's number and a NUL (`tokenLine`).
`TokenLines i j ls` says that in the lines `ls` the tokens of blocks `i` to `j - 1` stand
alone and in order, and that every other line holds no NUL.

The tokenized text has that shape (`numberFences_tokenLines`), and escaping keeps it
(`TokenLines.escape`). Emphasis only writes runs of marks (`*` and the shield) anew as text
without line breaks or NULs (`Retouch`); such a rewrite relates the lines one to one
(`Retouch.lines`) and leaves a line without marks as it is, so the token lines survive it
(`TokenLines.retouch`). A token line is found again as the number of its block
(`tokenIndex?_tokenLine`).
-/

namespace Courseware.Markdown

open Pattern

/-! ## Lines of a text -/

theorem splitOn_append_of_not_mem {a : List Char} (ha : '\n' ∉ a) (x : List Char) :
    (a ++ x).splitOn '\n' = (x.splitOn '\n').modifyHead (a ++ ·) := by
  induction a with
  | nil =>
    rw [List.nil_append]
    cases x.splitOn '\n' <;> rfl
  | cons c a ih =>
    simp only [List.mem_cons, not_or] at ha
    rw [List.cons_append, List.splitOn_cons_eq_if_modifyHead, if_neg (by simpa using Ne.symm ha.1),
      ih ha.2, List.modifyHead_modifyHead]
    rfl

theorem forall₂_modifyHead {R : List Char → List Char → Prop} {f g : List Char → List Char}
    (hfg : ∀ a b, R a b → R (f a) (g b)) {L L' : List (List Char)} (h : List.Forall₂ R L L') :
    List.Forall₂ R (L.modifyHead f) (L'.modifyHead g) := by
  cases h with
  | nil => exact .nil
  | cons hab h => exact .cons (hfg _ _ hab) h

theorem splitOn_flatMap {f : Char → List Char} (hnl : f '\n' = ['\n'])
    (hf : ∀ c, c ≠ '\n' → '\n' ∉ f c) (x : List Char) :
    (x.flatMap f).splitOn '\n' = (x.splitOn '\n').map (·.flatMap f) := by
  induction x with
  | nil => rfl
  | cons c x ih =>
    rw [List.flatMap_cons, List.splitOn_cons_eq_if_modifyHead]
    by_cases hc : c = '\n'
    · subst hc
      rw [hnl, List.singleton_append, List.splitOn_cons_eq_if_modifyHead]
      simp only [beq_self_eq_true, if_true, ih, List.map_cons, List.flatMap_nil]
    · rw [if_neg (by simpa using hc), splitOn_append_of_not_mem (hf c hc), ih]
      cases x.splitOn '\n' <;> simp

/-! ## Rewriting runs of marks -/

/-- The characters emphasis reads or writes as delimiters: `*` and the shield. -/
def isMark (c : Char) : Bool := c == '*' || c == shield

/-- `y` is `x` with some runs of marks written anew, each as text without a line break or a
NUL. -/
inductive Retouch : List Char → List Char → Prop
  | nil : Retouch [] []
  | keep (c : Char) {x y : List Char} : Retouch x y → Retouch (c :: x) (c :: y)
  | swap {m r x y : List Char} : m ≠ [] → (∀ c ∈ m, isMark c = true) → '\n' ∉ r → '\x00' ∉ r →
      Retouch x y → Retouch (m ++ x) (r ++ y)

namespace Retouch

theorem refl : ∀ x : List Char, Retouch x x
  | [] => nil
  | c :: x => keep c (refl x)

theorem append {x y x' y' : List Char} (h : Retouch x y) (h' : Retouch x' y') :
    Retouch (x ++ x') (y ++ y') := by
  induction h with
  | nil => exact h'
  | keep c _ ih => exact keep c ih
  | swap hm hmarks hr hr0 _ ih =>
    rw [List.append_assoc, List.append_assoc]
    exact swap hm hmarks hr hr0 ih

theorem eq_of_no_marks {x y : List Char} (h : Retouch x y) (hx : ∀ c ∈ x, isMark c = false) :
    y = x := by
  induction h with
  | nil => rfl
  | keep c _ ih => rw [ih fun d hd => hx d (List.mem_cons_of_mem _ hd)]
  | swap hm hmarks _ _ _ _ =>
    obtain ⟨c, m, rfl⟩ := List.exists_cons_of_ne_nil hm
    have hmark := hx c (List.mem_append_left _ List.mem_cons_self)
    rw [hmarks c List.mem_cons_self] at hmark
    cases hmark

theorem nul_free {x y : List Char} (h : Retouch x y) (hx : '\x00' ∉ x) : '\x00' ∉ y := by
  induction h with
  | nil => exact hx
  | keep c _ ih =>
    simp only [List.mem_cons, not_or] at hx ⊢
    exact ⟨hx.1, ih hx.2⟩
  | swap _ _ _ hr0 _ ih =>
    simp only [List.mem_append, not_or] at hx ⊢
    exact ⟨hr0, ih hx.2⟩

theorem newline_not_mark : isMark '\n' = false := by decide

/-- Rewriting runs of marks relates the lines one to one. -/
theorem lines {x y : List Char} (h : Retouch x y) :
    List.Forall₂ Retouch (x.splitOn '\n') (y.splitOn '\n') := by
  induction h with
  | nil => exact .cons nil .nil
  | keep c _ ih =>
    rw [List.splitOn_cons_eq_if_modifyHead, List.splitOn_cons_eq_if_modifyHead]
    split
    · exact .cons nil ih
    · exact forall₂_modifyHead (fun _ _ => keep c) ih
  | @swap m r _ _ _ hmarks hr _ _ ih =>
    have hm : '\n' ∉ m := fun hm => by
      have := hmarks _ hm
      rw [newline_not_mark] at this
      cases this
    rw [splitOn_append_of_not_mem hm, splitOn_append_of_not_mem hr]
    exact forall₂_modifyHead (fun _ _ => swap ‹_› hmarks hr ‹_›) ih

end Retouch

theorem Retouch.rewrap {α : Type} {p : Pattern α} {f : α → List Char} {ds es rs rs' : List Char}
    {inner : α → List Char} (h : Rewraps p f ds es rs rs' inner) (hds : ds ≠ [])
    (hes : es ≠ []) (hmarks : (ds ++ es).all isMark = true) (hnl : '\n' ∉ rs ++ rs')
    (hnul : '\x00' ∉ rs ++ rs') (cs : List Char) : Retouch cs (replace p f cs) := by
  simp only [List.mem_append, not_or] at hnl hnul
  conv => lhs; rw [h.text_eq cs]
  rw [h.replace_eq cs]
  induction cut p cs with
  | nil => exact .nil
  | cons piece ps ih =>
    cases piece with
    | char c => exact .keep c ih
    | hit a =>
      have := Retouch.swap hds (fun c hc => List.all_eq_true.1 hmarks c (List.mem_append_left _ hc))
        hnl.1 hnul.1
        ((Retouch.refl (inner a)).append
          (.swap hes (fun c hc => List.all_eq_true.1 hmarks c (List.mem_append_right _ hc))
            hnl.2 hnul.2 ih))
      simpa only [joinPieces, List.append_assoc] using this

/-! ## Token lines -/

/-- The line a fenced block leaves in the text while the rest is rendered. -/
def tokenLine (i : Nat) : List Char := '\x00' :: ("CODEBLOCK" ++ toString i).toList ++ ['\x00']

theorem blockToken_eq (i : Nat) : blockToken i = '\n' :: (tokenLine i ++ ['\n']) := by
  simp [blockToken, tokenLine]

theorem mem_tokenLine {i : Nat} {c : Char} (h : c ∈ tokenLine i) :
    c ∈ "\x00CODEBLOCK".toList ∨ c.isDigit = true := by
  simp only [tokenLine, String.toList_append, List.cons_append, List.mem_cons, List.mem_append,
    List.not_mem_nil, or_false] at h
  rcases h with h | (h | h) | h
  · exact .inl (h ▸ by decide)
  · exact .inl (List.mem_cons_of_mem _ h)
  · rw [Nat.toString_eq_ofList_toDigits, String.toList_ofList] at h
    exact .inr (Nat.isDigit_of_mem_toDigits (by decide) (by decide) h)
  · exact .inl (h ▸ by decide)

theorem tokenLine_plain {i : Nat} {c : Char} (h : c ∈ tokenLine i) :
    isMark c = false ∧ c ≠ '\n' ∧ Text.htmlReference c = none := by
  have hword : ("\x00CODEBLOCK".toList.all fun d =>
      !isMark d && d != '\n' && (Text.htmlReference d).isNone) = true := by decide
  rcases mem_tokenLine h with h | h
  · have := List.all_eq_true.1 hword c h
    simp only [Bool.and_eq_true, Bool.not_eq_true', bne_iff_ne, ne_eq, Option.isNone_iff_eq_none]
      at this
    exact ⟨this.1.1, this.1.2, this.2⟩
  · -- a digit is none of the characters these tests look for
    refine ⟨?_, ?_, ?_⟩
    · cases hm : isMark c
      · rfl
      · simp only [isMark, shield, Bool.or_eq_true, beq_iff_eq] at hm
        rcases hm with rfl | rfl <;> cases h
    · rintro rfl
      cases h
    · refine Text.htmlReference_eq_none_iff.2 ⟨?_, ?_, ?_, ?_, ?_⟩ <;> rintro rfl <;> cases h

theorem flatMap_escapeHtmlChar_of_none :
    ∀ {l : List Char}, (∀ c ∈ l, Text.htmlReference c = none) → l.flatMap Text.escapeHtmlChar = l
  | [], _ => rfl
  | c :: l, h => by
    rw [List.flatMap_cons, Text.escapeHtmlChar_of_none (h c List.mem_cons_self),
      flatMap_escapeHtmlChar_of_none fun d hd => h d (List.mem_cons_of_mem _ hd)]
    rfl

theorem nul_not_mem_escape {l : List Char} (hl : '\x00' ∉ l) :
    '\x00' ∉ l.flatMap Text.escapeHtmlChar := by
  intro hmem
  obtain ⟨c, hc, hmem⟩ := List.mem_flatMap.1 hmem
  rcases hr : Text.htmlReference c with _ | r
  · rw [Text.escapeHtmlChar_of_none hr, List.mem_singleton] at hmem
    exact hl (hmem ▸ hc)
  · -- no reference holds a NUL
    rw [Text.escapeHtmlChar_of_some hr] at hmem
    rcases Text.htmlReference_eq_some hr with ⟨-, rfl⟩ | ⟨-, rfl⟩ | ⟨-, rfl⟩ | ⟨-, rfl⟩ | ⟨-, rfl⟩ <;>
      exact absurd hmem (by decide)

/-- Lines in which the tokens of the `i`-th to the `j - 1`-th block stand alone, in order,
among lines that hold no NUL. -/
inductive TokenLines : Nat → Nat → List (List Char) → Prop
  | nil (i : Nat) : TokenLines i i []
  | prose {i j : Nat} {l : List Char} {ls : List (List Char)} : '\x00' ∉ l →
      TokenLines i j ls → TokenLines i j (l :: ls)
  | token {i j : Nat} {ls : List (List Char)} : TokenLines (i + 1) j ls →
      TokenLines i j (tokenLine i :: ls)

namespace TokenLines

theorem nul_mem_tokenLine (i : Nat) : '\x00' ∈ tokenLine i := List.mem_cons_self

/-- The lines rewritten by emphasis keep their tokens. -/
theorem retouch {i j : Nat} {xs ys : List (List Char)} (h : TokenLines i j xs)
    (hr : List.Forall₂ Retouch xs ys) : TokenLines i j ys := by
  induction h generalizing ys with
  | nil => cases hr; exact nil _
  | prose hl _ ih =>
    cases hr with
    | cons hxy hr => exact prose (hxy.nul_free hl) (ih hr)
  | token _ ih =>
    cases hr with
    | cons hxy hr =>
      rw [hxy.eq_of_no_marks fun c hc => (tokenLine_plain hc).1]
      exact token (ih hr)

/-- Escaping keeps the tokens, and the lines without NUL. -/
theorem escape {i j : Nat} {ls : List (List Char)} (h : TokenLines i j ls) :
    TokenLines i j (ls.map (·.flatMap Text.escapeHtmlChar)) := by
  induction h with
  | nil => exact nil _
  | prose hl _ ih => exact prose (nul_not_mem_escape hl) ih
  | @token i _ _ _ ih =>
    rw [List.map_cons, flatMap_escapeHtmlChar_of_none fun c hc => (tokenLine_plain hc).2.2]
    exact token ih

theorem tail_of_head_nul_free {i j : Nat} {l : List Char} {ls : List (List Char)}
    (h : TokenLines i j (l :: ls)) (hl : '\x00' ∉ l) : TokenLines i j ls := by
  cases h with
  | prose _ h => exact h
  | token _ => exact absurd (nul_mem_tokenLine i) hl

end TokenLines

theorem numberFences_snd : ∀ (ps : List (Piece Fence)) (i : Nat),
    (numberFences ps i).2 = hits ps
  | [], _ => rfl
  | .char _ :: ps, i => by simp only [numberFences, hits, numberFences_snd ps i]
  | .hit _ :: ps, i => by simp only [numberFences, hits, numberFences_snd ps (i + 1)]

/-- The tokenized text: each block's token stands on a line of its own, and the characters
kept around them hold no NUL, so no other line does. -/
theorem numberFences_tokenLines : ∀ (ps : List (Piece Fence)) (i : Nat),
    (∀ c, Piece.char c ∈ ps → c ≠ '\x00') →
    ∃ l ls, (numberFences ps i).1.splitOn '\n' = l :: ls ∧ '\x00' ∉ l ∧
      TokenLines i (i + (hits ps).length) (l :: ls)
  | [], i, _ => ⟨[], [], rfl, List.not_mem_nil, .prose List.not_mem_nil (.nil i)⟩
  | .char c :: ps, i, hps => by
    obtain ⟨l, ls, hsplit, hl, h⟩ :=
      numberFences_tokenLines ps i fun d hd => hps d (List.mem_cons_of_mem _ hd)
    have hc : c ≠ '\x00' := hps c List.mem_cons_self
    simp only [numberFences, hits]
    rw [List.splitOn_cons_eq_if_modifyHead, hsplit]
    split
    · exact ⟨[], l :: ls, rfl, List.not_mem_nil, .prose List.not_mem_nil h⟩
    · -- the character joins the first line, which holds no token
      refine ⟨c :: l, ls, rfl, ?_, .prose ?_ (h.tail_of_head_nul_free hl)⟩ <;>
        simpa using ⟨Ne.symm hc, hl⟩
  | .hit f :: ps, i, hps => by
    obtain ⟨l, ls, hsplit, hl, h⟩ :=
      numberFences_tokenLines ps (i + 1) fun d hd => hps d (List.mem_cons_of_mem _ hd)
    have hnl : '\n' ∉ tokenLine i := fun h => (tokenLine_plain h).2.1 rfl
    simp only [numberFences, hits, blockToken_eq, List.cons_append, List.length_cons]
    rw [List.splitOn_cons_eq_if_modifyHead, if_pos (beq_self_eq_true _), List.append_assoc,
      List.singleton_append, List.splitOn_append_cons_self_of_not_mem hnl, hsplit]
    refine ⟨[], tokenLine i :: l :: ls, rfl, List.not_mem_nil, .prose List.not_mem_nil (.token ?_)⟩
    rwa [Nat.add_assoc, Nat.add_comm 1] at h

/-! ## Finding a token again -/

theorem tokenIndex?_tokenLine (i : Nat) : tokenIndex? (tokenLine i) = some i := by
  have hdigits : (toString i).toList = Nat.toDigits 10 i := by
    rw [Nat.toString_eq_ofList_toDigits, String.toList_ofList]
  have hrest : ("CODEBLOCK" ++ toString i).toList ++ ['\x00'] =
      "CODEBLOCK".toList ++ (Nat.toDigits 10 i ++ ['\x00']) := by
    rw [String.toList_append, hdigits, List.append_assoc]
  have hdig : (Nat.toDigits 10 i).all Char.isDigit = true :=
    List.all_eq_true.2 fun c hc => Nat.isDigit_of_mem_toDigits (by decide) (by decide) hc
  have hne : (Nat.toDigits 10 i).isEmpty = false :=
    List.isEmpty_eq_false_iff.2 Nat.toDigits_ne_nil
  have hpre : "CODEBLOCK".toList.isPrefixOf ("CODEBLOCK".toList ++ (Nat.toDigits 10 i ++ ['\x00'])) =
      true := List.isPrefixOf_iff_prefix.2 (List.prefix_append _ _)
  simp only [tokenIndex?, tokenLine, List.cons_append, hrest, hpre, if_true, List.drop_left',
    List.reverse_append, List.reverse_cons, List.reverse_nil, List.nil_append,
    List.reverse_reverse, hne, hdig, Bool.not_false, Bool.true_and, if_true]
  rw [← Nat.ofDigitChars_eq_foldl, Nat.ofDigitChars_ten_toDigits]

theorem tokenIndex?_of_nul_free {l : List Char} (hl : '\x00' ∉ l) : tokenIndex? l = none := by
  unfold tokenIndex?
  split
  · exact absurd List.mem_cons_self hl
  · rfl

theorem trim_tokenLine (i : Nat) :
    Text.dropEndWhile Text.isBlank (Text.dropBlank (tokenLine i)) = tokenLine i := by
  have hnul : Text.isBlank '\x00' = false := by decide
  have hfront : ∀ l : List Char, Text.dropBlank ('\x00' :: l) = '\x00' :: l := fun l => by
    rw [Text.dropBlank, List.dropWhile_cons, if_neg (by simp [hnul])]
  have hback : ∀ l : List Char, Text.dropEndWhile Text.isBlank (l ++ ['\x00']) = l ++ ['\x00'] :=
    fun l => by
      rw [Text.dropEndWhile, List.reverse_append, List.reverse_singleton, List.singleton_append,
        List.dropWhile_cons, if_neg (by simp [hnul]), List.reverse_cons, List.reverse_reverse]
  rw [tokenLine, List.cons_append, hfront, ← List.cons_append, hback]

end Courseware.Markdown
