import Courseware.Proofs.Markdown.Prose

/-!
# Rendered markdown: its own markup, and its code blocks as written

`Markdown.toHtml` writes a fixed set of words of markup: the character references of
escaping, the tags of prose blocks, the tags of lists and code blocks, and the code tag that
names a block's language (`OwnMarkup`). Everything else in its result is plain, so every `<`
begins one of its tags, every `&` one of its references, every `"` stands in a language's
code tag, and no NUL is left (`toHtml_own_markup`).

The code blocks come back whole and in order (`toHtml_code_blocks`). Each fence leaves a token
line, which escaping and emphasis keep; a token line gives back its block, and no other line
gives a `<pre>`. A block's body and language come from text without NULs, and the language is
made of language characters (`Fence.Clean`).
-/

namespace Courseware.Markdown

open Pattern

/-! ## The markup of rendered markdown -/

def blockTags : List String := ["<ul>", "</ul>", "<pre>", "</pre>"]

def langTag (lang : List Char) : List Char :=
  "<code class=\"language-".toList ++ lang ++ "\">".toList

/-- The tags rendered markdown writes: those of prose, lists and code blocks, and the code tag
naming a language of letters, digits, `_`, `+` and `-`. -/
def OwnTag (w : List Char) : Prop :=
  w ∈ (proseTags ++ blockTags).map String.toList ∨
    ∃ lang, lang ≠ [] ∧ lang.all isLangChar = true ∧ w = langTag lang

/-- The markup of rendered markdown: character references and its own tags. -/
def OwnMarkup (w : List Char) : Prop := w ∈ entities.map String.toList ∨ OwnTag w

theorem ownMarkup_of_prose {w : List Char} (hw : ProseWord w) : OwnMarkup w := by
  unfold ProseWord at hw
  rw [List.map_append, List.mem_append] at hw
  rcases hw with hw | hw
  · exact .inl hw
  · exact .inr (.inl (by rw [List.map_append]; exact List.mem_append_left _ hw))

theorem ownMarkup_of_blockTag {w : String} (hw : w ∈ blockTags) : OwnMarkup w.toList :=
  .inr (.inl (List.mem_map_of_mem (List.mem_append_right _ hw)))

theorem ownMarkup_langTag {lang : List Char} (hne : lang ≠ [])
    (hlang : lang.all isLangChar = true) : OwnMarkup (langTag lang) :=
  .inr (.inr ⟨lang, hne, hlang, rfl⟩)

/-- The fixed words of markup: references and the tags without a language. -/
def fixedMarkup : List (List Char) := (entities ++ proseTags ++ blockTags).map String.toList

theorem ownMarkup_cases {w : List Char} (hw : OwnMarkup w) :
    w ∈ fixedMarkup ∨ ∃ lang, lang ≠ [] ∧ lang.all isLangChar = true ∧ w = langTag lang := by
  unfold fixedMarkup
  rcases hw with hw | hw | hw
  · exact .inl (by simp only [List.map_append, List.mem_append] at hw ⊢; exact .inl (.inl hw))
  · exact .inl (by simp only [List.map_append, List.mem_append] at hw ⊢; tauto)
  · exact .inr hw

theorem isLangChar_plain {c : Char} (h : isLangChar c = true) : markupChar c = false := by
  cases hm : markupChar c
  · rfl
  · simp only [markupChar, Bool.or_eq_true, beq_iff_eq] at hm
    rcases hm with (rfl | rfl) | rfl <;> exact absurd h (by decide)

theorem langTag_eq (lang : List Char) :
    langTag lang = '<' :: ("code class=\"language-".toList ++ lang ++ "\">".toList) := by
  have hopen : "<code class=\"language-".toList = '<' :: "code class=\"language-".toList := by
    decide
  exact congrArg (· ++ lang ++ "\">".toList) hopen

theorem langTag_eq_code (lang : List Char) :
    langTag lang = '<' :: 'c' :: ("ode class=\"language-".toList ++ lang ++ "\">".toList) := by
  have hcode : "code class=\"language-".toList = 'c' :: "ode class=\"language-".toList := by
    decide
  rw [langTag_eq]
  exact congrArg (fun x => '<' :: (x ++ lang ++ "\">".toList)) hcode

theorem not_mem_langTag_tail {lang : List Char} (hlang : lang.all isLangChar = true) {c : Char}
    (hc : markupChar c = true) (hq : c ≠ '"') : c ∉ (langTag lang).tail := by
  rw [langTag_eq, List.tail_cons]
  have hc' : c = '<' ∨ c = '&' := by
    simp only [markupChar, Bool.or_eq_true, beq_iff_eq] at hc
    tauto
  simp only [List.mem_append, not_or]
  refine ⟨⟨?_, fun hmem => ?_⟩, ?_⟩
  · rcases hc' with rfl | rfl <;> decide
  · -- a language is made of plain characters
    have := isLangChar_plain (List.all_eq_true.1 hlang c hmem)
    rw [hc] at this
    cases this
  · rcases hc' with rfl | rfl <;> decide

theorem ownMarkup_ne_nil {w : List Char} (hw : OwnMarkup w) : w ≠ [] := by
  rcases ownMarkup_cases hw with hw | ⟨lang, -, -, rfl⟩
  · have hall : ∀ v ∈ fixedMarkup, v ≠ [] := by decide
    exact hall w hw
  · rw [langTag_eq]
    exact List.cons_ne_nil _ _

theorem head?_of_cons_eq_append {c : Char} {q w r : List Char} (hw : w ≠ [])
    (h : c :: q = w ++ r) : w.head? = some c := by
  cases w with
  | nil => exact absurd rfl hw
  | cons d w =>
    cases h
    rfl

theorem ownMarkup_tail {w : List Char} (hw : OwnMarkup w) : '<' ∉ w.tail ∧ '&' ∉ w.tail := by
  rcases ownMarkup_cases hw with hw | ⟨lang, -, hlang, rfl⟩
  · have hall : ∀ v ∈ fixedMarkup, '<' ∉ v.tail ∧ '&' ∉ v.tail := by decide
    exact hall w hw
  · exact ⟨not_mem_langTag_tail hlang rfl (by decide), not_mem_langTag_tail hlang rfl (by decide)⟩

/-! ## Code blocks -/

theorem untilFence_isPrefix {cs body rest : List Char} (h : untilFence cs = some (body, rest)) :
    body <+: cs := by
  induction cs generalizing body rest with
  | nil => simp [untilFence] at h
  | cons c cs ih =>
    unfold untilFence at h
    split at h
    · cases h
    · -- the closing backticks: the body ends here
      obtain ⟨rfl, -⟩ := Prod.mk.inj (Option.some.inj h)
      exact List.nil_prefix
    · rename_i d ds _ heq
      obtain ⟨⟨b, r⟩, hb, hbr⟩ := Option.map_eq_some_iff.1 h
      obtain ⟨rfl, -⟩ := Prod.mk.inj hbr
      obtain ⟨rfl, rfl⟩ := List.cons.inj heq
      exact List.cons_prefix_cons.2 ⟨rfl, ih hb⟩

/-- A fence's body is a part of the text it was found in, and its language is made of
language characters. -/
theorem fence_spec {cs : List Char} {f : Fence} {n : Nat} (h : fence cs = some (f, n)) :
    f.body <:+: cs ∧ f.lang.all isLangChar = true := by
  unfold fence at h
  split at h
  · rename_i rest
    dsimp only at h
    split at h
    · rename_i body hdrop
      obtain ⟨⟨b, r⟩, hb, hfn⟩ := Option.map_eq_some_iff.1 h
      obtain ⟨rfl, -⟩ := Prod.mk.inj hfn
      refine ⟨?_, List.all_takeWhile⟩
      have hbody : body <:+ rest :=
        (List.suffix_cons '\n' body).trans (hdrop ▸ List.drop_suffix _ rest)
      have hrest : rest <:+ '`' :: '`' :: '`' :: rest := ⟨['`', '`', '`'], rfl⟩
      exact (untilFence_isPrefix hb).isInfix.trans (hbody.trans hrest).isInfix
    · cases h
  · cases h

/-- A code block found in text without NULs: its body holds no NUL, and its language is made of
language characters. -/
structure Fence.Clean (f : Fence) : Prop where
  body : '\x00' ∉ f.body
  lang : f.lang.all isLangChar = true

/-- The code blocks of a text: the fences found leftmost first, without overlap, in the text
without its NULs. -/
def codeBlocks (text : String) : List Fence :=
  hits (cut fence (text.toList.filter (· != '\x00')))

theorem nul_not_mem_source (text : String) : '\x00' ∉ text.toList.filter (· != '\x00') := by
  simp

theorem codeBlocks_clean {text : String} {f : Fence} (hf : f ∈ codeBlocks text) : f.Clean := by
  obtain ⟨rest, n, hsuf, hfence⟩ := exists_suffix_of_hit_mem_cut (mem_hits hf)
  obtain ⟨hbody, hlang⟩ := fence_spec hfence
  exact ⟨fun hmem => nul_not_mem_source text ((hbody.trans hsuf.isInfix).subset hmem), hlang⟩

/-- A code block as HTML: `<pre>`, the code tag, the escaped body without its trailing line
breaks, and the closing tags. -/
theorem Fence.toHtml_toList (f : Fence) :
    f.toHtml.toList = "<pre>".toList ++
      ((if f.lang.isEmpty then "<code>".toList else langTag f.lang) ++
        ((Text.dropEndWhile (· == '\n') f.body).flatMap Text.escapeHtmlChar ++
          ("</code>".toList ++ "</pre>".toList))) := by
  have hplain : "<pre><code>".toList = "<pre>".toList ++ "<code>".toList := by decide
  have hlang : "<pre><code class=\"language-".toList =
      "<pre>".toList ++ "<code class=\"language-".toList := by decide
  have hclose : "</code></pre>".toList = "</code>".toList ++ "</pre>".toList := by decide
  unfold Fence.toHtml
  dsimp only
  split
  · simp only [String.toList_append, Text.escapeHtml, String.toList_ofList, hplain, hclose,
      List.append_assoc]
  · -- the code tag is unfolded first: a literal left to the closing `rfl` is costly to compare
    simp only [String.toList_append, Text.escapeHtml, String.toList_ofList]
    unfold langTag
    simp only [hlang, hclose, List.append_assoc]

theorem Fence.Clean.codeTag {f : Fence} (hf : f.Clean) :
    OwnMarkup (if f.lang.isEmpty then "<code>".toList else langTag f.lang) := by
  split
  · exact ownMarkup_of_prose (by decide)
  · rename_i hne
    exact ownMarkup_langTag (fun h => hne (by rw [h]; rfl)) hf.lang

theorem Fence.Clean.words {f : Fence} (hf : f.Clean) : Words OwnMarkup f.toHtml.toList := by
  rw [Fence.toHtml_toList]
  refine (Words.of_word (ownMarkup_of_blockTag (by decide))).append
    ((Words.of_word hf.codeTag).append ((Words.escape ?_ _).append
      ((Words.of_word (ownMarkup_of_prose (by decide))).append
        (Words.of_word (ownMarkup_of_blockTag (by decide))))))
  exact fun e he => .inl (List.mem_map_of_mem he)

theorem Fence.Clean.nul_free {f : Fence} (hf : f.Clean) : '\x00' ∉ f.toHtml.toList := by
  have hbody : '\x00' ∉ Text.dropEndWhile (· == '\n') f.body := fun hmem => by
    unfold Text.dropEndWhile at hmem
    exact hf.body (List.mem_reverse.1
      ((List.dropWhile_suffix _).subset (List.mem_reverse.1 hmem)))
  have hlang : '\x00' ∉ langTag f.lang := by
    unfold langTag
    simp only [List.mem_append, not_or]
    refine ⟨⟨by decide, fun hmem => ?_⟩, by decide⟩
    have := List.all_eq_true.1 hf.lang _ hmem
    exact absurd this (by decide)
  rw [Fence.toHtml_toList]
  simp only [List.mem_append, not_or]
  refine ⟨by decide, ?_, nul_not_mem_escape hbody, by decide, by decide⟩
  split
  · decide
  · exact hlang

theorem ownMarkup_pre {w : List Char} (hw : OwnMarkup w) (hne : w ≠ "<pre>".toList) :
    ¬ w <+: '<' :: "pre>".toList ∧ ¬ '<' :: "pre>".toList <+: w := by
  rcases ownMarkup_cases hw with hw | ⟨lang, -, -, rfl⟩
  · have hall : ∀ v ∈ fixedMarkup, v ≠ "<pre>".toList →
        ¬ v <+: '<' :: "pre>".toList ∧ ¬ '<' :: "pre>".toList <+: v := by decide
    exact hall w hw hne
  · -- the code tag and `<pre>` part at their second character
    have hpre : "pre>".toList = 'p' :: "re>".toList := by decide
    rw [langTag_eq_code, hpre]
    simp [List.cons_prefix_cons]

theorem Fence.Clean.pre_once {f : Fence} (hf : f.Clean) :
    ∃ rest, f.toHtml.toList = "<pre>".toList ++ rest ∧ ¬ "<pre>".toList <:+: rest := by
  rw [Fence.toHtml_toList]
  refine ⟨_, rfl, ?_⟩
  have hpre : "<pre>".toList = '<' :: "pre>".toList := by decide
  have hcode : (if f.lang.isEmpty then "<code>".toList else langTag f.lang) ≠ "<pre>".toList := by
    split
    · decide
    · have hp : "<pre>".toList = '<' :: 'p' :: "re>".toList := by decide
      rw [langTag_eq_code, hp]
      simp
  have hents : ∀ e ∈ entities, e.toList ≠ "<pre>".toList := by decide
  let W : List Char → Prop := fun w => OwnMarkup w ∧ w ≠ "<pre>".toList
  have hrest : Words W ((if f.lang.isEmpty then "<code>".toList else langTag f.lang) ++
      ((Text.dropEndWhile (· == '\n') f.body).flatMap Text.escapeHtmlChar ++
        ("</code>".toList ++ "</pre>".toList))) :=
    (Words.of_word ⟨hf.codeTag, hcode⟩).append
      ((Words.escape (fun e he => ⟨.inl (List.mem_map_of_mem he), hents e he⟩) _).append
        ((Words.of_word ⟨ownMarkup_of_prose (by decide), by decide⟩).append
          (Words.of_word ⟨ownMarkup_of_blockTag (by decide), by decide⟩)))
  rw [hpre]
  exact Words.not_infix rfl (fun w hw => (ownMarkup_tail hw.1).1)
    (fun w hw => ownMarkup_pre hw.1 hw.2) hrest

/-! ## Lines and the blocks they give -/

/-- The block one line of the emphasised text gives: none for a blank line, the code block its
token names, or the line as prose. -/
def lineBlock (fences : List Fence) (l : List Char) : Option String :=
  let t := trimLine l
  if t.isEmpty then none
  else match tokenIndex? t >>= fun i => fences[i]? with
    | some f => some f.toHtml
    | none => some (lineToHtml t)

/-- The lines of a text as the renderer reads them: the text with its fences replaced by
tokens, escaped, given emphasis and cut at line breaks. -/
def emphasisedLines (text : String) : List (List Char) :=
  (emphasise ((numberFences (cut fence (text.toList.filter (· != '\x00'))) 0).1.flatMap
    Text.escapeHtmlChar)).splitOn '\n'

theorem toHtml_eq (text : String) :
    toHtml text = "\n".intercalate
      (wrapItems ((emphasisedLines text).filterMap (lineBlock (codeBlocks text))) false) := by
  rw [codeBlocks, ← numberFences_snd]
  simp only [toHtml, Text.escapeHtml, String.toList_ofList]
  rfl

theorem emphasisedLines_words {text : String} :
    ∀ l ∈ emphasisedLines text, Words ProseWord l :=
  Words.splitOn (not_mem_proseWord (by decide)) _ (Nat.le_refl _)
    (emphasise_words (Words.escape_prose _))

theorem emphasisedLines_tokenLines (text : String) :
    TokenLines 0 (codeBlocks text).length (emphasisedLines text) := by
  have hchars : ∀ c, Piece.char c ∈ cut fence (text.toList.filter (· != '\x00')) →
      c ≠ '\x00' := fun c hc hnul => by
    subst hnul
    exact nul_not_mem_source text (mem_of_char_mem_cut hc)
  obtain ⟨l, ls, hsplit, -, h⟩ := numberFences_tokenLines _ 0 hchars
  apply emphasise_tokenLines
  rw [splitOn_flatMap rfl, hsplit]
  · rw [Nat.zero_add] at h
    exact h.escape
  · -- escaping writes a line break only for a line break
    intro c hc hmem
    rcases hr : Text.htmlReference c with _ | r
    · rw [Text.escapeHtmlChar_of_none hr, List.mem_singleton] at hmem
      exact hc hmem.symm
    · rw [Text.escapeHtmlChar_of_some hr] at hmem
      rcases Text.htmlReference_eq_some hr with ⟨-, rfl⟩ | ⟨-, rfl⟩ | ⟨-, rfl⟩ | ⟨-, rfl⟩ | ⟨-, rfl⟩ <;>
        exact absurd hmem (by decide)

theorem TokenLines.le {i j : Nat} {ls : List (List Char)} (h : TokenLines i j ls) : i ≤ j := by
  induction h with
  | nil => exact (Nat.le_refl _)
  | prose _ _ ih => exact ih
  | token _ ih => omega

theorem TokenLines.mem {i j : Nat} {ls : List (List Char)} (h : TokenLines i j ls)
    {l : List Char} (hl : l ∈ ls) :
    '\x00' ∉ l ∨ ∃ k, i ≤ k ∧ k < j ∧ l = tokenLine k := by
  induction h with
  | nil => cases hl
  | prose hnul _ ih =>
    rcases List.mem_cons.1 hl with rfl | hl
    · exact .inl hnul
    · exact ih hl
  | @token i j ls h ih =>
    rcases List.mem_cons.1 hl with rfl | hl
    · exact .inr ⟨i, (Nat.le_refl _), h.le, rfl⟩
    · rcases ih hl with hnul | ⟨k, hik, hkj, rfl⟩
      · exact .inl hnul
      · exact .inr ⟨k, by omega, hkj, rfl⟩

theorem lineBlock_of_nul_free (fences : List Fence) {l : List Char} (hl : '\x00' ∉ l) :
    lineBlock fences l =
      if (trimLine l).isEmpty then none else some (lineToHtml (trimLine l)) := by
  have htrim : '\x00' ∉ trimLine l := fun h => hl (mem_of_mem_trimLine h)
  unfold lineBlock
  dsimp only
  split
  · rfl
  · rw [tokenIndex?_of_nul_free htrim]
    rfl

theorem lineBlock_tokenLine {fences : List Fence} {i : Nat} (hi : i < fences.length) :
    lineBlock fences (tokenLine i) = some fences[i].toHtml := by
  have htrim : trimLine (tokenLine i) = tokenLine i := trim_tokenLine i
  unfold lineBlock
  dsimp only
  rw [htrim, if_neg (by simp [tokenLine]), tokenIndex?_tokenLine]
  show (match fences[i]? with
    | some f => some f.toHtml
    | none => some (lineToHtml (tokenLine i))) = some fences[i].toHtml
  rw [List.getElem?_eq_getElem hi]

def holdsPre (b : String) : Bool := "<pre>".toList.isInfixOf_internal b.toList

theorem holdsPre_iff {b : String} : holdsPre b = true ↔ "<pre>".toList <:+: b.toList :=
  List.isInfixOf_internal_iff_isInfix

theorem filter_holdsPre_blocks {fences : List Fence} :
    ∀ {i j : Nat} {ls : List (List Char)}, TokenLines i j ls → j ≤ fences.length →
      (∀ l ∈ ls, Words ProseWord l) →
      (ls.filterMap (lineBlock fences)).filter holdsPre =
        ((fences.drop i).take (j - i)).map Fence.toHtml := by
  intro i j ls h hj hw
  induction h with
  | nil i => simp
  | @prose i j l ls hl _ ih =>
    have hrest := ih hj fun l' hl' => hw l' (List.mem_cons_of_mem _ hl')
    by_cases hempty : (trimLine l).isEmpty = true
    · rw [List.filterMap_cons_none (by rw [lineBlock_of_nul_free _ hl, if_pos hempty])]
      exact hrest
    · -- a prose block holds no `<pre>`
      have hprose : holdsPre (lineToHtml (trimLine l)) = false :=
        Bool.eq_false_iff.2 fun hpre => pre_not_infix_of_prose
          (lineToHtml_words (trimLine_words (hw l List.mem_cons_self))) (holdsPre_iff.1 hpre)
      rw [List.filterMap_cons_some (by rw [lineBlock_of_nul_free _ hl, if_neg hempty]),
        List.filter_cons_of_neg (by rw [hprose]; simp)]
      exact hrest
  | @token i j ls h ih =>
    have hi : i < fences.length := by
      have := h.le
      omega
    have hpre : holdsPre fences[i].toHtml = true := by
      rw [holdsPre_iff, Fence.toHtml_toList]
      exact List.infix_append [] _ _
    have hlen : j - i = j - (i + 1) + 1 := by
      have := h.le
      omega
    rw [List.filterMap_cons_some (lineBlock_tokenLine hi), List.filter_cons_of_pos hpre,
      ih hj fun l' hl' => hw l' (List.mem_cons_of_mem _ hl'), List.drop_eq_getElem_cons hi,
      hlen, List.take_succ_cons, List.map_cons]

theorem blocks_markup {fences : List Fence} (hf : ∀ f ∈ fences, f.Clean) {i j : Nat}
    {ls : List (List Char)} (h : TokenLines i j ls) (hj : j ≤ fences.length)
    (hw : ∀ l ∈ ls, Words ProseWord l) :
    ∀ b ∈ ls.filterMap (lineBlock fences), Words OwnMarkup b.toList ∧ '\x00' ∉ b.toList := by
  intro b hb
  obtain ⟨l, hl, hlb⟩ := List.mem_filterMap.1 hb
  rcases h.mem hl with hnul | ⟨k, -, hk, rfl⟩
  · rw [lineBlock_of_nul_free _ hnul] at hlb
    split at hlb
    · cases hlb
    · cases hlb
      exact ⟨(lineToHtml_words (trimLine_words (hw l hl))).mono fun _ => ownMarkup_of_prose,
        lineToHtml_nul_free fun h => hnul (mem_of_mem_trimLine h)⟩
  · have hclean := hf _ (List.getElem_mem (show k < fences.length by omega))
    rw [lineBlock_tokenLine (by omega)] at hlb
    cases hlb
    exact ⟨hclean.words, hclean.nul_free⟩

/-! ## Lists around items -/

theorem wrapItems_subset : ∀ (bs : List String) (inList : Bool),
    wrapItems bs inList ⊆ "<ul>" :: "</ul>" :: bs
  | [], inList => by
    unfold wrapItems
    split <;> simp
  | b :: bs, inList => by
    have hrest : ∀ l, wrapItems bs l ⊆ "<ul>" :: "</ul>" :: b :: bs := fun l =>
      List.Subset.trans (wrapItems_subset bs l) (by intro x; simp only [List.mem_cons]; tauto)
    unfold wrapItems
    dsimp only
    split_ifs
    · exact List.cons_subset.2 ⟨by simp, List.cons_subset.2 ⟨by simp, hrest true⟩⟩
    · exact List.cons_subset.2 ⟨by simp, List.cons_subset.2 ⟨by simp, hrest false⟩⟩
    · exact List.cons_subset.2 ⟨by simp, hrest inList⟩

theorem filter_wrapItems {P : String → Bool} (hopen : P "<ul>" = false) (hclose : P "</ul>" = false) :
    ∀ (bs : List String) (inList : Bool), (wrapItems bs inList).filter P = bs.filter P
  | [], inList => by
    unfold wrapItems
    split <;> simp [hclose]
  | b :: bs, inList => by
    unfold wrapItems
    dsimp only
    split_ifs <;> simp [List.filter_cons, hopen, hclose, filter_wrapItems hopen hclose bs]

theorem not_mem_intercalate {c : Char} {sep : List Char} (hsep : c ∉ sep) :
    ∀ {ls : List (List Char)}, (∀ l ∈ ls, c ∉ l) → c ∉ sep.intercalate ls
  | [], _ => by simp
  | [l], h => by simpa using h l List.mem_cons_self
  | l :: l' :: ls, h => by
    rw [List.intercalate_cons_cons]
    simp only [List.mem_append, not_or]
    exact ⟨⟨h l List.mem_cons_self, hsep⟩,
      not_mem_intercalate hsep fun x hx => h x (List.mem_cons_of_mem _ hx)⟩

/-! ## Rendered markdown -/

theorem toHtml_words (text : String) :
    Words OwnMarkup (toHtml text).toList ∧ '\x00' ∉ (toHtml text).toList := by
  have hblocks := blocks_markup (fun _ => codeBlocks_clean) (emphasisedLines_tokenLines text)
    (Nat.le_refl _) emphasisedLines_words
  have hparts : ∀ b ∈ wrapItems ((emphasisedLines text).filterMap
      (lineBlock (codeBlocks text))) false, Words OwnMarkup b.toList ∧ '\x00' ∉ b.toList := by
    intro b hb
    rcases List.mem_cons.1 (wrapItems_subset _ _ hb) with rfl | hb
    · exact ⟨.of_word (ownMarkup_of_blockTag (by decide)), by decide⟩
    rcases List.mem_cons.1 hb with rfl | hb
    · exact ⟨.of_word (ownMarkup_of_blockTag (by decide)), by decide⟩
    · exact hblocks b hb
  rw [toHtml_eq, String.toList_intercalate]
  constructor
  · refine Words.intercalate (.plain rfl .nil) fun l hl => ?_
    obtain ⟨b, hb, rfl⟩ := List.mem_map.1 hl
    exact (hparts b hb).1
  · refine not_mem_intercalate (by decide) fun l hl => ?_
    obtain ⟨b, hb, rfl⟩ := List.mem_map.1 hl
    exact (hparts b hb).2

/-- Rendered markdown writes only its own markup: every `<` begins one of its tags, every `&`
one of the references of escaping, and every `"` stands in the code tag of a block's language,
made of language characters. No NUL is left, so every block's token was replaced. -/
theorem toHtml_own_markup (text : String) :
    '\x00' ∉ (toHtml text).toList ∧
    (∀ p q, (toHtml text).toList = p ++ '<' :: q → ∃ tag r, OwnTag tag ∧ '<' :: q = tag ++ r) ∧
    (∀ p q, (toHtml text).toList = p ++ '&' :: q →
      ∃ e ∈ entities, ∃ r, '&' :: q = e.toList ++ r) ∧
    (∀ p q, (toHtml text).toList = p ++ '"' :: q →
      ∃ lang, lang ≠ [] ∧ lang.all isLangChar = true ∧
        ∃ a b w₁ w₂, langTag lang = w₁ ++ '"' :: w₂ ∧ p = a ++ w₁ ∧ q = w₂ ++ b) := by
  obtain ⟨hwords, hnul⟩ := toHtml_words text
  refine ⟨hnul, fun p q hx => ?_, fun p q hx => ?_, fun p q hx => ?_⟩
  · rw [hx] at hwords
    obtain ⟨w, r, hw, heq⟩ := hwords.begins_word rfl fun w hw => (ownMarkup_tail hw).1
    refine ⟨w, r, ?_, heq⟩
    have hhead := head?_of_cons_eq_append (ownMarkup_ne_nil hw) heq
    rcases hw with hw | hw
    · -- a reference starts with `&`
      have hall : ∀ e ∈ entities.map String.toList, e.head? = some '&' := by decide
      rw [hall w hw] at hhead
      exact absurd hhead (by decide)
    · exact hw
  · rw [hx] at hwords
    obtain ⟨w, r, hw, heq⟩ := hwords.begins_word rfl fun w hw => (ownMarkup_tail hw).2
    have hhead := head?_of_cons_eq_append (ownMarkup_ne_nil hw) heq
    rcases ownMarkup_cases hw with hw | ⟨lang, -, -, rfl⟩
    · -- only a reference among the fixed words starts with `&`
      have hall : ∀ v ∈ fixedMarkup, v.head? = some '&' → v ∈ entities.map String.toList := by
        decide
      obtain ⟨e, he, rfl⟩ := List.mem_map.1 (hall w hw hhead)
      exact ⟨e, he, r, heq⟩
    · rw [langTag_eq, List.head?_cons] at hhead
      exact absurd hhead (by decide)
  · rw [hx] at hwords
    obtain ⟨a, b, w₁, w₂, hw, rfl, rfl⟩ := hwords.exists_word_of_markup rfl rfl
    rcases ownMarkup_cases hw with hw | ⟨lang, hne, hlang, hlt⟩
    · -- no fixed word holds a quote
      have hall : ∀ v ∈ fixedMarkup, '"' ∉ v := by decide
      exact absurd (by simp) (hall _ hw)
    · exact ⟨lang, hne, hlang, a, b, w₁, w₂, hlt.symm, rfl, rfl⟩

/-- Rendered markdown is its parts joined by line breaks, and the parts holding `<pre>` are
the code blocks of the text, in order, each holding `<pre>` once at its front. -/
theorem toHtml_code_blocks (text : String) :
    ∃ parts : List String, toHtml text = "\n".intercalate parts ∧
      parts.filter holdsPre = (codeBlocks text).map Fence.toHtml ∧
      ∀ f ∈ codeBlocks text,
        ∃ rest, f.toHtml.toList = "<pre>".toList ++ rest ∧ ¬ "<pre>".toList <:+: rest := by
  refine ⟨_, toHtml_eq text, ?_, fun f hf => (codeBlocks_clean hf).pre_once⟩
  rw [filter_wrapItems (by decide) (by decide), filter_holdsPre_blocks
    (emphasisedLines_tokenLines text) (Nat.le_refl _) emphasisedLines_words]
  simp

end Courseware.Markdown
