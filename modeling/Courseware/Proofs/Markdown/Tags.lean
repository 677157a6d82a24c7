import Mathlib
import Courseware.Proofs.Markdown.Elements
import Courseware.Proofs.Markdown.Lists

/-!
# The tags of rendered markdown, and how they pair up

`tagsOf` reads the tags of a text in order: a `<` opens a tag and the next `>` closes it.
`nests` reads them as a browser reads elements: every closing tag closes the innermost element
still open, and none is left open.

Rendered markdown is its blocks joined by line breaks, with one list around each maximal run of
list items (`toHtml_inline_tags_pair`). A block is a code block of the text, or one paragraph,
heading or list item whose text holds inline tags only; in that text the emphasis tags come in
pairs, each element closed before the next opens, and so do the code tags. Each pass of the
renderer pairs its own tags, but it does not see the tags of the others: a code span that
starts inside emphasis ends after it, and strong emphasis, found before the text is cut into
lines, can open on one line and close on the next (`inline_elements_cross`).

The proof reads tags with the scanner's state: text that leaves the scanner outside a tag
(`scanEnd`) reads its tags whatever follows (`tagsOf_append`), so the tags of text made of words
and elements are those of its words and elements, in order (`Words.pairsUp`).
-/

namespace Courseware.Markdown

/-! ## Reading tags -/

def scanTags : Option (List Char) → List Char → List (List Char)
  | _, [] => []
  | none, c :: cs => if c = '<' then scanTags (some ['<']) cs else scanTags none cs
  | some t, c :: cs =>
    if c = '>' then (t ++ ['>']) :: scanTags none cs else scanTags (some (t ++ [c])) cs

def scanEnd : Option (List Char) → List Char → Option (List Char)
  | st, [] => st
  | none, c :: cs => if c = '<' then scanEnd (some ['<']) cs else scanEnd none cs
  | some t, c :: cs => if c = '>' then scanEnd none cs else scanEnd (some (t ++ [c])) cs

def tagsOf (cs : List Char) : List (List Char) := scanTags none cs

/-- Whether tags nest, given the names of the elements still open, innermost first. -/
def nests : List (List Char) → List (List Char) → Bool
  | stack, [] => stack.isEmpty
  | stack, ('<' :: '/' :: name) :: ts =>
    match stack with
    | top :: rest => top == name && nests rest ts
    | [] => false
  | stack, ('<' :: name) :: ts => nests (name :: stack) ts
  | _, _ :: _ => false

/-- The tags `o` and `c` come in pairs: each `o` is closed by a `c` before the next `o`, and each
`c` closes an `o`. -/
def PairsUp (o c : List Char) (ts : List (List Char)) : Prop :=
  ∃ n, ts.filter (fun t => t == o || t == c) = (List.replicate n [o, c]).flatten

def inlineTags : List String := strongTags ++ emTags ++ codeTags

theorem scanTags_append : ∀ (st : Option (List Char)) (w s : List Char),
    scanTags st (w ++ s) = scanTags st w ++ scanTags (scanEnd st w) s
  | _, [], _ => by simp [scanTags, scanEnd]
  | none, c :: w, s => by
    by_cases hc : c = '<' <;> simp [scanTags, scanEnd, hc, scanTags_append _ w s]
  | some t, c :: w, s => by
    by_cases hc : c = '>' <;> simp [scanTags, scanEnd, hc, scanTags_append _ w s]

theorem scanEnd_append : ∀ (st : Option (List Char)) (w s : List Char),
    scanEnd st (w ++ s) = scanEnd (scanEnd st w) s
  | _, [], _ => rfl
  | none, c :: w, s => by
    by_cases hc : c = '<' <;> simp [scanEnd, hc, scanEnd_append _ w s]
  | some t, c :: w, s => by
    by_cases hc : c = '>' <;> simp [scanEnd, hc, scanEnd_append _ w s]

/-- Text that leaves the reader outside a tag reads its tags whatever follows. -/
theorem tagsOf_append {w : List Char} (hw : scanEnd none w = none) (s : List Char) :
    tagsOf (w ++ s) = tagsOf w ++ tagsOf s := by
  rw [tagsOf, scanTags_append, hw, tagsOf, tagsOf]

theorem tagsOf_cons_of_plain {c : Char} (hc : markupChar c = false) (s : List Char) :
    tagsOf (c :: s) = tagsOf s ∧ scanEnd none (c :: s) = scanEnd none s := by
  have hlt : c ≠ '<' := by
    rintro rfl
    cases hc
  simp [tagsOf, scanTags, scanEnd, hlt]

/-! ## Tags of text made of words -/

theorem Words.tags {W P : List Char → Prop}
    (hW : ∀ w, W w → scanEnd none w = none ∧ ∀ t ∈ tagsOf w, P t) {x : List Char}
    (hx : Words W x) : scanEnd none x = none ∧ ∀ t ∈ tagsOf x, P t := by
  induction hx with
  | nil => exact ⟨rfl, by simp [tagsOf, scanTags]⟩
  | plain hc _ ih =>
    rw [(tagsOf_cons_of_plain hc _).1, (tagsOf_cons_of_plain hc _).2]
    exact ih
  | @word w s hw _ ih =>
    obtain ⟨hend, htags⟩ := hW w hw
    refine ⟨by rw [scanEnd_append, hend, ih.1], ?_⟩
    rw [tagsOf_append hend]
    intro t ht
    rcases List.mem_append.1 ht with ht | ht
    · exact htags t ht
    · exact ih.2 t ht

theorem tagged_tags {ws : List String} {P : List Char → Prop}
    (h : ∀ v ∈ ws.map String.toList, scanEnd none v = none ∧ ∀ t ∈ tagsOf v, P t) :
    ∀ w, Tagged ws w → scanEnd none w = none ∧ ∀ t ∈ tagsOf w, P t :=
  h

/-- In text of words and elements `o … c`, where the words hold neither tag, the tags `o` and `c`
pair up: each element gives one of each, around the tags of its text. -/
theorem Words.pairsUp {V : List Char → Prop} {o c : List Char}
    (hV : ∀ w, V w → scanEnd none w = none ∧ ∀ t ∈ tagsOf w, t ≠ o ∧ t ≠ c)
    (ho : scanEnd none o = none ∧ tagsOf o = [o]) (hc : scanEnd none c = none ∧ tagsOf c = [c])
    {x : List Char} (hx : Words (OrEnclosed V o c) x) :
    scanEnd none x = none ∧ PairsUp o c (tagsOf x) := by
  have hnone : ∀ w, V w → (tagsOf w).filter (fun t => t == o || t == c) = [] := fun w hw =>
    List.filter_eq_nil_iff.2 fun t ht => by simpa using (hV w hw).2 t ht
  induction hx with
  | nil => exact ⟨rfl, 0, by simp [tagsOf, scanTags]⟩
  | plain hd _ ih =>
    rw [(tagsOf_cons_of_plain hd _).1, (tagsOf_cons_of_plain hd _).2]
    exact ih
  | @word w s hw _ ih =>
    obtain ⟨hend, n, hn⟩ := ih
    rcases hw with hw | ⟨y, rfl, hy, -⟩
    · -- a word adds no tag `o` or `c`
      refine ⟨by rw [scanEnd_append, (hV w hw).1, hend], n, ?_⟩
      rw [tagsOf_append (hV w hw).1, List.filter_append, hnone w hw, hn, List.nil_append]
    · -- an element adds one `o` and one `c`, around text whose tags are neither
      obtain ⟨hyend, hytags⟩ := Words.tags hV hy
      have hyfilter : (tagsOf y).filter (fun t => t == o || t == c) = [] :=
        List.filter_eq_nil_iff.2 fun t ht => by simpa using hytags t ht
      refine ⟨by simp only [scanEnd_append, ho.1, hyend, hc.1, hend], n + 1, ?_⟩
      rw [List.append_assoc, List.append_assoc, tagsOf_append ho.1, tagsOf_append hyend,
        tagsOf_append hc.1, ho.2, hc.2]
      simp [List.filter_append, hyfilter, hn, List.replicate_succ]

/-- The tags of a prose block's text: inline tags only, the emphasis tags in pairs, the code tags
in pairs. -/
theorem proseBody_tags {body : List Char}
    (hem : Words (OrEnclosed (Tagged (entities ++ strongTags ++ codeTags)) "<em>".toList
      "</em>".toList) body)
    (hcode : Words (OrEnclosed (Tagged (entities ++ strongTags ++ emTags)) "<code>".toList
      "</code>".toList) body) :
    (∀ t ∈ tagsOf body, t ∈ inlineTags.map String.toList) ∧
      PairsUp "<em>".toList "</em>".toList (tagsOf body) ∧
      PairsUp "<code>".toList "</code>".toList (tagsOf body) := by
  have hinline : Words (Tagged (entities ++ inlineTags)) body :=
    hem.bind fun _ hw => hw.words (fun _ => Tagged.mono (by decide)) (by decide) (by decide)
  exact ⟨(Words.tags (tagged_tags (by decide)) hinline).2,
    (Words.pairsUp (tagged_tags (by decide)) (by decide) (by decide) hem).2,
    (Words.pairsUp (tagged_tags (by decide)) (by decide) (by decide) hcode).2⟩

/-! ## Rendered markdown -/

/-- Rendered markdown is its blocks joined by line breaks, with one `<ul>` … `</ul>` around each
maximal run of list items. Every block is a code block of the text, or one prose element
(`p`, `h1`, `h2`, `h3` or `li`) around text that holds inline tags only; in it the emphasis tags
come in pairs, each `<em>` closed by a `</em>` before the next opens, and so do the code tags. -/
theorem toHtml_inline_tags_pair (text : String) :
    ∃ blocks : List String,
      toHtml text = "\n".intercalate ((lineRuns blocks).flatMap encloseRun) ∧
      ∀ b ∈ blocks, b ∈ (codeBlocks text).map Fence.toHtml ∨
        ∃ name ∈ blockNames, ∃ body, b.toList = wrapTag name body ∧
          (∀ t ∈ tagsOf body, t ∈ inlineTags.map String.toList) ∧
          PairsUp "<em>".toList "</em>".toList (tagsOf body) ∧
          PairsUp "<code>".toList "</code>".toList (tagsOf body) := by
  refine ⟨_, by rw [toHtml_eq, wrapItems_eq_flatMap_lineRuns], fun b hb => ?_⟩
  obtain ⟨l, hl, hlb⟩ := List.mem_filterMap.1 hb
  rcases (emphasisedLines_tokenLines text).mem hl with hnul | ⟨k, -, hk, rfl⟩
  · -- a prose line becomes one element, whose two readings pair its tags
    rw [lineBlock_of_nul_free _ hnul] at hlb
    split at hlb
    · cases hlb
    · cases hlb
      obtain ⟨name, hname, body, hblock, hem, hcode⟩ :=
        proseBlock_views (newline_not_mem_of_mem_splitOn hl) (emphasisedLines_elements l hl)
      exact .inr ⟨name, hname, body, hblock, proseBody_tags hem hcode⟩
  · -- a token line gives back the code block it names
    rw [lineBlock_tokenLine hk] at hlb
    cases hlb
    exact .inl (List.mem_map_of_mem (List.getElem_mem _))

/-- Elements of different kinds can cross: a code span that opens inside emphasis closes after
it, and strong emphasis can open on one line and close on the next. Neither result nests. -/
theorem inline_elements_cross :
    toHtml "*a `b* c`" = "<p><em>a <code>b</em> c</code></p>" ∧
      nests [] (tagsOf (toHtml "*a `b* c`").toList) = false ∧
    toHtml "**a\nb**" = "<p><strong>a</p>\n<p>b</strong></p>" ∧
      nests [] (tagsOf (toHtml "**a\nb**").toList) = false := by
  decide +kernel

end Courseware.Markdown
