import Courseware.Proofs.Markdown.Words
import Courseware.Proofs.Markdown.Lines

/-!
# Prose blocks hold prose markup only

The markup a prose block of rendered markdown can hold is a fixed set of words: the
character references escaping writes (`entities`) and the tags of paragraphs, headings, list
items, emphasis and code spans (`proseTags`). Escaped text is plain characters and references
(`Words.escape`). Emphasis and code spans rewrap text between marks that stand in no such
word, and write tags of prose around it (`emphasise_words`, `codeSpans_words`); cutting into
lines and trimming cut at characters that stand in no word either. So each line becomes a
block of prose words (`lineToHtml_words`), which holds no `<pre>` (`pre_not_infix_of_prose`).
-/

namespace Courseware.Markdown

open Pattern

/-! ## The words of prose -/

/-- The character references escaping writes. -/
def entities : List String := ["&amp;", "&lt;", "&gt;", "&quot;", "&#x27;"]

/-- The tags of prose blocks: paragraphs, headings, list items, emphasis and code spans. -/
def proseTags : List String := ["<p>", "</p>", "<h1>", "</h1>", "<h2>", "</h2>", "<h3>",
  "</h3>", "<li>", "</li>", "<strong>", "</strong>", "<em>", "</em>", "<code>", "</code>"]

/-- A word of a prose block: a character reference or a tag of prose. -/
def ProseWord (w : List Char) : Prop := w ∈ (entities ++ proseTags).map String.toList

instance : DecidablePred ProseWord := fun w =>
  inferInstanceAs (Decidable (w ∈ (entities ++ proseTags).map String.toList))

def proseChars : List Char := ((entities ++ proseTags).map String.toList).flatten

theorem not_mem_proseWord {c : Char} (hc : c ∉ proseChars) : ∀ w, ProseWord w → c ∉ w :=
  fun w hw hcw => hc (List.mem_flatten.2 ⟨w, hw, hcw⟩)

theorem proseSeps {m : List Char} (hm : (m.all fun c => !proseChars.contains c) = true) :
    ∀ c ∈ m, ∀ w, ProseWord w → c ∉ w :=
  fun c hc => not_mem_proseWord (by simpa using List.all_eq_true.1 hm c hc)

theorem proseWord_shape {w : List Char} (hw : ProseWord w) :
    (w.head? = some '<' ∨ w.head? = some '&') ∧ '<' ∉ w.tail ∧ '&' ∉ w.tail := by
  have hall : ∀ v ∈ (entities ++ proseTags).map String.toList,
      (v.head? = some '<' ∨ v.head? = some '&') ∧ '<' ∉ v.tail ∧ '&' ∉ v.tail := by decide
  exact hall w hw

theorem proseWord_head_ne {c : Char} (hc : markupChar c = false) {w : List Char}
    (hw : ProseWord w) : w.head? ≠ some c := by
  intro hhead
  rcases (proseWord_shape hw).1 with h | h <;>
  · rw [h, Option.some.injEq] at hhead
    subst hhead
    cases hc

/-! ## Escaped text -/

theorem htmlReference_mem_entities {c : Char} {r : String} (h : Text.htmlReference c = some r) :
    r ∈ entities := by
  rcases Text.htmlReference_eq_some h with ⟨-, rfl⟩ | ⟨-, rfl⟩ | ⟨-, rfl⟩ | ⟨-, rfl⟩ | ⟨-, rfl⟩ <;>
    decide

theorem markupChar_of_htmlReference_none {c : Char} (h : Text.htmlReference c = none) :
    markupChar c = false := by
  obtain ⟨hamp, hlt, -, hquot, -⟩ := Text.htmlReference_eq_none_iff.1 h
  simp [markupChar, hamp, hlt, hquot]

/-- Escaped text is plain characters and character references. -/
theorem Words.escape {W : List Char → Prop} (hW : ∀ e ∈ entities, W e.toList) (cs : List Char) :
    Words W (cs.flatMap Text.escapeHtmlChar) := by
  induction cs with
  | nil => exact .nil
  | cons c cs ih =>
    rw [List.flatMap_cons]
    refine Words.append ?_ ih
    rcases h : Text.htmlReference c with _ | r
    · rw [Text.escapeHtmlChar_of_none h]
      exact .plain (markupChar_of_htmlReference_none h) .nil
    · rw [Text.escapeHtmlChar_of_some h]
      exact .of_word (hW r (htmlReference_mem_entities h))

theorem Words.escape_prose (cs : List Char) :
    Words ProseWord (cs.flatMap Text.escapeHtmlChar) :=
  Words.escape (fun _ he => List.mem_map_of_mem (List.mem_append_left _ he)) cs

/-! ## Emphasis and code spans rewrap text between marks -/

theorem between_eq {c : Char} {stop : Char → Bool} {cs inner after : List Char}
    (h : between c stop cs = some (inner, after)) : cs = inner ++ c :: after := by
  unfold between at h
  dsimp only at h
  split at h
  · rename_i d rest hdrop
    split at h
    · rename_i hd
      obtain ⟨rfl, rfl⟩ := Prod.mk.inj (Option.some.inj h)
      simp only [Bool.and_eq_true, beq_iff_eq] at hd
      obtain ⟨rfl, -⟩ := hd
      rw [← hdrop, List.takeWhile_append_dropWhile]
    · cases h
  · cases h

/-- A span read by `between` after its opening delimiter spells the delimiter, the text and the
closing delimiter, and its length counts both delimiters. -/
theorem between_spells {c : Char} {stop : Char → Bool} {cs inner : List Char} {n : Nat}
    (h : (between c stop cs).map (fun (inner, _) => (inner, inner.length + 2)) = some (inner, n)) :
    [c] ++ inner ++ [c] <+: c :: cs ∧ n = ([c] ++ inner ++ [c]).length := by
  obtain ⟨⟨inner', after⟩, hb, hmatch⟩ := Option.map_eq_some_iff.1 h
  obtain ⟨rfl, rfl⟩ := Prod.mk.inj hmatch
  rw [between_eq hb]
  refine ⟨⟨after, by simp⟩, ?_⟩
  simp only [List.length_append, List.length_singleton]
  omega

theorem strong_rewraps :
    Rewraps strong (wrapTag "strong") ['*', '*'] ['*', '*'] "<strong>".toList "</strong>".toList
      id where
  spells cs a n h := by
    unfold strong at h
    split at h
    · rename_i rest
      split at h
      · rename_i inner tail hb
        obtain ⟨rfl, rfl⟩ := Prod.mk.inj (Option.some.inj h)
        rw [between_eq hb]
        refine ⟨⟨tail, by simp⟩, ?_⟩
        simp only [List.length_append, List.length_cons, List.length_nil, id]
        omega
      · cases h
    · cases h
  writes _ := rfl

theorem emphasis_rewraps :
    Rewraps emphasis (wrapTag "em") ['*'] ['*'] "<em>".toList "</em>".toList id where
  spells cs a n h := by
    unfold emphasis at h
    split at h
    · exact between_spells h
    · cases h
  writes _ := rfl

theorem codeSpan_rewraps :
    Rewraps codeSpan (wrapTag "code") ['`'] ['`'] "<code>".toList "</code>".toList id where
  spells cs a n h := by
    unfold codeSpan at h
    split at h
    · exact between_spells h
    · cases h
  writes _ := rfl

theorem pair_rewraps (a b x y : Char) :
    Rewraps (pair a b) (fun _ => [x, y]) [a] [b] [x] [y] (fun _ => []) where
  spells cs u n h := by
    unfold pair at h
    split at h
    · rename_i c d rest
      split at h
      · rename_i hcd
        obtain ⟨-, rfl⟩ := Prod.mk.inj (Option.some.inj h)
        simp only [Bool.and_eq_true, beq_iff_eq] at hcd
        obtain ⟨rfl, rfl⟩ := hcd
        exact ⟨⟨rest, rfl⟩, rfl⟩
      · cases h
    · cases h
  writes _ := rfl

/-! ## Emphasis keeps prose and token lines -/

theorem emphasise_words {cs : List Char} (h : Words ProseWord cs) :
    Words ProseWord (emphasise cs) := by
  have hshield : markupChar shield = false := by decide
  have hstrong := Words.rewrap strong_rewraps (by simp) (by simp) (proseSeps (by decide))
    (.of_word (by decide)) (.of_word (by decide)) h
  have hshielded := Words.rewrap (pair_rewraps '*' '*' shield shield) (by simp) (by simp)
    (proseSeps (by decide)) (.plain hshield .nil) (.plain hshield .nil) hstrong
  have hsoft := Words.rewrap emphasis_rewraps (by simp) (by simp) (proseSeps (by decide))
    (.of_word (by decide)) (.of_word (by decide)) hshielded
  exact Words.rewrap (pair_rewraps shield shield '*' '*') (by simp) (by simp)
    (proseSeps (by decide)) (.plain rfl .nil) (.plain rfl .nil) hsoft

theorem emphasise_tokenLines {i j : Nat} {cs : List Char} (h : TokenLines i j (cs.splitOn '\n')) :
    TokenLines i j ((emphasise cs).splitOn '\n') := by
  have hstrong := h.retouch (Retouch.rewrap strong_rewraps (by simp) (by simp) (by decide)
    (by decide) (by decide) cs).lines
  have hshielded := hstrong.retouch (Retouch.rewrap (pair_rewraps '*' '*' shield shield)
    (by simp) (by simp) (by decide) (by decide) (by decide) _).lines
  have hsoft := hshielded.retouch (Retouch.rewrap emphasis_rewraps (by simp) (by simp)
    (by decide) (by decide) (by decide) _).lines
  exact hsoft.retouch (Retouch.rewrap (pair_rewraps shield shield '*' '*') (by simp) (by simp)
    (by decide) (by decide) (by decide) _).lines

/-! ## Prose blocks -/

def trimLine (l : List Char) : List Char := Text.dropEndWhile Text.isBlank (Text.dropBlank l)

theorem trimLine_words {l : List Char} (h : Words ProseWord l) : Words ProseWord (trimLine l) := by
  have hblank : ∀ c, Text.isBlank c = true → ∀ w, ProseWord w → c ∉ w := by
    have hall : (proseChars.all fun c => !Text.isBlank c) = true := by decide
    intro c hc
    refine not_mem_proseWord fun hmem => ?_
    have := List.all_eq_true.1 hall c hmem
    rw [hc] at this
    cases this
  exact Words.dropEndWhile hblank (Words.dropWhile hblank h)

theorem mem_of_mem_trimLine {l : List Char} {c : Char} (h : c ∈ trimLine l) : c ∈ l := by
  unfold trimLine Text.dropEndWhile Text.dropBlank at h
  have hback := (List.dropWhile_suffix Text.isBlank).subset (List.mem_reverse.1 h)
  exact (List.dropWhile_suffix Text.isBlank).subset (List.mem_reverse.1 hback)

theorem codeSpans_words {cs : List Char} (h : Words ProseWord cs) :
    Words ProseWord (codeSpans cs) :=
  Words.rewrap codeSpan_rewraps (by simp) (by simp) (proseSeps (by decide)) (.of_word (by decide))
    (.of_word (by decide)) h

theorem drop_marker_words {m line : List Char} {n : Nat} (hn : m.length = n)
    (hm : m.isPrefixOf line = true) (hplain : (m.all fun c => !markupChar c) = true)
    (h : Words ProseWord line) : Words ProseWord (line.drop n) := by
  have hline : m ++ line.drop m.length = line :=
    List.prefix_iff_eq_append.1 (List.isPrefixOf_iff_prefix.1 hm)
  rw [← hline] at h
  rw [← hn]
  have hplain' : ∀ c ∈ m, markupChar c = false := fun c hc => by
    simpa using List.all_eq_true.1 hplain c hc
  exact Words.of_plain_append (fun c hc w hw => proseWord_head_ne (hplain' c hc) hw) h

theorem wrapTag_words {tag : String} (hopen : ProseWord ("<" ++ tag ++ ">").toList)
    (hclose : ProseWord ("</" ++ tag ++ ">").toList) {s : List Char} (h : Words ProseWord s) :
    Words ProseWord (wrapTag tag s) :=
  ((Words.of_word hopen).append h).append (Words.of_word hclose)

/-- A line of prose words becomes a block of prose words. -/
theorem lineToHtml_words {line : List Char} (h : Words ProseWord line) :
    Words ProseWord (lineToHtml line).toList := by
  unfold lineToHtml
  rw [String.toList_ofList]
  apply codeSpans_words
  split_ifs with h3 h2 h1 hli
  · exact wrapTag_words (by decide) (by decide) (drop_marker_words (by decide) h3 (by decide) h)
  · exact wrapTag_words (by decide) (by decide) (drop_marker_words (by decide) h2 (by decide) h)
  · exact wrapTag_words (by decide) (by decide) (drop_marker_words (by decide) h1 (by decide) h)
  · exact wrapTag_words (by decide) (by decide) (drop_marker_words (by decide) hli (by decide) h)
  · exact wrapTag_words (by decide) (by decide) h

theorem nul_not_mem_wrapTag {tag : String} (hopen : '\x00' ∉ ("<" ++ tag ++ ">").toList)
    (hclose : '\x00' ∉ ("</" ++ tag ++ ">").toList) {s : List Char} (h : '\x00' ∉ s) :
    '\x00' ∉ wrapTag tag s := by
  simp only [wrapTag, List.mem_append, not_or]
  exact ⟨⟨hopen, h⟩, hclose⟩

theorem lineToHtml_nul_free {line : List Char} (h : '\x00' ∉ line) :
    '\x00' ∉ (lineToHtml line).toList := by
  unfold lineToHtml
  rw [String.toList_ofList]
  apply codeSpan_rewraps.not_mem_replace (by decide) (by decide)
  have hdrop : ∀ n, '\x00' ∉ line.drop n := fun n hmem => h (List.mem_of_mem_drop hmem)
  split_ifs
  · exact nul_not_mem_wrapTag (by decide) (by decide) (hdrop 4)
  · exact nul_not_mem_wrapTag (by decide) (by decide) (hdrop 3)
  · exact nul_not_mem_wrapTag (by decide) (by decide) (hdrop 2)
  · exact nul_not_mem_wrapTag (by decide) (by decide) (hdrop 2)
  · exact nul_not_mem_wrapTag (by decide) (by decide) h

/-- Text of prose words holds no `<pre>` tag. -/
theorem pre_not_infix_of_prose {x : List Char} (h : Words ProseWord x) :
    ¬ "<pre>".toList <:+: x := by
  have hpre : "<pre>".toList = '<' :: "pre>".toList := by decide
  have hcmp : ∀ w ∈ (entities ++ proseTags).map String.toList,
      ¬ w <+: '<' :: "pre>".toList ∧ ¬ '<' :: "pre>".toList <+: w := by decide
  rw [hpre]
  exact Words.not_infix rfl (fun w hw => (proseWord_shape hw).2.1) (fun w hw => hcmp w hw) h

end Courseware.Markdown
