import Courseware.Proofs.Text.Cut
import Courseware.Text.CharSet

/-!
# Text made of plain characters and markup words

`Words W s` says that `s` is a run of plain characters and of words of `W`, where a plain
character is anything but `<`, `&` and `"`. When the words of `W` are tags and character
references, such a text holds `<`, `&` and `"` only inside them.

A separator is a character that stands in no word. Text splits at a separator into two texts
of the same kind (`Words.split`), loses separators at either end (`Words.of_seps_append`,
`Words.of_append_seps`), and is cut into lines of the same kind (`Words.splitOn`). So a
pattern that rewraps text between separator marks keeps the kind (`Words.rewrap`), as long as
it writes words of `W` around it; more generally, the text of each match is itself text of
the kind, whatever the pattern makes of it (`Words.rewrap_of`).
-/

namespace Courseware.Markdown

open Pattern

/-- The characters text holds only as part of markup: `<` opens a tag, `&` a character
reference, and `"` delimits an attribute. -/
def markupChar (c : Char) : Bool := c == '<' || c == '&' || c == '"'

/-- Text made of characters other than `<`, `&` and `"`, and of words of `W`. -/
inductive Words (W : List Char → Prop) : List Char → Prop
  | nil : Words W []
  | plain {c : Char} {s : List Char} : markupChar c = false → Words W s → Words W (c :: s)
  | word {w s : List Char} : W w → Words W s → Words W (w ++ s)

namespace Words

variable {W W' : List Char → Prop}

theorem append {a b : List Char} (ha : Words W a) (hb : Words W b) : Words W (a ++ b) := by
  induction ha with
  | nil => exact hb
  | plain hc _ ih => exact plain hc ih
  | word hw _ ih =>
    rw [List.append_assoc]
    exact word hw ih

theorem of_word {w : List Char} (hw : W w) : Words W w := by
  simpa using word hw nil

theorem of_plain : ∀ {s : List Char}, (∀ c ∈ s, markupChar c = false) → Words W s
  | [], _ => nil
  | c :: _, h =>
    plain (h c List.mem_cons_self) (of_plain fun d hd => h d (List.mem_cons_of_mem _ hd))

theorem mono (hW : ∀ w, W w → W' w) {s : List Char} (h : Words W s) : Words W' s := by
  induction h with
  | nil => exact nil
  | plain hc _ ih => exact plain hc ih
  | word hw _ ih => exact word (hW _ hw) ih

theorem flatten : ∀ {ss : List (List Char)}, (∀ s ∈ ss, Words W s) → Words W ss.flatten
  | [], _ => nil
  | s :: ss, h => by
    rw [List.flatten_cons]
    exact (h s List.mem_cons_self).append (flatten fun t ht => h t (List.mem_cons_of_mem _ ht))

theorem tail_of_plain {c : Char} (hc : ∀ w, W w → w.head? ≠ some c) {s : List Char}
    (h : Words W (c :: s)) : Words W s := by
  generalize hx : c :: s = x at h
  induction h generalizing s with
  | nil => cases hx
  | plain _ hs _ =>
    cases hx
    exact hs
  | @word w t hw ht ih =>
    cases w with
    | nil => exact ih hx
    | cons d w =>
      cases hx
      exact absurd rfl (hc _ hw)

theorem of_plain_append {m b : List Char} (hm : ∀ c ∈ m, ∀ w, W w → w.head? ≠ some c)
    (h : Words W (m ++ b)) : Words W b := by
  induction m with
  | nil => exact h
  | cons c m ih =>
    exact ih (fun d hd => hm d (List.mem_cons_of_mem _ hd)) (tail_of_plain (hm c List.mem_cons_self) h)

/-! ## Separators -/

section Separator

variable {c : Char} (hc : ∀ w, W w → c ∉ w)
include hc

theorem tail_of_sep {s : List Char} (h : Words W (c :: s)) : Words W s :=
  tail_of_plain (fun w hw hhead => hc w hw (List.mem_of_mem_head? hhead)) h

/-- Text splits at a separator into two texts of the same kind. -/
theorem split {a b : List Char} (h : Words W (a ++ c :: b)) : Words W a ∧ Words W b := by
  generalize hx : a ++ c :: b = x at h
  induction h generalizing a with
  | nil => simp at hx
  | @plain d s hd hs ih =>
    cases a with
    | nil =>
      cases hx
      exact ⟨nil, hs⟩
    | cons e a =>
      cases hx
      exact (ih rfl).imp_left (plain hd)
  | @word w s hw hs ih =>
    rcases List.append_eq_append_iff.1 hx with ⟨bs, rfl, hbs⟩ | ⟨as, rfl, hs'⟩
    · -- the word would hold the separator unless it ends right before it
      cases bs with
      | nil =>
        cases hbs
        exact ⟨by simpa using of_word hw, tail_of_sep hc hs⟩
      | cons e bs =>
        cases hbs
        exact absurd (List.mem_append_right _ List.mem_cons_self) (hc _ hw)
    · -- the separator lies after the word
      exact (ih hs'.symm).imp_left (word hw)

end Separator

/-- Separators at the front of text can be dropped. -/
theorem of_seps_append {m b : List Char} (hm : ∀ c ∈ m, ∀ w, W w → c ∉ w)
    (h : Words W (m ++ b)) : Words W b :=
  of_plain_append (fun c hc w hw hhead => hm c hc w hw (List.mem_of_mem_head? hhead)) h

/-- Separators at the end of text can be dropped. -/
theorem of_append_seps {a m : List Char} (hm : ∀ c ∈ m, ∀ w, W w → c ∉ w)
    (h : Words W (a ++ m)) : Words W a := by
  cases m with
  | nil => simpa using h
  | cons c m => exact (split (hm c List.mem_cons_self) h).1

theorem split_seps {a m b : List Char} (hm : m ≠ []) (hs : ∀ c ∈ m, ∀ w, W w → c ∉ w)
    (h : Words W (a ++ m ++ b)) : Words W a ∧ Words W b := by
  obtain ⟨c, m, rfl⟩ := List.exists_cons_of_ne_nil hm
  rw [List.append_assoc, List.cons_append] at h
  obtain ⟨ha, hb⟩ := split (hs c List.mem_cons_self) h
  exact ⟨ha, of_seps_append (fun d hd => hs d (List.mem_cons_of_mem _ hd)) hb⟩

theorem dropWhile {p : Char → Bool} (hp : ∀ c, p c = true → ∀ w, W w → c ∉ w) :
    ∀ {s : List Char}, Words W s → Words W (s.dropWhile p)
  | [], h => h
  | c :: s, h => by
    rw [List.dropWhile_cons]
    split
    · exact dropWhile hp (tail_of_sep (hp c ‹_›) h)
    · exact h

theorem dropEndWhile {p : Char → Bool} (hp : ∀ c, p c = true → ∀ w, W w → c ∉ w)
    {s : List Char} (h : Words W s) : Words W (Text.dropEndWhile p s) := by
  rw [← Text.dropEndWhile_append_dropped p s] at h
  refine of_append_seps (fun c hc => hp c ?_) h
  exact List.all_eq_true.1 List.all_takeWhile c (List.mem_reverse.1 hc)

/-- Text is cut at a separator into lines of the same kind. -/
theorem splitOn {c : Char} (hc : ∀ w, W w → c ∉ w) :
    ∀ (n : Nat) {s : List Char}, s.length ≤ n → Words W s → ∀ l ∈ s.splitOn c, Words W l
  | 0, s, hn, h, l, hl => by
    rw [List.length_eq_zero_iff.1 (Nat.le_zero.1 hn)] at hl
    simp only [List.splitOn_nil, List.mem_singleton] at hl
    exact hl ▸ nil
  | n + 1, s, hn, h, l, hl => by
    by_cases hcs : c ∈ s
    · -- the lines before the separator and those after it, each from a shorter text
      obtain ⟨a, b, rfl⟩ := List.append_of_mem hcs
      rw [List.splitOn_append_cons_self] at hl
      obtain ⟨ha, hb⟩ := split hc h
      simp only [List.length_append, List.length_cons] at hn
      rcases List.mem_append.1 hl with hl | hl
      · exact splitOn hc n (by omega) ha l hl
      · exact splitOn hc n (by omega) hb l hl
    · rw [List.splitOn_eq_singleton hcs, List.mem_singleton] at hl
      exact hl ▸ h

theorem intercalate {sep : List Char} (hsep : Words W sep) :
    ∀ {ls : List (List Char)}, (∀ l ∈ ls, Words W l) → Words W (sep.intercalate ls)
  | [], _ => nil
  | [l], h => by simpa using h l List.mem_cons_self
  | l :: l' :: ls, h => by
    rw [List.intercalate_cons_cons]
    exact ((h l List.mem_cons_self).append hsep).append
      (intercalate hsep fun x hx => h x (List.mem_cons_of_mem _ hx))

/-! ## Where markup characters stand -/

theorem exists_word_of_markup {c : Char} (hc : markupChar c = true) :
    ∀ {x p q : List Char}, Words W x → x = p ++ c :: q →
      ∃ a b w₁ w₂, W (w₁ ++ c :: w₂) ∧ p = a ++ w₁ ∧ q = w₂ ++ b := by
  intro x p q h hx
  induction h generalizing p with
  | nil => simp at hx
  | @plain d s hd _ ih =>
    cases p with
    | nil =>
      cases hx
      rw [hd] at hc
      cases hc
    | cons e p =>
      cases hx
      obtain ⟨a, b, w₁, w₂, hw, rfl, rfl⟩ := ih rfl
      exact ⟨d :: a, b, w₁, w₂, hw, rfl, rfl⟩
  | @word w s hw _ ih =>
    rcases List.append_eq_append_iff.1 hx with ⟨a', rfl, hs⟩ | ⟨c', rfl, hq⟩
    · -- the character lies after the word
      obtain ⟨a, b, w₁, w₂, hw', rfl, rfl⟩ := ih hs
      exact ⟨w ++ a, b, w₁, w₂, hw', by simp, rfl⟩
    · cases c' with
      | nil =>
        obtain ⟨a, b, w₁, w₂, hw', ha, rfl⟩ := ih (p := []) (by simpa using hq.symm)
        obtain ⟨rfl, rfl⟩ := List.append_eq_nil_iff.1 ha.symm
        exact ⟨p, b, [], w₂, hw', by simp, rfl⟩
      | cons d c' =>
        cases hq
        exact ⟨[], s, p, c', hw, rfl, rfl⟩

theorem begins_word {c : Char} (hc : markupChar c = true) (htail : ∀ w, W w → c ∉ w.tail)
    {p q : List Char} (h : Words W (p ++ c :: q)) : ∃ w r, W w ∧ c :: q = w ++ r := by
  obtain ⟨a, b, w₁, w₂, hw, -, rfl⟩ := exists_word_of_markup hc h rfl
  cases w₁ with
  | nil => exact ⟨c :: w₂, b, hw, rfl⟩
  | cons d w₁ => exact absurd (by simp) (htail _ hw)

theorem not_infix {c : Char} (hc : markupChar c = true) (htail : ∀ w, W w → c ∉ w.tail)
    {u : List Char} (hu : ∀ w, W w → ¬ w <+: c :: u ∧ ¬ c :: u <+: w) {x : List Char}
    (h : Words W x) : ¬ c :: u <:+: x := by
  rintro ⟨p, q, rfl⟩
  rw [List.append_assoc, List.cons_append] at h
  obtain ⟨w, r, hw, heq⟩ := begins_word hc htail h
  have hword : w <+: c :: (u ++ q) := heq ▸ List.prefix_append w r
  rcases List.prefix_or_prefix_of_prefix hword (List.prefix_append (c :: u) q) with hp | hp
  · exact (hu w hw).1 hp
  · exact (hu w hw).2 hp

end Words

/-! ## Rewrapping between separators -/

/-- A pattern that rewraps text between separator marks keeps text of the words outside its
matches, and the text of each match, itself text of the words, becomes what `hword` says of
it rewrapped. -/
theorem Words.rewrap_of {α : Type} {W W' : List Char → Prop} {p : Pattern α}
    {f : α → List Char} {ds es rs rs' : List Char} {inner : α → List Char}
    (h : Rewraps p f ds es rs rs' inner) (hds : ds ≠ []) (hes : es ≠ [])
    (hsep : ∀ c ∈ ds ++ es, ∀ w, W w → c ∉ w) (hW : ∀ w, W w → W' w) {cs : List Char}
    (hword : ∀ a, Piece.hit a ∈ cut p cs → Words W (inner a) → Words W' (rs ++ inner a ++ rs'))
    (hcs : Words W cs) : Words W' (replace p f cs) := by
  have hdsep : ∀ c ∈ ds, ∀ w, W w → c ∉ w := fun c hc => hsep c (List.mem_append_left _ hc)
  have hesep : ∀ c ∈ es, ∀ w, W w → c ∉ w := fun c hc => hsep c (List.mem_append_right _ hc)
  rw [h.text_eq cs] at hcs
  rw [h.replace_eq cs]
  suffices key : ∀ (ps : List (Piece α)) (run : List Char),
      (∀ a, Piece.hit a ∈ ps → Words W (inner a) → Words W' (rs ++ inner a ++ rs')) →
      Words W (run ++ joinPieces (fun a => ds ++ inner a ++ es) ps) →
        Words W' (run ++ joinPieces (fun a => rs ++ inner a ++ rs') ps) by
    simpa using key _ [] hword hcs
  intro ps
  induction ps with
  | nil => exact fun run _ hrun => by simpa [joinPieces] using hrun.mono hW
  | cons piece ps ih =>
    intro run hps hrun
    have hps' : ∀ a, Piece.hit a ∈ ps → Words W (inner a) → Words W' (rs ++ inner a ++ rs') :=
      fun a ha => hps a (List.mem_cons_of_mem _ ha)
    cases piece with
    | char c =>
      have := ih (run ++ [c]) hps' (by simpa [joinPieces] using hrun)
      simpa [joinPieces] using this
    | hit a =>
      simp only [joinPieces, ← List.append_assoc] at hrun
      obtain ⟨hrun, hrest⟩ := Words.split_seps hds hdsep (by simpa [List.append_assoc] using hrun)
      obtain ⟨hinner, hrest⟩ := Words.split_seps hes hesep (by simpa [List.append_assoc] using hrest)
      have := (hrun.mono hW).append ((hps a List.mem_cons_self hinner).append
        (by simpa using ih [] hps' (by simpa using hrest)))
      simpa [joinPieces, List.append_assoc] using this

/-- A pattern that rewraps text between separator marks, writing texts of the kind around it,
keeps the kind. -/
theorem Words.rewrap {α : Type} {W : List Char → Prop} {p : Pattern α} {f : α → List Char}
    {ds es rs rs' : List Char} {inner : α → List Char} (h : Rewraps p f ds es rs rs' inner)
    (hds : ds ≠ []) (hes : es ≠ []) (hsep : ∀ c ∈ ds ++ es, ∀ w, W w → c ∉ w)
    (hrs : Words W rs) (hrs' : Words W rs') {cs : List Char} (hcs : Words W cs) :
    Words W (replace p f cs) :=
  Words.rewrap_of h hds hes hsep (fun _ hw => hw) (fun _ _ hin => (hrs.append hin).append hrs') hcs

end Courseware.Markdown
