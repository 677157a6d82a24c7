import Courseware.Text.Pattern

/-!
# What cutting a text keeps

`Pattern.cut` loses nothing of the text it walks: every character piece is a character of
the text, and every match was found at a suffix of it (`exists_suffix_of_hit_mem_cut`). A
pattern *spells* what it captures when each match takes exactly the text of its capture
(`Pattern.Spells`); the pieces of such a pattern, joined back with each match written as
its text, give the text again (`joinPieces_cut`).

A pattern *rewraps* when each match is some text between two fixed marks and the replacement
writes that text between two other fixed texts (`Pattern.Rewraps`): so do emphasis and code
spans, whose replacements differ from the text only at the marks.
-/

namespace Courseware.Pattern

variable {α : Type}

/-- Every match of `p` takes exactly the text `text a` of what it captured. -/
def Spells (p : Pattern α) (text : α → List Char) : Prop :=
  ∀ cs a n, p cs = some (a, n) → text a <+: cs ∧ n = (text a).length

@[simp] theorem cut_nil (p : Pattern α) : cut p [] = [] := by
  rw [cut]

theorem cut_hit {p : Pattern α} {c : Char} {cs : List Char} {a : α} {n : Nat}
    (h : p (c :: cs) = some (a, n + 1)) : cut p (c :: cs) = .hit a :: cut p (cs.drop n) := by
  rw [cut, h]

theorem cut_char {p : Pattern α} {c : Char} {cs : List Char}
    (h : ∀ a n, p (c :: cs) ≠ some (a, n + 1)) : cut p (c :: cs) = .char c :: cut p cs := by
  rw [cut]
  split
  · rename_i a n hm
    exact absurd hm (h a n)
  · rfl

/-- Induction along the walk of `cut`: the empty text; a match of `n + 1` characters, with the
rest after it; a character no match starts at, with the rest after it. -/
theorem cut_induction (p : Pattern α) {motive : List Char → Prop} (nil : motive [])
    (hit : ∀ c cs a n, p (c :: cs) = some (a, n + 1) → motive (cs.drop n) → motive (c :: cs))
    (char : ∀ c cs, (∀ a n, p (c :: cs) ≠ some (a, n + 1)) → motive cs → motive (c :: cs)) :
    ∀ cs, motive cs :=
  cut.induct p motive nil hit char

/-- Joining the pieces of a pattern that spells its captures gives the text back. -/
theorem joinPieces_cut {p : Pattern α} {text : α → List Char} (hp : Spells p text)
    (cs : List Char) : joinPieces text (cut p cs) = cs := by
  induction cs using cut_induction p with
  | nil => rw [cut_nil, joinPieces]
  | hit c cs a n hmatch ih =>
    obtain ⟨hpre, hlen⟩ := hp _ _ _ hmatch
    rw [List.prefix_iff_eq_take, ← hlen] at hpre
    rw [cut_hit hmatch, joinPieces, ih, hpre, List.take_succ_cons, List.cons_append,
      List.take_append_drop]
  | char c cs hnone ih =>
    rw [cut_char fun a n h => hnone a n h, joinPieces, ih]

theorem mem_of_char_mem_cut {p : Pattern α} {c : Char} :
    ∀ {cs : List Char}, Piece.char c ∈ cut p cs → c ∈ cs := by
  intro cs
  induction cs using cut_induction p with
  | nil => simp
  | hit d cs a n hmatch ih =>
    rw [cut_hit hmatch]
    intro h
    rcases List.mem_cons.1 h with h | h
    · cases h
    · exact List.mem_cons_of_mem _ (List.mem_of_mem_drop (ih h))
  | char d cs hnone ih =>
    rw [cut_char fun a n h => hnone a n h]
    intro h
    rcases List.mem_cons.1 h with h | h
    · cases h
      exact List.mem_cons_self
    · exact List.mem_cons_of_mem _ (ih h)

/-- Every match of a cut was found at a suffix of the text. -/
theorem exists_suffix_of_hit_mem_cut {p : Pattern α} {a : α} :
    ∀ {cs : List Char}, Piece.hit a ∈ cut p cs → ∃ rest n, rest <:+ cs ∧ p rest = some (a, n) := by
  intro cs
  induction cs using cut_induction p with
  | nil => simp
  | hit d cs b n hmatch ih =>
    rw [cut_hit hmatch]
    intro h
    rcases List.mem_cons.1 h with h | h
    · cases h
      exact ⟨d :: cs, n + 1, List.suffix_refl _, hmatch⟩
    · obtain ⟨rest, k, hsuf, hk⟩ := ih h
      exact ⟨rest, k, hsuf.trans ((List.drop_suffix n cs).trans (List.suffix_cons d cs)), hk⟩
  | char d cs hnone ih =>
    rw [cut_char fun a n h => hnone a n h]
    intro h
    rcases List.mem_cons.1 h with h | h
    · cases h
    · obtain ⟨rest, k, hsuf, hk⟩ := ih h
      exact ⟨rest, k, hsuf.trans (List.suffix_cons d cs), hk⟩

def hits : List (Piece α) → List α
  | [] => []
  | .char _ :: ps => hits ps
  | .hit a :: ps => a :: hits ps

theorem mem_hits {a : α} : ∀ {ps : List (Piece α)}, a ∈ hits ps → Piece.hit a ∈ ps
  | [], h => by cases h
  | .char _ :: ps, h => List.mem_cons_of_mem _ (mem_hits (show a ∈ hits ps from h))
  | .hit b :: ps, h => by
    rcases List.mem_cons.1 h with rfl | h
    · exact List.mem_cons_self
    · exact List.mem_cons_of_mem _ (mem_hits h)

theorem cut_eq_chars {p : Pattern α} {cs : List Char} (h : hits (cut p cs) = []) :
    cut p cs = cs.map .char := by
  induction cs using cut_induction p with
  | nil => rw [cut_nil, List.map_nil]
  | hit c cs a n hmatch ih =>
    rw [cut_hit hmatch] at h
    cases h
  | char c cs hnone ih =>
    rw [cut_char fun a n h => hnone a n h] at h ⊢
    rw [ih h, List.map_cons]

/-- The text between the matches of a cut, run by run: one run more than there are matches. -/
def runs : List (Piece α) → List (List Char)
  | [] => [[]]
  | .char c :: ps => (runs ps).modifyHead (c :: ·)
  | .hit _ :: ps => [] :: runs ps

/-! ## Text between marks, written between other marks -/

/-- `p` matches some text between the marks `ds` and `es`, and `f` writes that text between
`rs` and `rs'` instead. -/
structure Rewraps (p : Pattern α) (f : α → List Char) (ds es rs rs' : List Char)
    (inner : α → List Char) : Prop where
  spells : Spells p fun a => ds ++ inner a ++ es
  writes : ∀ a, f a = rs ++ inner a ++ rs'

namespace Rewraps

variable {p : Pattern α} {f : α → List Char} {ds es rs rs' : List Char} {inner : α → List Char}

theorem text_eq (h : Rewraps p f ds es rs rs' inner) (cs : List Char) :
    cs = joinPieces (fun a => ds ++ inner a ++ es) (cut p cs) :=
  (joinPieces_cut h.spells cs).symm

theorem replace_eq (h : Rewraps p f ds es rs rs' inner) (cs : List Char) :
    replace p f cs = joinPieces (fun a => rs ++ inner a ++ rs') (cut p cs) := by
  rw [replace_eq_joinPieces]
  congr 1
  funext a
  exact h.writes a

theorem not_mem_replace (h : Rewraps p f ds es rs rs' inner) {c : Char} (hrs : c ∉ rs)
    (hrs' : c ∉ rs') {cs : List Char} (hcs : c ∉ cs) : c ∉ replace p f cs := by
  rw [h.text_eq cs] at hcs
  rw [h.replace_eq cs]
  generalize cut p cs = ps at hcs ⊢
  induction ps with
  | nil => simp [joinPieces]
  | cons piece ps ih =>
    cases piece with
    | char d =>
      simp only [joinPieces, List.mem_cons, not_or] at hcs ⊢
      exact ⟨hcs.1, ih hcs.2⟩
    | hit a =>
      simp only [joinPieces, List.mem_append, not_or] at hcs ⊢
      exact ⟨⟨⟨hrs, hcs.1.1.2⟩, hrs'⟩, ih hcs.2⟩

end Rewraps

end Courseware.Pattern
