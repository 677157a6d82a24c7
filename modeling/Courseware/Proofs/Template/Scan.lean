import Courseware.Proofs.Text.Cut
import Courseware.Template.Engine

/-!
# How a reference is read

`reference` reads a reference from the front of a text: its opener, the longest run of
blanks, the longest run of name characters, the longest run of blanks, and `}}`. A `Spelling`
is what such a text is made of: blanks, a name of at least one name character, blanks. Since
a name character is no blank and `}` is neither, every spelling is read back whole
(`reference_spelling`), and a reference is read only from a text that starts with one
(`reference_eq_some`).

So a reader looks no further than the reference it finds (`reference_append_of_le`): a
reference read from a text is read from every text that starts with it. And where a text is
known character by character, a reference that reads across a place must fit the classes of
the characters there (`not_mem_region`): this is how a reference is kept from reading across
the join of two texts.
-/

namespace Courseware.Template

/-- A reference as written after its opener: blanks, a name of name characters, blanks. -/
structure Spelling where
  lead : List Char
  name : List Char
  trail : List Char
  lead_blank : ∀ c ∈ lead, Text.isBlank c = true
  name_ne_nil : name ≠ []
  name_chars : ∀ c ∈ name, isNameChar c = true
  trail_blank : ∀ c ∈ trail, Text.isBlank c = true

namespace Spelling

def text (opener : List Char) (s : Spelling) : List Char :=
  opener ++ s.lead ++ s.name ++ s.trail ++ ['}', '}']

def ref (opener : List Char) (s : Spelling) : Reference :=
  ⟨String.ofList s.name, s.text opener⟩

theorem length_text (opener : List Char) (s : Spelling) :
    (s.text opener).length = opener.length + s.lead.length + s.name.length + s.trail.length + 2 := by
  simp only [text, List.length_append, List.length_cons, List.length_nil]

@[simp] theorem ref_name (opener : List Char) (s : Spelling) :
    (s.ref opener).name = String.ofList s.name := rfl

@[simp] theorem ref_source (opener : List Char) (s : Spelling) :
    (s.ref opener).source = s.text opener := rfl

theorem parts {T opener rest : List Char} {t : Spelling} (hT : T = t.text opener ++ rest) :
    T = opener ++ t.lead ++ (t.name ++ t.trail ++ ['}', '}'] ++ rest) ∧
      T = (opener ++ t.lead) ++ t.name ++ (t.trail ++ ['}', '}'] ++ rest) ∧
      T = (opener ++ t.lead ++ t.name) ++ t.trail ++ (['}', '}'] ++ rest) ∧
      T = (opener ++ t.lead ++ t.name ++ t.trail) ++ ['}', '}'] ++ rest := by
  subst hT
  simp [text]

end Spelling

/-! ## Character classes -/

theorem not_blank_of_isNameChar {c : Char} (h : isNameChar c = true) : Text.isBlank c = false := by
  simp only [isNameChar, Bool.and_eq_true, Bool.not_eq_eq_eq_not, Bool.not_true] at h
  exact h.1

theorem ne_brace_of_isNameChar {c : Char} (h : isNameChar c = true) : c ≠ '}' := by
  simp only [isNameChar, Bool.and_eq_true, bne_iff_ne] at h
  exact h.2

theorem isNameChar_of_blank {c : Char} (h : Text.isBlank c = true) : isNameChar c = false := by
  simp [isNameChar, h]

/-! ## Longest runs -/

theorem takeWhile_append_stop {p : Char → Bool} {xs ys : List Char} (hx : ∀ c ∈ xs, p c = true)
    (hy : ∀ c ys', ys = c :: ys' → p c = false) : (xs ++ ys).takeWhile p = xs := by
  rw [List.takeWhile_append_of_pos hx]
  cases ys with
  | nil => simp
  | cons c ys' => rw [List.takeWhile_cons_of_neg (by simp [hy c ys' rfl]), List.append_nil]

theorem takeWhile_append_drop (p : Char → Bool) (l : List Char) :
    l.takeWhile p ++ l.drop (l.takeWhile p).length = l := by
  conv => rhs; rw [← List.take_append_drop (l.takeWhile p).length l]
  rw [← List.prefix_iff_eq_take.1 (List.takeWhile_prefix p)]

theorem all_of_takeWhile {p : Char → Bool} {l xs : List Char} (h : l.takeWhile p = xs) :
    ∀ c ∈ xs, p c = true := by
  rw [← h]
  exact List.all_eq_true.1 List.all_takeWhile

/-! ## Reading a spelling -/

/-- A spelled reference is read whole, whatever follows it. -/
theorem reference_spelling (opener : List Char) (s : Spelling) (rest : List Char) :
    reference opener (s.text opener ++ rest) = some (s.ref opener, (s.text opener).length) := by
  obtain ⟨n₀, ns, hname⟩ := List.exists_cons_of_ne_nil s.name_ne_nil
  have hn₀ : isNameChar n₀ = true := s.name_chars n₀ (by simp [hname])
  have hcs : s.text opener ++ rest =
      opener ++ (s.lead ++ (s.name ++ (s.trail ++ ('}' :: '}' :: rest)))) := by
    simp [Spelling.text]
  have hlead : (s.lead ++ (s.name ++ (s.trail ++ ('}' :: '}' :: rest)))).takeWhile Text.isBlank =
      s.lead := by
    refine takeWhile_append_stop s.lead_blank fun c ys h => ?_
    rw [hname, List.cons_append, List.cons.injEq] at h
    rw [← h.1]
    exact not_blank_of_isNameChar hn₀
  have hname' : (s.name ++ (s.trail ++ ('}' :: '}' :: rest))).takeWhile isNameChar = s.name := by
    refine takeWhile_append_stop s.name_chars fun c ys h => ?_
    cases htr : s.trail with
    | nil =>
      rw [htr, List.nil_append, List.cons.injEq] at h
      rw [← h.1]
      decide
    | cons t ts =>
      rw [htr, List.cons_append, List.cons.injEq] at h
      rw [← h.1]
      exact isNameChar_of_blank (s.trail_blank t (by simp [htr]))
  have htrail : (s.trail ++ ('}' :: '}' :: rest)).takeWhile Text.isBlank = s.trail := by
    refine takeWhile_append_stop s.trail_blank fun c ys h => ?_
    rw [List.cons.injEq] at h
    rw [← h.1]
    decide
  have hdrop : (s.lead ++ (s.name ++ (s.trail ++ ('}' :: '}' :: rest)))).drop
      (s.lead.length + s.name.length) = s.trail ++ ('}' :: '}' :: rest) := by
    rw [← List.append_assoc, List.drop_left' (List.length_append ..)]
  unfold reference
  rw [if_pos (by rw [hcs]; exact List.isPrefixOf_iff_prefix.2 (List.prefix_append _ _))]
  simp only [hcs, List.drop_left, hlead, hname', hdrop, htrail]
  rw [hname]
  simp only
  rw [← hname, ← Spelling.length_text, ← hcs, List.take_left' rfl]
  rfl

/-- A reference is read only from a text that starts with its spelling. -/
theorem reference_eq_some {opener cs : List Char} {r : Reference} {n : Nat}
    (h : reference opener cs = some (r, n)) :
    ∃ s : Spelling, ∃ rest, cs = s.text opener ++ rest ∧ r = s.ref opener ∧
      n = (s.text opener).length := by
  unfold reference at h
  split at h
  · rename_i hpre
    obtain ⟨A, rfl⟩ := List.isPrefixOf_iff_prefix.1 hpre
    simp only [List.drop_left, ← List.drop_drop] at h
    generalize hL : A.takeWhile Text.isBlank = L at h
    generalize hA₁ : A.drop L.length = A₁ at h
    generalize hN : A₁.takeWhile isNameChar = N at h
    generalize hA₂ : A₁.drop N.length = A₂ at h
    generalize hT : A₂.takeWhile Text.isBlank = T at h
    split at h
    · rename_i n₀ ns rest hc
      have hA : A = L ++ ((n₀ :: ns) ++ (T ++ ('}' :: '}' :: rest))) := by
        rw [← hc, ← hT, takeWhile_append_drop, ← hA₂, ← hN, takeWhile_append_drop, ← hA₁, ← hL,
          takeWhile_append_drop]
      let s : Spelling := ⟨L, n₀ :: ns, T, all_of_takeWhile hL, List.cons_ne_nil _ _,
        all_of_takeWhile hN, all_of_takeWhile hT⟩
      have hcs : opener ++ A = s.text opener ++ rest := by
        simp [hA, s, Spelling.text]
      have hlen : (s.text opener).length = opener.length + L.length + (n₀ :: ns).length + T.length + 2 :=
        Spelling.length_text opener s
      refine ⟨s, rest, hcs, ?_⟩
      simp only [Option.some.injEq, Prod.mk.injEq] at h
      obtain ⟨rfl, rfl⟩ := h
      rw [hcs, ← hlen, List.take_left' rfl]
      exact ⟨rfl, rfl⟩
    · cases h
  · cases h

theorem reference_length {opener cs : List Char} {r : Reference} {n : Nat}
    (h : reference opener cs = some (r, n)) : opener.length + 2 ≤ n ∧ n ≤ cs.length := by
  obtain ⟨s, rest, rfl, -, rfl⟩ := reference_eq_some h
  simp only [Spelling.length_text, List.length_append]
  omega

/-- A reader looks no further than the reference it reads: one that lies within `x` is read
from `x` followed by anything. -/
theorem reference_append_of_le {opener x z : List Char} {r : Reference} {n : Nat}
    (h : reference opener (x ++ z) = some (r, n)) (hn : n ≤ x.length) (y : List Char) :
    reference opener (x ++ y) = some (r, n) := by
  obtain ⟨s, rest, hxz, rfl, rfl⟩ := reference_eq_some h
  obtain ⟨x', rfl⟩ : ∃ x', x = s.text opener ++ x' := by
    have hpre : s.text opener <+: x :=
      List.prefix_of_prefix_length_le (by rw [hxz]; exact List.prefix_append _ _)
        (List.prefix_append x z) hn
    obtain ⟨x', hx'⟩ := hpre
    exact ⟨x', hx'.symm⟩
  rw [List.append_assoc]
  exact reference_spelling opener s _

theorem reference_append {opener x : List Char} {r : Reference} {n : Nat}
    (h : reference opener x = some (r, n)) (y : List Char) : reference opener (x ++ y) = some (r, n) :=
  reference_append_of_le (z := []) (by rwa [List.append_nil]) (reference_length h).2 y

theorem reference_of_append {opener x z : List Char} {r : Reference} {n : Nat}
    (h : reference opener (x ++ z) = some (r, n)) (hn : n ≤ x.length) :
    reference opener x = some (r, n) := by
  simpa using reference_append_of_le h hn []

theorem reference_spells (opener : List Char) : Pattern.Spells (reference opener) (·.source) := by
  intro cs r n h
  obtain ⟨s, rest, rfl, rfl, rfl⟩ := reference_eq_some h
  exact ⟨List.prefix_append _ _, rfl⟩

theorem cut_spelling {opener : List Char} (ho : opener ≠ []) (s : Spelling) (w : List Char) :
    Pattern.cut (reference opener) (s.text opener ++ w) =
      .hit (s.ref opener) :: Pattern.cut (reference opener) w := by
  obtain ⟨o, os, rfl⟩ := List.exists_cons_of_ne_nil ho
  have h := reference_spelling (o :: os) s w
  have htext : s.text (o :: os) ++ w =
      o :: ((os ++ s.lead ++ s.name ++ s.trail ++ ['}', '}']) ++ w) := by
    simp [Spelling.text]
  have hlen : (s.text (o :: os)).length =
      (os ++ s.lead ++ s.name ++ s.trail ++ ['}', '}']).length + 1 := by
    simp [Spelling.text]
  rw [htext, hlen] at h
  rw [htext, Pattern.cut_hit h, List.drop_left]

/-! ## Characters at known places -/

/-- A character of a text found at a place of a segment of that text has the class of the
segment. -/
theorem not_mem_region {T pre seg post : List Char} (hT : T = pre ++ seg ++ post)
    {P : Char → Bool} (hseg : ∀ c ∈ seg, P c = true) {i : Nat} {c : Char} (hc : T[i]? = some c)
    (hPc : P c = false) : ¬ (pre.length ≤ i ∧ i < pre.length + seg.length) := by
  rintro ⟨h₁, h₂⟩
  rw [hT, List.append_assoc, List.getElem?_append_right h₁,
    List.getElem?_append_left (by omega)] at hc
  have := hseg c (List.mem_of_getElem? hc)
  rw [hPc] at this
  cases this

/-! ## Texts read part by part -/

/-- No reference read at a place of `x` reaches past its end into `z`. -/
def ReadsWithin (opener x z : List Char) : Prop :=
  ∀ i r n, i < x.length → reference opener ((x ++ z).drop i) = some (r, n) → i + n ≤ x.length

theorem cut_append_of_readsWithin {opener z : List Char} :
    ∀ {x : List Char}, ReadsWithin opener x z →
      Pattern.cut (reference opener) (x ++ z) =
        Pattern.cut (reference opener) x ++ Pattern.cut (reference opener) z := by
  intro x
  induction x using Pattern.cut_induction (reference opener) with
  | nil => simp
  | hit c cs a n hmatch ih =>
    intro h
    have hn : n ≤ cs.length := by simpa using (reference_length hmatch).2
    have hmatch' : reference opener (c :: (cs ++ z)) = some (a, n + 1) :=
      reference_append hmatch z
    have hrest : ReadsWithin opener (cs.drop n) z := by
      intro i r k hi hk
      have hdrop : (c :: cs ++ z).drop (n + i + 1) = (cs.drop n ++ z).drop i := by
        rw [List.cons_append, List.drop_succ_cons, ← List.drop_append_of_le_length hn,
          List.drop_drop]
      have := h (n + i + 1) r k (by simp at hi ⊢; omega) (by rwa [hdrop])
      simp at hi this ⊢
      omega
    rw [List.cons_append, Pattern.cut_hit hmatch', Pattern.cut_hit hmatch,
      List.drop_append_of_le_length hn, ih hrest, List.cons_append]
  | char c cs hnone ih =>
    intro h
    have hnone' : ∀ a n, reference opener (c :: (cs ++ z)) ≠ some (a, n + 1) := by
      intro a n hm
      have hn := h 0 a (n + 1) (by simp) hm
      exact hnone a n (reference_of_append hm (by simpa using hn))
    have hrest : ReadsWithin opener cs z := by
      intro i r k hi hk
      have := h (i + 1) r k (by simp; omega) (by simpa using hk)
      simp at this
      omega
    rw [List.cons_append, Pattern.cut_char hnone', Pattern.cut_char hnone, ih hrest,
      List.cons_append]

theorem cut_append_of_none {opener z : List Char} :
    ∀ {x : List Char}, (∀ i, i < x.length → reference opener ((x ++ z).drop i) = none) →
      Pattern.cut (reference opener) (x ++ z) = x.map .char ++ Pattern.cut (reference opener) z
  | [], _ => rfl
  | c :: cs, h => by
    have hnone : ∀ a n, reference opener (c :: (cs ++ z)) ≠ some (a, n + 1) := by
      intro a n hm
      have h₀ := h 0 (by simp)
      rw [List.drop_zero, List.cons_append, hm] at h₀
      cases h₀
    rw [List.cons_append, Pattern.cut_char hnone,
      cut_append_of_none fun i hi => by simpa using h (i + 1) (by simp; omega), List.map_cons,
      List.cons_append]

theorem reference_eq_none {opener cs : List Char} (h : ¬ opener <+: cs) :
    reference opener cs = none := by
  cases hr : reference opener cs with
  | none => rfl
  | some p =>
    obtain ⟨s, rest, rfl, -, -⟩ := reference_eq_some hr
    exact absurd (by simp [Spelling.text, List.append_assoc]) h

@[simp] theorem reference_nil (opener : List Char) : reference opener [] = none := by
  cases h : reference opener [] with
  | none => rfl
  | some p =>
    have := reference_length h
    simp at this
    omega

/-! ## Runs between references -/

theorem runs_cut_head {α : Type} (p : Pattern α) (cs : List Char) :
    ∃ h t z, Pattern.runs (Pattern.cut p cs) = h :: t ∧ cs = h ++ z := by
  induction cs using Pattern.cut_induction p with
  | nil => exact ⟨[], [], [], by rw [Pattern.cut_nil]; rfl, rfl⟩
  | hit c cs a n hmatch ih => exact ⟨[], _, c :: cs, by rw [Pattern.cut_hit hmatch]; rfl, rfl⟩
  | char c cs hnone ih =>
    obtain ⟨h, t, z, hr, rfl⟩ := ih
    refine ⟨c :: h, t, z, ?_, rfl⟩
    rw [Pattern.cut_char hnone, Pattern.runs, hr, List.modifyHead_cons]

/-- No reference is read at any place of a run of a cut: the walk found none there, and a
reference read within a run would be read from the text the run stands in. -/
theorem runs_cut_free {opener cs : List Char} :
    ∀ run ∈ Pattern.runs (Pattern.cut (reference opener) cs), ∀ i,
      reference opener (run.drop i) = none := by
  induction cs using Pattern.cut_induction (reference opener) with
  | nil =>
    intro run hrun i
    rw [Pattern.cut_nil, Pattern.runs, List.mem_singleton] at hrun
    simp [hrun]
  | hit c cs a n hmatch ih =>
    intro run hrun i
    rw [Pattern.cut_hit hmatch, Pattern.runs] at hrun
    rcases List.mem_cons.1 hrun with rfl | hrun
    · simp
    · exact ih run hrun i
  | char c cs hnone ih =>
    obtain ⟨h, t, z, hr, hcs⟩ := runs_cut_head (reference opener) cs
    intro run hrun i
    rw [Pattern.cut_char hnone, Pattern.runs, hr, List.modifyHead_cons] at hrun
    rcases List.mem_cons.1 hrun with rfl | hrun
    · cases i with
      | zero =>
        rw [List.drop_zero]
        cases hm : reference opener (c :: h) with
        | none => rfl
        | some p =>
          obtain ⟨r, k⟩ := p
          obtain ⟨k, rfl⟩ : ∃ k', k = k' + 1 := ⟨k - 1, by have := (reference_length hm).1; omega⟩
          have hm' := reference_append hm z
          rw [List.cons_append, ← hcs] at hm'
          exact absurd hm' (hnone r k)
      | succ j => exact ih h (by rw [hr]; exact List.mem_cons_self) j
    · exact ih run (by rw [hr]; exact List.mem_cons_of_mem _ hrun) i

/-- Where no reference is read within any of some texts, a reference read from them laid end to
end crosses a place where one of them ends and the next begins. -/
theorem reference_crosses_join {opener : List Char} :
    ∀ {sts : List (List Char)}, (∀ st ∈ sts, ∀ i, reference opener (st.drop i) = none) →
      ∀ i r n, reference opener (sts.flatten.drop i) = some (r, n) →
        ∃ k, i < (sts.take k).flatten.length ∧ (sts.take k).flatten.length < i + n
  | [], _, i, r, n, h => by simp at h
  | st :: sts, hfree, i, r, n, h => by
    rw [List.flatten_cons] at h
    by_cases hi : i < st.length
    · -- a reference starting in `st` does not end there
      rw [List.drop_append_of_le_length (Nat.le_of_lt hi)] at h
      refine ⟨1, by simpa using hi, ?_⟩
      have hn : ¬ n ≤ (st.drop i).length := fun hn => by
        have hnone := hfree st List.mem_cons_self i
        rw [reference_of_append h hn] at hnone
        cases hnone
      simp only [List.length_drop] at hn
      simp
      omega
    · -- a reference starting past `st` is one read from the rest
      obtain ⟨j, rfl⟩ : ∃ j, i = st.length + j := ⟨i - st.length, by omega⟩
      rw [List.drop_append, List.drop_eq_nil_of_le (by omega), List.nil_append,
        Nat.add_sub_cancel_left] at h
      obtain ⟨k, hk₁, hk₂⟩ :=
        reference_crosses_join (fun st' h' => hfree st' (List.mem_cons_of_mem _ h')) j r n h
      refine ⟨k + 1, ?_, ?_⟩ <;>
        simp only [List.take_succ_cons, List.flatten_cons, List.length_append] <;> omega

end Courseware.Template
