import Courseware.Text.Slug
import Courseware.Proofs.Site.Output

/-!
# File stems

A title's slug is a safe file stem (`IsStem`): it is not empty, it is made of `a`…`z`, `0`…`9`,
`_` and `-` only, no dash stands at either end and no two dashes stand together
(`fileSlug_isStem`). The letters a slug keeps are small ones because lower case never gives an
ASCII capital (`Case.lowercase_not_upper`). This also covers the characters that lower case turns
into ASCII letters, such as the Kelvin sign. A stem is its own slug (`fileSlug_of_isStem`), so
slugging twice changes nothing.

A lesson's page is named by its stem and `.html`. That name is one path component with a single
dot, and every lesson path a build reports leads directly into the output directory
(`fileSlug_safe_stem`).
-/

/-!
## Lower case has no capital ASCII letter

`Case.lowercase` sends every character to characters that are not ASCII capitals
(`lowercase_not_upper`). ASCII text is lowered letter by letter; every other character goes
through the lower-case tables, whose runs never send a code point from `0x80` up into `A`…`Z`
(`lowerRuns_avoid_capitals`), and whose expanding mapping gives `i` and a combining dot.
-/

namespace Courseware

namespace CaseRun

theorem find_mem {rs : Array CaseRun} {n : Nat} {r : CaseRun} :
    ∀ {fuel lo hi : Nat}, find rs n fuel lo hi = some r → r ∈ rs.toList
  | 0, _, _, h => by simp [find] at h
  | fuel + 1, lo, hi, h => by
    rw [find] at h
    split at h
    · split at h
      · rename_i r' hr'
        split at h
        · exact find_mem h
        · split at h
          · exact find_mem h
          · cases h
            exact Array.mem_toList_iff.2 (Array.mem_of_getElem? hr')
      · cases h
    · cases h

/-- The image of a run's code points from `0x80` up misses the ASCII capitals. -/
def avoidsCapitals (r : CaseRun) : Bool :=
  decide (r.last < 0x80) || decide (90 < ((max r.first 0x80 : Nat) : Int) + r.offset) ||
    decide ((r.last : Int) + r.offset < 65)

theorem apply_not_capital {r : CaseRun} (hr : r.avoidsCapitals = true) {n : Nat}
    (hn : 0x80 ≤ n) (hc : r.covers n = true) : ¬(65 ≤ r.apply n ∧ r.apply n ≤ 90) := by
  simp only [avoidsCapitals, Bool.or_eq_true, decide_eq_true_eq] at hr
  simp only [covers, Bool.and_eq_true, decide_eq_true_eq] at hc
  simp only [apply, Int.ofNat_eq_natCast]
  omega

theorem lookup_not_capital {rs : Array CaseRun} (hrs : rs.toList.all avoidsCapitals = true)
    {n m : Nat} (hn : 0x80 ≤ n) (h : lookup rs n = some m) : ¬(65 ≤ m ∧ m ≤ 90) := by
  rw [lookup] at h
  split at h
  · rename_i r hfind
    split at h
    · cases h
      exact apply_not_capital (List.all_eq_true.1 hrs r (find_mem hfind)) hn ‹_›
    · cases h
  · cases h

end CaseRun

namespace Case

open CaseMap

theorem isUpper_iff (c : Char) : c.isUpper = true ↔ 65 ≤ c.toNat ∧ c.toNat ≤ 90 := by
  show decide (c.val ≥ 'A'.val ∧ c.val ≤ 'Z'.val) = true ↔ _
  rw [decide_eq_true_iff, ge_iff_le, UInt32.le_iff_toNat_le, UInt32.le_iff_toNat_le]
  rfl

theorem isUpper_ofNat {n : Nat} (h : ¬(65 ≤ n ∧ n ≤ 90)) :
    (Char.ofNat n).isUpper = false := by
  by_cases hv : n.isValidChar
  · have hn : (Char.ofNat n).toNat = n := by
      rw [Char.ofNat, dif_pos hv]
      exact UInt32.toNat_ofNatLT
    rw [Bool.eq_false_iff, ne_eq, isUpper_iff, hn]
    exact h
  · rw [Char.ofNat, dif_neg hv]
    decide

theorem lowerRuns_avoid_capitals : lowerRuns.toList.all CaseRun.avoidsCapitals = true := by
  decide

theorem toLower_not_upper : ∀ n < 0x80, (Char.ofNat n).toLower.isUpper = false := by
  decide

theorem lowerChar_not_upper (c : Char) : ∀ d ∈ lowerChar c, d.isUpper = false := by
  unfold lowerChar
  split
  · rename_i hc
    intro d hd
    rw [List.mem_singleton] at hd
    subst hd
    have hlower := toLower_not_upper c.toNat hc
    rwa [Char.ofNat_toNat] at hlower
  · rename_i hc
    unfold mapChar
    split
    · rename_i e he
      -- the one expanding mapping lowers to `i` and a combining dot
      have he : e ∈ [(0x130, [0x69, 0x307])] :=
        Array.mem_toList_iff.2 (Array.mem_of_find?_eq_some he)
      rw [List.mem_singleton] at he
      subst he
      intro d hd
      simp only [List.map_cons, List.map_nil, List.mem_cons, List.not_mem_nil, or_false] at hd
      rcases hd with rfl | rfl <;> exact isUpper_ofNat (by omega)
    · split
      · rename_i m hm
        intro d hd
        rw [List.mem_singleton] at hd
        subst hd
        exact isUpper_ofNat (CaseRun.lookup_not_capital lowerRuns_avoid_capitals (by omega) hm)
      · intro d hd
        rw [List.mem_singleton] at hd
        subst hd
        rw [Bool.eq_false_iff]
        intro hu
        rw [isUpper_iff] at hu
        omega

theorem lowerFrom_not_upper :
    ∀ (before cs : List Char), ∀ d ∈ lowerFrom before cs, d.isUpper = false
  | _, [] => by simp [lowerFrom]
  | before, c :: cs => by
    intro d hd
    rw [lowerFrom, List.mem_append] at hd
    rcases hd with hd | hd
    · split at hd
      · rw [List.mem_singleton] at hd
        subst hd
        split <;> decide
      · exact lowerChar_not_upper c d hd
    · exact lowerFrom_not_upper _ cs d hd

/-- Lower case holds no ASCII capital. -/
theorem lowercase_not_upper (s : String) : ∀ d ∈ (lowercase s).toList, d.isUpper = false := by
  rw [lowercase, String.toList_ofList]
  exact lowerFrom_not_upper [] s.toList

end Case

end Courseware

namespace Courseware

namespace Text

/-- The characters of a stem: `a`…`z`, `0`…`9`, `_` and `-`. -/
def isStemChar (c : Char) : Bool := c.isLower || c.isDigit || c == '_' || c == '-'

/-- A safe file stem. -/
structure IsStem (s : String) : Prop where
  ne_nil : s.toList ≠ []
  chars : ∀ c ∈ s.toList, isStemChar c = true
  head_ne_dash : s.toList.head? ≠ some '-'
  getLast_ne_dash : s.toList.getLast? ≠ some '-'
  no_double_dash : ¬ ['-', '-'] <:+: s.toList

theorem isStemChar_toNat {c : Char} (h : isStemChar c = true) :
    (97 ≤ c.toNat ∧ c.toNat ≤ 122) ∨ (48 ≤ c.toNat ∧ c.toNat ≤ 57) ∨ c.toNat = 95 ∨
      c.toNat = 45 := by
  simp only [isStemChar, Char.isLower, Char.isDigit, Bool.or_eq_true, Bool.and_eq_true,
    decide_eq_true_eq, beq_iff_eq, ge_iff_le, UInt32.le_iff_toNat_le] at h
  rcases h with ((h | h) | rfl) | rfl
  · exact .inl h
  · exact .inr (.inl h)
  · exact .inr (.inr (.inl rfl))
  · exact .inr (.inr (.inr rfl))

theorem isFileChar_of_isStemChar {c : Char} (h : isStemChar c = true) : isFileChar c = true := by
  have hlt : c.toNat < 0x80 := by rcases isStemChar_toNat h with h | h | h | h <;> omega
  simp only [isStemChar, Bool.or_eq_true, beq_iff_eq] at h
  simp only [isFileChar, Char.isAlphanum, Char.isAlpha, hlt, decide_true, Bool.true_and,
    Bool.or_eq_true, beq_iff_eq]
  rcases h with ((h | h) | h) | h <;> simp [h]

theorem isStemChar_of_isFileChar {c : Char} (hfile : isFileChar c = true)
    (hup : c.isUpper = false) : isStemChar c = true := by
  simp only [isFileChar, Char.isAlphanum, Char.isAlpha, hup, Bool.false_or, Bool.or_eq_true,
    Bool.and_eq_true, beq_iff_eq] at hfile
  simp only [isStemChar, Bool.or_eq_true, beq_iff_eq]
  rcases hfile with ((⟨-, h | h⟩ | h) | h) <;> simp [h]

theorem isBlank_of_isStemChar {c : Char} (h : isStemChar c = true) : isBlank c = false := by
  rw [Bool.eq_false_iff]
  intro hblank
  obtain ⟨r, hr, hlo, hhi⟩ := CharSet.mem_of_contains blank c hblank
  have hc := isStemChar_toNat h
  simp only [blank, List.mem_cons, List.not_mem_nil, or_false] at hr
  rcases hr with rfl | rfl | rfl | rfl | rfl | rfl | rfl | rfl | rfl | rfl <;> dsimp only at hlo hhi <;>
    omega

/-! ## Dropping from either end -/

theorem dropWhile_self {p : Char → Bool} {l : List Char}
    (h : ∀ a, l.head? = some a → p a = false) : l.dropWhile p = l := by
  cases l with
  | nil => rfl
  | cons a l => simp [h a rfl]

theorem dropEndWhile_self {p : Char → Bool} {l : List Char}
    (h : ∀ a, l.getLast? = some a → p a = false) : dropEndWhile p l = l := by
  unfold dropEndWhile
  rw [dropWhile_self (by rwa [List.head?_reverse]), List.reverse_reverse]

theorem dropEndWhile_isPrefix (p : Char → Bool) (l : List Char) : dropEndWhile p l <+: l := by
  unfold dropEndWhile
  simpa using (List.dropWhile_suffix p (l := l.reverse)).reverse

theorem getLast?_dropEndWhile (p : Char → Bool) (l : List Char) :
    ∀ a, (dropEndWhile p l).getLast? = some a → p a = false := by
  intro a ha
  unfold dropEndWhile at ha
  rw [List.getLast?_reverse] at ha
  have := List.head?_dropWhile_not p l.reverse
  rw [ha] at this
  exact this

theorem head?_of_prefix {l₁ l₂ : List Char} {a : Char} (h : l₁ <+: l₂) (ha : l₁.head? = some a) :
    l₂.head? = some a := by
  obtain ⟨t, rfl⟩ := h
  rw [List.head?_append, ha]
  rfl

/-! ## Runs of dashes -/

theorem collapseDashes_head? (cs : List Char) : (collapseDashes cs).head? = cs.head? := by
  fun_induction collapseDashes cs with
  | case1 cs ih => exact ih
  | case2 c cs _ _ => rfl
  | case3 => rfl

theorem collapseDashes_no_double (cs : List Char) : ¬ ['-', '-'] <:+: collapseDashes cs := by
  fun_induction collapseDashes cs with
  | case1 cs ih => exact ih
  | case2 c cs hpair ih =>
    rw [List.infix_cons_iff, not_or]
    refine ⟨?_, ih⟩
    rintro ⟨t, ht⟩
    simp only [List.cons_append, List.nil_append, List.cons.injEq] at ht
    obtain ⟨rfl, ht⟩ := ht
    have hhead := collapseDashes_head? cs
    rw [← ht, List.head?_cons] at hhead
    obtain ⟨cs', rfl⟩ : ∃ cs', cs = '-' :: cs' := by
      cases cs with
      | nil => cases hhead
      | cons d cs' =>
        rw [List.head?_cons, Option.some.injEq] at hhead
        exact ⟨cs', by rw [hhead]⟩
    exact hpair cs' rfl rfl
  | case3 => simp

theorem collapseDashes_self {cs : List Char} (h : ¬ ['-', '-'] <:+: cs) : collapseDashes cs = cs := by
  fun_induction collapseDashes cs with
  | case1 cs _ => exact absurd (List.prefix_append _ _).isInfix h
  | case2 c cs _ ih => rw [ih fun hin => h (List.infix_cons hin)]
  | case3 => rfl

theorem slugChars_sublist (cs : List Char) :
    (slugChars cs).Sublist (cs.map fun c => if isFileChar c then c else '-') :=
  (dropEndWhile_isPrefix _ _).sublist.trans ((List.dropWhile_suffix _).sublist.trans
    (collapseDashes_sublist _))

theorem mem_slugChars {cs : List Char} {d : Char} (h : d ∈ slugChars cs) :
    d = '-' ∨ (d ∈ cs ∧ isFileChar d = true) := by
  obtain ⟨c, hc, hd⟩ := List.mem_map.1 ((slugChars_sublist cs).subset h)
  split at hd
  · next hfile =>
    subst hd
    exact .inr ⟨hc, hfile⟩
  · exact .inl hd.symm

theorem slugChars_isStem {cs : List Char} (hup : ∀ c ∈ cs, c.isUpper = false)
    (hne : slugChars cs ≠ []) : IsStem (String.ofList (slugChars cs)) := by
  rw [← String.toList_ofList (l := slugChars cs)] at hne
  refine ⟨hne, fun d hd => ?_, fun hhead => ?_, fun hlast => ?_, fun hin => ?_⟩ <;>
    rw [String.toList_ofList] at *
  · rcases mem_slugChars hd with rfl | ⟨hmem, hfile⟩
    · rfl
    · exact isStemChar_of_isFileChar hfile (hup d hmem)
  · have hdrop := head?_of_prefix (dropEndWhile_isPrefix _ _) hhead
    have := List.head?_dropWhile_not (· == '-')
      (collapseDashes (cs.map fun c => if isFileChar c then c else '-'))
    rw [hdrop] at this
    exact absurd this (by decide)
  · exact absurd (getLast?_dropEndWhile _ _ _ hlast) (by decide)
  · exact collapseDashes_no_double _ (hin.trans ((dropEndWhile_isPrefix _ _).isInfix.trans
      (List.dropWhile_suffix _).isInfix))

theorem lesson_isStem : IsStem "lesson" where
  ne_nil := by decide
  chars := List.all_eq_true.1 (by decide)
  head_ne_dash := by decide
  getLast_ne_dash := by decide
  no_double_dash := by decide

/-- A title's slug is a stem. -/
theorem fileSlug_isStem (title : String) : IsStem (fileSlug title) := by
  unfold fileSlug
  rcases h : slugChars (Case.lowercase (trim title)).toList with _ | ⟨c, cs⟩
  · exact lesson_isStem
  · have hstem := slugChars_isStem (Case.lowercase_not_upper _)
      (by rw [h]; exact List.cons_ne_nil c cs)
    rw [h] at hstem
    exact hstem

/-! ## A stem is its own slug -/

theorem trim_of_isStem {s : String} (h : IsStem s) : trim s = s := by
  have hnot : ∀ a ∈ s.toList, isBlank a = false := fun a ha => isBlank_of_isStemChar (h.chars a ha)
  unfold trim dropBlank
  rw [dropWhile_self fun a ha => hnot a (List.mem_of_head? ha),
    dropEndWhile_self fun a ha => hnot a (List.mem_of_getLast? ha), String.ofList_toList]

theorem lowerFrom_self (before : List Char) {cs : List Char}
    (h : ∀ c ∈ cs, c.toNat < 0x80 ∧ c.isUpper = false) : Case.lowerFrom before cs = cs := by
  induction cs generalizing before with
  | nil => rfl
  | cons c cs ih =>
    obtain ⟨hascii, hup⟩ := h c List.mem_cons_self
    have hsigma : c ≠ 'Σ' := fun hc => by rw [hc] at hascii; exact absurd hascii (by decide)
    rw [Case.lowerFrom, if_neg hsigma, Case.lowerChar_ascii c hascii,
      Char.toLower_eq_of_not_isUpper (by rw [hup]; decide),
      ih _ fun d hd => h d (List.mem_cons_of_mem _ hd)]
    rfl

theorem lowercase_of_isStem {s : String} (h : IsStem s) : Case.lowercase s = s := by
  unfold Case.lowercase
  rw [lowerFrom_self [] fun c hc => ?_, String.ofList_toList]
  have hc := isStemChar_toNat (h.chars c hc)
  refine ⟨by omega, ?_⟩
  rw [Bool.eq_false_iff, ne_eq, Case.isUpper_iff]
  omega

theorem slugChars_of_isStem {s : String} (h : IsStem s) : slugChars s.toList = s.toList := by
  unfold slugChars
  rw [List.map_congr_left (g := id) fun c hc => by
      simp [isFileChar_of_isStemChar (h.chars c hc)],
    List.map_id, collapseDashes_self h.no_double_dash,
    dropWhile_self fun a ha => by
      have : a ≠ '-' := fun he => h.head_ne_dash (he ▸ ha)
      simpa using this,
    dropEndWhile_self fun a ha => by
      have : a ≠ '-' := fun he => h.getLast_ne_dash (he ▸ ha)
      simpa using this]

/-- A stem is its own slug. -/
theorem fileSlug_of_isStem {s : String} (h : IsStem s) : fileSlug s = s := by
  unfold fileSlug
  rw [trim_of_isStem h, lowercase_of_isStem h, slugChars_of_isStem h]
  split
  · next hnil => exact absurd hnil h.ne_nil
  · exact String.ofList_toList

end Text

/-! ## Page names -/

theorem Lesson.no_dots_fileName (l : Lesson) : ¬ ['.', '.'] <:+: l.fileName.toList := by
  intro hin
  have hstem : (Text.fileSlug l.title).toList.count '.' = 0 :=
    List.count_eq_zero.2 fun hdot => by
      have := Text.isStemChar_toNat ((Text.fileSlug_isStem l.title).chars '.' hdot)
      simp at this
  have hcount := hin.sublist.count_le '.'
  rw [Lesson.fileName, String.toList_append, List.count_append, hstem] at hcount
  exact absurd hcount (by decide)

/-- A title's slug is a safe stem and its own slug. A lesson's page is named by its stem and
`.html`, one path component with a single dot, and each lesson path a build reports leads into
the output directory and no further. -/
theorem fileSlug_safe_stem :
    (∀ title, Text.IsStem (Text.fileSlug title) ∧
      Text.fileSlug (Text.fileSlug title) = Text.fileSlug title) ∧
    (∀ l : Lesson, l.fileName = Text.fileSlug l.title ++ ".html" ∧
      FileStore.PlainName l.fileName ∧ ¬ ['.', '.'] <:+: l.fileName.toList) ∧
    ∀ (c : Course) (dir : String) (b : Site.Builder) (s : Site.Summary) (b' : Site.Builder),
      (Site.renderTo c dir).run b = .ok s b' →
      ∃ r, FileStore.resolve dir = some r ∧
        s.lessons = c.lessons.map (fun l => FileStore.join dir l.fileName) ∧
        ∀ l ∈ c.lessons, FileStore.resolve (FileStore.join dir l.fileName) =
          some ⟨r.comps ++ [l.fileName], false, r.passed⟩ := by
  refine ⟨fun title => ⟨Text.fileSlug_isStem title,
    Text.fileSlug_of_isStem (Text.fileSlug_isStem title)⟩,
    fun l => ⟨rfl, l.fileName_plain, l.no_dots_fileName⟩, fun c dir b s b' h => ?_⟩
  obtain ⟨r, -, -, -, -, -, hr, -, -, -, -, hs, -⟩ := Site.renderTo_run h
  exact ⟨r, hr, by rw [hs], fun l _ => FileStore.resolve_join l.fileName_plain hr⟩

end Courseware
