import Courseware.Markdown.Block

/-!
# Script strings

`Text.escapeScriptString` writes author text for a single-quoted string of the page's scripts,
inside a double-quoted attribute. Its output is a *script literal* (`ScriptLiteral`): ASCII
letters, digits, `_`, `-` and `.` as they are, and `\u` escapes of four lower-case hex digits,
nothing else (`escapeScriptString_literal`).

A script reads a quoted string as UTF-16 units (`readQuoted`): a `\u` escape stands for the unit
its digits spell, any other character for its own units, and the first quote that is not part of
an escape ends the string. Read after an opening quote, the escaped text stands for the UTF-16
units of the text and ends exactly at the quote written after it
(`readQuoted_escapeScriptString`). Those units decode back to the text, a character from
`0x10000` up through its surrogate pair (`utf16Decode_utf16`). So escaping loses nothing, and two
texts escape alike only if they are equal. The main statement is `escapeScriptString_faithful`.
-/

namespace Courseware.Text

/-! ## UTF-16 -/

def utf16 (s : String) : List Nat := s.toList.flatMap utf16Units

def isHighSurrogate (u : Nat) : Bool := 0xD800 ≤ u && u < 0xDC00

def isLowSurrogate (u : Nat) : Bool := 0xDC00 ≤ u && u < 0xE000

/-- The characters UTF-16 units stand for: a high surrogate followed by a low one stands for one
character from `0x10000` up, any other unit for the character of its value; a surrogate out of
place is an error. -/
def utf16Decode : List Nat → Option (List Char)
  | [] => some []
  | u :: rest =>
    if isHighSurrogate u then
      match rest with
      | l :: more =>
        if isLowSurrogate l then
          (utf16Decode more).map (Char.ofNat (0x10000 + (u - 0xD800) * 0x400 + (l - 0xDC00)) :: ·)
        else none
      | [] => none
    else if isLowSurrogate u then none
    else (utf16Decode rest).map (Char.ofNat u :: ·)

theorem toNat_valid (c : Char) : c.toNat < 0xD800 ∨ (0xDFFF < c.toNat ∧ c.toNat < 0x110000) := by
  exact c.valid

theorem utf16Units_lt (c : Char) : ∀ u ∈ utf16Units c, u < 0x10000 := by
  have hc := toNat_valid c
  unfold utf16Units
  dsimp only
  split
  · intro u hu
    rw [List.mem_singleton] at hu
    omega
  · intro u hu
    simp only [List.mem_cons, List.not_mem_nil, or_false] at hu
    omega

theorem utf16Decode_units_append (c : Char) (rest : List Nat) :
    utf16Decode (utf16Units c ++ rest) = (utf16Decode rest).map (c :: ·) := by
  have hc := toNat_valid c
  unfold utf16Units
  dsimp only
  split
  · next hsmall =>
    have hhigh : isHighSurrogate c.toNat = false := by
      simp only [isHighSurrogate, Bool.and_eq_false_iff, decide_eq_false_iff_not]
      omega
    have hlow : isLowSurrogate c.toNat = false := by
      simp only [isLowSurrogate, Bool.and_eq_false_iff, decide_eq_false_iff_not]
      omega
    rw [List.singleton_append, utf16Decode.eq_def]
    dsimp only
    rw [hhigh, hlow, Char.ofNat_toNat]
    rfl
  · next hlarge =>
    have hhigh : isHighSurrogate (0xD800 + (c.toNat - 0x10000) / 0x400) = true := by
      simp only [isHighSurrogate, Bool.and_eq_true, decide_eq_true_eq]
      omega
    have hlow : isLowSurrogate (0xDC00 + (c.toNat - 0x10000) % 0x400) = true := by
      simp only [isLowSurrogate, Bool.and_eq_true, decide_eq_true_eq]
      omega
    have hvalue : 0x10000 + (0xD800 + (c.toNat - 0x10000) / 0x400 - 0xD800) * 0x400 +
        (0xDC00 + (c.toNat - 0x10000) % 0x400 - 0xDC00) = c.toNat := by
      omega
    simp only [List.cons_append, List.nil_append]
    rw [utf16Decode, hhigh, if_pos rfl]
    simp only [hlow, if_true, hvalue, Char.ofNat_toNat]

theorem utf16Decode_utf16 (s : String) : utf16Decode (utf16 s) = some s.toList := by
  unfold utf16
  induction s.toList with
  | nil => rfl
  | cons c cs ih => rw [List.flatMap_cons, utf16Decode_units_append, ih, Option.map_some]

/-! ## Reading a quoted string -/

def hexValue (c : Char) : Option Nat :=
  if 0x30 ≤ c.toNat ∧ c.toNat ≤ 0x39 then some (c.toNat - 0x30)
  else if 0x61 ≤ c.toNat ∧ c.toNat ≤ 0x66 then some (c.toNat - 0x61 + 10)
  else if 0x41 ≤ c.toNat ∧ c.toNat ≤ 0x46 then some (c.toNat - 0x41 + 10)
  else none

def hexValue4 (h₁ h₂ h₃ h₄ : Char) : Option Nat := do
  let d₁ ← hexValue h₁
  let d₂ ← hexValue h₂
  let d₃ ← hexValue h₃
  let d₄ ← hexValue h₄
  pure (((d₁ * 16 + d₂) * 16 + d₃) * 16 + d₄)

/-- Reads the body of a single-quoted script string up to its closing quote: the UTF-16 units it
stands for, and what follows the quote. A character stands for its own units, and `\u` with four
hex digits for the unit they spell. A line break, a string that never closes and escapes of any
other form are not read. -/
def readQuoted : List Char → Option (List Nat × List Char)
  | [] => none
  | c :: rest =>
    if c = '\'' then some ([], rest)
    else if c = '\\' then
      match rest with
      | 'u' :: h₁ :: h₂ :: h₃ :: h₄ :: more => do
        let u ← hexValue4 h₁ h₂ h₃ h₄
        let (us, after) ← readQuoted more
        pure (u :: us, after)
      | _ => none
    else if c = '\n' ∨ c = '\r' then none
    else (readQuoted rest).map fun (us, after) => (utf16Units c ++ us, after)

def isLowerHexDigit (c : Char) : Bool := "0123456789abcdef".toList.contains c

/-- Text of kept characters and `\u` escapes of four lower-case hex digits. -/
inductive ScriptLiteral : List Char → Prop
  | nil : ScriptLiteral []
  | kept {c : Char} {cs : List Char} : keptInScript c = true → ScriptLiteral cs →
      ScriptLiteral (c :: cs)
  | escape {h₁ h₂ h₃ h₄ : Char} {cs : List Char} :
      isLowerHexDigit h₁ = true → isLowerHexDigit h₂ = true → isLowerHexDigit h₃ = true →
      isLowerHexDigit h₄ = true → ScriptLiteral cs →
      ScriptLiteral ('\\' :: 'u' :: h₁ :: h₂ :: h₃ :: h₄ :: cs)

theorem ScriptLiteral.append {cs ds : List Char} (hcs : ScriptLiteral cs) (hds : ScriptLiteral ds) :
    ScriptLiteral (cs ++ ds) := by
  induction hcs with
  | nil => exact hds
  | kept hc _ ih => exact .kept hc ih
  | escape h₁ h₂ h₃ h₄ _ ih => exact .escape h₁ h₂ h₃ h₄ ih

/-- A script literal holds kept characters and backslashes only: no quote of either kind, and no
`&` that could start a reference. -/
theorem ScriptLiteral.chars {cs : List Char} (h : ScriptLiteral cs) :
    ∀ c ∈ cs, keptInScript c = true ∨ c = '\\' := by
  have hdigits : ∀ d ∈ "0123456789abcdef".toList, keptInScript d = true :=
    List.all_eq_true.1 (by decide)
  have hhex : ∀ d, isLowerHexDigit d = true → keptInScript d = true := fun d hd =>
    hdigits d (List.mem_of_elem_eq_true hd)
  induction h with
  | nil => exact fun d hd => absurd hd List.not_mem_nil
  | kept hc _ ih =>
    intro d hd
    rcases List.mem_cons.1 hd with rfl | hd
    · exact .inl hc
    · exact ih d hd
  | escape h₁ h₂ h₃ h₄ _ ih =>
    intro d hd
    simp only [List.mem_cons] at hd
    rcases hd with rfl | rfl | rfl | rfl | rfl | rfl | hd
    · exact .inr rfl
    · exact .inl rfl
    · exact .inl (hhex _ h₁)
    · exact .inl (hhex _ h₂)
    · exact .inl (hhex _ h₃)
    · exact .inl (hhex _ h₄)
    · exact ih d hd

/-! ## The escaped text -/

theorem hexDigit_value : ∀ k < 16, hexValue ("0123456789abcdef".toList.getD k '0') = some k := by
  decide

theorem hexDigit_lower (k : Nat) : isLowerHexDigit ("0123456789abcdef".toList.getD k '0') = true := by
  rw [List.getD_eq_getElem?_getD]
  rcases h : "0123456789abcdef".toList[k]? with _ | d
  · rfl
  · exact List.elem_eq_true_of_mem (List.mem_of_getElem? h)

theorem escapeScriptChar_literal (c : Char) : ScriptLiteral (escapeScriptChar c) := by
  unfold escapeScriptChar
  split
  · next hkept => exact .kept hkept .nil
  · induction utf16Units c with
    | nil => exact .nil
    | cons u us ih =>
      rw [List.flatMap_cons]
      exact ScriptLiteral.append (.escape (hexDigit_lower _) (hexDigit_lower _) (hexDigit_lower _)
        (hexDigit_lower _) .nil) ih

/-- Escaped text is a script literal. -/
theorem escapeScriptString_literal (s : String) :
    ScriptLiteral (escapeScriptString s).toList := by
  rw [escapeScriptString, String.toList_ofList]
  induction s.toList with
  | nil => exact .nil
  | cons c cs ih =>
    rw [List.flatMap_cons]
    exact (escapeScriptChar_literal c).append ih

theorem readQuoted_hex4 {u : Nat} (hu : u < 0x10000) (rest : List Char) :
    readQuoted ('\\' :: 'u' :: hex4 u ++ rest) =
      (readQuoted rest).map fun (us, after) => (u :: us, after) := by
  have hvalue : hexValue4 ("0123456789abcdef".toList.getD (u / Nat.pow 16 3 % 16) '0')
      ("0123456789abcdef".toList.getD (u / Nat.pow 16 2 % 16) '0')
      ("0123456789abcdef".toList.getD (u / Nat.pow 16 1 % 16) '0')
      ("0123456789abcdef".toList.getD (u / Nat.pow 16 0 % 16) '0') = some u := by
    simp only [hexValue4, hexDigit_value _ (Nat.mod_lt _ (by decide : 16 > 0)), Option.pure_def,
      Option.bind_eq_bind, Option.bind_some]
    have : Nat.pow 16 3 = 4096 ∧ Nat.pow 16 2 = 256 ∧ Nat.pow 16 1 = 16 ∧ Nat.pow 16 0 = 1 :=
      ⟨rfl, rfl, rfl, rfl⟩
    rw [this.1, this.2.1, this.2.2.1, this.2.2.2]
    congr 1
    omega
  unfold hex4
  simp only [List.cons_append, List.nil_append]
  rw [readQuoted, if_neg (by decide), if_pos rfl]
  simp only [hvalue, Option.pure_def, Option.bind_eq_bind, Option.bind_some]
  cases readQuoted rest <;> rfl

theorem readQuoted_kept {c : Char} (hc : keptInScript c = true) (rest : List Char) :
    readQuoted (c :: rest) = (readQuoted rest).map fun (us, after) => (utf16Units c ++ us, after) := by
  have hne : ∀ d, keptInScript d = false → c ≠ d := fun d hd he => by rw [he, hd] at hc; cases hc
  rw [readQuoted.eq_def]
  dsimp only
  rw [if_neg (hne '\'' rfl), if_neg (hne '\\' rfl), if_neg (not_or.2 ⟨hne '\n' rfl, hne '\r' rfl⟩)]

theorem readQuoted_escapeScriptChar (c : Char) (rest : List Char) :
    readQuoted (escapeScriptChar c ++ rest) =
      (readQuoted rest).map fun (us, after) => (utf16Units c ++ us, after) := by
  unfold escapeScriptChar
  split
  · next hkept => exact readQuoted_kept hkept rest
  · have hunits := utf16Units_lt c
    generalize utf16Units c = us at hunits ⊢
    induction us with
    | nil =>
      rw [List.flatMap_nil, List.nil_append]
      cases readQuoted rest <;> rfl
    | cons u us ih =>
      rw [List.flatMap_cons, List.append_assoc, readQuoted_hex4 (hunits u List.mem_cons_self),
        ih fun v hv => hunits v (List.mem_cons_of_mem _ hv)]
      cases readQuoted rest <;> rfl

/-- Read after an opening quote, escaped text stands for the units of the text and ends at the
quote written after it, whatever follows. -/
theorem readQuoted_escapeScriptString (s : String) (after : List Char) :
    readQuoted ((escapeScriptString s).toList ++ '\'' :: after) = some (utf16 s, after) := by
  rw [escapeScriptString, String.toList_ofList, utf16]
  induction s.toList with
  | nil =>
    rw [List.flatMap_nil, List.nil_append, readQuoted.eq_def]
    dsimp only
    rw [if_pos rfl]
    rfl
  | cons c cs ih =>
    rw [List.flatMap_cons, List.append_assoc, readQuoted_escapeScriptChar, ih, List.flatMap_cons]
    rfl

/-- Escaping a script string is faithful. The escaped text is a script literal, so it holds no
quote of either kind and no `&`, and it cannot close the attribute it stands in. Read after an
opening quote, it ends exactly at the closing quote and stands for the UTF-16 units of the text.
Those units decode to the text, with a surrogate pair for each character from `0x10000` up, so no
other text escapes alike. -/
theorem escapeScriptString_faithful (s : String) :
    ScriptLiteral (escapeScriptString s).toList ∧
    '"' ∉ (escapeScriptString s).toList ∧ '&' ∉ (escapeScriptString s).toList ∧
    (∀ after, readQuoted ((escapeScriptString s).toList ++ '\'' :: after) = some (utf16 s, after)) ∧
    utf16Decode (utf16 s) = some s.toList ∧
    ∀ t, escapeScriptString t = escapeScriptString s → t = s := by
  have hlit := escapeScriptString_literal s
  refine ⟨hlit, fun h => ?_, fun h => ?_, readQuoted_escapeScriptString s, utf16Decode_utf16 s,
    fun t heq => ?_⟩
  · rcases hlit.chars _ h with h | h <;> cases h
  · rcases hlit.chars _ h with h | h <;> cases h
  · -- the same escaped text is read as the same units, which decode to the same text
    have hunits : some (utf16 t, ([] : List Char)) = some (utf16 s, []) := by
      rw [← readQuoted_escapeScriptString t [], ← readQuoted_escapeScriptString s [], heq]
    have hdecode := utf16Decode_utf16 t
    rw [(Prod.mk.inj (Option.some.inj hunits)).1, utf16Decode_utf16 s] at hdecode
    exact String.toList_injective (Option.some.inj hdecode).symm

end Courseware.Text
