import Courseware.FileStore.Basic

/-!
# Decoding undoes encoding

`Utf8.encode` writes each character as the bytes of its code point (`encode_eq_flatMap`), so the
bytes of joined text are the joined bytes (`encode_append`). An ASCII character is the one byte
of its code (`utf8EncodeChar_ascii`); every byte of any other character is `0x80` or more
(`le_toNat_of_mem_utf8EncodeChar`), so an ASCII byte stands in encoded text exactly where its
character stands in the text (`byte_mem_encode_iff`).

Decoding reads the bytes of each character back as that character
(`decodeChars_utf8EncodeChar`): the first byte of a character of several bytes announces how
many follow and the range of the next one, and the bytes that follow carry the rest of the code
point. So decoding undoes encoding (`decode_encode`).
-/

namespace Courseware.Utf8

open String (utf8EncodeChar)

/-! ## Encoding -/

theorem toList_loop_eq (bs : ByteArray) (i : Nat) (r : List UInt8) :
    ByteArray.toList.loop bs i r = r.reverse ++ bs.data.toList.drop i := by
  fun_induction ByteArray.toList.loop bs i r with
  | case1 i r h ih =>
    have hi : i < bs.data.toList.length := by simpa using h
    rw [ih, List.drop_eq_getElem_cons hi]
    simp [ByteArray.get!, h]
  | case2 i r h =>
    rw [List.drop_eq_nil_of_le (by simpa using Nat.le_of_not_lt h)]
    simp

theorem encode_eq_flatMap (s : String) : encode s = s.toList.flatMap utf8EncodeChar := by
  conv => lhs; rw [← String.ofList_toList (s := s)]
  rw [encode, String.toUTF8_eq_toByteArray, ByteArray.toList, toList_loop_eq]
  exact List.toList_data_toByteArray

@[simp] theorem encode_append (s t : String) : encode (s ++ t) = encode s ++ encode t := by
  rw [encode_eq_flatMap, encode_eq_flatMap, encode_eq_flatMap, String.toList_append,
    List.flatMap_append]

@[simp] theorem encode_empty : encode "" = [] := by
  rw [encode_eq_flatMap, String.toList_empty, List.flatMap_nil]

theorem encode_singleton (c : Char) : encode (String.singleton c) = utf8EncodeChar c := by
  rw [encode_eq_flatMap, String.toList_singleton, List.flatMap_singleton]

theorem utf8EncodeChar_ascii {c : Char} (h : c.toNat < 0x80) :
    utf8EncodeChar c = [UInt8.ofNat c.toNat] := by
  have h' : c.val.toNat ≤ 0x7F := by
    show c.toNat ≤ 0x7F
    omega
  simp only [utf8EncodeChar, if_pos h']
  rfl

theorem le_toNat_of_mem_utf8EncodeChar {c : Char} (h : 0x80 ≤ c.toNat) :
    ∀ b ∈ utf8EncodeChar c, 0x80 ≤ b.toNat := by
  have hv : c.val.toNat = c.toNat := rfl
  have hmax : c.toNat < 0x110000 := by
    have : c.toNat < 0xD800 ∨ (0xDFFF < c.toNat ∧ c.toNat < 0x110000) := c.valid
    omega
  intro b hb
  simp only [utf8EncodeChar, hv] at hb
  repeat' split at hb
  all_goals
    simp only [List.mem_cons, List.not_mem_nil, or_false] at hb
    rcases hb with rfl | rfl | rfl | rfl <;> simp only [UInt8.toNat_ofNat'] <;> omega

/-- An ASCII byte stands in encoded text exactly where its character stands in the text. -/
theorem byte_mem_encode_iff {d : Char} (hd : d.toNat < 0x80) (s : String) :
    UInt8.ofNat d.toNat ∈ encode s ↔ d ∈ s.toList := by
  have hbyte : (UInt8.ofNat d.toNat).toNat = d.toNat := by
    rw [UInt8.toNat_ofNat']
    omega
  rw [encode_eq_flatMap, List.mem_flatMap]
  constructor
  · rintro ⟨c, hc, hmem⟩
    by_cases hca : c.toNat < 0x80
    · rw [utf8EncodeChar_ascii hca, List.mem_singleton] at hmem
      have hcd : d.toNat = c.toNat := by
        rw [← hbyte, hmem, UInt8.toNat_ofNat']
        omega
      rwa [Char.toNat_inj.1 hcd]
    · have := le_toNat_of_mem_utf8EncodeChar (by omega) _ hmem
      omega
  · intro hmem
    exact ⟨d, hmem, by rw [utf8EncodeChar_ascii hd]; exact List.mem_singleton_self _⟩

/-! ## Tests on bytes and on characters

A test on bytes that agrees with a test on characters at every ASCII code, and fails at every
byte from `0x80` up, fails on the bytes of every character that fails the character test. -/

section Transfer

variable {p : UInt8 → Bool} {q : Char → Bool}
  (hascii : ∀ n < 0x80, p (UInt8.ofNat n) = q (Char.ofNat n))
  (hhigh : ∀ n < 0x80, p (UInt8.ofNat (n + 0x80)) = false)
include hascii hhigh

theorem utf8EncodeChar_test {c : Char} (hq : q c = false) : ∀ b ∈ utf8EncodeChar c, p b = false := by
  intro b hb
  by_cases hc : c.toNat < 0x80
  · rw [utf8EncodeChar_ascii hc, List.mem_singleton] at hb
    subst hb
    rw [hascii _ hc, Char.ofNat_toNat, hq]
  · have hle := le_toNat_of_mem_utf8EncodeChar (by omega) b hb
    have hlt := UInt8.toNat_lt b
    have hb : b = UInt8.ofNat (b.toNat - 0x80 + 0x80) := by
      rw [Nat.sub_add_cancel hle, UInt8.ofNat_toNat]
    rw [hb]
    exact hhigh _ (by omega)

theorem encode_test {s : String} (hs : ∀ c ∈ s.toList, q c = false) : ∀ b ∈ encode s, p b = false := by
  intro b hb
  rw [encode_eq_flatMap, List.mem_flatMap] at hb
  obtain ⟨c, hc, hb⟩ := hb
  exact utf8EncodeChar_test hascii hhigh (hs c hc) b hb

theorem head?_encode_test {s : String} {c : Char} (hc : s.toList.head? = some c) (hq : q c = false) :
    ∀ b, (encode s).head? = some b → p b = false := by
  intro b hb
  obtain ⟨cs, hcs⟩ : ∃ cs, s.toList = c :: cs := by
    cases h : s.toList with
    | nil => rw [h] at hc; cases hc
    | cons d cs => rw [h] at hc; cases hc; exact ⟨cs, rfl⟩
  rw [encode_eq_flatMap, hcs, List.flatMap_cons, List.head?_append] at hb
  cases hfirst : (utf8EncodeChar c).head? with
  | none => exact absurd (List.head?_eq_none_iff.1 hfirst) (String.utf8EncodeChar_ne_nil)
  | some d =>
    rw [hfirst, Option.some_or] at hb
    cases hb
    exact utf8EncodeChar_test hascii hhigh hq b (List.mem_of_head? hfirst)

theorem getLast?_encode_test {s : String} {c : Char} (hc : s.toList.getLast? = some c)
    (hq : q c = false) : ∀ b, (encode s).getLast? = some b → p b = false := by
  intro b hb
  obtain ⟨cs, hcs⟩ : ∃ cs, s.toList = cs ++ [c] := by
    obtain ⟨cs, d, h⟩ := List.eq_nil_or_concat s.toList |>.resolve_left (by
      intro h; rw [h] at hc; cases hc)
    rw [h, List.concat_eq_append, List.getLast?_concat] at hc
    cases hc
    exact ⟨cs, by rw [h, List.concat_eq_append]⟩
  rw [encode_eq_flatMap, hcs, List.flatMap_append, List.flatMap_singleton, List.getLast?_append] at hb
  cases hlast : (utf8EncodeChar c).getLast? with
  | none => exact absurd (List.getLast?_eq_none_iff.1 hlast) (String.utf8EncodeChar_ne_nil)
  | some d =>
    rw [hlast, Option.some_or] at hb
    cases hb
    exact utf8EncodeChar_test hascii hhigh hq b (List.mem_of_getLast? hlast)

end Transfer

/-! ## Decoding one character -/

theorem decodeChars_ascii {b : UInt8} (h : b.toNat < 0x80) (rest : List UInt8) :
    decodeChars (b :: rest) = Char.ofNat b.toNat :: decodeChars rest := by
  rw [decodeChars.eq_def]
  exact if_pos (UInt8.lt_iff_toNat_lt.2 h)

theorem validTail_eq {width : Nat} {lo hi b1 : UInt8} {more : List UInt8} (rest : List UInt8)
    (hrange : (lo ≤ b1 && b1 ≤ hi) = true) (hlen : more.length + 2 = width)
    (hcont : ∀ b ∈ more, isCont b = true) :
    validTail width lo hi (b1 :: (more ++ rest)) = more.length + 1 := by
  have htake : (more ++ rest).take (width - 2) = more := by
    rw [List.take_append_of_le_length (by omega), List.take_of_length_le (by omega)]
  have hall : more.takeWhile isCont = more := by
    rw [← List.append_nil more, List.takeWhile_append_of_pos hcont, List.takeWhile_nil]
  rw [validTail, if_pos hrange, htake, hall]
  omega

/-- A character of several bytes, announced by its first byte, is read as the code point its
bytes carry. -/
theorem decodeChars_lead {b b1 lo hi : UInt8} {width : Nat} (more rest : List UInt8)
    (hb : 0x80 ≤ b.toNat) (hlead : lead b = some (width, lo, hi))
    (hrange : (lo ≤ b1 && b1 ≤ hi) = true) (hlen : more.length + 2 = width)
    (hcont : ∀ b ∈ more, isCont b = true) :
    decodeChars (b :: b1 :: (more ++ rest)) =
      Char.ofNat (codePoint (b :: b1 :: more)) :: decodeChars rest := by
  have hnot : ¬ b < 0x80 := fun h => by
    have := UInt8.lt_iff_toNat_lt.1 h
    have : (0x80 : UInt8).toNat = 0x80 := rfl
    omega
  rw [decodeChars.eq_def]
  dsimp only
  rw [if_neg hnot, hlead]
  dsimp only
  rw [validTail_eq rest hrange hlen hcont, if_pos (by omega), List.drop_succ_cons, List.drop_left,
    List.take_succ_cons, List.take_left]

/-- First bytes of characters of two bytes. -/
theorem lead_two : ∀ n < 0x1E, lead (UInt8.ofNat (n + 0xC2)) = some (2, 0x80, 0xBF) := by
  decide

/-- First bytes of characters of three bytes: after `0xE0` the second byte is at least `0xA0`
(no overlong form), after `0xED` at most `0x9F` (no surrogate). -/
theorem lead_three : ∀ n < 0x10, lead (UInt8.ofNat (n + 0xE0)) =
    some (3, if n = 0 then 0xA0 else 0x80, if n = 0xD then 0x9F else 0xBF) := by
  decide

/-- First bytes of characters of four bytes: after `0xF0` the second byte is at least `0x90`
(no overlong form), after `0xF4` at most `0x8F` (nothing past `0x10FFFF`). -/
theorem lead_four : ∀ n < 5, lead (UInt8.ofNat (n + 0xF0)) =
    some (4, if n = 0 then 0x90 else 0x80, if n = 4 then 0x8F else 0xBF) := by
  decide

theorem range_eq_true {lo hi b : UInt8} (h1 : lo.toNat ≤ b.toNat) (h2 : b.toNat ≤ hi.toNat) :
    (lo ≤ b && b ≤ hi) = true := by
  simp [UInt8.le_iff_toNat_le, h1, h2]

theorem isCont_ofNat (x : Nat) : isCont (UInt8.ofNat (x % 0x40 + 0x80)) = true :=
  range_eq_true (by simp only [UInt8.toNat_ofNat', UInt8.toNat_ofNat]; omega)
    (by simp only [UInt8.toNat_ofNat', UInt8.toNat_ofNat]; omega)

theorem all_isCont (xs : List Nat) :
    ∀ b ∈ xs.map fun x => UInt8.ofNat (x % 0x40 + 0x80), isCont b = true := by
  intro b hb
  obtain ⟨x, -, rfl⟩ := List.mem_map.1 hb
  exact isCont_ofNat x

theorem decodeChars_utf8EncodeChar (c : Char) (rest : List UInt8) :
    decodeChars (utf8EncodeChar c ++ rest) = c :: decodeChars rest := by
  have hv : c.val.toNat = c.toNat := rfl
  have hvalid : c.toNat < 0xD800 ∨ (0xDFFF < c.toNat ∧ c.toNat < 0x110000) := c.valid
  suffices h : ∃ n, decodeChars (utf8EncodeChar c ++ rest) = Char.ofNat n :: decodeChars rest ∧
      n = c.toNat by
    obtain ⟨n, h, rfl⟩ := h
    rw [h, Char.ofNat_toNat]
  simp only [utf8EncodeChar, hv]
  split
  · exact ⟨_, decodeChars_ascii (by simp only [UInt8.toNat_ofNat']; omega) rest,
      by simp only [UInt8.toNat_ofNat']; omega⟩
  split
  · have hfirst : c.toNat / 64 % 32 + 192 = (c.toNat / 64 % 32 - 2) + 0xC2 := by omega
    refine ⟨_, decodeChars_lead [] rest (by simp only [UInt8.toNat_ofNat']; omega)
      (hfirst ▸ lead_two _ (by omega)) (isCont_ofNat _) rfl (by simp), ?_⟩
    simp only [codePoint, UInt8.toNat_ofNat']
    omega
  split
  · have hn : c.toNat / 4096 % 16 < 0x10 := by omega
    refine ⟨_, decodeChars_lead [_] rest (by simp only [UInt8.toNat_ofNat']; omega)
      (lead_three _ hn) ?_ rfl (all_isCont [c.toNat]), ?_⟩
    · apply range_eq_true <;> split <;> simp only [UInt8.toNat_ofNat', UInt8.toNat_ofNat] <;> omega
    · simp only [codePoint, UInt8.toNat_ofNat']
      omega
  · have hn : c.toNat / 262144 % 8 < 5 := by omega
    refine ⟨_, decodeChars_lead [_, _] rest (by simp only [UInt8.toNat_ofNat']; omega)
      (lead_four _ hn) ?_ rfl (all_isCont [c.toNat / 64, c.toNat]), ?_⟩
    · apply range_eq_true <;> split <;> simp only [UInt8.toNat_ofNat', UInt8.toNat_ofNat] <;> omega
    · simp only [codePoint, UInt8.toNat_ofNat']
      omega

/-! ## Decoding text -/

theorem decodeChars_encode_append (s : String) (rest : List UInt8) :
    decodeChars (encode s ++ rest) = s.toList ++ decodeChars rest := by
  rw [encode_eq_flatMap]
  induction s.toList with
  | nil => rfl
  | cons c cs ih => rw [List.flatMap_cons, List.append_assoc, decodeChars_utf8EncodeChar, ih,
      List.cons_append]

/-- Decoding undoes encoding. -/
@[simp] theorem decode_encode (s : String) : decode (encode s) = s := by
  have h := decodeChars_encode_append s []
  rw [List.append_nil, decodeChars.eq_1, List.append_nil] at h
  rw [decode, h, String.ofList_toList]

theorem encode_injective {s t : String} (h : encode s = encode t) : s = t := by
  rw [← decode_encode s, h, decode_encode]

theorem encode_eq_nil_iff {s : String} : encode s = [] ↔ s = "" :=
  ⟨fun h => encode_injective (h.trans encode_empty.symm), fun h => h ▸ encode_empty⟩

end Courseware.Utf8
