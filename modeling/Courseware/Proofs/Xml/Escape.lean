import Mathlib
import Courseware.Xml.Entity
import Courseware.Proofs.Text.Utf8

/-!
# Reading escaped text back

`escape` writes each special character as its reference and every other character as itself,
so escaping joined text is joining the escaped parts (`escape_append`), and escaped text has no
`<`, `>`, `"` or `'` (`escape_no_markup`). Resolving the references of the bytes of escaped text
gives back the bytes of the text (`unescapeFrom_escape`), so `unescape` undoes `escape`
(`unescape_escape`).
-/

namespace Courseware.Xml

open Utf8 (encode)

/-! ## Escaped text -/

theorem escape_append (s t : String) : escape (s ++ t) = escape s ++ escape t := by
  rw [escape, escape, escape, String.toList_append, List.flatMap_append, String.ofList_append]

theorem escape_singleton (c : Char) :
    escape (String.singleton c) = (reference c).getD (String.singleton c) := by
  rw [escape, String.toList_singleton, List.flatMap_singleton]
  cases reference c with
  | none => rfl
  | some r => exact String.ofList_toList

@[simp] theorem escape_empty : escape "" = "" := rfl

theorem reference_none_ne {c : Char} (h : reference c = none) :
    c ≠ '<' ∧ c ≠ '>' ∧ c ≠ '&' ∧ c ≠ '\'' ∧ c ≠ '"' := by
  refine ⟨?_, ?_, ?_, ?_, ?_⟩ <;> rintro rfl <;> cases h

/-- A check of each element of a list, by computing it: `decide` on the statement itself would
search all characters or bytes. -/
theorem forall_mem_of_all {α : Type} {l : List α} {p : α → Prop} [DecidablePred p]
    (h : (l.all fun c => decide (p c)) = true) : ∀ c ∈ l, p c := by
  simpa using h

theorem reference_text (c : Char) {r : String} (h : reference c = some r) :
    r.toList.head? = some '&' ∧ ∀ d ∈ r.toList, d ≠ '<' ∧ d ≠ '>' ∧ d ≠ '"' ∧ d ≠ '\'' := by
  unfold reference at h
  split at h <;> cases h <;> exact ⟨by decide, forall_mem_of_all (by decide)⟩

theorem escape_eq_empty_iff (s : String) : escape s = "" ↔ s = "" := by
  constructor
  · intro h
    rw [← String.toList_eq_nil_iff, escape, String.toList_ofList, List.flatMap_eq_nil_iff] at h
    rw [← String.toList_eq_nil_iff, List.eq_nil_iff_forall_not_mem]
    intro c hc
    have hnil := h c hc
    cases hr : reference c with
    | none =>
      rw [hr] at hnil
      cases hnil
    | some r =>
      simp only [hr] at hnil
      have hhead := (reference_text c hr).1
      rw [hnil] at hhead
      cases hhead
  · rintro rfl
    rfl

/-- Escaped text holds none of the characters that delimit markup and values. -/
theorem escape_no_markup (s : String) :
    ∀ d ∈ (escape s).toList, d ≠ '<' ∧ d ≠ '>' ∧ d ≠ '"' ∧ d ≠ '\'' := by
  intro d hd
  rw [escape, String.toList_ofList, List.mem_flatMap] at hd
  obtain ⟨c, -, hc⟩ := hd
  cases hr : reference c with
  | some r =>
    rw [hr] at hc
    exact (reference_text c hr).2 d hc
  | none =>
    rw [hr, List.mem_singleton] at hc
    subst hc
    obtain ⟨hlt, hgt, -, hapos, hquot⟩ := reference_none_ne hr
    exact ⟨hlt, hgt, hquot, hapos⟩

theorem byte_not_mem_escape {d : Char} (hd : d = '<' ∨ d = '>' ∨ d = '"' ∨ d = '\'') (s : String) :
    byte d ∉ encode (escape s) := by
  have hlt : d.toNat < 0x80 := by rcases hd with rfl | rfl | rfl | rfl <;> decide
  rw [show byte d = UInt8.ofNat d.toNat from rfl, Utf8.byte_mem_encode_iff hlt]
  intro h
  have hne := escape_no_markup s d h
  rcases hd with rfl | rfl | rfl | rfl <;> simp at hne

/-! ## Resolving references -/

theorem byte_amp_ne_of_lt {c : Char} (hc : c.toNat < 0x80) (hne : c ≠ '&') :
    UInt8.ofNat c.toNat ≠ byte '&' := by
  intro h
  have hamp : (byte '&').toNat = '&'.toNat := rfl
  have := congrArg UInt8.toNat h
  rw [UInt8.toNat_ofNat', hamp] at this
  exact hne (Char.toNat_inj.1 (by rw [Nat.mod_eq_of_lt (by omega)] at this; exact this))

theorem unescapeFrom_plain {total : Nat} {rest : List UInt8} :
    ∀ {bs : List UInt8} (pos : Nat) (out : List UInt8), byte '&' ∉ bs →
      unescapeFrom total (bs ++ rest) pos out =
        unescapeFrom total rest (pos + bs.length) (bs.reverse ++ out)
  | [], pos, out, _ => rfl
  | b :: bs, pos, out, h => by
    rw [List.mem_cons, not_or] at h
    rw [List.cons_append, unescapeFrom, if_neg (by simpa using Ne.symm h.1),
      unescapeFrom_plain (pos + 1) (b :: out) h.2]
    simp only [List.length_cons, List.reverse_cons, List.append_assoc, List.singleton_append]
    congr 1
    omega

theorem unescapeFrom_predefined {total pos : Nat} {name rest out : List UInt8} {c : Char}
    (hne : name ≠ []) (hname : ∀ b ∈ name, isEntityBound b = false)
    (hhash : name.head? ≠ some (byte '#')) (hpre : predefined name = some c) :
    unescapeFrom total (byte '&' :: (name ++ byte ';' :: rest)) pos out =
      unescapeFrom total rest (pos + name.length + 2) ((encode c.toString).reverse ++ out) := by
  have hnot : ∀ b ∈ name, (!isEntityBound b) = true := fun b hb => by simp [hname b hb]
  have hsemi : isEntityBound (byte ';') = true := rfl
  have htake : (name ++ byte ';' :: rest).takeWhile (!isEntityBound ·) = name := by
    rw [List.takeWhile_append_of_pos hnot, List.takeWhile_cons_of_neg (by simp [hsemi]),
      List.append_nil]
  have hdrop : (name ++ byte ';' :: rest).dropWhile (!isEntityBound ·) = byte ';' :: rest := by
    rw [List.dropWhile_append_of_pos hnot, List.dropWhile_cons_of_neg (by simp [hsemi])]
  rw [unescapeFrom, if_pos (beq_self_eq_true _)]
  simp only [htake]
  split
  · next e after h =>
    rw [hdrop] at h
    obtain ⟨rfl, rfl⟩ := List.cons.inj h.symm
    rw [if_pos (beq_self_eq_true _)]
    cases name with
    | nil => exact absurd rfl hne
    | cons n num =>
      have hn : (n == byte '#') = false := by simpa using hhash
      simp only [hn, hpre, Bool.false_eq_true, if_false]
      congr 1
      simp only [List.length_cons]
      omega
  · next h =>
    rw [hdrop] at h
    cases h

theorem reference_bytes {c : Char} {r : String} (h : reference c = some r) :
    ∃ name, encode r = byte '&' :: (name ++ [byte ';']) ∧ name ≠ [] ∧
      (∀ b ∈ name, isEntityBound b = false) ∧ name.head? ≠ some (byte '#') ∧
      predefined name = some c := by
  refine ⟨((encode r).drop 1).dropLast, ?_⟩
  unfold reference at h
  split at h <;> cases h <;> unfold predefined <;> simp only [Utf8.encode_eq_flatMap] <;>
    exact ⟨by decide, by decide, forall_mem_of_all (by decide), by decide, by decide⟩

theorem unescapeFrom_escape_char (total : Nat) (c : Char) (rest : List UInt8) (pos : Nat)
    (out : List UInt8) : ∃ pos', unescapeFrom total (encode (escape (String.singleton c)) ++ rest) pos out =
      unescapeFrom total rest pos' ((encode (String.singleton c)).reverse ++ out) := by
  rw [escape_singleton, Utf8.encode_singleton]
  cases hr : reference c with
  | none =>
    rw [Option.getD_none, Utf8.encode_singleton]
    refine ⟨_, unescapeFrom_plain pos out ?_⟩
    intro hmem
    by_cases hc : c.toNat < 0x80
    · rw [Utf8.utf8EncodeChar_ascii hc, List.mem_singleton] at hmem
      refine byte_amp_ne_of_lt hc ?_ hmem.symm
      rintro rfl
      cases hr
    · have := Utf8.le_toNat_of_mem_utf8EncodeChar (by omega) _ hmem
      exact absurd this (by decide)
  | some r =>
    obtain ⟨name, hbytes, hne, hname, hhash, hpre⟩ := reference_bytes hr
    rw [Option.getD_some, hbytes, List.cons_append, List.append_assoc, List.singleton_append,
      unescapeFrom_predefined hne hname hhash hpre, Char.toString_eq_singleton,
      Utf8.encode_singleton]
    exact ⟨_, rfl⟩

/-- Resolving the references of escaped text gives the bytes of the text. -/
theorem unescapeFrom_escape (total : Nat) (s : String) :
    ∀ (rest : List UInt8) (pos : Nat) (out : List UInt8), ∃ pos',
      unescapeFrom total (encode (escape s) ++ rest) pos out =
        unescapeFrom total rest pos' ((encode s).reverse ++ out) := by
  rw [← String.ofList_toList (s := s)]
  induction s.toList with
  | nil =>
    intro rest pos out
    refine ⟨pos, ?_⟩
    rw [String.ofList_nil, escape_empty, Utf8.encode_empty]
    rfl
  | cons c cs ih =>
    intro rest pos out
    rw [String.ofList_cons, escape_append, Utf8.encode_append, List.append_assoc]
    obtain ⟨pos₁, h₁⟩ := unescapeFrom_escape_char total c (encode (escape (String.ofList cs)) ++ rest) pos out
    obtain ⟨pos₂, h₂⟩ := ih rest pos₁ ((encode (String.singleton c)).reverse ++ out)
    refine ⟨pos₂, ?_⟩
    rw [h₁, h₂, Utf8.encode_append, List.reverse_append, List.append_assoc]

/-- `unescape` undoes `escape`. -/
theorem unescape_escape (s : String) : unescape (encode (escape s)) = .ok s := by
  obtain ⟨pos, h⟩ := unescapeFrom_escape (encode (escape s)).length s [] 0 []
  rw [List.append_nil] at h
  rw [unescape, h, unescapeFrom, List.append_nil, List.reverse_reverse]
  show Except.ok (Utf8.decode (encode s)) = _
  rw [Utf8.decode_encode]

end Courseware.Xml
