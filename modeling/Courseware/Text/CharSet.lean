/-!
# Sets of code points

A `CharSet` lists code points as sorted, disjoint, inclusive ranges. Membership is a binary
search over the ranges (`CharSet.contains`); `CharSet.Mem` is the plain reading, "some range
holds the code point", and `mem_of_contains` says the search finds nothing else.
-/

namespace Courseware

/-- Code points as sorted, disjoint, inclusive ranges `(first, last)`. -/
structure CharSet where
  ranges : Array (Nat × Nat)

namespace CharSet

/-- Binary search for `n` among the ranges with index in `[lo, hi)`: ranges before the
middle one end below it, ranges after begin above it. Each step at least halves the
window, so `fuel` as large as the window always suffices. -/
def find (rs : Array (Nat × Nat)) (n : Nat) : (fuel lo hi : Nat) → Bool
  | 0, _, _ => false
  | fuel + 1, lo, hi =>
    if lo < hi then
      match rs[(lo + hi) / 2]? with
      | some r =>
        if n < r.1 then find rs n fuel lo ((lo + hi) / 2)
        else if r.2 < n then find rs n fuel ((lo + hi) / 2 + 1) hi
        else true
      | none => false
    else false

/-- `c` lies in one of the ranges. -/
def contains (s : CharSet) (c : Char) : Bool :=
  find s.ranges c.toNat s.ranges.size 0 s.ranges.size

/-- The plain reading of a set: some range holds the code point. -/
def Mem (s : CharSet) (c : Char) : Prop :=
  ∃ r ∈ s.ranges.toList, r.1 ≤ c.toNat ∧ c.toNat ≤ r.2

theorem find_sound (rs : Array (Nat × Nat)) (n fuel lo hi : Nat)
    (h : find rs n fuel lo hi = true) : ∃ r ∈ rs.toList, r.1 ≤ n ∧ n ≤ r.2 := by
  induction fuel generalizing lo hi with
  | zero => simp [find] at h
  | succ fuel ih =>
    simp only [find] at h
    split at h
    · split at h
      · rename_i r hget
        split at h
        · exact ih _ _ h
        · split at h
          · exact ih _ _ h
          · exact ⟨r, by simpa using Array.mem_of_getElem? hget, by omega, by omega⟩
      · simp at h
    · simp at h

theorem mem_of_contains (s : CharSet) (c : Char) (h : s.contains c = true) : s.Mem c :=
  find_sound s.ranges c.toNat _ 0 s.ranges.size h

end CharSet

end Courseware

/-!
## Blank characters and trimming

`blank` is the Unicode White_Space property: the ASCII blanks from tab to carriage return
and the space, the next line character, the no-break spaces and the other spaces of the
General Punctuation and CJK blocks, and the line and paragraph separators.
`Text.trim` drops blanks from both ends of a text, `Text.trimEnd` from its end only.
-/

namespace Courseware

def blank : CharSet where
  ranges := #[(0x9, 0xD), (0x20, 0x20), (0x85, 0x85), (0xA0, 0xA0), (0x1680, 0x1680),
    (0x2000, 0x200A), (0x2028, 0x2029), (0x202F, 0x202F), (0x205F, 0x205F), (0x3000, 0x3000)]

namespace Text

/-- `c` is a blank (White_Space) character. -/
def isBlank (c : Char) : Bool := blank.contains c

def dropBlank (cs : List Char) : List Char := cs.dropWhile isBlank

def dropEndWhile (p : Char → Bool) (cs : List Char) : List Char :=
  (cs.reverse.dropWhile p).reverse

theorem dropEndWhile_append_dropped (p : Char → Bool) (cs : List Char) :
    dropEndWhile p cs ++ (cs.reverse.takeWhile p).reverse = cs := by
  rw [dropEndWhile, ← List.reverse_append, List.takeWhile_append_dropWhile, List.reverse_reverse]

def trim (s : String) : String :=
  String.ofList (dropEndWhile isBlank (dropBlank s.toList))

def trimEnd (s : String) : String :=
  String.ofList (dropEndWhile isBlank s.toList)

def trimChar (c : Char) (s : String) : String :=
  String.ofList (dropEndWhile (· == c) (s.toList.dropWhile (· == c)))

def isBlankText (s : String) : Bool := s.toList.all isBlank

end Text

end Courseware
