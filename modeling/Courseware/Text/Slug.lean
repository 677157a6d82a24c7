import Courseware.Text.CaseTables
import Courseware.Text.Cased
import Courseware.Text.CharSet
import Courseware.Text.Alphabetic
import Courseware.Text.WordChar

/-!
# File names and title case

`Text.fileSlug` turns a title into the base of a file name: the trimmed title in lower case,
with every run of characters other than ASCII letters, digits, `_` and `-` (dashes included)
made one dash, and no dash at either end. A title with nothing left becomes `lesson`.

`Text.titleCase` capitalises words: a word is a run of alphabetic characters; its first
character goes to upper case and the rest to lower case, each character on its own. Every
other character is kept and starts a new word.
-/

/-!
## Upper and lower case

`Case.upperChar` and `Case.lowerChar` give the full case of one character, which may be
several characters (`ß` is `SS` in upper case, `İ` is `i` and a combining dot in lower case).
`Case.lowercase` lowers a whole text; it differs from lowering each character only at a
capital sigma, which becomes the final form `ς` at the end of a word: after a cased letter
and not before one, looking past case-ignorable characters on both sides.
-/

namespace Courseware.Case

open CaseMap

def mapChar (runs : Array CaseRun) (expanding : Array (Nat × List Nat)) (c : Char) :
    List Char :=
  match expanding.find? (fun e => e.1 == c.toNat) with
  | some e => e.2.map Char.ofNat
  | none =>
    match CaseRun.lookup runs c.toNat with
    | some n => [Char.ofNat n]
    | none => [c]

/-- The full upper case of a character. -/
def upperChar (c : Char) : List Char :=
  if c.toNat < 0x80 then [c.toUpper] else mapChar upperRuns upperExpanding c

/-- The full lower case of a character, without regard to its neighbours. -/
def lowerChar (c : Char) : List Char :=
  if c.toNat < 0x80 then [c.toLower] else mapChar lowerRuns lowerExpanding c

/-- Past any case-ignorable characters, the next character is cased. -/
def casedAfterIgnorable (cs : List Char) : Bool :=
  match cs.dropWhile caseIgnorable.contains with
  | c :: _ => cased.contains c
  | [] => false

/-- A capital sigma with `before` (nearest first) and `after` around it ends a word. -/
def endsWord (before after : List Char) : Bool :=
  casedAfterIgnorable before && !casedAfterIgnorable after

/-- Lower-cases `rest`, where `before` holds the characters already passed, nearest first. -/
def lowerFrom : List Char → List Char → List Char
  | _, [] => []
  | before, c :: after =>
    (if c = 'Σ' then [if endsWord before after then 'ς' else 'σ'] else lowerChar c)
      ++ lowerFrom (c :: before) after

/-- The lower case of a text: each character's full lower case, with the word-final sigma. -/
def lowercase (s : String) : String :=
  String.ofList (lowerFrom [] s.toList)

theorem lowerChar_ascii (c : Char) (h : c.toNat < 0x80) : lowerChar c = [c.toLower] := by
  simp [lowerChar, h]

end Courseware.Case

namespace Courseware.Text

def isFileChar (c : Char) : Bool :=
  (c.toNat < 0x80 && c.isAlphanum) || c == '_' || c == '-'

/-- Drops every dash that follows a dash. -/
def collapseDashes : List Char → List Char
  | '-' :: '-' :: cs => collapseDashes ('-' :: cs)
  | c :: cs => c :: collapseDashes cs
  | [] => []

/-- The slug characters of a text: file characters kept, every other character a dash,
each run of dashes one dash, and none at either end. -/
def slugChars (cs : List Char) : List Char :=
  dropEndWhile (· == '-')
    ((collapseDashes (cs.map fun c => if isFileChar c then c else '-')).dropWhile (· == '-'))

/-- The base of a file name for a title; `lesson` when nothing of the title is left. -/
def fileSlug (title : String) : String :=
  match slugChars (Case.lowercase (trim title)).toList with
  | [] => "lesson"
  | cs => String.ofList cs

/-- Title case of `cs`, where `start` tells whether the next alphabetic character begins
a word. -/
def titleFrom : Bool → List Char → List Char
  | _, [] => []
  | start, c :: cs =>
    if alphabetic.contains c then
      (if start then Case.upperChar c else Case.lowerChar c) ++ titleFrom false cs
    else c :: titleFrom true cs

/-- Each word with its first letter in upper case and the rest in lower case. -/
def titleCase (s : String) : String :=
  String.ofList (titleFrom true s.toList)

end Courseware.Text

/-!
## Anchor ids

Slides are addressed by anchor ids made from labels the way heading anchors are: the label in
lower case, with everything but letters, marks, digits, connector punctuation, spaces and `-`
removed, and each space made a `-`. `Anchors.fresh` hands out ids that are all different: a
base id already handed out gets `-1`, `-2`, … appended, counting per base, and each candidate is
checked again against every id handed out.
-/

namespace Courseware

/-- The base anchor id of a label. -/
def anchorBase (label : String) : String :=
  String.ofList ((Case.lowercase label).toList.filterMap fun c =>
    if c == ' ' then some '-'
    else if c == '-' || wordChars.contains c then some c
    else none)

/-- The anchor ids handed out so far, each with the number of repeats counted under it. -/
structure Anchors where
  counts : List (String × Nat) := []

namespace Anchors

def taken (a : Anchors) (id : String) : Bool := a.counts.any (·.1 == id)

def count (a : Anchors) (base : String) : Nat :=
  ((a.counts.find? (·.1 == base)).map (·.2)).getD 0

def setCount (a : Anchors) (base : String) (n : Nat) : Anchors :=
  ⟨a.counts.map fun (k, v) => if k == base then (k, n) else (k, v)⟩

/-- Counts repeats of `base` until `base-n` is free; as many tries as ids handed out, and
one more, always reach a free one. -/
def nextFree (base : String) : Nat → Anchors → String → String × Anchors
  | 0, a, candidate => (candidate, a)
  | fuel + 1, a, candidate =>
    if a.taken candidate then
      let n := a.count base + 1
      nextFree base fuel (a.setCount base n) (base ++ "-" ++ toString n)
    else (candidate, a)

/-- A new anchor id for a label, and the ids handed out with it. -/
def fresh (a : Anchors) (label : String) : String × Anchors :=
  let base := anchorBase label
  let (id, a) := nextFree base (a.counts.length + 1) a base
  (id, ⟨a.counts ++ [(id, 0)]⟩)

end Anchors

end Courseware
