/-!
# Matching a pattern through a text

A `Pattern` is tried at the front of a text and, when it matches, gives what it captured and
how many characters the match takes. `Pattern.cut` walks a text from the left and takes every
match, leftmost first and without overlap: after a match it goes on after it, and where
nothing matches it keeps one character and tries again one character further. A match that
takes no character counts as no match, so the walk always moves on. `Pattern.replace` writes
each match in a new form and keeps the rest; `replace_eq_joinPieces` says it is the cut put
back together with each match written anew.
-/

namespace Courseware

/-- A pattern tried at the front of a text: what the match captured and how many characters
it takes. -/
abbrev Pattern (α : Type) := List Char → Option (α × Nat)

/-- A piece of a text cut at the matches of a pattern: a character outside every match, or
what one match captured. -/
inductive Piece (α : Type) where
  | char (c : Char)
  | hit (a : α)
  deriving Repr

namespace Pattern

variable {α : Type}

/-- The text cut at the leftmost, non-overlapping matches of `p`. -/
def cut (p : Pattern α) : List Char → List (Piece α)
  | [] => []
  | c :: cs =>
    match p (c :: cs) with
    | some (a, n + 1) => .hit a :: cut p (cs.drop n)
    | _ => .char c :: cut p cs
termination_by cs => cs.length
decreasing_by all_goals (simp only [List.length_drop, List.length_cons]; omega)

/-- Every match written by `f`, the rest kept. -/
def replace (p : Pattern α) (f : α → List Char) (cs : List Char) : List Char :=
  (cut p cs).flatMap fun
    | .char c => [c]
    | .hit a => f a

/-- The text before the leftmost match, what it captured, and the text after it. -/
def firstMatch (p : Pattern α) : List Char → Option (List Char × α × List Char)
  | [] => none
  | c :: cs =>
    match p (c :: cs) with
    | some (a, n + 1) => some ([], a, cs.drop n)
    | _ => (firstMatch p cs).map fun (before, a, rest) => (c :: before, a, rest)

def replaceFirst (p : Pattern α) (f : α → List Char) (cs : List Char) : List Char :=
  match firstMatch p cs with
  | some (before, a, rest) => before ++ f a ++ rest
  | none => cs

def literal (w : List Char) : Pattern Unit := fun cs =>
  if w.isPrefixOf cs then some ((), w.length) else none

/-- The pieces put back together, each match written by `matched`. -/
def joinPieces (matched : α → List Char) : List (Piece α) → List Char
  | [] => []
  | .char c :: ps => c :: joinPieces matched ps
  | .hit a :: ps => matched a ++ joinPieces matched ps

/-- Replacing is cutting, then joining the pieces with each match written anew. -/
theorem replace_eq_joinPieces (p : Pattern α) (f : α → List Char) (cs : List Char) :
    replace p f cs = joinPieces f (cut p cs) := by
  unfold replace
  induction cut p cs with
  | nil => rfl
  | cons x ps ih =>
    cases x <;> simp [joinPieces, ih]

end Pattern

end Courseware
