/-!
# A seeded stream of random words

The shuffles of a site are drawn from the ChaCha stream cipher with twelve rounds, keyed from
a 64-bit seed. The key's eight words are eight outputs of the PCG32 generator started at the
seed, the nonce is zero, and the block counter starts at zero. Words are drawn from the
keystream in order: block 0, then block 1, and so on, sixteen words each.

A block is the sixteen-word state (four constants, the key, the 64-bit counter and the
64-bit nonce) after six double rounds, added word by word to the state it started from.
-/

namespace Courseware.Random

def rotl (x : UInt32) (n : UInt32) : UInt32 := (x <<< n) ||| (x >>> (32 - n))

def quarter (s : Array UInt32) (a b c d : Nat) : Array UInt32 := Id.run do
  let mut va := s.getD a 0
  let mut vb := s.getD b 0
  let mut vc := s.getD c 0
  let mut vd := s.getD d 0
  va := va + vb; vd := rotl (vd ^^^ va) 16
  vc := vc + vd; vb := rotl (vb ^^^ vc) 12
  va := va + vb; vd := rotl (vd ^^^ va) 8
  vc := vc + vd; vb := rotl (vb ^^^ vc) 7
  return ((((s.setIfInBounds a va).setIfInBounds b vb).setIfInBounds c vc).setIfInBounds d vd)

def doubleRound (s : Array UInt32) : Array UInt32 :=
  let s := quarter s 0 4 8 12
  let s := quarter s 1 5 9 13
  let s := quarter s 2 6 10 14
  let s := quarter s 3 7 11 15
  let s := quarter s 0 5 10 15
  let s := quarter s 1 6 11 12
  let s := quarter s 2 7 8 13
  quarter s 3 4 9 14

def initial (key : List UInt32) (counter : Nat) : Array UInt32 :=
  (#[0x61707865, 0x3320646e, 0x79622d32, 0x6b206574] ++ key.toArray ++
    #[(counter % Nat.pow 2 32).toUInt32, (counter / Nat.pow 2 32 % Nat.pow 2 32).toUInt32, 0, 0])

def block (key : List UInt32) (counter : Nat) : List UInt32 :=
  let start := initial key counter
  let mixed := (List.range 6).foldl (fun s _ => doubleRound s) start
  (mixed.zipWith (· + ·) start).toList

/-- One step of PCG32: the next state and the word it gives. -/
def pcgStep (state : UInt64) : UInt64 × UInt32 :=
  let state := state * 6364136223846793005 + 11634580027462260723
  let xorshifted := (((state >>> 18) ^^^ state) >>> 27).toUInt32
  let rot := (state >>> 59).toUInt32
  (state, (xorshifted >>> rot) ||| (xorshifted <<< ((32 - rot) % 32)))

/-- The eight key words that PCG32 gives from a seed. -/
def keyOfSeed (seed : UInt64) : List UInt32 :=
  ((List.range 8).foldl (fun (acc : UInt64 × List UInt32) _ =>
    let (state, word) := pcgStep acc.1
    (state, acc.2 ++ [word])) (seed, [])).2

/-- A position in the keystream: the key, the next block to make, and the words left of the
block in hand. -/
structure Rng where
  key : List UInt32
  counter : Nat
  buffer : List UInt32
  deriving Repr

namespace Rng

def ofSeed (seed : UInt64) : Rng := ⟨keyOfSeed seed, 0, []⟩

def next (g : Rng) : UInt32 × Rng :=
  match g.buffer with
  | w :: rest => (w, { g with buffer := rest })
  | [] =>
    match block g.key g.counter with
    | w :: rest => (w, { g with counter := g.counter + 1, buffer := rest })
    | [] => (0, { g with counter := g.counter + 1 })

end Rng

end Courseware.Random

/-!
## Uniform choices and shuffles

`Rng.below g n` draws a number under `n` (for `1 ≤ n ≤ 2³²`) by widening multiplication: a
word `v` gives the high word of `v * n` unless the low word falls past the largest multiple
of `n`'s top bits, in which case another word is drawn. `shuffle` is the Fisher–Yates shuffle
from the back: for each position from the last down to the second, it swaps that position
with one drawn at or before it. A list of one item or none draws nothing.
-/

namespace Courseware.Random

namespace Rng

/-- The largest low word that is accepted for range `n`: `n` shifted up to the top bit, less
one. -/
def zone (n : Nat) : Nat := n * Nat.pow 2 (31 - Nat.log2 n) - 1

def belowFuel (n : Nat) : (fuel : Nat) → Rng → Nat × Rng
  | 0, g => (0, g)
  | fuel + 1, g =>
    let (v, g) := g.next
    let product := v.toNat * n
    if product % Nat.pow 2 32 ≤ zone n then (product / Nat.pow 2 32, g) else belowFuel n fuel g

/-- A number under `n`. Each word is refused with chance below `n / 2³²`, so the bound on
tries is never reached in practice. -/
def below (g : Rng) (n : Nat) : Nat × Rng := belowFuel n 256 g

end Rng

/-- The items in an order drawn from the generator. -/
def shuffle {α : Type} (xs : List α) (g : Rng) : List α × Rng :=
  let (arr, g) := (List.range (xs.length - 1)).foldl (fun (acc : Array α × Rng) k =>
    let i := xs.length - 1 - k
    let (j, g) := acc.2.below (i + 1)
    (acc.1.swapIfInBounds i j, g)) (xs.toArray, g)
  (arr.toList, g)

end Courseware.Random
