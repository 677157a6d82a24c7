/-!
# Doubles, exactly

A double is read from its 64 bits: a sign, and either an integer mantissa times a power of
two, an infinity, or not a number (`Double.decode`). `Double.ofDecimal` builds the double
nearest to `m · 10^e` (a tie goes to the even mantissa), with exact integer arithmetic, so
reading a decimal never rounds twice. `Double.truncate` cuts the fraction off and clamps to
64-bit integers; not-a-number becomes zero.
-/

namespace Courseware.Double

/-- A double read from its bits. -/
inductive Decoded where
  /-- `(-1)^neg · mantissa · 2^exponent`. -/
  | finite (neg : Bool) (mantissa : Nat) (exponent : Int)
  | infinite (neg : Bool)
  | nan
  deriving Repr, BEq

def bitLength (n : Nat) : Nat := if n = 0 then 0 else Nat.log2 n + 1

def decode (x : Float) : Decoded :=
  let bits := x.toBits.toNat
  let neg := bits / Nat.pow 2 63 % 2 == 1
  let biased := bits / Nat.pow 2 52 % Nat.pow 2 11
  let field := bits % Nat.pow 2 52
  if biased = Nat.pow 2 11 - 1 then
    if field = 0 then .infinite neg else .nan
  else if biased = 0 then .finite neg field (-1074)
  else .finite neg (field + Nat.pow 2 52) (Int.ofNat biased - 1075)

def ofParts (neg : Bool) (biased field : Nat) : Float :=
  Float.ofBits (UInt64.ofNat ((if neg then Nat.pow 2 63 else 0) + biased * Nat.pow 2 52 + field))

def infinity (neg : Bool) : Float := ofParts neg (Nat.pow 2 11 - 1) 0

/-- `num / den` (both positive) scaled by `2^s` and cut to an integer, with the remainder's
comparison to one half: `(q, above, tie)`. -/
def scaledQuotient (num den : Nat) (s : Int) : Nat × Bool × Bool :=
  let n := if s ≥ 0 then num * Nat.pow 2 s.toNat else num
  let d := if s ≥ 0 then den else den * Nat.pow 2 (-s).toNat
  let q := n / d
  let r := n % d
  (q, 2 * r > d, 2 * r = d)

/-- The double nearest to `num / den` (both positive), ties to the even mantissa. -/
def ofRatio (neg : Bool) (num den : Nat) : Float :=
  let k : Int := Int.ofNat (bitLength num) - Int.ofNat (bitLength den)
  let s0 : Int := 53 - k
  let s1 := if (scaledQuotient num den s0).1 ≥ Nat.pow 2 53 then s0 - 1 else s0
  let s := if s1 > 1074 then 1074 else s1
  let (q0, above, tie) := scaledQuotient num den s
  let q := if above || (tie && q0 % 2 == 1) then q0 + 1 else q0
  let (q, e) := if q = Nat.pow 2 53 then (Nat.pow 2 52, -s + 1) else (q, -s)
  if q = 0 then ofParts neg 0 0
  else if q < Nat.pow 2 52 then ofParts neg 0 q
  else if e > 971 then infinity neg
  else ofParts neg (e + 1075).toNat (q - Nat.pow 2 52)

def decimalLength (n : Nat) : Nat := (toString n).length

/-- The double nearest to `(-1)^neg · m · 10^e`. Beyond the range of doubles the answer is
an infinity or zero without computing the power. -/
def ofDecimal (neg : Bool) (m : Nat) (e : Int) : Float :=
  if m = 0 then ofParts neg 0 0
  else if Int.ofNat (decimalLength m) - 1 + e > 309 then infinity neg
  else if Int.ofNat (decimalLength m) + e < -325 then ofParts neg 0 0
  else if e ≥ 0 then ofRatio neg (m * Nat.pow 10 e.toNat) 1
  else ofRatio neg m (Nat.pow 10 (-e).toNat)

def int64Min : Int := -9223372036854775808
def int64Max : Int := 9223372036854775807

/-- The integer part, toward zero, clamped to 64 bits; not-a-number gives zero. -/
def truncate (x : Float) : Int :=
  match decode x with
  | .nan => 0
  | .infinite neg => if neg then int64Min else int64Max
  | .finite neg m e =>
    let t : Int := if e ≥ 0 then Int.ofNat (m * Nat.pow 2 e.toNat) else Int.ofNat (m / Nat.pow 2 (-e).toNat)
    let v := if neg then -t else t
    max int64Min (min int64Max v)

end Courseware.Double

/-!
## Reading numbers

Attribute numbers are read by the usual rules for 64-bit numbers, after trimming.

* An integer (`Decimal.readInt?`) is an optional `+` or `-` and ASCII digits, and must fit in
  64 bits.
* A double (`Decimal.readDouble?`) is an optional sign and then `inf`, `infinity` or `nan` in
  any case, or a decimal: digits with an optional point (at least one digit on one side), and
  an optional exponent `e` or `E`, a sign and digits. The double nearest to the decimal is
  the value; one too large is an infinity.
-/

namespace Courseware.Decimal

def digitsValue (ds : List Char) : Nat :=
  ds.foldl (fun n d => 10 * n + (d.toNat - '0'.toNat)) 0

def isDigit (c : Char) : Bool := '0' ≤ c && c ≤ '9'

def sign (cs : List Char) : Bool × List Char :=
  match cs with
  | '+' :: rest => (false, rest)
  | '-' :: rest => (true, rest)
  | _ => (false, cs)

def readInt? (s : String) : Option Int :=
  let (neg, ds) := sign s.toList
  if ds.isEmpty || !ds.all isDigit then none
  else
    let v : Int := if neg then -Int.ofNat (digitsValue ds) else Int.ofNat (digitsValue ds)
    if Double.int64Min ≤ v && v ≤ Double.int64Max then some v else none

def asciiLower (cs : List Char) : List Char := cs.map Char.toLower

/-- The mantissa digits and decimal exponent of an unsigned decimal numeral. -/
def readDecimal? (cs : List Char) : Option (Nat × Int) :=
  let whole := cs.takeWhile isDigit
  let rest := cs.dropWhile isDigit
  let (frac, rest) := match rest with
    | '.' :: more => (more.takeWhile isDigit, more.dropWhile isDigit)
    | _ => ([], rest)
  if whole.isEmpty && frac.isEmpty then none
  else
    let exp? : Option Int := match rest with
      | [] => some 0
      | e :: more =>
        if e == 'e' || e == 'E' then
          let (neg, ds) := sign more
          if ds.isEmpty || !ds.all isDigit then none
          else some (if neg then -Int.ofNat (digitsValue ds) else Int.ofNat (digitsValue ds))
        else none
    exp?.map fun x => (digitsValue (whole ++ frac), x - Int.ofNat frac.length)

/-- A double: an optional sign, then `inf`, `infinity`, `nan` (any case) or a decimal. -/
def readDouble? (s : String) : Option Float :=
  let (neg, body) := sign s.toList
  let word := asciiLower body
  if word == "inf".toList || word == "infinity".toList then some (Double.infinity neg)
  else if word == "nan".toList then some (0.0 / 0.0)
  else (readDecimal? body).map fun (m, e) => Double.ofDecimal neg m e

end Courseware.Decimal

/-!
## The shortest decimal of a double

A finite double is written with the fewest significant digits that read back as the same
double; of two such decimals with that many digits, the nearer, and of two equally near, the
larger. The reading interval of a double holds the reals that round to it: half a unit of
the last place on either side (a quarter below at a power of two, where the spacing halves),
with its ends included when the mantissa is even.

`Double.display` writes the digits in plain positional notation, never with an exponent:
integers without a fraction, `-` before negatives (`-0` too), and `inf`, `-inf`, `NaN`.
-/

namespace Courseware.Double

/-- A nonnegative rational `num / den`. -/
structure Ratio where
  num : Nat
  den : Nat

def Ratio.le (a b : Ratio) : Bool := a.num * b.den ≤ b.num * a.den

def Ratio.lt (a b : Ratio) : Bool := a.num * b.den < b.num * a.den

def Ratio.ofBinary (m : Nat) (e : Int) : Ratio :=
  if e ≥ 0 then ⟨m * Nat.pow 2 e.toNat, 1⟩ else ⟨m, Nat.pow 2 (-e).toNat⟩

def Ratio.ofDecimal (d : Nat) (k : Int) : Ratio :=
  if k ≥ 0 then ⟨d * Nat.pow 10 k.toNat, 1⟩ else ⟨d, Nat.pow 10 (-k).toNat⟩

def Ratio.nearer (v a b : Ratio) : Bool :=
  -- |a - v| < |b - v| with a ≤ v ≤ b or b ≤ v ≤ a; compare the distances as rationals
  let da : Ratio := if a.le v then ⟨v.num * a.den - a.num * v.den, v.den * a.den⟩
    else ⟨a.num * v.den - v.num * a.den, v.den * a.den⟩
  let db : Ratio := if b.le v then ⟨v.num * b.den - b.num * v.den, v.den * b.den⟩
    else ⟨b.num * v.den - v.num * b.den, v.den * b.den⟩
  da.lt db

/-- The reading interval of `m · 2^e` (`m > 0`): its two ends and whether they belong to it. -/
def readingInterval (m : Nat) (e : Int) : Ratio × Ratio × Bool :=
  let lowerGapHalves := m = Nat.pow 2 52 && e > -1074
  let low := if lowerGapHalves then Ratio.ofBinary (4 * m - 1) (e - 2)
    else Ratio.ofBinary (2 * m - 1) (e - 1)
  let high := Ratio.ofBinary (2 * m + 1) (e - 1)
  (low, high, m % 2 == 0)

/-- The decimal exponent `p` with `10^p ≤ v < 10^(p+1)`, searched near an estimate. -/
def decimalExponent (v : Ratio) (estimate : Int) : Int :=
  let candidates := (List.range 8).map fun i => estimate - 4 + Int.ofNat i
  match candidates.find? fun p =>
      (Ratio.ofDecimal 1 p).le v && v.lt (Ratio.ofDecimal 1 (p + 1)) with
  | some p => p
  | none => estimate

/-- The shortest decimal `d · 10^k` in the reading interval of `m · 2^e` (`m > 0`). -/
def shortest (m : Nat) (e : Int) : Nat × Int :=
  let v := Ratio.ofBinary m e
  let (low, high, closed) := readingInterval m e
  let inside (r : Ratio) : Bool :=
    if closed then low.le r && r.le high else low.lt r && r.lt high
  let estimate : Int := ((Int.ofNat (bitLength m) + e - 1) * 30103) / 100000
  let p := decimalExponent v estimate
  let attempt (n : Nat) : Option (Nat × Int) :=
    let k : Int := p - Int.ofNat n + 1
    let unit := Ratio.ofDecimal 1 k
    let below := (v.num * unit.den) / (v.den * unit.num)
    let lo := Ratio.ofDecimal below k
    let hi := Ratio.ofDecimal (below + 1) k
    match inside lo, inside hi with
    | true, true => if Ratio.nearer v lo hi then some (below, k) else some (below + 1, k)
    | true, false => some (below, k)
    | false, true => some (below + 1, k)
    | false, false => none
  match (List.range 17).findSome? fun i => attempt (i + 1) with
  | some r => r
  | none => (m, e)

def normalize (d : Nat) (k : Int) (fuel : Nat) : Nat × Int :=
  match fuel with
  | 0 => (d, k)
  | fuel + 1 => if d ≠ 0 && d % 10 = 0 then normalize (d / 10) (k + 1) fuel else (d, k)

def positional (d : Nat) (k : Int) : String :=
  let digits := toString d
  if k ≥ 0 then digits ++ String.ofList (List.replicate k.toNat '0')
  else
    let f := (-k).toNat
    if digits.length > f then
      String.ofList (digits.toList.take (digits.length - f)) ++ "." ++
        String.ofList (digits.toList.drop (digits.length - f))
    else "0." ++ String.ofList (List.replicate (f - digits.length) '0') ++ digits

/-- A double as text: shortest digits, positional, no exponent. -/
def display (x : Float) : String :=
  match decode x with
  | .nan => "NaN"
  | .infinite neg => if neg then "-inf" else "inf"
  | .finite neg m e =>
    let sign := if neg then "-" else ""
    if m = 0 then sign ++ "0"
    else
      let (d, k) := shortest m e
      let (d, k) := normalize d k 20
      sign ++ positional d k

end Courseware.Double
