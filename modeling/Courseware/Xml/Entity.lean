import Courseware.FileStore.Basic

/-!
# Entity and character references

Raw XML text is read with its references resolved: `&lt;`, `&gt;`, `&amp;`, `&apos;` and
`&quot;`, and character references `&#N;` (decimal) and `&#xN;` (hex, lower-case `x`). Every
`&` must be closed by a `;` before the next `&`. Errors give byte ranges within the raw text.
`Xml.escape` writes the five special characters back as references.
-/

namespace Courseware.Xml

def byte (c : Char) : UInt8 := c.toNat.toUInt8

/-- Why a character reference names no character. -/
inductive CharRefError where
  | unexpectedSign
  | empty
  | invalidDigit
  | tooLarge
  | nul
  | notCodePoint (n : Nat)
  deriving Repr, BEq

/-- Why raw text could not be read. -/
inductive EscapeError where
  /-- An entity other than the five predefined ones, at the byte range of its name. -/
  | unrecognized (first stop : Nat) (name : String)
  /-- An `&` with no `;` before the next `&` or the end, from the `&` to the end. -/
  | unterminated (first stop : Nat)
  | charRef (e : CharRefError)
  deriving Repr, BEq

def showRange (first stop : Nat) : String := s!"{first}..{stop}"

def CharRefError.message : CharRefError → String
  | .unexpectedSign => "unexpected number sign"
  | .empty => "cannot parse integer from empty string"
  | .invalidDigit => "invalid digit found in string"
  | .tooLarge => "number too large to fit in target type"
  | .nul => "0x0 character is not permitted in XML"
  | .notCodePoint n => s!"`{n}` is not a valid codepoint"

def EscapeError.message : EscapeError → String
  | .unrecognized a b name => s!"at {showRange a b}: unrecognized entity `{name}`"
  | .unterminated a b =>
    s!"Error while escaping character at range {showRange a b}: Cannot find ';' after '&'"
  | .charRef e => "invalid character reference: " ++ e.message

def digitValue (radix : Nat) (b : UInt8) : Option Nat :=
  let n := b.toNat
  let v :=
    if 0x30 ≤ n && n ≤ 0x39 then some (n - 0x30)
    else if 0x61 ≤ n && n ≤ 0x66 then some (n - 0x61 + 10)
    else if 0x41 ≤ n && n ≤ 0x46 then some (n - 0x41 + 10)
    else none
  v.bind fun d => if d < radix then some d else none

/-- A number of 32 bits in `radix` with no sign, digits read from the left: the first digit
that is not one, or the first that makes the number too large, is the error. -/
def readWord (radix : Nat) (ds : List UInt8) : Except CharRefError Nat :=
  if ds.isEmpty then .error .empty
  else
    ds.foldlM (fun acc b =>
      match digitValue radix b with
      | none => .error .invalidDigit
      | some d =>
        let n := acc * radix + d
        if n < Nat.pow 2 32 then .ok n else .error .tooLarge) 0

/-- The character a character reference `#…` names, given what follows the `#`. -/
def charRef (ds : List UInt8) : Except CharRefError Char := do
  let (radix, digits) := match ds with
    | b :: rest => if b == byte 'x' then (16, rest) else (10, ds)
    | [] => (10, ds)
  match digits with
  | b :: _ => if b == byte '+' || b == byte '-' then throw .unexpectedSign
  | [] => pure ()
  let n ← readWord radix digits
  if n == 0 then throw .nul
  if n < 0xD800 || (0xDFFF < n && n < 0x110000) then pure (Char.ofNat n)
  else throw (.notCodePoint n)

def predefined (name : List UInt8) : Option Char :=
  if name == Utf8.encode "lt" then some '<'
  else if name == Utf8.encode "gt" then some '>'
  else if name == Utf8.encode "amp" then some '&'
  else if name == Utf8.encode "apos" then some '\''
  else if name == Utf8.encode "quot" then some '"'
  else none

/-- A byte that ends an entity's name or starts the next one. -/
def isEntityBound (b : UInt8) : Bool := b == byte '&' || b == byte ';'

/-- Resolves the references of `bs`, which starts at byte `pos` of a raw text of `total`
bytes; `out` holds the bytes already read, last first. -/
def unescapeFrom (total : Nat) : List UInt8 → Nat → List UInt8 → Except EscapeError (List UInt8)
  | [], _, out => .ok out.reverse
  | b :: rest, pos, out =>
    if b == byte '&' then
      let name := rest.takeWhile (!isEntityBound ·)
      match h : rest.dropWhile (!isEntityBound ·) with
      | e :: after =>
        if e == byte ';' then
          let stop := pos + 1 + name.length
          let resolved : Except EscapeError (List UInt8) :=
            match name with
            | n :: num =>
              if n == byte '#' then
                match charRef num with
                | .ok c => .ok (Utf8.encode c.toString)
                | .error err => .error (.charRef err)
              else
                match predefined name with
                | some c => .ok (Utf8.encode c.toString)
                | none => .error (.unrecognized (pos + 1) stop (Utf8.decode name))
            | [] => .error (.unrecognized (pos + 1) stop "")
          match resolved with
          | .ok text =>
            have : after.length < rest.length + 1 := by
              have := (@List.dropWhile_suffix _ rest (fun x => !isEntityBound x)).length_le
              rw [h] at this
              simp at this
              omega
            unescapeFrom total after (stop + 1) (text.reverse ++ out)
          | .error err => .error err
        else .error (.unterminated pos total)
      | [] => .error (.unterminated pos total)
    else unescapeFrom total rest (pos + 1) (b :: out)
termination_by bs => bs.length

def unescape (raw : List UInt8) : Except EscapeError String :=
  (unescapeFrom raw.length raw 0 []).map Utf8.decode

/-- The reference that stands for `c` in written XML, if it needs one. -/
def reference : Char → Option String
  | '<' => some "&lt;"
  | '>' => some "&gt;"
  | '&' => some "&amp;"
  | '\'' => some "&apos;"
  | '"' => some "&quot;"
  | _ => none

/-- Text written for XML: the five special characters as references. -/
def escape (s : String) : String :=
  String.ofList (s.toList.flatMap fun c =>
    match reference c with
    | some r => r.toList
    | none => [c])

end Courseware.Xml
