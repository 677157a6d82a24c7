import Courseware.Number.Double

/-!
# YAML documents

A small YAML value type and its block writer. A mapping writes `key: value` lines; a
sequence under a key writes its items at the key's own indentation, each after `- `; a
mapping inside a sequence starts on the item's line and indents its other keys by two; an
empty sequence is written `[]`. Every text value is written as `Yaml.scalar` decides, indented
two past its key or dash.
-/

/-!
## YAML scalars

A text value is written in one of four styles. A text with a line feed is a literal block;
a text that would read back as something else (null, a boolean, an integer in decimal, hex,
octal or binary, a float, or digits with a leading zero) is single-quoted; any other text is
plain. Then what the text holds may rule a style out, in this order: plain needs no leading
or trailing blank or break, no line break, no indicator where it would be read as one, and
no character outside the printable set; single quotes need no space right after a break, no
break right after a space and only printable characters; a literal block needs no trailing
space and the same. A style ruled out falls back to single quotes, and those to double
quotes, which can write anything with escapes.
-/

namespace Courseware.Yaml

/-- A line break as YAML counts them: CR, LF, NEL, LS and PS. -/
def isBreak (c : Char) : Bool :=
  c == '\r' || c == '\n' || c.toNat == 0x85 || c.toNat == 0x2028 || c.toNat == 0x2029

/-- A space, a tab, a break, a NUL, or nothing at all (the end of the text). -/
def isBlankOrEnd : Option Char → Bool
  | none => true
  | some c => c == ' ' || c == '\t' || c == '\x00' || isBreak c

def isPrintable (c : Char) : Bool :=
  let n := c.toNat
  n == 0x0A || (0x20 ≤ n && n ≤ 0x7E) || (0xA0 ≤ n && n ≤ 0xD7FF)
    || (0xE000 ≤ n && n ≤ 0xFFFD && n != 0xFEFF) || 0x10000 ≤ n

/-- What the characters of a text allow. -/
structure Allowed where
  plain : Bool
  single : Bool
  block : Bool

/-- What a text's characters allow, scanning them with the flags of YAML's analysis. -/
def analyze (s : String) : Allowed :=
  let cs := s.toList
  if cs.isEmpty then ⟨true, true, false⟩
  else
    let n := cs.length
    let start3 := cs.take 3
    let docMark := start3 == "---".toList || start3 == "...".toList
    -- flags: blockIndicators, special, lineBreaks, leadingSpace, leadingBreak, trailingSpace,
    -- trailingBreak, breakSpace, spaceBreak
    let step := fun (acc : Bool × Bool × Bool × Bool × Bool × Bool × Bool × Bool × Bool × Bool × Bool)
        (ic : Nat × Char) =>
      let (blockInd, special, lineBreaks, lSpace, lBreak, tSpace, tBreak, brSp, spBr, prevSpace,
        prevBreak) := acc
      let (i, c) := ic
      let precededByBlank := i == 0 || isBlankOrEnd cs[i - 1]?
      let followedByBlank := isBlankOrEnd cs[i + 1]?
      let blockInd := blockInd ||
        (if i == 0 then
          "#,[]{}&*!|>'\"%@`".toList.contains c || ((c == '?' || c == ':' || c == '-') && followedByBlank)
        else (c == ':' && followedByBlank) || (c == '#' && precededByBlank))
      let special := special || !isPrintable c
      let lineBreaks := lineBreaks || isBreak c
      if c == ' ' then
        (blockInd, special, lineBreaks, lSpace || i == 0, lBreak, tSpace || i + 1 == n, tBreak,
          brSp || prevBreak, spBr, true, false)
      else if isBreak c then
        (blockInd, special, lineBreaks, lSpace, lBreak || i == 0, tSpace, tBreak || i + 1 == n,
          brSp, spBr || prevSpace, false, true)
      else (blockInd, special, lineBreaks, lSpace, lBreak, tSpace, tBreak, brSp, spBr, false, false)
    let init := (docMark, false, false, false, false, false, false, false, false, false, false)
    let (blockInd, special, lineBreaks, lSpace, lBreak, tSpace, tBreak, brSp, spBr, _, _) :=
      cs.zipIdx.foldl (fun acc (c, i) => step acc (i, c)) init
    let edges := lSpace || lBreak || tSpace || tBreak
    let plain := !(edges || brSp || spBr || special || lineBreaks || blockInd)
    let single := !(brSp || spBr || special)
    let block := !(tSpace || spBr || special)
    ⟨plain, single, block⟩

/-! ### Texts that read back as something else -/

/-- Digits of `radix` (up to 16), at least one, with a value below `bound`. -/
def radixValue? (radix bound : Nat) (cs : List Char) : Option Nat :=
  if cs.isEmpty then none
  else
    (cs.foldlM (fun (n : Nat) c =>
      let d? : Option Nat :=
        if '0' ≤ c && c ≤ '9' then some (c.toNat - '0'.toNat)
        else if 'a' ≤ c && c ≤ 'f' then some (c.toNat - 'a'.toNat + 10)
        else if 'A' ≤ c && c ≤ 'F' then some (c.toNat - 'A'.toNat + 10)
        else none
      d?.bind fun d => if d < radix then some (n * radix + d) else none) 0).bind fun v =>
      if v < bound then some v else none

/-- An optional `+`, then digits of `radix` below `bound`. -/
def unsignedValue? (radix bound : Nat) (cs : List Char) : Option Nat :=
  match cs with
  | '+' :: rest => if rest.isEmpty then none else radixValue? radix bound rest
  | _ => radixValue? radix bound cs

/-- An optional sign, then digits of `radix`, within `bits` bits as a signed number. -/
def signedFits (radix bits : Nat) (cs : List Char) : Bool :=
  match cs with
  | '-' :: rest => (radixValue? radix (Nat.pow 2 (bits - 1) + 1) rest).isSome
  | _ => (unsignedValue? radix (Nat.pow 2 (bits - 1)) cs).isSome

/-- Digits with a leading zero, and a sign perhaps: text, not a number. -/
def leadingZeroDigits (cs : List Char) : Bool :=
  let body := match cs with
    | '+' :: r => r
    | '-' :: r => r
    | _ => cs
  body.length > 1 && body.head? == some '0' && body.all Decimal.isDigit

/-- A leading sign directly before another sign rules the text out as a number. -/
def doubleSign (cs : List Char) : Bool :=
  match cs with
  | '+' :: c :: _ => c == '+' || c == '-'
  | _ => false

/-- An unsigned integer of `bits` bits in decimal, hex (`0x`), octal (`0o`) or binary (`0b`). -/
def unsignedInt (bits : Nat) (cs : List Char) : Bool :=
  if doubleSign cs then false
  else
    let body := match cs with
      | '+' :: r => r
      | _ => cs
    let prefixed (p : String) (radix : Nat) : Option Bool :=
      if p.toList.isPrefixOf body then
        let rest := body.drop 2
        match rest with
        | c :: _ => if c == '+' || c == '-' then some false
          else if (unsignedValue? radix (Nat.pow 2 bits) rest).isSome then some true else none
        | [] => none
      else none
    match prefixed "0x" 16 <|> prefixed "0o" 8 <|> prefixed "0b" 2 with
    | some r => r
    | none =>
      match body with
      | c :: _ => if c == '+' || c == '-' then false
        else !leadingZeroDigits cs && (unsignedValue? 10 (Nat.pow 2 bits) body).isSome
      | [] => false

/-- A negative (or any signed) integer of `bits` bits, in decimal or with `-0x`, `-0o`,
`-0b`. -/
def signedInt (bits : Nat) (cs : List Char) : Bool :=
  let prefixed (p : String) (radix : Nat) : Bool :=
    p.toList.isPrefixOf cs && signedFits radix bits ('-' :: cs.drop 3)
  prefixed "-0x" 16 || prefixed "-0o" 8 || prefixed "-0b" 2 ||
    (!leadingZeroDigits cs && signedFits 10 bits cs)

/-- A finite float, or one of YAML's spellings of infinity and not-a-number. -/
def floatLike (cs : List Char) : Bool :=
  if doubleSign cs then false
  else
    let body := match cs with
      | '+' :: r => r
      | _ => cs
    let s := String.ofList body
    if s == ".inf" || s == ".Inf" || s == ".INF" then true
    else
      let whole := String.ofList cs
      if whole == "-.inf" || whole == "-.Inf" || whole == "-.INF" || whole == ".nan"
        || whole == ".NaN" || whole == ".NAN" then true
      else
        match Decimal.readDouble? s with
        | some x =>
          match Double.decode x with
          | .finite .. => true
          | _ => false
        | none => false

/-- A text that a YAML reader would take for something other than text. -/
def readsAsOther (s : String) : Bool :=
  let cs := s.toList
  s.isEmpty || s == "~" || s == "null" || s == "Null" || s == "NULL"
    || s == "true" || s == "True" || s == "TRUE" || s == "false" || s == "False" || s == "FALSE"
    || unsignedInt 64 cs || signedInt 64 cs || unsignedInt 128 cs || signedInt 128 cs
    || (!leadingZeroDigits cs && floatLike cs) || leadingZeroDigits cs

/-! ### Styles -/

/-- How a scalar is written. -/
inductive Style where
  | plain
  | single
  | double
  | literal
  deriving Repr, BEq, DecidableEq

/-- The style of a text value in block context. -/
def style (s : String) : Style :=
  let allowed := analyze s
  let wanted : Style :=
    if s.toList.contains '\n' then .literal else if readsAsOther s then .single else .plain
  match wanted with
  | .plain => if allowed.plain then .plain else if allowed.single then .single else .double
  | .single => if allowed.single then .single else .double
  | .literal => if allowed.block then .literal else .double
  | .double => .double

def hexUpper (width n : Nat) : String :=
  String.ofList ((List.range width).reverse.map fun k =>
    "0123456789ABCDEF".toList.getD (n / Nat.pow 16 k % 16) '0')

def escapeChar (c : Char) : String :=
  match c.toNat with
  | 0x00 => "\\0"
  | 0x07 => "\\a"
  | 0x08 => "\\b"
  | 0x09 => "\\t"
  | 0x0A => "\\n"
  | 0x0B => "\\v"
  | 0x0C => "\\f"
  | 0x0D => "\\r"
  | 0x1B => "\\e"
  | 0x22 => "\\\""
  | 0x5C => "\\\\"
  | 0x85 => "\\N"
  | 0xA0 => "\\_"
  | 0x2028 => "\\L"
  | 0x2029 => "\\P"
  | n =>
    if n ≤ 0xFF then "\\x" ++ hexUpper 2 n
    else if n ≤ 0xFFFF then "\\u" ++ hexUpper 4 n
    else "\\U" ++ hexUpper 8 n

def doubleQuoted (s : String) : String :=
  "\"" ++ String.join (s.toList.map fun c =>
    if !isPrintable c || c.toNat == 0xFEFF || isBreak c || c == '"' || c == '\\' then escapeChar c
    else c.toString) ++ "\""

def breakText (c : Char) : String := c.toString

def spaces (n : Nat) : String := String.ofList (List.replicate n ' ')

/-- A text in single quotes; lines after a break are indented by `indent`. -/
def singleQuoted (s : String) (indent : Nat) : String :=
  let (out, breaks) := s.toList.foldl (fun (acc : String × Bool) c =>
    let (out, breaks) := acc
    if c == ' ' then (out ++ " ", false)
    else if isBreak c then
      ((if !breaks && c == '\n' then out ++ "\n" else out) ++ breakText c, true)
    else
      let out := if breaks then out ++ spaces indent else out
      (out ++ (if c == '\'' then "''" else c.toString), false)) ("", false)
  "'" ++ (if breaks then out ++ spaces indent else out) ++ "'"

/-- The header of a literal block: `|`, an indentation digit when the text starts with a
blank or break, and `-` to strip a final break or `+` to keep several. -/
def literalHeader (s : String) : String :=
  let cs := s.toList
  let indentHint := match cs.head? with
    | some c => if c == ' ' || isBreak c then "2" else ""
    | none => ""
  let chomp := match cs.reverse with
    | [] => "-"
    | last :: before =>
      if !isBreak last then "-"
      else match before with
        | [] => "+"
        | prev :: _ => if isBreak prev then "+" else ""
  "|" ++ indentHint ++ chomp

/-- A literal block: its header, a break, and its lines indented by `indent` (empty lines
stay empty). -/
def literal (s : String) (indent : Nat) : String :=
  let (body, _) := s.toList.foldl (fun (acc : String × Bool) c =>
    let (out, breaks) := acc
    if isBreak c then (out ++ breakText c, true)
    else ((if breaks then out ++ spaces indent else out) ++ c.toString, false)) ("", true)
  literalHeader s ++ "\n" ++ body

/-- A text value written for block context at `indent`. -/
def scalar (s : String) (indent : Nat) : String :=
  match style s with
  | .plain => s
  | .single => singleQuoted s indent
  | .double => doubleQuoted s
  | .literal => literal s indent

end Courseware.Yaml

namespace Courseware.Yaml

/-- A YAML value: text, a count, a sequence, or a mapping with keys in order. -/
inductive Value where
  | text (s : String)
  | count (n : Nat)
  | seq (items : List Value)
  | map (entries : List (String × Value))

def endLine (s : String) : String := if s.endsWith "\n" then s else s ++ "\n"

mutual

/-- The lines of a value written after `key:` (or after `- `) at indentation `indent`,
starting with what follows the colon or dash. -/
def valueAfter (indent : Nat) : Value → String
  | .text s => endLine (" " ++ scalar s (indent + 2))
  | .count n => " " ++ toString n ++ "\n"
  | .seq [] => " []\n"
  | .seq items => "\n" ++ seqLines indent items
  | .map [] => " {}\n"
  | .map entries => "\n" ++ mapLines indent entries

def seqLines (indent : Nat) : List Value → String
  | [] => ""
  | item :: rest => spaces indent ++ "-" ++ itemAfterDash indent item ++ seqLines indent rest

def itemAfterDash (indent : Nat) : Value → String
  | .map ((k, v) :: more) =>
    " " ++ k ++ ":" ++ valueAfter (indent + 2) v ++ mapLines (indent + 2) more
  | v => valueAfter indent v

def mapLines (indent : Nat) : List (String × Value) → String
  | [] => ""
  | (k, v) :: rest => spaces indent ++ k ++ ":" ++ valueAfter indent v ++ mapLines indent rest

end

def Value.document (entries : List (String × Value)) : String := mapLines 0 entries

end Courseware.Yaml
