import Courseware.Xml.Entity

/-!
# Reading XML into tokens

The reader cuts a document's bytes into tokens: text, CDATA sections, start tags, empty-element
tags, end tags, and markup it skips (comments, processing instructions, the XML declaration,
a document type). Each token carries the byte position the reader stands at once it is read:
after the `>` of markup, and at the `<` that ends a run of text (or the end of the input for
text that runs to the end). A leading byte order mark is skipped and not counted.

Markup is found as follows. A tag runs to the first `>` outside quotes. A processing
instruction runs to the first `?>`. A comment needs `<!--`, at least two more characters and
`-->`; a CDATA section `<![CDATA[` up to `]]>`; a document type `<!DOCTYPE` (any case) with a
name, up to the `>` that balances its `<`. Where markup does not end, or is none of these, the
reader stops with a syntax error at the position it reached.
-/

namespace Courseware.Xml

/-- Why the reader stopped. -/
inductive SyntaxError where
  | unclosedTag
  | unclosedComment
  | unclosedCData
  | unclosedDoctype
  | unclosedInstruction
  | invalidBang
  | missingDoctypeName
  deriving Repr, BEq

def SyntaxError.message : SyntaxError → String
  | .unclosedTag => "syntax error: tag not closed: `>` not found before end of input"
  | .unclosedComment => "syntax error: comment not closed: `-->` not found before end of input"
  | .unclosedCData => "syntax error: CDATA not closed: `]]>` not found before end of input"
  | .unclosedDoctype => "syntax error: DOCTYPE not closed: `>` not found before end of input"
  | .unclosedInstruction =>
    "syntax error: processing instruction or xml declaration not closed: `?>` not found before end of input"
  | .invalidBang => "syntax error: unknown or missed symbol in markup"
  | .missingDoctypeName =>
    "ill-formed document: `<!DOCTYPE>` declaration does not contain a name of a document type"

/-- A token of a document, with the reader's position once it is read. -/
inductive Token where
  /-- Raw text between markup. -/
  | text (raw : List UInt8) (pos : Nat)
  /-- The content of a CDATA section. -/
  | cdata (content : List UInt8) (pos : Nat)
  /-- A start tag: what stands between `<` and `>`. -/
  | start (content : List UInt8) (pos : Nat)
  /-- An empty-element tag: what stands between `<` and `/>`. -/
  | empty (content : List UInt8) (nameLength : Nat) (pos : Nat)
  /-- An end tag, with the name as written less trailing blanks. -/
  | close (name : List UInt8) (pos : Nat)
  /-- Markup the document tree does not keep. -/
  | skipped
  /-- The reader stopped. -/
  | fail (e : SyntaxError) (pos : Nat)
  deriving Repr

/-- Blanks inside markup: space, tab, line feed and carriage return. -/
def isMarkupBlank (b : UInt8) : Bool :=
  b == 0x20 || b == 0x09 || b == 0x0A || b == 0x0D

/-- The index of the first `>` outside single or double quotes. -/
def tagEnd (bs : List UInt8) : Option Nat :=
  let rec go : List UInt8 → Nat → Option UInt8 → Option Nat
    | [], _, _ => none
    | b :: rest, i, none =>
      if b == byte '>' then some i
      else if b == byte '\'' || b == byte '"' then go rest (i + 1) (some b)
      else go rest (i + 1) none
    | b :: rest, i, some q => if b == q then go rest (i + 1) none else go rest (i + 1) (some q)
  go bs 0 none

def instructionEnd (bs : List UInt8) : Option Nat :=
  let rec go : List UInt8 → Nat → Option Nat
    | a :: b :: rest, i => if a == byte '?' && b == byte '>' then some (i + 1) else go (b :: rest) (i + 1)
    | _, _ => none
  go bs 0

def commentEnd (bs : List UInt8) : Option Nat :=
  let rec go : List UInt8 → Nat → Option Nat
    | a :: b :: c :: rest, i =>
      if c == byte '>' && i + 2 > 4 && a == byte '-' && b == byte '-' then some (i + 2)
      else go (b :: c :: rest) (i + 1)
    | _, _ => none
  go bs 0

def cdataEnd (bs : List UInt8) : Option Nat :=
  let rec go : List UInt8 → Nat → Option Nat
    | a :: b :: c :: rest, i =>
      if a == byte ']' && b == byte ']' && c == byte '>' then some (i + 2)
      else go (b :: c :: rest) (i + 1)
    | _, _ => none
  go bs 0

/-- The index of the `>` that balances the `<`s before it. -/
def doctypeEnd (bs : List UInt8) : Option Nat :=
  let rec go : List UInt8 → Nat → Nat → Option Nat
    | [], _, _ => none
    | b :: rest, i, depth =>
      if b == byte '<' then go rest (i + 1) (depth + 1)
      else if b == byte '>' then
        if depth == 0 then some i else go rest (i + 1) (depth - 1)
      else go rest (i + 1) depth
  go bs 0 0

def upperByte (b : UInt8) : UInt8 := if 0x61 ≤ b && b ≤ 0x7A then b - 0x20 else b

/-- What markup starting with `!` is, once read to its end: kept CDATA, skipped, or an error. -/
def bangToken (kind : UInt8) (bs : List UInt8) (pos : Nat) : Token :=
  if kind == byte '-' then
    if bs.take 3 == Utf8.encode "!--" then .skipped else .fail .unclosedComment pos
  else if kind == byte '[' then
    if bs.take 8 == Utf8.encode "![CDATA[" then .cdata ((bs.drop 8).take (bs.length - 10)) pos
    else .fail .unclosedCData pos
  else if (bs.take 8).map upperByte == Utf8.encode "!DOCTYPE" then
    if (bs.drop 8).all isMarkupBlank then .fail .missingDoctypeName pos else .skipped
  else .fail .unclosedDoctype pos

/-- The token of the markup after a `<`, at byte position `pos` just after it, and how many
bytes of `bs` it takes (up to and including its `>`); `none` bytes when the reader stops. -/
def markup (bs : List UInt8) (pos : Nat) : Token × Option Nat :=
  match bs with
  | [] => (.fail .unclosedTag pos, none)
  | b :: more =>
    if b == byte '!' then
      let kind := more.head?.getD 0
      let found :=
        if kind == byte '-' then some (commentEnd bs, SyntaxError.unclosedComment)
        else if kind == byte '[' then some (cdataEnd bs, .unclosedCData)
        else if kind == byte 'D' || kind == byte 'd' then some (doctypeEnd bs, .unclosedDoctype)
        else none
      match found with
      | none => (.fail .invalidBang pos, none)
      | some (some i, _) => (bangToken kind (bs.take i) (pos + i + 1), some (i + 1))
      | some (none, e) => (.fail e (pos + bs.length), none)
    else if b == byte '?' then
      match instructionEnd bs with
      | some i =>
        let content := bs.take i
        if content.length > 1 && content.getLast? == some (byte '?') then (.skipped, some (i + 1))
        else (.fail .unclosedInstruction (pos + i + 1), none)
      | none => (.fail .unclosedInstruction (pos + bs.length), none)
    else
      match tagEnd bs with
      | none => (.fail .unclosedTag (pos + bs.length), none)
      | some i =>
        let content := bs.take i
        let after := pos + i + 1
        if b == byte '/' then
          let name := ((content.drop 1).reverse.dropWhile isMarkupBlank).reverse
          (.close name after, some (i + 1))
        else if content.getLast? == some (byte '/') then
          let nameEnd := (content.takeWhile (!isMarkupBlank ·)).length
          let nameLength := if nameEnd < content.length then nameEnd else content.length - 1
          (.empty (content.take (content.length - 1)) nameLength after, some (i + 1))
        else (.start content after, some (i + 1))

/-- The tokens of `bs`, which starts at byte position `pos` with text. -/
def tokensFrom : List UInt8 → Nat → List Token
  | [], _ => []
  | b :: bs, pos =>
    let text := (b :: bs).takeWhile (· != byte '<')
    match h : (b :: bs).dropWhile (· != byte '<') with
    | [] => [.text (b :: bs) (pos + bs.length + 1)]
    | _ :: rest =>
      let textTokens := if text.isEmpty then [] else [Token.text text (pos + text.length)]
      let opened := pos + text.length + 1
      match markup rest opened with
      | (tok, some n) =>
        have : rest.length - n < bs.length + 1 := by
          have := (@List.dropWhile_suffix _ (b :: bs) (· != byte '<')).length_le
          rw [h] at this
          simp at this
          omega
        textTokens ++ tok :: tokensFrom (rest.drop n) (opened + n)
      | (tok, none) => textTokens ++ [tok]
termination_by bs => bs.length

def byteOrderMark : List UInt8 := [0xEF, 0xBB, 0xBF]

def tokenize (bs : List UInt8) : List Token :=
  if bs.take 3 == byteOrderMark then tokensFrom (bs.drop 3) 0 else tokensFrom bs 0

end Courseware.Xml
