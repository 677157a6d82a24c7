import Courseware.Xml.Token
import Courseware.Text.CharSet
import Courseware.Xml.Entity

/-!
# Reading a document

`Xml.parse` reads a document into its root element. Tokens are taken in order: a start
tag opens an element, an end tag must name the element open innermost and closes it, text
and CDATA go into the element open innermost. Outside the root only blank text may stand, and
only one root. The first problem stops reading; it is reported at the line and column (1-based,
the column in bytes) of the reader's position when it was found, or of the end of the document
for an element never closed or a missing root.
-/

/-!
## Attributes of a tag

After a tag's name come its attributes, each a name, `=` (blanks may stand around it) and a
value in single or double quotes; blanks separate them. Positions in errors are byte offsets
within the tag, counted from the byte after `<`. A name given twice is an error at the second,
which names the first. Values are read with their references resolved.
-/

namespace Courseware.Xml

/-- Why the attributes of a tag could not be read. -/
inductive AttrError where
  | expectedEq (pos : Nat)
  | expectedValue (pos : Nat)
  | unquotedValue (pos : Nat)
  | expectedQuote (pos : Nat) (quote : UInt8)
  | duplicated (pos previous : Nat)
  deriving Repr, BEq

def AttrError.message : AttrError → String
  | .expectedEq p => s!"position {p}: attribute key must be directly followed by `=` or space"
  | .expectedValue p => s!"position {p}: `=` must be followed by an attribute value"
  | .unquotedValue p => s!"position {p}: attribute value must be enclosed in `\"` or `'`"
  | .expectedQuote p q =>
    s!"position {p}: missing closing quote `{Char.ofNat q.toNat}` in attribute value"
  | .duplicated p q => s!"position {p}: duplicated attribute, previous declaration at position {q}"

/-- An attribute as written: where its name starts, its name, and its raw value. -/
structure RawAttribute where
  start : Nat
  name : List UInt8
  value : List UInt8

/-- The first index at or after `i` whose byte satisfies `p`. -/
def findFrom (bs : List UInt8) (p : UInt8 → Bool) (i : Nat) : Option Nat :=
  ((List.range (bs.length - i)).map (· + i)).find? fun j => (bs[j]?.map p).getD false

def byteAt (bs : List UInt8) (i : Nat) : UInt8 := bs[i]?.getD 0

def slice (bs : List UInt8) (i j : Nat) : List UInt8 := (bs.drop i).take (j - i)

def quotedValue (bs : List UInt8) (q : Nat) : Except AttrError (List UInt8 × Nat) :=
  let quote := byteAt bs q
  match findFrom bs (· == quote) (q + 1) with
  | some e => .ok (slice bs (q + 1) e, e + 1)
  | none => .error (.expectedQuote bs.length quote)

def valueAfterEq (bs : List UInt8) (eq : Nat) : Except AttrError (List UInt8 × Nat) :=
  match findFrom bs (!isMarkupBlank ·) (eq + 1) with
  | none => .error (.expectedValue bs.length)
  | some s =>
    let b := byteAt bs s
    if b == byte '"' || b == byte '\'' then quotedValue bs s
    else .error (.unquotedValue s)

/-- The next attribute at or after index `i`, after the attributes `seen`: none when only
blanks are left, else the attribute and the index after it, or the error that stops reading.
A name given twice is caught before its value is read. -/
def nextAttribute (bs : List UInt8) (seen : List RawAttribute) (i : Nat) :
    Option (Except AttrError (RawAttribute × Nat)) :=
  (findFrom bs (!isMarkupBlank ·) i).map fun s =>
    match findFrom bs (fun b => b == byte '=' || isMarkupBlank b) (s + 1) with
    | none => .error (.expectedEq bs.length)
    | some e => do
      let name := slice bs s e
      if let some prev := seen.find? (·.name == name) then
        throw (.duplicated s prev.start)
      let (value, next) ←
        if byteAt bs e == byte '=' then valueAfterEq bs e
        else
          match findFrom bs (!isMarkupBlank ·) (e + 1) with
          | none => throw (.expectedEq bs.length)
          | some k =>
            if byteAt bs k == byte '=' then valueAfterEq bs k
            else throw (.expectedEq k)
      pure (⟨s, name, value⟩, next)

/-- Reads attributes from index `i` on, after those in `seen` (last first): the attributes
read, in order, and the error that stopped reading, if one did. -/
def attributesFrom (bs : List UInt8) (fuel i : Nat) (seen : List RawAttribute) :
    List RawAttribute × Option AttrError :=
  match fuel with
  | 0 => (seen.reverse, none)
  | fuel + 1 =>
    match nextAttribute bs seen i with
    | none => (seen.reverse, none)
    | some (.error e) => (seen.reverse, some e)
    | some (.ok (a, next)) => attributesFrom bs fuel next (a :: seen)

/-- The attributes of a tag's content, read after its name of `nameLength` bytes, and the
error that stopped reading, if one did. Each attribute takes at least one byte, so as many
steps as bytes suffice. -/
def rawAttributes (content : List UInt8) (nameLength : Nat) :
    List RawAttribute × Option AttrError :=
  attributesFrom content content.length nameLength []

end Courseware.Xml

/-!
## Document trees

A document is a tree of elements and text. `Element` gives the queries a reader of the tree
needs: an attribute by name, the child elements of a name, the text directly inside an
element (`rawText`, and `text` with blanks trimmed), and the element written back as XML
(`toXml`, with `inner` for its children only). Written XML escapes text and attribute values,
and writes an element without children as `<name />`.
-/

namespace Courseware.Xml

/-- A node of a document tree: an element with its attributes in order and its children, or
text with its references resolved. -/
inductive Node where
  | element (name : String) (attributes : List (String × String)) (children : List Node)
  | text (content : String)
  deriving Repr, BEq

/-- An element of a document tree. -/
structure Element where
  name : String
  attributes : List (String × String)
  children : List Node
  deriving Repr, BEq

namespace Node

def toXml : Node → String
  | .text s => escape s
  | .element name attrs children =>
    let head := "<" ++ name ++ String.join (attrs.map fun (k, v) => " " ++ k ++ "=\"" ++ escape v ++ "\"")
    if children.isEmpty then head ++ " />"
    else head ++ ">" ++ String.join (children.map toXml) ++ "</" ++ name ++ ">"

def element? : Node → Option Element
  | .element n a c => some ⟨n, a, c⟩
  | .text _ => none

end Node

namespace Element

def toNode (e : Element) : Node := .element e.name e.attributes e.children

def attr? (e : Element) (name : String) : Option String :=
  (e.attributes.find? (·.1 == name)).map (·.2)

def attrOrEmpty (e : Element) (name : String) : String := (e.attr? name).getD ""

def attributeNames (e : Element) : List String := e.attributes.map (·.1)

def childElements (e : Element) : List Element := e.children.filterMap Node.element?

def childrenNamed (e : Element) (name : String) : List Element :=
  e.childElements.filter (·.name == name)

def child? (e : Element) (name : String) : Option Element :=
  e.childElements.find? (·.name == name)

def hasChildElement (e : Element) : Bool := !e.childElements.isEmpty

/-- The text directly inside the element, in order; text inside child elements is left out. -/
def rawText (e : Element) : String :=
  String.join (e.children.filterMap fun
    | .text s => some s
    | .element .. => none)

/-- The text directly inside the element, without blanks at either end. -/
def text (e : Element) : String := Text.trim e.rawText

def childText (e : Element) (name : String) : String :=
  ((e.child? name).map text).getD ""

def inner (e : Element) : String := String.join (e.children.map Node.toXml)

def toXml (e : Element) : String := e.toNode.toXml

end Element

end Courseware.Xml

namespace Courseware.Xml

/-- A document that could not be read, where and why. -/
structure XmlError where
  line : Nat
  column : Nat
  message : String
  deriving Repr, BEq

def locate (source : List UInt8) (offset : Nat) : Nat × Nat :=
  let before := source.take offset
  let line := (before.filter (· == 0x0A)).length + 1
  let lineStart := before.length - (before.reverse.takeWhile (· != 0x0A)).length
  (line, before.length - lineStart + 1)

/-- An element being read: its name as written, its attributes and its children so far, last
first. -/
structure Frame where
  rawName : List UInt8
  name : String
  attributes : List (String × String)
  children : List Node

def Frame.close (f : Frame) : Element := ⟨f.name, f.attributes, f.children.reverse⟩

abbrev Located := String × Nat

/-- Opens an element from a tag's content and the length of its name. -/
def openElement (content : List UInt8) (nameLength : Nat) (pos : Nat) : Except Located Frame := do
  let rawName := content.take nameLength
  let (raws, stop) := rawAttributes content nameLength
  let attrs ← raws.mapM fun a =>
    match unescape a.value with
    | .ok v => .ok (Utf8.decode a.name, v)
    | .error e => .error (e.message, pos)
  if let some e := stop then throw (e.message, pos)
  pure ⟨rawName, Utf8.decode rawName, attrs, []⟩

def attach (el : Element) (pos : Nat) (stack : List Frame) (root : Option Element) :
    Except Located (List Frame × Option Element) :=
  match stack with
  | f :: fs => .ok ({ f with children := el.toNode :: f.children } :: fs, root)
  | [] =>
    match root with
    | some _ => .error (s!"second root element <{el.name}>", pos)
    | none => .ok ([], some el)

/-- Puts text into the innermost open element; outside the root only blank text may stand. -/
def pushText (s : String) (pos : Nat) (stack : List Frame) : Except Located (List Frame) :=
  match stack with
  | f :: fs => .ok ({ f with children := .text s :: f.children } :: fs)
  | [] => if Text.isBlankText s then .ok [] else .error ("text outside the root element", pos)

/-- Builds the tree from the tokens, given the open elements (innermost first) and the root
if it is closed; `total` is the length of the document in bytes. -/
def build (total : Nat) : List Token → List Frame → Option Element → Except Located Element
  | [], stack, root =>
    match stack, root with
    | f :: _, _ => .error (s!"element <{f.name}> is never closed", total)
    | [], some r => .ok r
    | [], none => .error ("document has no root element", total)
  | tok :: rest, stack, root =>
    match tok with
    | .text raw pos =>
      match unescape raw with
      | .error e => .error (e.message, pos)
      | .ok s => do build total rest (← pushText s pos stack) root
    | .cdata content pos => do build total rest (← pushText (Utf8.decode content) pos stack) root
    | .start content pos => do
      let nameLength := (content.takeWhile (!isMarkupBlank ·)).length
      let f ← openElement content nameLength pos
      build total rest (f :: stack) root
    | .empty content nameLength pos => do
      let f ← openElement content nameLength pos
      let (stack, root) ← attach f.close pos stack root
      build total rest stack root
    | .close name pos =>
      match stack with
      | [] =>
        .error (s!"ill-formed document: close tag `</{Utf8.decode name}>` does not match any open tag", pos)
      | f :: fs =>
        if f.rawName != name then
          .error (s!"ill-formed document: expected `</{f.name}>`, but `</{Utf8.decode name}>` was found", pos)
        else do
          let (stack, root) ← attach f.close pos fs root
          build total rest stack root
    | .skipped => build total rest stack root
    | .fail e pos => .error (e.message, pos)

/-- The root element of a document, or where and why it could not be read. -/
def parse (source : String) : Except XmlError Element :=
  let bytes := Utf8.encode source
  match build bytes.length (tokenize bytes) [] none with
  | .ok root => .ok root
  | .error (message, pos) =>
    let (line, column) := locate bytes (min pos bytes.length)
    .error ⟨line, column, message⟩

end Courseware.Xml
