import Courseware.Text.Pattern
import Courseware.Text.CharSet

/-!
# Markdown to HTML

`Markdown.toHtml` turns the small markdown dialect of lesson text into HTML. Fenced code
blocks are taken out first and stand alone; the rest is HTML-escaped, given emphasis and cut
into lines. Each line is trimmed and blank lines are dropped; a line is a heading (`# `,
`## `, `### `), a list item (`- `) or a paragraph, with code spans inside. Runs of list items
are wrapped in one list. Since every character of author text is escaped before markup is
added, the only tags in the result are the ones written here.
-/

/-!
## Escaping author text

Author text reaches a page only escaped. `Text.escapeHtml` writes the five characters that
could open a tag, an entity or close a quoted attribute as references (`&amp;`, `&lt;`,
`&gt;`, `&quot;`, `&#x27;`), so the result fits element content and quoted attributes alike.
`Text.escapeScriptString` goes further for strings of the page's scripts: everything but
ASCII letters, digits, `_`, `-` and `.` becomes a `\u` escape of four lower-case hex digits
per UTF-16 unit, so the result can close neither a string nor an attribute.
-/

namespace Courseware.Text

def htmlReference : Char → Option String
  | '&' => some "&amp;"
  | '<' => some "&lt;"
  | '>' => some "&gt;"
  | '"' => some "&quot;"
  | '\'' => some "&#x27;"
  | _ => none

theorem htmlReference_eq_some {c : Char} {r : String} (h : htmlReference c = some r) :
    (c = '&' ∧ r = "&amp;") ∨ (c = '<' ∧ r = "&lt;") ∨ (c = '>' ∧ r = "&gt;") ∨
      (c = '"' ∧ r = "&quot;") ∨ (c = '\'' ∧ r = "&#x27;") := by
  unfold htmlReference at h
  split at h <;> cases h
  · exact .inl ⟨rfl, rfl⟩
  · exact .inr (.inl ⟨rfl, rfl⟩)
  · exact .inr (.inr (.inl ⟨rfl, rfl⟩))
  · exact .inr (.inr (.inr (.inl ⟨rfl, rfl⟩)))
  · exact .inr (.inr (.inr (.inr ⟨rfl, rfl⟩)))

theorem htmlReference_eq_none_iff {c : Char} :
    htmlReference c = none ↔ c ≠ '&' ∧ c ≠ '<' ∧ c ≠ '>' ∧ c ≠ '"' ∧ c ≠ '\'' := by
  constructor
  · intro h
    refine ⟨?_, ?_, ?_, ?_, ?_⟩ <;> rintro rfl <;> cases h
  · rintro ⟨h₁, h₂, h₃, h₄, h₅⟩
    unfold htmlReference
    split
    · exact absurd rfl h₁
    · exact absurd rfl h₂
    · exact absurd rfl h₃
    · exact absurd rfl h₄
    · exact absurd rfl h₅
    · rfl

def escapeHtmlChar (c : Char) : List Char :=
  match htmlReference c with
  | some r => r.toList
  | none => [c]

theorem escapeHtmlChar_of_none {c : Char} (h : htmlReference c = none) :
    escapeHtmlChar c = [c] := by
  rw [escapeHtmlChar, h]

theorem escapeHtmlChar_of_some {c : Char} {r : String} (h : htmlReference c = some r) :
    escapeHtmlChar c = r.toList := by
  rw [escapeHtmlChar, h]

/-- Text safe in HTML element content and in quoted attributes. -/
def escapeHtml (s : String) : String :=
  String.ofList (s.toList.flatMap escapeHtmlChar)

def utf16Units (c : Char) : List Nat :=
  let n := c.toNat
  if n < 0x10000 then [n]
  else
    let m := n - 0x10000
    [0xD800 + m / 0x400, 0xDC00 + m % 0x400]

def hex4 (n : Nat) : List Char :=
  let digit (k : Nat) : Char := "0123456789abcdef".toList.getD (n / Nat.pow 16 k % 16) '0'
  [digit 3, digit 2, digit 1, digit 0]

def keptInScript (c : Char) : Bool :=
  (c.toNat < 0x80 && c.isAlphanum) || c == '_' || c == '-' || c == '.'

def escapeScriptChar (c : Char) : List Char :=
  if keptInScript c then [c]
  else (utf16Units c).flatMap fun u => '\\' :: 'u' :: hex4 u

/-- Text safe inside a quoted script string that itself sits in an HTML attribute. -/
def escapeScriptString (s : String) : String :=
  String.ofList (s.toList.flatMap escapeScriptChar)

end Courseware.Text

/-!
## Fenced code blocks

A fence opens with three backticks, an optional language tag of ASCII letters, digits, `_`,
`+` and `-`, and anything else up to the end of the line that holds no backtick. The block's
body runs from the next line to the first three backticks after it, which close the fence.
A fence that is never closed is no fence.
-/

namespace Courseware.Markdown

/-- A fenced code block: its language tag (possibly empty) and its body text. -/
structure Fence where
  lang : List Char
  body : List Char

def isLangChar (c : Char) : Bool :=
  (c.toNat < 0x80 && c.isAlphanum) || c == '_' || c == '+' || c == '-'

/-- `cs` up to the first three backticks, and what follows them. -/
def untilFence : List Char → Option (List Char × List Char)
  | [] => none
  | '`' :: '`' :: '`' :: rest => some ([], rest)
  | c :: cs => (untilFence cs).map fun (body, rest) => (c :: body, rest)

/-- A fence at the front of a text, and how many characters it takes up to its closing
backticks. -/
def fence : Pattern Fence
  | '`' :: '`' :: '`' :: rest =>
    let line := rest.takeWhile fun c => c != '\n' && c != '`'
    match rest.drop line.length with
    | '\n' :: body =>
      (untilFence body).map fun (b, _) =>
        (⟨rest.takeWhile isLangChar, b⟩, 3 + line.length + 1 + b.length + 3)
    | _ => none
  | _ => none

end Courseware.Markdown

/-!
## Emphasis and code spans

Inline markup works on text that is already HTML-escaped. `**text**` is strong emphasis and
`*text*` emphasis, each around text with no star (and for emphasis, no line break); a code
span is text without backticks between two backticks. Strong emphasis goes first; a pair of
stars it leaves behind is shielded while emphasis is found, so `**open *x*` keeps its two
stars and emphasises only `x`.
-/

namespace Courseware.Markdown

open Pattern

/-- The text between an opening mark `c` and the next `c`, if that text is not empty and
`stop` holds nowhere in it, and what follows the closing mark. -/
def between (c : Char) (stop : Char → Bool) (cs : List Char) : Option (List Char × List Char) :=
  let inner := cs.takeWhile fun d => d != c && !stop d
  match cs.dropWhile (fun d => d != c && !stop d) with
  | d :: after => if d == c && !inner.isEmpty then some (inner, after) else none
  | [] => none

/-- `**text**` around text without stars. -/
def strong : Pattern (List Char)
  | '*' :: '*' :: rest =>
    match between '*' (fun _ => false) rest with
    | some (inner, '*' :: _) => some (inner, inner.length + 4)
    | _ => none
  | _ => none

/-- `*text*` around text without stars or line breaks. -/
def emphasis : Pattern (List Char)
  | '*' :: rest => (between '*' (· == '\n') rest).map fun (inner, _) => (inner, inner.length + 2)
  | _ => none

/-- A code span: text without backticks between two backticks. -/
def codeSpan : Pattern (List Char)
  | '`' :: rest => (between '`' (fun _ => false) rest).map fun (inner, _) => (inner, inner.length + 2)
  | _ => none

def pair (a b : Char) : Pattern Unit
  | c :: d :: _ => if c == a && d == b then some ((), 2) else none
  | _ => none

def shield : Char := '\x01'

def wrapTag (tag : String) (s : List Char) : List Char :=
  ("<" ++ tag ++ ">").toList ++ s ++ ("</" ++ tag ++ ">").toList

def emphasise (cs : List Char) : List Char :=
  let bold := replace strong (wrapTag "strong") cs
  let shielded := replace (pair '*' '*') (fun _ => [shield, shield]) bold
  let soft := replace emphasis (wrapTag "em") shielded
  replace (pair shield shield) (fun _ => ['*', '*']) soft

def codeSpans (cs : List Char) : List Char :=
  replace codeSpan (wrapTag "code") cs

end Courseware.Markdown

namespace Courseware.Markdown

open Pattern

/-- Where a fenced block stands in the text while the rest is escaped: a line of its own
holding a NUL, the block's number and a NUL. The author's NULs are removed first, so no
author text can spell it. -/
def blockToken (i : Nat) : List Char :=
  '\n' :: '\x00' :: ("CODEBLOCK" ++ toString i).toList ++ ['\x00', '\n']

/-- Numbers the fences of a cut text in order, and replaces each by its token. -/
def numberFences : List (Piece Fence) → Nat → List Char × List Fence
  | [], _ => ([], [])
  | .char c :: ps, i =>
    let (text, fs) := numberFences ps i
    (c :: text, fs)
  | .hit f :: ps, i =>
    let (text, fs) := numberFences ps (i + 1)
    (blockToken i ++ text, f :: fs)

/-- A fenced block as HTML: its body without trailing line breaks, escaped, in `pre` and
`code`, with the language as a class. -/
def Fence.toHtml (f : Fence) : String :=
  let body := Text.escapeHtml (String.ofList (Text.dropEndWhile (· == '\n') f.body))
  if f.lang.isEmpty then "<pre><code>" ++ body ++ "</code></pre>"
  else "<pre><code class=\"language-" ++ String.ofList f.lang ++ "\">" ++ body ++ "</code></pre>"

/-- The block number a token line names, if it is one. -/
def tokenIndex? (line : List Char) : Option Nat :=
  match line with
  | '\x00' :: rest =>
    let word := "CODEBLOCK".toList
    if word.isPrefixOf rest then
      match (rest.drop word.length).reverse with
      | '\x00' :: digits =>
        let ds := digits.reverse
        if !ds.isEmpty && ds.all Char.isDigit then
          some (ds.foldl (fun n d => 10 * n + (d.toNat - '0'.toNat)) 0)
        else none
      | _ => none
    else none
  | _ => none

/-- One trimmed, non-blank line of escaped text as an HTML block. -/
def lineToHtml (line : List Char) : String :=
  let block :=
    if "### ".toList.isPrefixOf line then wrapTag "h3" (line.drop 4)
    else if "## ".toList.isPrefixOf line then wrapTag "h2" (line.drop 3)
    else if "# ".toList.isPrefixOf line then wrapTag "h1" (line.drop 2)
    else if "- ".toList.isPrefixOf line then wrapTag "li" (line.drop 2)
    else wrapTag "p" line
  String.ofList (codeSpans block)

/-- Opens a list before each run of items and closes it after. -/
def wrapItems : List String → Bool → List String
  | [], inList => if inList then ["</ul>"] else []
  | b :: bs, inList =>
    let isItem := b.startsWith "<li>"
    if isItem && !inList then "<ul>" :: b :: wrapItems bs true
    else if !isItem && inList then "</ul>" :: b :: wrapItems bs false
    else b :: wrapItems bs inList

/-- Lesson markdown as HTML. -/
def toHtml (text : String) : String :=
  let source := text.toList.filter (· != '\x00')
  let (tokenized, fences) := numberFences (cut fence source) 0
  let escaped := (String.ofList tokenized |> Text.escapeHtml).toList
  let lines := (emphasise escaped).splitOn '\n'
  let blocks := lines.filterMap fun l =>
    let t := Text.dropEndWhile Text.isBlank (Text.dropBlank l)
    if t.isEmpty then none
    else match tokenIndex? t >>= fun i => fences[i]? with
      | some f => some f.toHtml
      | none => some (lineToHtml t)
  "\n".intercalate (wrapItems blocks false)

end Courseware.Markdown
