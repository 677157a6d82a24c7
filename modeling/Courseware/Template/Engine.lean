import Courseware.Text.CharSet
import Courseware.Text.Pattern
import Courseware.FileStore.Basic
import Courseware.Template.Builtin

/-!
# Rendering templates

An `Engine` finds templates by name in an optional directory of a `FileStore`, falling back
to the built-in set unless that is turned off. A template's partials live under `partials/`:
`{{> note }}` and `{{> note.html }}` both include `partials/note.html`. Every text found is
kept in the engine's caches, even when the render that found it fails later, so a file changed
after it was first read is not seen again; a name that was not found is looked up anew each
time.

Rendering first includes the partials, each with its own partials in turn, and then fills
in the variables. A partial that would include itself, directly or through others, is an
error naming the chain; below ten nested partials a reference is left as written, and a
partial that is not found is replaced by an HTML comment saying so.
-/

/-!
## References in template text

A template names the values it needs as `{{ name }}` and the partials it includes as
`{{> name }}`. Between the braces stand optional blanks, a name of at least one character
that is neither blank nor `}`, and optional blanks again. Blanks are the Unicode White_Space
characters, so an ideographic space counts.

The name is the whole run of name characters, so a reference is found by reading the
opener, the blanks, the longest run of name characters, the blanks and then `}}`; if `}}`
does not follow, nothing matches at that place.
-/

namespace Courseware.Template

/-- A reference found in template text: its name and the text of the whole reference. -/
structure Reference where
  name : String
  source : List Char

def isNameChar (c : Char) : Bool := !Text.isBlank c && c != '}'

/-- A reference opened by `opener` at the front of a text. -/
def reference (opener : List Char) : Pattern Reference := fun cs =>
  if opener.isPrefixOf cs then
    let afterOpener := cs.drop opener.length
    let lead := afterOpener.takeWhile Text.isBlank
    let name := (afterOpener.drop lead.length).takeWhile isNameChar
    let afterName := afterOpener.drop (lead.length + name.length)
    let trail := afterName.takeWhile Text.isBlank
    match name, afterName.drop trail.length with
    | _ :: _, '}' :: '}' :: _ =>
      let n := opener.length + lead.length + name.length + trail.length + 2
      some (⟨String.ofList name, cs.take n⟩, n)
    | _, _ => none
  else none

def partialRef : Pattern Reference := reference ['{', '{', '>']

def variableRef : Pattern Reference := reference ['{', '{']

def dropHtmlReversed : List Char → List Char
  | 'l' :: 'm' :: 't' :: 'h' :: '.' :: rest => dropHtmlReversed rest
  | cs => cs

/-- A partial's name without any trailing `.html`: `styles` and `styles.html` name one
partial. -/
def partialKey (name : String) : String :=
  String.ofList (dropHtmlReversed name.toList.reverse).reverse

/-- The file of a partial under `partials/`: its name, with `.html` added unless it ends so. -/
def partialFile (name : String) : String :=
  if name.endsWith ".html" then name else name ++ ".html"

def partialNames (text : String) : List String :=
  (Pattern.cut partialRef text.toList).filterMap fun
    | .hit r => some r.name
    | .char _ => none

abbrev Context := List (String × String)

/-- Every variable with a binding replaced by its value; a variable without one is written
again as `{{ name }}`. Values are inserted as they are and not read again. -/
def substitute (ctx : Context) (text : List Char) : List Char :=
  Pattern.replace variableRef (fun r =>
    match ctx.lookup r.name with
    | some value => value.toList
    | none => ("\x7b\x7b " ++ r.name ++ " \x7d\x7d").toList) text

end Courseware.Template

namespace Courseware

def outcome {ε σ α : Type} : EStateM.Result ε σ α → Except ε α
  | .ok a _ => .ok a
  | .error e _ => .error e

def after {ε σ α : Type} : EStateM.Result ε σ α → σ
  | .ok _ s => s
  | .error _ s => s

end Courseware

namespace Courseware.Template

/-- Why a render failed. -/
inductive TemplateError where
  /-- A template file that exists could not be read. -/
  | io (path : String) (cause : IoError)
  /-- Partials that include each other, in the order they were entered. -/
  | cycle (chain : List String)
  deriving Repr

namespace TemplateError

def kind : TemplateError → String
  | .io .. => "Io"
  | .cycle _ => "PartialCycle"

def chain : TemplateError → List String
  | .io path cause => [s!"failed to read template file {path}", cause.message]
  | .cycle names => ["partials include each other in a cycle: " ++ " -> ".intercalate names]

def message (e : TemplateError) : String := ": ".intercalate e.chain

end TemplateError

/-- How deep partials are included; references below this depth are left as written. -/
def maxPartialDepth : Nat := 10

/-- Where templates come from, and the texts found so far. -/
structure Engine where
  /-- The directory searched before the built-in set. -/
  dir : Option String
  /-- Whether the built-in set is searched at all. -/
  useDefaults : Bool := true
  /-- Templates found, by the name they were asked for. -/
  templates : List (String × String) := []
  /-- Partials found, by the name they were asked for. -/
  partials : List (String × String) := []
  deriving Repr

/-- A computation with an engine whose caches it may fill, which may fail. A failure keeps the
engine as it stands, with everything cached before it. -/
abbrev TemplateM := EStateM TemplateError Engine

namespace Engine

/-- The text of a file below the template directory, if the directory is set and a regular
file stands there. -/
def readExternal (fs : FileStore) (rel : String) : TemplateM (Option String) := do
  match (← get).dir with
  | none => pure none
  | some dir =>
    let path := FileStore.join dir rel
    if !fs.isFile path then pure none
    else
      match fs.readText path with
      | .ok text => pure (some text)
      | .error cause => throw (.io path cause)

def builtin (key : String) : TemplateM (Option String) := do
  if (← get).useDefaults then pure (Template.builtin? key) else pure none

/-- A template by name: from the cache, the directory or the built-in set. -/
def loadTemplate (fs : FileStore) (name : String) : TemplateM (Option String) := do
  match (← get).templates.lookup name with
  | some text => pure (some text)
  | none =>
    let loaded ← match ← readExternal fs name with
      | some text => pure (some text)
      | none => builtin name
    if let some text := loaded then
      modify fun e => { e with templates := (name, text) :: e.templates }
    pure loaded

/-- A partial by name: from the cache, `partials/` of the directory or the built-in set. -/
def loadPartial (fs : FileStore) (name : String) : TemplateM (Option String) := do
  match (← get).partials.lookup name with
  | some text => pure (some text)
  | none =>
    let file := partialFile name
    let loaded ← match ← readExternal fs (FileStore.join "partials" file) with
      | some text => pure (some text)
      | none => builtin ("partials/" ++ file)
    if let some text := loaded then
      modify fun e => { e with partials := (name, text) :: e.partials }
    pure loaded

/-- Includes the partials of a text. `chain` is the partials being included, outermost
first; `depth` is how many more levels may be entered. -/
def expand (fs : FileStore) (chain : List String) : (depth : Nat) → List Char → TemplateM String
  | depth, text =>
    (Pattern.cut partialRef text).foldlM (fun out piece =>
      match piece with
      | .char c => pure (out.push c)
      | .hit r => do
        let key := partialKey r.name
        if chain.contains key then throw (.cycle (chain ++ [key]))
        match depth with
        | 0 => pure (out ++ String.ofList r.source)
        | d + 1 =>
          match ← loadPartial fs r.name with
          | some content => pure (out ++ (← expand fs (chain ++ [key]) d content.toList))
          | none => pure (out ++ s!"<!-- Partial '{r.name}' not found -->")) ""

def renderString (fs : FileStore) (text : String) (ctx : Context) : TemplateM String := do
  let expanded ← expand fs [] maxPartialDepth text.toList
  pure (String.ofList (substitute ctx expanded.toList))

/-- Renders a template by name; a missing template renders as a comment saying so. -/
def render (fs : FileStore) (name : String) (ctx : Context) : TemplateM String := do
  match ← loadTemplate fs name with
  | some text => renderString fs text ctx
  | none => pure s!"<!-- Template '{name}' not found -->"

def hasTemplate (fs : FileStore) (name : String) : TemplateM Bool := do
  pure (← loadTemplate fs name).isSome

end Engine

end Courseware.Template
