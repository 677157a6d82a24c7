import Courseware.Number.Double

/-!
# The command line

`generate TML OUT_DIR [TEMPLATE_DIR]` builds the site of the course document `TML` into
`OUT_DIR`, with templates from `TEMPLATE_DIR` (or the variable `TML_TEMPLATE_DIR`, or a
directory `templates` if there is one) in front of the built-in set. `--schema S` (or
`TML_SCHEMA`) names an XSD schema to check the document against first, `--no-validate`
skips that check, `--clean` removes the output directory before the build, and `--seed N`
fixes the shuffles of matching and ordering questions.

This module reads the arguments and writes the texts the command prints; running the build
is left to the program's entry point.
-/

namespace Courseware.Command

/-- What the command was asked to do. -/
structure Options where
  course : String
  outDir : String
  templateDir : Option String := none
  schema : Option String := none
  validate : Bool := true
  clean : Bool := false
  seed : Option UInt64 := none
  deriving Repr

/-- A request on the command line: a build, or one of the two texts about the command. -/
inductive Request where
  | run (o : Options)
  | help
  | version
  deriving Repr

def usage : String := "Usage: generate [OPTIONS] <TML> <OUT_DIR> [TEMPLATE_DIR]"

def helpText : String := "\n".intercalate [
  "Generate a static course site from a TML document",
  "",
  usage,
  "",
  "Arguments:",
  "  <TML>           Course document (TML/XML)",
  "  <OUT_DIR>       Directory receiving index.html, the lesson pages and course.yaml",
  "  [TEMPLATE_DIR]  Directory with template overrides [env: TML_TEMPLATE_DIR=]",
  "",
  "Options:",
  "      --schema <SCHEMA>  XSD schema checked with xmllint before parsing [env: TML_SCHEMA=]",
  "      --no-validate      Skip schema validation",
  "      --clean            Remove the output directory before generating",
  "      --seed <SEED>      Seed for the matching and ordering shuffles",
  "  -h, --help             Print help",
  "  -V, --version          Print version",
  ""]

def versionText : String := "generate 0.1.0\n"

def usageError (msg : String) : String :=
  s!"error: {msg}\n\n{usage}\n\nFor more information, try \x27--help\x27.\n"

/-- The arguments read so far: the options given and the positional arguments in order. -/
structure Parsed where
  schema : Option String := none
  validate : Bool := true
  clean : Bool := false
  seed : Option UInt64 := none
  positional : List String := []
  help : Bool := false
  version : Bool := false

/-- A seed: an unsigned 64-bit decimal number. -/
def readSeed (s : String) : Except String UInt64 :=
  if s.isEmpty then .error s!"invalid value \x27{s}\x27 for \x27--seed <SEED>\x27: cannot parse integer from empty string"
  else if !s.all Char.isDigit then
    .error s!"invalid value \x27{s}\x27 for \x27--seed <SEED>\x27: invalid digit found in string"
  else
    let n := s.foldl (fun n c => 10 * n + (c.toNat - '0'.toNat)) 0
    if n < Nat.pow 2 64 then .ok n.toUInt64
    else .error s!"invalid value \x27{s}\x27 for \x27--seed <SEED>\x27: number too large to fit in target type"

def readArgs (p : Parsed) : List String → Except String Parsed
  | [] => .ok p
  | "--" :: rest => .ok { p with positional := p.positional ++ rest }
  | "--no-validate" :: rest => readArgs { p with validate := false } rest
  | "--clean" :: rest => readArgs { p with clean := true } rest
  | "-h" :: rest | "--help" :: rest => readArgs { p with help := true } rest
  | "-V" :: rest | "--version" :: rest => readArgs { p with version := true } rest
  | "--schema" :: v :: rest => readArgs { p with schema := some v } rest
  | "--seed" :: v :: rest => do readArgs { p with seed := some (← readSeed v) } rest
  | ["--schema"] => .error "a value is required for \x27--schema <SCHEMA>\x27 but none was supplied"
  | ["--seed"] => .error "a value is required for \x27--seed <SEED>\x27 but none was supplied"
  | arg :: rest =>
    if arg.startsWith "--schema=" then readArgs { p with schema := some (arg.drop 9).toString } rest
    else if arg.startsWith "--seed=" then do
      readArgs { p with seed := some (← readSeed (arg.drop 7).toString) } rest
    else if arg.startsWith "-" && arg != "-" then .error s!"unexpected argument \x27{arg}\x27 found"
    else readArgs { p with positional := p.positional ++ [arg] } rest

/-- The request the arguments make, given the values of `TML_TEMPLATE_DIR` and `TML_SCHEMA`;
an empty variable counts as unset. -/
def request (envTemplateDir envSchema : Option String) (args : List String) :
    Except String Request := do
  let p ← readArgs {} args
  if p.help then return .help
  if p.version then return .version
  let nonEmpty (v : Option String) : Option String :=
    v.bind fun s => if s.isEmpty then none else some s
  let schema := match p.schema with
    | some s => some s
    | none => nonEmpty envSchema
  let options (course outDir : String) (templateDir : Option String) : Options :=
    { course := course, outDir := outDir, templateDir := templateDir, schema := schema,
      validate := p.validate, clean := p.clean, seed := p.seed }
  match p.positional with
  | [course, outDir] => return .run (options course outDir (nonEmpty envTemplateDir))
  | [course, outDir, dir] => return .run (options course outDir (some dir))
  | [] => throw "the following required arguments were not provided:\n  <TML>\n  <OUT_DIR>"
  | [_] => throw "the following required arguments were not provided:\n  <OUT_DIR>"
  | _ :: _ :: _ :: extra :: _ => throw s!"unexpected argument \x27{extra}\x27 found"

def errorReport (chain : List String) : String :=
  match chain with
  | [] => "Error: \n"
  | [e] => s!"Error: {e}\n"
  | [e, cause] => s!"Error: {e}\n\nCaused by:\n    {cause}\n"
  | e :: causes =>
    let lines := causes.zipIdx.map fun (c, i) =>
      String.ofList (List.replicate (5 - min 5 (toString i).length) ' ') ++ s!"{i}: {c}"
    s!"Error: {e}\n\nCaused by:\n" ++ "\n".intercalate lines ++ "\n"

/-- What a successful build prints: the number of lesson pages and where the index and the
manifest are. -/
def summaryText (lessons : Nat) (outDir index manifest : String) : String :=
  s!"created \x1b[1m{lessons}\x1b[0m lesson pages in \x1b[1m{outDir}\x1b[0m\n" ++
    s!"index: {index}\nmanifest: {manifest}\n"

end Courseware.Command
