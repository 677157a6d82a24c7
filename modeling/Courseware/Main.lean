import Courseware.Command
import Courseware.Site.Build

/-!
# The program

Reads the arguments, takes from the disk what the build will look at (the course document,
the schema, every template the build may ask for, and what stands on the way to the output
directory and its pages), builds the site in memory, and writes the pages that the build
wrote back to the disk, also those written before a failure. Without `--seed` the shuffles are
seeded at random.
-/

namespace Courseware.Command

def probe (path : String) : IO (Option Entry) := do
  try
    return some (.file (← IO.FS.readBinFile path).toList)
  catch e =>
    match e with
    | .noFileOrDirectory .. => return none
    | _ => return some .dir

/-- The store with what stands at `path` on the disk added. -/
def snapshot (fs : FileStore) (path : String) : IO FileStore := do
  match ← probe path with
  | some e =>
    match fs.place path e with
    | .ok fs => return fs
    | .error _ => return fs
  | none => return fs

def includedBy (fs : FileStore) (path builtinName : String) : List String :=
  let texts := (match fs.readText path with
    | .ok t => [t]
    | .error _ => []) ++ (Template.builtin? builtinName).toList
  texts.flatMap Template.partialNames

partial def loadPartials (dir : String) (fs : FileStore) (seen : List String) :
    List String → IO FileStore
  | [] => return fs
  | name :: rest => do
    if seen.contains name then loadPartials dir fs seen rest
    else
      let file := Template.partialFile name
      let path := FileStore.join dir (FileStore.join "partials" file)
      let fs ← snapshot fs path
      loadPartials dir fs (name :: seen) (rest ++ includedBy fs path ("partials/" ++ file))

/-- Takes the templates of the given names, and the partials they include, from the template
directory. -/
def loadTemplates (dir : String) (fs : FileStore) (names : List String) : IO FileStore := do
  let fs ← names.foldlM (fun fs name => snapshot fs (FileStore.join dir name)) fs
  loadPartials dir fs [] (names.flatMap fun name => includedBy fs (FileStore.join dir name) name)

/-- The templates of the activities of a course that may have their own. -/
def activityTemplates (c : Course) : List String :=
  (c.lessons.flatMap (·.activities)).filterMap fun a =>
    let kind := a.normalizedType
    if Site.isTemplateWord kind then some s!"partials/activity_{kind}.html" else none

def pathsDown (path : String) : List String :=
  let parts := path.splitOn "/"
  (List.range parts.length).filterMap fun i =>
    let p := "/".intercalate (parts.take (i + 1))
    if p.isEmpty then none else some p

def runBuild (o : Options) : IO UInt32 := do
  if o.clean then
    if (← probe o.outDir).isSome then
      try IO.FS.removeDirAll o.outDir
      catch e =>
        IO.eprint (errorReport ["failed to clean output directory", toString e])
        return 1
  let templateDir ← match o.templateDir with
    | some d => pure (some d)
    | none => do
      if (← probe "templates") == some .dir then pure (some "templates") else pure none
  let fs ← snapshot {} o.course
  let fs ← match o.schema with
    | some s => snapshot fs s
    | none => pure fs
  let course := (Reader.parseFile fs o.course none).toOption
  let fs ← match templateDir with
    | some dir =>
      loadTemplates dir fs (Template.builtins.map (·.1) ++ (course.map activityTemplates).getD [])
    | none => pure fs
  let pages := ["index.html", "course.yaml"] ++
    ((course.map Course.lessons).getD []).map (·.fileName)
  let fs ← (pathsDown o.outDir ++ pages.map (FileStore.join o.outDir)).foldlM snapshot fs
  let validator : Option Validator :=
    if o.validate then some fun _ => Xmllint.validate { schema := o.schema } fs none else none
  let seed ← match o.seed with
    | some s => pure s
    | none => do
      let bytes ← IO.getRandomBytes 8
      pure (bytes.foldl (fun acc b => acc * 256 + b.toUInt64) 0)
  let (result, built) := Site.generate fs o.course o.outDir validator templateDir seed
  -- what the build wrote, also when it failed part way
  let written := (pages.map (FileStore.join o.outDir)).filter fun path =>
    (built.readBytes path).toOption != (fs.readBytes path).toOption
  try
    if built.isDir o.outDir then IO.FS.createDirAll o.outDir
    for path in written do
      match built.readBytes path with
      | .ok bytes => IO.FS.writeBinFile path (ByteArray.mk bytes.toArray)
      | .error _ => pure ()
  catch e =>
    IO.eprint (errorReport [s!"failed to generate site in {o.outDir}", toString e])
    return 1
  match result with
  | .error e =>
    IO.eprint (errorReport e.chain)
    return 1
  | .ok summary =>
    IO.print (summaryText summary.lessons.length o.outDir summary.index summary.manifest)
    return 0

end Courseware.Command

open Courseware.Command in
def main (args : List String) : IO UInt32 := do
  match request (← IO.getEnv "TML_TEMPLATE_DIR") (← IO.getEnv "TML_SCHEMA") args with
  | .error msg =>
    IO.eprint (usageError msg)
    return 2
  | .ok .help =>
    IO.print helpText
    return 0
  | .ok .version =>
    IO.print versionText
    return 0
  | .ok (.run o) => runBuild o
