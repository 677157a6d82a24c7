/-!
# A store of files

A `FileStore` is a directory tree of files (bytes) and directories, addressed by paths with
`/` between components: relative paths from the working directory, and paths starting with
`/` from the top of the tree, which is kept under the component `/`. `.` and empty components
name the directory they stand in, `..` its parent; a relative path that climbs above the
working directory names nothing, and `..` at the top stays there. A path ending in `/` names
a directory only.

The operations follow the system's rules: reading a directory or a missing file fails, a
path that passes through a file fails with `notADirectory`, writing needs the parent
directory, and `createDirs` makes every missing directory of a path.
-/

/-!
## File errors

The errors a file operation can meet, with the texts the operating system gives them.
-/

namespace Courseware

/-- Why a file operation failed. -/
inductive IoError where
  /-- No such file or directory. -/
  | notFound
  /-- Something already stands where a directory was to be made. -/
  | exists
  /-- A path goes through a file as if it were a directory. -/
  | notADirectory
  /-- A directory where a file was expected. -/
  | isADirectory
  /-- A text file whose bytes are not UTF-8. -/
  | invalidUtf8
  deriving Repr, BEq, DecidableEq

def IoError.message : IoError → String
  | .notFound => "No such file or directory (os error 2)"
  | .exists => "File exists (os error 17)"
  | .notADirectory => "Not a directory (os error 20)"
  | .isADirectory => "Is a directory (os error 21)"
  | .invalidUtf8 => "stream did not contain valid UTF-8"

end Courseware

/-!
## UTF-8 bytes

`Utf8.decode` reads bytes as UTF-8 text and replaces each malformed part with U+FFFD: a byte
that cannot start a character, or the longest start of a character that is not followed by
what it needs, becomes one replacement character. `Utf8.valid` tells whether no replacement
was needed.
-/

namespace Courseware.Utf8

/-- A continuation byte: `10xxxxxx`. -/
def isCont (b : UInt8) : Bool := 0x80 ≤ b && b ≤ 0xBF

/-- The range the second byte of a character must lie in, given its first byte, and how
many bytes the character has; `none` for a byte that cannot start a character of several
bytes. -/
def lead (b : UInt8) : Option (Nat × UInt8 × UInt8) :=
  if 0xC2 ≤ b && b ≤ 0xDF then some (2, 0x80, 0xBF)
  else if b == 0xE0 then some (3, 0xA0, 0xBF)
  else if 0xE1 ≤ b && b ≤ 0xEC then some (3, 0x80, 0xBF)
  else if b == 0xED then some (3, 0x80, 0x9F)
  else if 0xEE ≤ b && b ≤ 0xEF then some (3, 0x80, 0xBF)
  else if b == 0xF0 then some (4, 0x90, 0xBF)
  else if 0xF1 ≤ b && b ≤ 0xF3 then some (4, 0x80, 0xBF)
  else if b == 0xF4 then some (4, 0x80, 0x8F)
  else none

def codePoint (bs : List UInt8) : Nat :=
  match bs with
  | [b0, b1] => (b0.toNat % 0x20) * 0x40 + b1.toNat % 0x40
  | [b0, b1, b2] => ((b0.toNat % 0x10) * 0x40 + b1.toNat % 0x40) * 0x40 + b2.toNat % 0x40
  | [b0, b1, b2, b3] =>
    (((b0.toNat % 0x08) * 0x40 + b1.toNat % 0x40) * 0x40 + b2.toNat % 0x40) * 0x40
      + b3.toNat % 0x40
  | _ => 0

/-- How many bytes after the first continue a character of `width` bytes whose second byte
must lie in `[lo, hi]`: the valid prefix of the tail. -/
def validTail (width : Nat) (lo hi : UInt8) (tail : List UInt8) : Nat :=
  match tail with
  | b1 :: rest =>
    if lo ≤ b1 && b1 ≤ hi then
      1 + ((rest.take (width - 2)).takeWhile isCont).length
    else 0
  | [] => 0

/-- Decodes bytes, one replacement character for each malformed part. -/
def decodeChars : List UInt8 → List Char
  | [] => []
  | b :: bs =>
    if b < 0x80 then Char.ofNat b.toNat :: decodeChars bs
    else
      match lead b with
      | some (width, lo, hi) =>
        let n := validTail width lo hi bs
        if n + 1 = width then
          Char.ofNat (codePoint (b :: bs.take n)) :: decodeChars (bs.drop n)
        else '�' :: decodeChars (bs.drop n)
      | none => '�' :: decodeChars bs
termination_by bs => bs.length
decreasing_by all_goals (simp only [List.length_drop, List.length_cons]; omega)

def decode (bs : List UInt8) : String := String.ofList (decodeChars bs)

def valid (bs : List UInt8) : Bool := (String.fromUTF8? (ByteArray.mk bs.toArray)).isSome

def encode (s : String) : List UInt8 := s.toUTF8.toList

end Courseware.Utf8

namespace Courseware

/-- What stands at a path. -/
inductive Entry where
  | file (bytes : List UInt8)
  | dir
  deriving Repr, BEq

/-- Files and directories by their components. The working directory and the top of the
tree are always directories and are not listed. -/
structure FileStore where
  entries : List (List String × Entry) := []
  deriving Repr

namespace FileStore

/-- Joins a relative path to a base: a path starting with `/` stands alone, an empty base adds
nothing, and a `/` is put between them unless the base ends with one. -/
def join (base rel : String) : String :=
  if rel.startsWith "/" || base.isEmpty then rel
  else if base.endsWith "/" then base ++ rel
  else base ++ "/" ++ rel

/-- A path read component by component: where it ends, whether it must name a directory,
and the directories it enters by name and then leaves again with `..`, which must exist for
the path to be followed. -/
structure Route where
  comps : List String
  mustBeDir : Bool
  passed : List (List String)

/-- The route of a path; none for a relative path that climbs above the working directory.
A path from the top starts with the component `/`, and `..` at the top stays there. -/
def resolve (path : String) : Option Route :=
  let parts := (path.toList.splitOn '/').map String.ofList
  let start := if path.startsWith "/" then ["/"] else []
  let mustBeDir := match parts.getLast? with
    | some last => last == "" || last == "." || last == ".."
    | none => false
  let walked := parts.foldl (fun (acc : Option (List String × List (List String))) part =>
    acc.bind fun (cs, passed) =>
      if part == "" || part == "." then some (cs, passed)
      else if part == ".." then
        if cs == start then (if start.isEmpty then none else some (cs, passed))
        else some (cs.dropLast, passed ++ [cs])
      else some (cs ++ [part], passed)) (some (start, []))
  walked.map fun (cs, passed) => ⟨cs, mustBeDir && cs != start, passed⟩

/-- The components name the working directory or the top of the tree. -/
def isBase (cs : List String) : Bool := cs.isEmpty || cs == ["/"]

def entryAt (fs : FileStore) (cs : List String) : Option Entry :=
  if isBase cs then some .dir else (fs.entries.find? (·.1 == cs)).map (·.2)

/-- What stands at components, or why nothing can: every proper prefix must be a directory. -/
def lookup (fs : FileStore) (cs : List String) : Except IoError Entry :=
  let throughFile := (List.range cs.length).any fun i =>
    match fs.entryAt (cs.take i) with
    | some (.file _) => true
    | _ => false
  if throughFile then .error .notADirectory
  else match fs.entryAt cs with
    | some e => .ok e
    | none => .error .notFound

/-- The components a path leads to, and whether it must name a directory, once every
directory it steps back out of is found to be one. -/
def locate (fs : FileStore) (path : String) : Except IoError (List String × Bool) :=
  match resolve path with
  | none => .error .notFound
  | some r =>
    match r.passed.findSome? fun d =>
        match fs.lookup d with
        | .ok .dir => none
        | .ok (.file _) => some IoError.notADirectory
        | .error e => some e with
    | some e => .error e
    | none => .ok (r.comps, r.mustBeDir)

def stat (fs : FileStore) (path : String) : Except IoError Entry := do
  let (cs, mustBeDir) ← fs.locate path
  match fs.lookup cs with
  | .ok (.file b) => if mustBeDir then .error .notADirectory else .ok (.file b)
  | r => r

def isFile (fs : FileStore) (path : String) : Bool :=
  match fs.stat path with
  | .ok (.file _) => true
  | _ => false

def isDir (fs : FileStore) (path : String) : Bool :=
  match fs.stat path with
  | .ok .dir => true
  | _ => false

def readBytes (fs : FileStore) (path : String) : Except IoError (List UInt8) :=
  match fs.stat path with
  | .ok (.file b) => .ok b
  | .ok .dir => .error .isADirectory
  | .error e => .error e

def readText (fs : FileStore) (path : String) : Except IoError String := do
  let bytes ← fs.readBytes path
  match String.fromUTF8? (ByteArray.mk bytes.toArray) with
  | some s => pure s
  | none => throw .invalidUtf8

/-- Sets the entry at components, replacing what stood there. -/
def put (fs : FileStore) (cs : List String) (e : Entry) : FileStore :=
  ⟨(fs.entries.filter (·.1 != cs)) ++ [(cs, e)]⟩

def write (fs : FileStore) (path : String) (bytes : List UInt8) : Except IoError FileStore := do
  let (cs, mustBeDir) ← fs.locate path
  if isBase cs then throw .isADirectory
  match fs.lookup cs.dropLast with
  | .error e => throw e
  | .ok (.file _) => throw .notADirectory
  | .ok .dir =>
    match fs.entryAt cs with
    | some .dir => throw .isADirectory
    | _ => if mustBeDir then throw .isADirectory else pure (fs.put cs (.file bytes))

def writeText (fs : FileStore) (path : String) (text : String) : Except IoError FileStore :=
  fs.write path (Utf8.encode text)

/-- Makes the directory at components and every missing one above it. A file at the path
itself is `exists`; a file above it is `notADirectory`. -/
def createDirsAt (fs : FileStore) (cs : List String) : Except IoError FileStore :=
  (List.range cs.length).foldlM (fun (fs : FileStore) i =>
    let front := cs.take (i + 1)
    match fs.entryAt front with
    | some .dir => .ok fs
    | some (.file _) => .error (if i + 1 == cs.length then .exists else .notADirectory)
    | none => .ok (fs.put front .dir)) fs

/-- Makes a directory and every missing one above it. -/
def createDirs (fs : FileStore) (path : String) : Except IoError FileStore :=
  match resolve path with
  | none => .error .notFound
  | some r => fs.createDirsAt r.comps

/-- Puts an entry at a path, making the directories above it first. -/
def place (fs : FileStore) (path : String) (e : Entry) : Except IoError FileStore :=
  match resolve path with
  | none => .error .notFound
  | some r =>
    match e with
    | .dir => fs.createDirsAt r.comps
    | .file bytes => do
      let fs ← fs.createDirsAt r.comps.dropLast
      fs.write path bytes

/-- Removes what stands at a path, with everything below it. -/
def remove (fs : FileStore) (path : String) : FileStore :=
  match fs.locate path with
  | .error _ => fs
  | .ok (cs, _) =>
    if isBase cs then fs else ⟨fs.entries.filter fun (k, _) => !cs.isPrefixOf k⟩

/-- The names directly inside a directory, in byte order. -/
def list (fs : FileStore) (path : String) : List String :=
  match fs.locate path with
  | .error _ => []
  | .ok (cs, _) =>
    let names := fs.entries.filterMap fun (k, _) =>
      if k.length == cs.length + 1 && cs.isPrefixOf k then k.getLast? else none
    names.mergeSort fun a b => decide (a ≤ b)

end FileStore

end Courseware
