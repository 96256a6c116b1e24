/-! # Files

The files a run of the command line may read, as a snapshot: each path names a file with its
bytes or a directory. Paths are read as the operating system reads them: relative ones from the
working directory, `.` dropped, `..` stepping up. A directory is any path that is a proper
prefix of an entry, or is listed as one.

Reading reports the operating system's errors in its words, e.g.
`No such file or directory (os error 2)`.
-/

namespace ChatStream.Cli

inductive Entry where
  | file (bytes : ByteArray)
  | directory

inductive FileError where
  | notFound
  | isDirectory
  | notDirectory
  deriving Repr, DecidableEq

/-- The operating system's text of an error. -/
def FileError.message : FileError → String
  | .notFound => "No such file or directory (os error 2)"
  | .isDirectory => "Is a directory (os error 21)"
  | .notDirectory => "Not a directory (os error 20)"

def directorySize : Nat := 4096

structure Files where
  /-- The working directory, absolute. -/
  cwd : String := "/"
  /-- Entries by absolute path. -/
  entries : List (String × Entry) := []

def components (path : String) : List String := (path.splitOn "/").filter (!·.isEmpty)

/-- Resolve `.` and `..` in components. -/
def resolveDots (cs : List String) : List String :=
  (cs.foldl (fun acc c => if c == "." then acc else if c == ".." then acc.drop 1 else c :: acc) []).reverse

namespace Files

/-- The absolute components of a path. -/
def absolute (fs : Files) (path : String) : List String :=
  resolveDots (if path.startsWith "/" then components path else components fs.cwd ++ components path)

/-- What the components name, if anything. -/
def find (fs : Files) (target : List String) : Option Entry :=
  match fs.entries.find? fun (p, _) => resolveDots (components p) == target with
  | some (_, e) => some e
  | none =>
    let isParent := fs.entries.any fun (p, _) =>
      let cs := resolveDots (components p)
      cs.length > target.length && cs.take target.length == target
    if isParent || target.isEmpty || (resolveDots (components fs.cwd)).take target.length == target
    then some .directory else none

/-- Follow the components of a path from `base`, as the operating system does: `.` stays, `..`
steps up (the root is its own parent), a name steps into a directory. A file may only be the
last component, and not when the path ends with `/`. -/
def walk (fs : Files) (trailingSlash : Bool) (base : List String) : List String → Except FileError Entry
  | [] => .ok .directory
  | "." :: rest => fs.walk trailingSlash base rest
  | ".." :: rest => fs.walk trailingSlash base.dropLast rest
  | name :: rest =>
    let here := base ++ [name]
    match fs.find here with
    | some .directory => fs.walk trailingSlash here rest
    | some (.file b) =>
      if rest.isEmpty && !trailingSlash then .ok (.file b) else .error .notDirectory
    | none => .error .notFound

/-- What a path names, or why it cannot be reached: a missing component, or a file on the way
or before a final `/`. An empty path names nothing. -/
def lookup (fs : Files) (path : String) : Except FileError Entry :=
  if path.isEmpty then .error .notFound
  else
    let start := if path.startsWith "/" then [] else resolveDots (components fs.cwd)
    fs.walk (path.endsWith "/") start (components path)

def size (fs : Files) (path : String) : Except FileError Nat :=
  (fs.lookup path).map fun
    | .file b => b.size
    | .directory => directorySize

def read (fs : Files) (path : String) : Except FileError ByteArray :=
  match fs.lookup path with
  | .ok (.file b) => .ok b
  | .ok .directory => .error .isDirectory
  | .error e => .error e

/-- The text of a file, if it is one and holds UTF-8. -/
def readText (fs : Files) (path : String) : Option String :=
  match fs.read path with
  | .ok b => String.fromUTF8? b
  | .error _ => none

end Files

end ChatStream.Cli
