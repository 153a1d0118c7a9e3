import BarTemplate.Disk.Basic

/-!
# Trees of files

A disk given by its files: a working directory with files and directories below it. A path is followed part by part, so
that every part but the last has to be a directory, also before a part of two points. Above the working directory
nothing is known to exist.
-/

namespace BarTemplate

/-- The files below a working directory by the names on the way to them, and directories that may hold none. -/
structure FileTree where
  files : List (List Text × List UInt8) := []
  directories : List (List Text) := []

namespace FileTree

/-- Where a path leads to: a directory or a place in one where nothing is, either below the working directory or
outside; or a file. -/
inductive Place where
  | directory (names : Option (List Text))
  | vacant (names : Option (List Text))
  | file (names : List Text) (content : List UInt8)

/-- The content of the file at a place. -/
def file? (t : FileTree) (names : List Text) : Option (List UInt8) :=
  (t.files.find? (·.1 = names)).map (·.2)

/-- There is a directory at a place: the working directory, one that is listed, or one on the way to something. -/
def isDirectory (t : FileTree) (names : List Text) : Bool :=
  names.isEmpty || t.directories.any (names.isPrefixOf ·) ||
    t.files.any fun f => names.isPrefixOf f.1 && f.1 ≠ names

/-- The most bytes of a name. -/
def maxName : Nat := 255

/-- The most bytes of a path. -/
def maxPath : Nat := 4095

/-- The number of bytes of a text. -/
def byteLength (t : Text) : Nat :=
  (String.ofList t).utf8ByteSize

/-- Follows one part of a path. -/
def follow (t : FileTree) (place : Place) (part : Text) : Except DiskFault Place :=
  match place with
  | .file _ _ => .error .notDirectory
  | .vacant _ => .error .notFound
  | .directory names =>
    if part = ['.', '.'] then
      match names with
      | none | some [] => .ok (.directory none)
      | some names => .ok (.directory (some names.dropLast))
    else if maxName < byteLength part then .error .nameTooLong
    else
      match names with
      | none => .ok (.vacant none)
      | some names =>
        let inner := names ++ [part]
        match t.file? inner with
        | some content => .ok (.file inner content)
        | none => .ok (if t.isDirectory inner then .directory (some inner) else .vacant (some inner))

/-- Follows a path from the working directory, or from outside if it has a root. -/
def locate (t : FileTree) (p : Path) : Except DiskFault Place :=
  if p.shown.contains '\x00' then .error .nullByte
  else if maxPath < byteLength p.shown then .error .nameTooLong
  else p.parts.foldlM t.follow (.directory (if p.root.isEmpty then some [] else none))

/-- What is seen of the tree. -/
def disk (t : FileTree) : Disk where
  read p :=
    match t.locate p with
    | .error f => .error f
    | .ok (.directory _) => .error .isDirectory
    | .ok (.vacant _) => .error .notFound
    | .ok (.file _ content) => .ok content
  writeFault p :=
    match t.locate p with
    | .error f => some f
    | .ok (.directory _) => some .isDirectory
    | .ok _ => none

/-- The name of the file below the working directory that a text written to a path makes new or changes. -/
def changed? (t : FileTree) (p : Path) (content : Text) : Option Text :=
  match t.locate p with
  | .ok (.vacant (some names)) => some (Text.joinWith ['/'] names)
  | .ok (.file names old) =>
    match Utf8.decode old with
    | .ok same => if same = content then none else some (Text.joinWith ['/'] names)
    | .error _ => some (Text.joinWith ['/'] names)
  | _ => none

end FileTree

end BarTemplate
