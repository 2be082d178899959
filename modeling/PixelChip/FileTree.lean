import PixelChip.OsError

/-!
# Files by their paths

A tree of directories and files, in which every directory can be written to. A path is a list of
names between slashes. It is followed name by name from the root, or from the working directory,
and every name but the first leads on from a directory.
-/

namespace PixelChip

/-- What a place in the tree holds. -/
inductive FileEntry where
  | file (bytes : List UInt8)
  | directory
  deriving DecidableEq, Repr

/-- A tree of directories and files. -/
structure FileTree where
  /-- All but the root, each with the names on the way to it. -/
  entries : List (List String × FileEntry)
  /-- The names on the way to the directory where a path without a slash in front starts. -/
  workingDirectory : List String
  deriving DecidableEq, Repr

namespace FileTree

/-- The number of bytes that a path stays below. -/
def pathLimit : Nat := 4096

/-- The number of bytes of the longest name. -/
def longestName : Nat := 255

/-- What a place holds. -/
def entry? (tree : FileTree) (place : List String) : Option FileEntry :=
  if place.isEmpty then some .directory else tree.entries.lookup place

/-- The place where a name leads from a directory, whether the tree has it or not. Nothing and one
dot lead nowhere, two dots lead back, and the root leads back to itself. -/
def next (tree : FileTree) (place : List String) (name : String) :
    Except OsError (List String) :=
  match tree.entry? place with
  | none => .error .noSuchFile
  | some (.file _) => .error .notADirectory
  | some .directory =>
    if name = "" || name = "." then .ok place
    else if name = ".." then .ok place.dropLast
    else if longestName < name.utf8ByteSize then .error .fileNameTooLong
    else .ok (place ++ [name])

/-- Where a path starts and the names in it, if it can be a path at all. -/
def stepsOf (tree : FileTree) (path : String) : Except OsError (List String × List String) :=
  if path.isEmpty then .error .noSuchFile
  else if pathLimit ≤ path.utf8ByteSize then .error .fileNameTooLong
  else .ok (if path.startsWith "/" then [] else tree.workingDirectory, path.splitOn "/")

/-- The bytes of the file at the end of a path. -/
def read (tree : FileTree) (path : String) : Except OsError (List UInt8) := do
  let (start, names) ← tree.stepsOf path
  match tree.entry? (← names.foldlM tree.next start) with
  | none => throw .noSuchFile
  | some .directory => throw .isADirectory
  | some (.file bytes) => return bytes

/-- The place of a file that is created at the end of a path, or emptied if it exists. A path that
ends in a slash or in dots means a directory. -/
def create (tree : FileTree) (path : String) : Except OsError (List String) := do
  let (start, names) ← tree.stepsOf path
  match names.reverse.dropWhile (·.isEmpty) with
  | [] => throw .isADirectory
  | name :: parents =>
    let parent ← tree.next (← parents.reverse.foldlM tree.next start) "."
    if path.endsWith "/" || name = "." || name = ".." then throw .isADirectory
    let place ← tree.next parent name
    if tree.entry? place = some .directory then throw .isADirectory
    return place

end FileTree
end PixelChip
