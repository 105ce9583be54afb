import FacetSearch.Text.Split
import FacetSearch.Text.Utf8

/-!
# Reading files

What reading a file by its path leads to is a function of the path; `FileTree.read` is that
function for a given tree of files below the working directory.
-/

namespace FacetSearch

open FacetSearch.Text

/-- Why a file could not be read. -/
inductive FileError where
  | notFound
  | notAllowed
  | notDirectory
  | isDirectory
  | nameTooLong
  | nulInName
  /-- The bytes are not a text. -/
  | notText
  /-- Another error of the system, with its number. -/
  | other (number : Nat)
deriving DecidableEq, Repr, Inhabited

/-- The wording of a file error. -/
def FileError.message : FileError → String
  | notFound => "No such file or directory (os error 2)"
  | notAllowed => "Permission denied (os error 13)"
  | notDirectory => "Not a directory (os error 20)"
  | isDirectory => "Is a directory (os error 21)"
  | nameTooLong => "File name too long (os error 36)"
  | nulInName => "file name contained an unexpected NUL byte"
  | notText => "stream did not contain valid UTF-8"
  | other number => "Input/output error (os error " ++ toString number ++ ")"

/-- The file error that the system has a number for. -/
def FileError.ofNumber : Nat → FileError
  | 2 => notFound
  | 13 => notAllowed
  | 20 => notDirectory
  | 21 => isDirectory
  | 36 => nameTooLong
  | number => other number

/-- The bytes of the file at a path. -/
abbrev Files := String → Except FileError (List UInt8)

/-- The text in the bytes that were read. -/
def textOfBytes : Except FileError (List UInt8) → Except FileError String
  | .error e => .error e
  | .ok bytes =>
    match Utf8.decode? bytes with
    | some text => .ok text
    | none => .error .notText

/-- The text of the file at a path. -/
def Files.readText (files : Files) (path : String) : Except FileError String :=
  textOfBytes (files path)

/-- The files and empty directories below the working directory, each by
the names on the way to it. -/
structure FileTree where
  entries : List (List String × Option (List UInt8))
deriving DecidableEq, Repr, Inhabited

namespace FileTree

/-- The names of a path. -/
def names (path : String) : List String :=
  (pieces (· == '/') path.toList).map String.ofList

/-- The tree of files given by their paths; a path without bytes is a directory. -/
def ofPaths (files : List (String × Option (List UInt8))) : FileTree :=
  ⟨files.map fun (path, bytes) => ((names path).filter fun n => !n.isEmpty && n != ".", bytes)⟩

/-- What stands at a place. -/
inductive Kind where
  | missing
  | directory
  | file (bytes : List UInt8)

/-- What stands at the end of these names. -/
def kind (t : FileTree) (place : List String) : Kind :=
  match t.entries.find? fun e => e.1 == place with
  | some (_, some bytes) => .file bytes
  | some (_, none) => .directory
  | none =>
    if place.isEmpty || t.entries.any fun e => place.isPrefixOf e.1 then .directory else .missing

/-- The most bytes that a name may have. -/
def maxName : Nat := 255

/-- The number of bytes from which on a path is too long. -/
def maxPath : Nat := 4096

/-- Follows names from a directory.  `outside` counts the levels above the working directory, of
which nothing is known but that they are directories. -/
def walk (t : FileTree) (outside : Nat) (place : List String) :
    List String → Except FileError (List UInt8)
  | [] => .error .isDirectory
  | n :: r =>
    if n.isEmpty || n == "." then walk t outside place r
    else if n == ".." then
      if outside = 0 ∧ place ≠ [] then walk t 0 place.dropLast r else walk t (outside + 1) [] r
    else if maxName < n.utf8ByteSize then .error .nameTooLong
    else if outside ≠ 0 then .error .notFound
    else match t.kind (place ++ [n]) with
      | .missing => .error .notFound
      | .directory => walk t 0 (place ++ [n]) r
      | .file bytes => if r.isEmpty then .ok bytes else .error .notDirectory

/-- Reads the file at a path. -/
def read (t : FileTree) : Files := fun path =>
  if path.toList.contains '\x00' then .error .nulInName
  else if path.isEmpty then .error .notFound
  else if maxPath ≤ path.utf8ByteSize then .error .nameTooLong
  else t.walk (if path.toList.head? = some '/' then 1 else 0) [] (names path)

end FileTree

end FacetSearch
