import PageExtract.Charset.Utf8
import PageExtract.Text.Split

/-!
# Folders

A *folder* holds files and further folders, each under the path that leads to
it from here.  Two kinds of path lead out: one that starts with a slash, and one
that goes up by `..` more often than down.  What lies out there is not known
unless it was written, so it holds nothing else.

A path is followed name by name.  Every name but the last must lead to a folder,
and so must the last if a slash follows it.  An empty name and `.` stay where
they are.

Writing makes a file or replaces one.  If it fails, nothing has changed.
-/

namespace PageExtract

/-- Why a file cannot be read or written. -/
inductive FileFault where
  /-- There is nothing at the path. -/
  | missing
  /-- A folder is where a file is wanted. -/
  | isFolder
  /-- A file is where a folder is wanted. -/
  | notFolder
  /-- A name or the path is too long. -/
  | nameTooLong
  /-- The content is no UTF-8. -/
  | notText
  /-- The path holds the character U+0000. -/
  | nulInPath
  deriving DecidableEq, Repr

namespace FileFault

/-- A fault in words. -/
def message : FileFault → String
  | missing => "No such file or directory (os error 2)"
  | isFolder => "Is a directory (os error 21)"
  | notFolder => "Not a directory (os error 20)"
  | nameTooLong => "File name too long (os error 36)"
  | notText => "stream did not contain valid UTF-8"
  | nulInPath => "file name contained an unexpected NUL byte"

end FileFault

/-- The text that a file with some content holds. -/
def fileText (content : List UInt8) : Except FileFault String :=
  match Charset.Utf8.decode? content with
  | some cs => .ok (String.ofList cs)
  | none => .error .notText

/-- A way to read the text in the file at a path. -/
abbrev TextReader := String → Except FileFault String

/-- What stands at a path. -/
inductive FolderEntry where
  /-- A file with its content. -/
  | file (content : List UInt8)
  /-- A folder. -/
  | folder
  deriving DecidableEq, Repr

/-- Files and folders by the names that lead to them. -/
structure Folder where
  /-- The entries. -/
  entries : List (List String × FolderEntry)
  deriving DecidableEq, Repr

namespace Folder

/-- The folder that holds nothing. -/
def empty : Folder := ⟨[]⟩

/-- The greatest number of bytes in a name. -/
def maxNameBytes : Nat := 255

/-- The greatest number of bytes in a path. -/
def maxPathBytes : Nat := 4095

/-- Where a path starts. -/
def origin (path : String) : List String :=
  if path.toList.head? = some '/' then ["/"] else []

/-- The names of a path, after a check of the path as a whole. -/
def names (path : String) : Except FileFault (List String) :=
  if path.toList.contains '\x00' then .error .nulInPath
  else if path.isEmpty then .error .missing
  else if maxPathBytes < path.utf8ByteSize then .error .nameTooLong
  else .ok ((Text.splitAt '/' path.toList).map String.ofList)

/-- Whether a place is a starting place or above one. -/
def isOrigin (place : List String) : Bool :=
  place = ["/"] || place.all (· = "..")

/-- What stands at a place. -/
def entry? (f : Folder) (place : List String) : Option FolderEntry :=
  if isOrigin place then some .folder else f.entries.lookup place

/-- The place that a name leads to. -/
def enter (place : List String) (name : String) : List String :=
  if name = "" ∨ name = "." then place
  else if name = ".." then
    if place = ["/"] then place
    else if isOrigin place then place ++ [".."]
    else place.dropLast
  else place ++ [name]

/-- Fails unless a folder stands at a place. -/
def needFolder (f : Folder) (place : List String) : Except FileFault Unit :=
  match f.entry? place with
  | some .folder => .ok ()
  | some (.file _) => .error .notFolder
  | none => .error .missing

/-- The place that some names lead to. -/
def follow (f : Folder) (place : List String) : List String → Except FileFault (List String)
  | [] => .ok place
  | name :: rest => do
      f.needFolder place
      if maxNameBytes < name.utf8ByteSize then throw .nameTooLong
      let next := enter place name
      match f.entry? next with
      | none => throw .missing
      | some _ => f.follow next rest

/-- The content of the file at a path. -/
def read (f : Folder) (path : String) : Except FileFault (List UInt8) := do
  let place ← f.follow (origin path) (← names path)
  match f.entry? place with
  | some (.file content) => return content
  | some .folder => throw .isFolder
  | none => throw .missing

/-- The text in the file at a path. -/
def readText (f : Folder) (path : String) : Except FileFault String := do
  fileText (← f.read path)

/-- A list of entries with one of them replaced or added. -/
def put (place : List String) (entry : FolderEntry) :
    List (List String × FolderEntry) → List (List String × FolderEntry)
  | [] => [(place, entry)]
  | (p, e) :: rest => if p = place then (p, entry) :: rest else (p, e) :: put place entry rest

/-- The folder with an entry at a place. -/
def insert (f : Folder) (place : List String) (entry : FolderEntry) : Folder :=
  ⟨put place entry f.entries⟩

/-- Writes a file at a path. -/
def write (f : Folder) (path : String) (content : List UInt8) : Except FileFault Folder := do
  let all := (← names path).reverse
  let slashes := all.takeWhile (· = "")
  match all.dropWhile (· = "") with
  | [] => throw .isFolder
  | name :: before => do
      let place ← f.follow (origin path) before.reverse
      f.needFolder place
      if !slashes.isEmpty ∨ name = "." ∨ name = ".." then throw .isFolder
      if maxNameBytes < name.utf8ByteSize then throw .nameTooLong
      let place := enter place name
      match f.entry? place with
      | some .folder => throw .isFolder
      | _ => return f.insert place (.file content)

end Folder

end PageExtract
