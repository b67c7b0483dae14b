/-
This file defines file systems, as far as reading a file and appending to one go.
A place is reached from the root or from the working directory, going up and then
down again by names. What is above the working directory is not known but for the
fact that it consists of directories. A path is walked piece by piece, and a
piece can only be looked at in a directory, so the first piece that is missing or
that stands inside of a file decides about the fault.
-/

import Phrasebook.File.Path
import Phrasebook.Text.Bytes

namespace Phrasebook

/-! ### Faults -/

/-- Why a file cannot be used. -/
inductive FileFault
  | notFound
  /-- Something that is a file is used as a directory. -/
  | notDirectory
  /-- Something that is a directory is used as a file. -/
  | isDirectory
  /-- The path or one of its components is too long. -/
  | nameTooLong
  /-- The path holds the null character. -/
  | holdsNull
deriving DecidableEq, Repr

/-- The sentence that tells a person about the fault. -/
def FileFault.message : FileFault → String
  | .notFound => "No such file or directory (os error 2)"
  | .notDirectory => "Not a directory (os error 20)"
  | .isDirectory => "Is a directory (os error 21)"
  | .nameTooLong => "File name too long (os error 36)"
  | .holdsNull => "file name contained an unexpected NUL byte"

/-! ### Places -/

/-- Where the way to a place starts. -/
inductive Base
  | root
  /-- The working directory, or the one this many levels above it. -/
  | working (ups : Nat)
deriving DecidableEq, Repr

/-- A place of a file system. -/
structure Place where
  base : Base
  /-- The names on the way down, the last one first. -/
  names : List String
deriving DecidableEq, Repr

namespace Place

/-- The working directory. -/
def working : Place := ⟨.working 0, []⟩

/-- The place with a name in the directory at this place. -/
def child (place : Place) (name : String) : Place :=
  { place with names := name :: place.names }

/-- The directory that holds this place. The root holds itself. -/
def up (place : Place) : Place :=
  match place.names, place.base with
  | _ :: names, base => ⟨base, names⟩
  | [], .root => ⟨.root, []⟩
  | [], .working ups => ⟨.working (ups + 1), []⟩

end Place

/-! ### File systems -/

/-- What is at a place. -/
inductive FileEntry
  | directory
  | file (content : ByteArray)

/-- The directories and files that there are, besides those that every way starts from. -/
structure FileSystem where
  entries : List (Place × FileEntry) := []

namespace FileSystem

/-- What is at a place. -/
def entryAt? (files : FileSystem) (place : Place) : Option FileEntry :=
  if place.names.isEmpty then some .directory else files.entries.lookup place

/-- The entries with another one at a place. -/
def replace (place : Place) (entry : FileEntry) :
    List (Place × FileEntry) → List (Place × FileEntry)
  | [] => [(place, entry)]
  | (other, held) :: rest =>
    if other = place then (place, entry) :: rest
    else (other, held) :: replace place entry rest

/-- The file system with another entry at a place. -/
def set (files : FileSystem) (place : Place) (entry : FileEntry) : FileSystem :=
  ⟨replace place entry files.entries⟩

/-! ### The way to a place -/

/-- The greatest length of a name in bytes. -/
def maxNameBytes : Nat := 255

/-- The least length in bytes that no path may have. -/
def pathBytesLimit : Nat := 4096

/-- Accepts a place with a directory. -/
def checkDirectory (files : FileSystem) (place : Place) : Except FileFault Unit :=
  match files.entryAt? place with
  | none => .error .notFound
  | some (.file _) => .error .notDirectory
  | some .directory => .ok ()

/-- Goes on from a directory by one piece of a path. -/
def step (files : FileSystem) (place : Place) (piece : List Char) : Except FileFault Place :=
  match files.checkDirectory place with
  | .error fault => .error fault
  | .ok () =>
    if FilePath.isHollow piece then .ok place
    else if piece = ['.', '.'] then .ok place.up
    else if maxNameBytes < Text.byteLength piece then .error .nameTooLong
    else .ok (place.child (String.ofList piece))

/-- Goes on from a place by the pieces of a path. -/
def walk (files : FileSystem) (place : Place) : List (List Char) → Except FileFault Place
  | [] => .ok place
  | piece :: rest =>
    match files.step place piece with
    | .error fault => .error fault
    | .ok next => files.walk next rest

/-- Accepts a path that can be walked at all. -/
def checkPath (path : FilePath) : Except FileFault Unit :=
  if path.text.toList.contains '\x00' then .error .holdsNull
  else if path.text.isEmpty then .error .notFound
  else if pathBytesLimit ≤ path.text.utf8ByteSize then .error .nameTooLong
  else .ok ()

/-- Where the way to a path starts. -/
def start (path : FilePath) : Place :=
  if path.isAbsolute then ⟨.root, []⟩ else .working

/-- The pieces of a path between its slashes. -/
def pieces (path : FilePath) : List (List Char) :=
  path.text.toList.splitOn '/'

/-- What a path leads to. -/
def find (files : FileSystem) (path : FilePath) : Except FileFault FileEntry :=
  match checkPath path with
  | .error fault => .error fault
  | .ok () =>
    match files.walk (start path) (pieces path) with
    | .error fault => .error fault
    | .ok place =>
      match files.entryAt? place with
      | none => .error .notFound
      | some entry => .ok entry

/-! ### Reading -/

/-- The size of what a path leads to. A directory counts as empty. -/
def size (files : FileSystem) (path : FilePath) : Except FileFault Nat :=
  match files.find path with
  | .error fault => .error fault
  | .ok .directory => .ok 0
  | .ok (.file content) => .ok content.size

/-- The content of the file that a path leads to. -/
def read (files : FileSystem) (path : FilePath) : Except FileFault ByteArray :=
  match files.find path with
  | .error fault => .error fault
  | .ok .directory => .error .isDirectory
  | .ok (.file content) => .ok content

/-! ### Appending -/

/-- Opens the file with a name in a directory, and creates it if it is missing. -/
def openIn (files : FileSystem) (directory : Place) (name : List Char) :
    Except FileFault (Place × FileSystem) :=
  if maxNameBytes < Text.byteLength name then .error .nameTooLong
  else
    let place := directory.child (String.ofList name)
    match files.entryAt? place with
    | some .directory => .error .isDirectory
    | some (.file _) => .ok (place, files)
    | none => .ok (place, files.set place (.file ByteArray.empty))

/-- Opens the file that a path leads to for appending, and creates it if it is missing. A path
that ends with a slash or with dots can only lead to a directory. -/
def openToAppend (files : FileSystem) (path : FilePath) :
    Except FileFault (Place × FileSystem) :=
  match checkPath path with
  | .error fault => .error fault
  | .ok () =>
    let reversed := (pieces path).reverse
    match reversed.dropWhile List.isEmpty with
    | [] => .error .isDirectory
    | name :: above =>
      match files.walk (start path) above.reverse with
      | .error fault => .error fault
      | .ok directory =>
        match files.checkDirectory directory with
        | .error fault => .error fault
        | .ok () =>
          if reversed.head? = some [] ∨ name = ['.'] ∨ name = ['.', '.'] then
            .error .isDirectory
          else files.openIn directory name

/-- Appends a line to the file at a place. -/
def appendLine (files : FileSystem) (place : Place) (line : String) : FileSystem :=
  match files.entryAt? place with
  | some (.file content) => files.set place (.file (content ++ (line ++ "\n").toUTF8))
  | _ => files

/-! ### Setting up -/

/-- The file system with the directories on the way to a place. -/
def withDirectories (files : FileSystem) (base : Base) : List String → FileSystem
  | [] => files
  | name :: names =>
    (files.withDirectories base names).set ⟨base, name :: names⟩ .directory

/-- The file system with a file and the directories on the way to it. -/
def withFile (files : FileSystem) (place : Place) (content : ByteArray) : FileSystem :=
  (files.withDirectories place.base place.names.tail).set place (.file content)

end FileSystem

end Phrasebook
