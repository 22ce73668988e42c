/-
# ChipEight.Directory -- files by name

Programs are read from a directory and written to it. A directory is given by its files and its
subdirectories, each under its path from here; a path is the list of its names. A file in a
subdirectory makes that subdirectory known.

A name such as `a/b` is followed name by name. Empty names and `.` stay where they are, and `..`
goes up. Above the directory paths go on with `..`, and a name that starts with a slash is followed
from the root, whose path is the one empty name. A name can be refused for five reasons, and
`FileError.message` words each of them the way an operating system does.
-/
import ChipEight.Text.Quoted

namespace ChipEight

open Text

/-- The names on the way to a file. -/
abbrev Path := List Text

/-- Files and directories. -/
structure Directory where
  /-- The files with their bytes. -/
  files : List (Path × List UInt8)
  /-- The subdirectories. -/
  directories : List Path
  deriving DecidableEq, Repr

/-- Why a file is not read or written. -/
inductive FileReason where
  | missing
  | isDirectory
  | notDirectory
  | nameTooLong
  | badName
  deriving DecidableEq, Repr

/-- A name that is refused. -/
structure FileError where
  /-- The name as it was given. -/
  name : Text
  /-- What is wrong with it. -/
  reason : FileReason
  deriving DecidableEq, Repr

/-- The words for a refused name. -/
def FileError.message (e : FileError) : Text :=
  match e.reason with
  | .missing => "[Errno 2] No such file or directory: ".toList ++ quoted e.name
  | .isDirectory => "[Errno 21] Is a directory: ".toList ++ quoted e.name
  | .notDirectory => "[Errno 20] Not a directory: ".toList ++ quoted e.name
  | .nameTooLong => "[Errno 36] File name too long: ".toList ++ quoted e.name
  | .badName => "embedded null byte".toList

namespace Directory

/-! ## Paths -/

/-- The path of the root. -/
def root : Path := [[]]

/-- The name that goes up. -/
def upName : Text := ['.', '.']

/-- The path leads straight up, or nowhere. -/
def isAbove (path : Path) : Bool :=
  path.all (· == upName)

/-- The path one directory up. -/
def up (path : Path) : Path :=
  if path == root then root
  else if isAbove path then path ++ [upName]
  else path.dropLast

/-- The name stays or goes up, whatever there is. -/
def isStep (name : Text) : Bool :=
  name.isEmpty || name == ['.'] || name == upName

/-- The path behind a name, if the name is found. -/
def descend (path : Path) (name : Text) : Path :=
  if name == upName then up path
  else if isStep name then path
  else path ++ [name]

/-- Where a whole name starts, and the names to follow from there. -/
def route (name : Text) : Path × List Text :=
  match name with
  | '/' :: rest => (root, splitOn '/' rest)
  | _ => ([], splitOn '/' name)

/-- The path of a whole name. -/
def pathOf (name : Text) : Path :=
  (route name).2.foldl descend (route name).1

/-! ## Following names -/

/-- A place that names lead to. -/
inductive Place where
  /-- A directory. -/
  | directory (path : Path)
  /-- A file. -/
  | file (path : Path)
  /-- Nothing, in a directory where a file of this path could be made. -/
  | free (path : Path)
  deriving DecidableEq, Repr

/-- There is a directory at a path. -/
def hasDirectory (d : Directory) (path : Path) : Bool :=
  isAbove path || path == root || d.directories.contains path ||
    d.files.any fun f => f.1 != path && path.isPrefixOf f.1

/-- The longest name that a file may have, in bytes. -/
def nameLimit : Nat := 255

/-- The longest name that may be followed, in bytes. -/
def pathLimit : Nat := 4095

/-- The length of a name in bytes. -/
def byteLength (name : Text) : Nat :=
  name.foldr (fun c n => c.utf8Size + n) 0

/-- Follows one name. -/
def follow (d : Directory) (here : Place) (name : Text) : Except FileReason Place :=
  match here with
  | .file _ => .error .notDirectory
  | .free _ => .error .missing
  | .directory path =>
    let next := descend path name
    if isStep name then .ok (.directory next)
    else if nameLimit < byteLength name then .error .nameTooLong
    else if (d.files.lookup next).isSome then .ok (.file next)
    else if d.hasDirectory next then .ok (.directory next)
    else .ok (.free next)

/-- Follows names one after another. -/
def followAll (d : Directory) (here : Place) : List Text → Except FileReason Place
  | [] => .ok here
  | name :: names =>
    match d.follow here name with
    | .ok next => d.followAll next names
    | .error e => .error e

/-- A name that is refused before it is followed. -/
def refusal? (name : Text) : Option FileReason :=
  if name.contains (Char.ofNat 0) then some .badName
  else if pathLimit < byteLength name then some .nameTooLong
  else if name.isEmpty then some .missing
  else none

/-- The place that a whole name leads to. -/
def find (d : Directory) (name : Text) : Except FileReason Place :=
  match refusal? name with
  | some reason => .error reason
  | none => d.followAll (.directory (route name).1) (route name).2

/-! ## Reading and writing -/

/-- The bytes of a file. -/
def read (d : Directory) (name : Text) : Except FileError (List UInt8) :=
  match d.find name with
  | .error reason => .error ⟨name, reason⟩
  | .ok (.file path) =>
    match d.files.lookup path with
    | some bytes => .ok bytes
    | none => .error ⟨name, .missing⟩
  | .ok (.free _) => .error ⟨name, .missing⟩
  | .ok (.directory _) => .error ⟨name, .isDirectory⟩

/-- The files with one of them replaced or added. -/
def put (path : Path) (bytes : List UInt8) : List (Path × List UInt8) → List (Path × List UInt8)
  | [] => [(path, bytes)]
  | f :: fs => if f.1 = path then (path, bytes) :: fs else f :: put path bytes fs

/-- The name ends with a slash, so it has to be the name of a directory. -/
def isFolderName (name : Text) : Bool :=
  name.getLast? == some '/'

/-- The names on the way to the last name of all that is not empty. -/
def parentNames (name : Text) : List Text :=
  ((route name).2.reverse.dropWhile List.isEmpty).tail.reverse

/-- Why no file is made under a name that ends with a slash. Such a name is taken for a directory,
whatever it is and whatever is there, if only the directory around it is found. -/
def folderReason (d : Directory) (name : Text) : FileReason :=
  match d.followAll (.directory (route name).1) (parentNames name) with
  | .ok (.directory _) => .isDirectory
  | .ok (.file _) => .notDirectory
  | .ok (.free _) => .missing
  | .error reason => reason

/-- The place that a file is written to. -/
def target (d : Directory) (name : Text) : Except FileReason Path :=
  match d.find name with
  | .ok (.file path) | .ok (.free path) => .ok path
  | .ok (.directory _) => .error .isDirectory
  | .error reason =>
    if isFolderName name && (refusal? name).isNone then .error (d.folderReason name)
    else .error reason

/-- The directory after bytes were written to a file. -/
def write (d : Directory) (name : Text) (bytes : List UInt8) : Except FileError Directory :=
  match d.target name with
  | .ok path => .ok { d with files := put path bytes d.files }
  | .error reason => .error ⟨name, reason⟩

/-- The files that are new, or have other bytes than before. -/
def changes (before after : Directory) : List (Path × List UInt8) :=
  after.files.filter fun f => before.files.lookup f.1 != some f.2

end Directory

end ChipEight
