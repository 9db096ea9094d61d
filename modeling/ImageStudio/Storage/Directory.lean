import ImageStudio.Port.Error
import ImageStudio.Text.Quoted

/-!
# Storage · Directory: objects kept as files below a root directory

A directory store keeps each object in a file. The object's key is the file's path below
the root: `generations/images/a_raw.png` is the file `images/a_raw.png` in the directory
`generations`.

## Keys

A key must be a plain relative path. It may not be empty, may not start with `/` or with a
`.` segment, and may hold no `..` segment. Empty segments (`a//b`) and `.` segments after
the first (`a/./b`, `a/.`) are allowed, because they name nothing new.

## Files

The files are modelled as the system treats them. A path is walked from the root, one
segment at a time. Every segment but the last must be a directory: a missing one is
`notFound` and a file is `notADirectory`. A name longer than 255 bytes is `nameTooLong`.
A NUL character anywhere in a path is refused before the path is looked at.

* Storing an object first makes the directories above its file, each of them in turn: the
  missing ones are made, and one that is a file fails. Then the file is written, or made.
  A path that ends in `/` or `.`, or names a directory, cannot be written (`isADirectory`).
* Removing an object removes its file. A file that is not there is not an error. A
  directory cannot be removed this way.

Failures of the checks are validation errors. Failures of the files are unexpected
errors, and their messages quote the key or the directory as the system wrote them.
-/

namespace ImageStudio

/-- Why a file operation failed. -/
inductive FileError where
  | notFound
  | notADirectory
  | isADirectory
  | alreadyExists
  | nameTooLong
  | nulInName
  deriving Repr, DecidableEq, Inhabited

namespace FileError

/-- The system's message of a failure. -/
def message : FileError → String
  | .notFound => "No such file or directory (os error 2)"
  | .notADirectory => "Not a directory (os error 20)"
  | .isADirectory => "Is a directory (os error 21)"
  | .alreadyExists => "File exists (os error 17)"
  | .nameTooLong => "File name too long (os error 36)"
  | .nulInName => "file name contained an unexpected NUL byte"

end FileError

/-- What a path names. -/
inductive FileKind where
  | directory
  | file
  deriving Repr, DecidableEq, Inhabited

/-- The directories and files below a root directory, each by its path of names. -/
structure FileTree where
  /-- The directories below the root, in the order they were made. -/
  directories : List (List String) := []
  /-- The files with their contents. -/
  files : List (List String × String) := []
  deriving Repr, Inhabited

namespace FileTree

/-- What a path names; the empty path is the root. -/
def kind? (t : FileTree) (path : List String) : Option FileKind :=
  if path.isEmpty || t.directories.contains path then some .directory
  else if (t.files.lookup path).isSome then some .file
  else none

/-- Whether a path names a directory. -/
def isDirectory (t : FileTree) (path : List String) : Bool := t.kind? path == some .directory

/-- Whether a name is too long for a directory entry. -/
def tooLong (name : String) : Bool := name.utf8ByteSize > 255

/-- Whether a path holds a NUL character. -/
def hasNul (names : List String) : Bool := names.any fun n => n.toList.contains (Char.ofNat 0)

/-- Walks the directories `names` below `done`: each must be a directory. -/
def walkFrom (t : FileTree) (done : List String) : List String → Except FileError Unit
  | [] => .ok ()
  | n :: rest =>
    let here := done ++ [n]
    if tooLong n then .error .nameTooLong
    else match t.kind? here with
      | none => .error .notFound
      | some .file => .error .notADirectory
      | some .directory => walkFrom t here rest

/-- Walks the directories `names` from the root. -/
def walk (t : FileTree) (names : List String) : Except FileError Unit := walkFrom t [] names

/-- Makes one directory, whose parent must exist. -/
def makeDirectory (t : FileTree) (path : List String) : Except FileError FileTree :=
  if hasNul path then .error .nulInName
  else match path.getLast? with
    | none => .error .alreadyExists
    | some last => do
      t.walk path.dropLast
      if tooLong last then throw .nameTooLong
      if (t.kind? path).isSome then throw .alreadyExists
      pure { t with directories := t.directories ++ [path] }

/-- Makes a directory and the missing ones above it. The path is given from its last name
up; a directory that exists already is not an error, anything else in the way is. -/
def makeDirectoriesUp : List String → FileTree → Except FileError FileTree
  | [], t => .ok t
  | n :: up, t =>
    let path := (n :: up).reverse
    match t.makeDirectory path with
    | .ok t' => .ok t'
    | .error .notFound => do
      let t' ← makeDirectoriesUp up t
      match t'.makeDirectory path with
      | .ok t'' => pure t''
      | .error e => if t'.isDirectory path then pure t' else throw e
    | .error e => if t.isDirectory path then .ok t else .error e

/-- Makes a directory and the missing ones above it. -/
def makeDirectories (path : List String) (t : FileTree) : Except FileError FileTree :=
  makeDirectoriesUp path.reverse t

/-- The segments of a path that name something: without the empty ones. -/
def named (segments : List String) : List String := segments.filter (· ≠ "")

/-- The directories a path passes through, and its last segment. -/
def splitLast (segments : List String) : List String × String :=
  let names := named segments
  ((names.dropLast.filter (· ≠ ".")), names.getLast?.getD ".")

/-- Writes a file, making it when it is missing. `trailing` says the path ends in `/`. -/
def writeFile (t : FileTree) (segments : List String) (trailing : Bool) (content : String) :
    Except FileError FileTree :=
  if hasNul segments then .error .nulInName
  else do
    let (dirs, last) := splitLast segments
    t.walk dirs
    if last == "." || trailing then throw .isADirectory
    if tooLong last then throw .nameTooLong
    let path := dirs ++ [last]
    match t.kind? path with
    | some .directory => throw .isADirectory
    | _ => pure { t with files := (path, content) :: t.files.filter (·.1 != path) }

/-- Removes a file. `trailing` says the path ends in `/`. -/
def removeFile (t : FileTree) (segments : List String) (trailing : Bool) :
    Except FileError FileTree :=
  if hasNul segments then .error .nulInName
  else do
    let (dirs, last) := splitLast segments
    t.walk dirs
    if last == "." then throw .isADirectory
    if tooLong last then throw .nameTooLong
    let path := dirs ++ [last]
    match t.kind? path with
    | none => throw .notFound
    | some .directory => throw .isADirectory
    | some .file =>
      if trailing then throw .notADirectory
      else pure { t with files := t.files.filter (·.1 != path) }

/-- Every file with its content, by path. -/
def listing (t : FileTree) : List (String × String) :=
  (t.files.map fun (p, c) => ("/".intercalate p, c)).mergeSort fun a b => decide (a.1 ≤ b.1)

end FileTree

/-- A store of objects as files below a root directory (`LocalObjectStore`). -/
structure DirectoryStore where
  /-- The root directory as messages write it. -/
  root : String
  tree : FileTree := {}
  deriving Repr, Inhabited

namespace DirectoryStore

/-- The segments of a key between its `/` separators; the empty key is one empty segment. -/
def keySegments (key : String) : List String :=
  (key.toList.splitOn '/').map String.ofList

/-- Whether a key is a plain relative path: not empty, not starting at the root or with
`.`, and without `..`. -/
def isPlainKey (key : String) : Bool :=
  let segments := keySegments key
  !key.isEmpty && segments.head? != some "" && segments.head? != some "." &&
    !segments.contains ".."

/-- The segments of a key, or the validation error of a key that is not plain
(`LocalObjectStore::path_for`). -/
def segmentsOf (key : String) : Except PortError (List String) :=
  if isPlainKey key then .ok (keySegments key)
  else .error (.validation ("Invalid object key '" ++ key ++ "'"))

/-- Drops the trailing segments that name nothing: empty ones and `.`. -/
def trimTail (segments : List String) : List String :=
  (segments.reverse.dropWhile fun s => s == "" || s == ".").reverse

/-- The segments of the directory above a key's file. -/
def parentSegments (segments : List String) : List String :=
  trimTail (trimTail segments).dropLast

/-- A path as the system quotes it in a message. -/
def quotePath (path : String) : String :=
  "\"" ++ String.join (path.toList.map fun c =>
    if c = '\'' then "\\'" else Text.escapeForMessage c) ++ "\""

/-- Stores an object under a key (`LocalObjectStore::put_object`). -/
def put (s : DirectoryStore) (key content : String) : Except PortError DirectoryStore := do
  let segments ← segmentsOf key
  let parent := parentSegments segments
  let parentText := if parent.isEmpty then s.root else s.root ++ "/" ++ "/".intercalate parent
  let tree ← (s.tree.makeDirectories (FileTree.named parent |>.filter (· ≠ "."))).mapError
    fun e => .unexpected ("Failed to create " ++ quotePath parentText ++ ": " ++ e.message)
  let tree ← (tree.writeFile segments (key.endsWith "/") content).mapError
    fun e => .unexpected ("Failed to write object " ++ key ++ ": " ++ e.message)
  pure { s with tree }

/-- Removes the object under a key; a missing object is no error
(`LocalObjectStore::delete_object`). -/
def delete (s : DirectoryStore) (key : String) : Except PortError DirectoryStore := do
  let segments ← segmentsOf key
  match s.tree.removeFile segments (key.endsWith "/") with
  | .ok tree => pure { s with tree }
  | .error .notFound => pure s
  | .error e => throw (.unexpected ("Failed to delete object " ++ key ++ ": " ++ e.message))

/-! ### Equations -/

theorem isPlainKey_empty : isPlainKey "" = false := rfl

end DirectoryStore

end ImageStudio
