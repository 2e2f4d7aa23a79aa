import Commentary.Encoding.Utf8
import Commentary.Path
import Commentary.Text.Quoted

/-!
# File trees

The files and directories that a run can see, as a list of places. Places are lists of names from the
working directory down. The directories above the working directory are known to exist, and nothing
is known of what else they hold.
-/

namespace Commentary

/-- What a place holds. -/
inductive Entry where
  | file (content : Bytes)
  | directory
  deriving DecidableEq, Repr

/-- Names from the working directory down. A leading run of double dots goes up from it, and the name
`/` in front is the root. -/
abbrev Place := List Text

/-- Why a place cannot be used. -/
inductive FileProblem where
  | notFound
  | alreadyThere
  | notADirectory
  | isADirectory
  /-- The path, or one of its names, is longer than the system takes. -/
  | nameTooLong
  /-- The path holds a null character, which no name can. -/
  | nullByte
  deriving DecidableEq, Repr

/-- The system's number of a problem; a path that is never asked for has none. -/
def FileProblem.number? : FileProblem → Option Nat
  | .notFound => some 2
  | .alreadyThere => some 17
  | .notADirectory => some 20
  | .isADirectory => some 21
  | .nameTooLong => some 36
  | .nullByte => none

/-- The words for a problem. -/
def FileProblem.words : FileProblem → Text
  | .notFound => "No such file or directory".toList
  | .alreadyThere => "File exists".toList
  | .notADirectory => "Not a directory".toList
  | .isADirectory => "Is a directory".toList
  | .nameTooLong => "File name too long".toList
  | .nullByte => "embedded null byte".toList

/-- A problem and the path that was asked for. -/
structure FileError where
  /-- Why the path cannot be used. -/
  problem : FileProblem
  /-- The path as it was given. -/
  path : Text
  deriving DecidableEq, Repr

/-- What is said of a file error. -/
def FileError.message (e : FileError) : Text :=
  match e.problem.number? with
  | none => e.problem.words
  | some n =>
    "[Errno ".toList ++ Text.ofNat n ++ "] ".toList ++ e.problem.words ++ ": ".toList ++
      Text.quoted e.path

/-- The files and directories that a run can see. -/
structure FileTree where
  /-- What each place holds; the first entry of a place counts. -/
  entries : List (Place × Entry)
  deriving DecidableEq, Repr

namespace FileTree

/-- The tree of an empty working directory. -/
def empty : FileTree := ⟨[]⟩

/-- The name of the root. -/
def rootName : Text := ['/']

/-- The name that goes up. -/
def upName : Text := ['.', '.']

/-- The working directory, the directories above it, and the root. -/
def isOuter (place : Place) : Bool := place.all (· == upName) || place == [rootName]

/-- What a place holds. -/
def get? (tree : FileTree) (place : Place) : Option Entry :=
  if isOuter place then some .directory else tree.entries.lookup place

/-- Let a place hold an entry. -/
def put (tree : FileTree) (place : Place) (entry : Entry) : FileTree :=
  ⟨(place, entry) :: tree.entries.filter (·.1 != place)⟩

/-- The place above. -/
def up (place : Place) : Place :=
  if place == [rootName] then place
  else if isOuter place then place ++ [upName]
  else place.dropLast

/-- How many bytes a name can have. -/
def nameLimit : Nat := 255

/-- How many bytes a path can have. -/
def pathLimit : Nat := 4095

/-- How many bytes a name or a path has. -/
def byteLength (t : Text) : Nat := (Utf8.encode t).length

/-- Go from a directory to one of its names. -/
def enter (tree : FileTree) (place : Place) (part : Text) : Except FileProblem Place :=
  match tree.get? place with
  | none => .error .notFound
  | some (.file _) => .error .notADirectory
  | some .directory =>
    if part == [] || part == ['.'] then .ok place
    else if part == upName then .ok (up place)
    else if nameLimit < byteLength part then .error .nameTooLong
    else .ok (place ++ [part])

/-- Go along several names. -/
def walk (tree : FileTree) (place : Place) : List Text → Except FileProblem Place
  | [] => .ok place
  | part :: parts =>
    match tree.enter place part with
    | .error e => .error e
    | .ok next => tree.walk next parts

/-- Why a path cannot be walked along at all. -/
def refusal? (path : Text) : Option FileProblem :=
  if path.contains '\x00' then some .nullByte
  else if pathLimit < byteLength path then some .nameTooLong
  else if path == [] then some .notFound
  else none

/-- The place that a path is walked along from. -/
def startOf (path : Text) : Place := if path.head? == some '/' then [rootName] else []

/-- The place that a path leads to. The directories on the way exist; the place itself need not. -/
def locate (tree : FileTree) (path : Text) : Except FileProblem Place :=
  match refusal? path with
  | some e => .error e
  | none => tree.walk (startOf path) (List.splitOn '/' path)

/-- The directory that the last name of a path is to be looked up in, slashes at the end apart. -/
def locateParent (tree : FileTree) (path : Text) : Except FileProblem Place :=
  let names := List.splitOn '/' (Text.dropEndWhile (· == '/') path)
  match refusal? path with
  | some e => .error e
  | none => tree.walk (startOf path) (names.dropLast ++ [['.']])

/-- What a path leads to. -/
def lookup (tree : FileTree) (path : Text) : Except FileProblem Entry :=
  match tree.locate path with
  | .error e => .error e
  | .ok place =>
    match tree.get? place with
    | none => .error .notFound
    | some entry => .ok entry

/-- Whether a path leads to a file or a directory. Of a path that is too long this cannot be said. -/
def pathExists (tree : FileTree) (path : Text) : Except FileProblem Bool :=
  match tree.lookup path with
  | .ok _ => .ok true
  | .error .nameTooLong => .error .nameTooLong
  | .error _ => .ok false

/-- Whether a path leads to a directory. -/
def isDirectory (tree : FileTree) (path : Text) : Bool :=
  match tree.lookup path with
  | .ok .directory => true
  | _ => false

/-- The content of the file that a path leads to. -/
def read (tree : FileTree) (path : Text) : Except FileProblem Bytes :=
  match tree.lookup path with
  | .error e => .error e
  | .ok .directory => .error .isADirectory
  | .ok (.file content) => .ok content

/-- The place of a file that is to be written. A path that ends in a slash names a directory. -/
def writable (tree : FileTree) (path : Text) : Except FileProblem Place :=
  if path.getLast? == some '/' then
    match tree.locateParent path with
    | .error e => .error e
    | .ok _ => .error .isADirectory
  else
    match tree.locate path with
    | .error e => .error e
    | .ok place =>
      match tree.get? place with
      | some .directory => .error .isADirectory
      | _ => .ok place

/-- Make one directory. -/
def makeDirectory (tree : FileTree) (path : Text) : Except FileProblem FileTree :=
  match tree.locate path with
  | .error e => .error e
  | .ok place =>
    match tree.get? place with
    | some _ => .error .alreadyThere
    | none => .ok (tree.put place .directory)

/-- Make one directory, or leave the one that is there. -/
def makeOrKeep (tree : FileTree) (path : Path) : FileTree × Option FileError :=
  match tree.makeDirectory path.toText with
  | .ok made => (made, none)
  | .error e => (tree, if tree.isDirectory path.toText then none else some ⟨e, path.toText⟩)

/-- Make a directory and the missing ones above it, going up at most `names` names. What has been made
stays when a later one fails. -/
def makeUpTo (tree : FileTree) (path : Path) : Nat → FileTree × Option FileError
  | 0 => tree.makeOrKeep path
  | names + 1 =>
    match tree.makeDirectory path.toText with
    | .error .notFound =>
      match tree.makeUpTo path.parent names with
      | (made, none) => made.makeOrKeep path
      | failed => failed
    | _ => tree.makeOrKeep path

/-- Make a directory and the missing ones above it. -/
def makeDirectories (tree : FileTree) (path : Path) : FileTree × Option FileError :=
  tree.makeUpTo path path.parts.length

/-- A place as it is shown; directories end in a slash. -/
def shown (place : Place) (entry : Entry) : Text :=
  let path := List.intercalate ['/'] place
  match entry with
  | .file _ => path
  | .directory => path ++ ['/']

/-- Everything below the working directory in the order of the shown paths. -/
def listing (tree : FileTree) : List (Text × Entry) :=
  let inside := tree.entries.filter fun e =>
    !isOuter e.1 && e.1.head? != some upName && e.1.head? != some rootName
  (inside.map fun e => (shown e.1 e.2, e.2)).mergeSort fun a b => Text.le a.1 b.1

/-- What was put at a place stands there. -/
theorem get?_put_self {place : Place} (tree : FileTree) (entry : Entry)
    (h : isOuter place = false) : (tree.put place entry).get? place = some entry := by
  simp [get?, put, h]

end FileTree

end Commentary
