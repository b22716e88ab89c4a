/-!
# Access to files

Programs reach files through `FileAccess` alone, so that they run on the files of a tree kept in
memory as they run on those of a disk.
-/

namespace RetailMarket

/-- Reading and writing whole files; a failure comes with its reason. -/
class FileAccess (m : Type → Type) where
  read : (path : String) → m (Except String String)
  write : (path contents : String) → m (Except String Unit)

inductive AccessFault where
  | notFound
  | notDirectory
  | isDirectory
  | nameTooLong
  deriving DecidableEq, Repr

def AccessFault.text : AccessFault → String
  | notFound => "No such file or directory (os error 2)"
  | notDirectory => "Not a directory (os error 20)"
  | isDirectory => "Is a directory (os error 21)"
  | nameTooLong => "File name too long (os error 36)"

/-- The location of a file or directory: the names on the way to it from the root. -/
abbrev Location := List String

/-- Files by their locations. Relative paths begin at the current directory. There is a null device
beside the files; the directories are the current one and those on the way to something. -/
structure FileTree where
  current : Location := []
  files : List (Location × String) := []
  deriving DecidableEq, Repr

namespace FileTree

def ofFiles (current : Location) (files : List (String × String)) : FileTree :=
  { current, files := files.map fun (name, contents) => (current ++ name.splitOn "/", contents) }

/-- What is written to the null device is lost, and nothing is read from it. -/
def nullDevice : Location := ["dev", "null"]

def contents? (tree : FileTree) (location : Location) : Option String :=
  if location = nullDevice then some "" else tree.files.lookup location

def isDirectory (tree : FileTree) (location : Location) : Bool :=
  location.isPrefixOf tree.current
    || (nullDevice :: tree.files.map Prod.fst).any fun other =>
      location.isPrefixOf other && location != other

/-! ## Paths -/

def nameLimit : Nat := 256

def pathLimit : Nat := 4096

def origin (tree : FileTree) (path : String) : Location :=
  if path.startsWith "/" then [] else tree.current

/-- Walks on from a location. Every step begins in a directory; an empty name and a point stay there,
and two points go back, though not beyond the root. -/
def walk (tree : FileTree) : Location → List String → Except AccessFault Location
  | location, [] => .ok location
  | location, name :: rest =>
    if (tree.contents? location).isSome then .error .notDirectory
    else if !tree.isDirectory location then .error .notFound
    else if name = "" ∨ name = "." then walk tree location rest
    else if name = ".." then walk tree location.dropLast rest
    else if nameLimit ≤ name.utf8ByteSize then .error .nameTooLong
    else walk tree (location ++ [name]) rest

/-- The names of a path that can be followed at all. -/
def names (path : String) : Except AccessFault (List String) :=
  if path = "" then .error .notFound
  else if pathLimit ≤ path.utf8ByteSize then .error .nameTooLong
  else .ok (path.splitOn "/")

/-- The location that a new file gets by a path: a name in a directory that exists. -/
def locationOfNew (tree : FileTree) (path : String) : Except AccessFault Location := do
  let names ← names path
  let bare := (names.reverse.dropWhile (· == "")).reverse
  let name := bare.getLastD "."
  if name = "." ∨ name = ".." then
    let _ ← tree.walk (tree.origin path) bare
    .error .isDirectory
  else
    let parent ← tree.walk (tree.origin path) (bare.dropLast ++ ["."])
    if bare.length < names.length then .error .isDirectory
    else if nameLimit ≤ name.utf8ByteSize then .error .nameTooLong
    else .ok (parent ++ [name])

/-! ## Reading and writing -/

def read (tree : FileTree) (path : String) : Except AccessFault String := do
  let location ← tree.walk (tree.origin path) (← names path)
  if tree.isDirectory location then .error .isDirectory
  else
    match tree.contents? location with
    | some contents => .ok contents
    | none => .error .notFound

def write (tree : FileTree) (path contents : String) : Except AccessFault FileTree := do
  let location ← tree.locationOfNew path
  if tree.isDirectory location then .error .isDirectory
  else if location = nullDevice then .ok tree
  else
    .ok { tree with
      files := (location, contents) :: tree.files.filter fun file => file.1 != location }

instance : FileAccess (StateM FileTree) where
  read path := do return ((← get).read path).mapError AccessFault.text
  write path contents := do
    match (← get).write path contents with
    | .error fault => return .error fault.text
    | .ok tree =>
      set tree
      return .ok ()

end FileTree

end RetailMarket
