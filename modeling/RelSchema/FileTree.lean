import RelSchema.FileError
import RelSchema.Keyed
import RelSchema.Path

namespace RelSchema

inductive FileEntry
  /-- A file, with its text if its bytes are one. -/
  | file (text : Option String)
  | directory (entries : List (String × FileEntry))

namespace FileEntry

def get? : FileEntry → List String → Option FileEntry
  | entry, [] => some entry
  | .file _, _ :: _ => none
  | .directory entries, name :: rest =>
    match Keyed.get? name entries with
    | some entry => entry.get? rest
    | none => none

/-- Puts an entry where names lead to, in the place of what is there or in the way. -/
def put (entry : FileEntry) : FileEntry → List String → FileEntry
  | _, [] => entry
  | .file _, name :: rest => .directory [(name, put entry (.directory []) rest)]
  | .directory entries, name :: rest =>
    let old := (Keyed.get? name entries).getD (.directory [])
    .directory (Keyed.insert name (put entry old rest) entries)

mutual

/-- The files below an entry, with the names that lead to them. -/
def files : FileEntry → List (List String × Option String)
  | .file text => [([], text)]
  | .directory entries => filesIn entries

def filesIn : List (String × FileEntry) → List (List String × Option String)
  | [] => []
  | (name, entry) :: rest =>
    (files entry).map (fun (location, text) => (name :: location, text)) ++ filesIn rest

end

end FileEntry

structure FileTree where
  /-- The directory that paths begin at. -/
  here : List String
  root : FileEntry

namespace FileTree

def get? (t : FileTree) (location : List String) : Option FileEntry :=
  t.root.get? location

def put (t : FileTree) (location : List String) (entry : FileEntry) : FileTree :=
  { t with root := entry.put t.root location }

def isShortName (name : String) : Bool :=
  name.utf8ByteSize ≤ 255

/-- One step from a directory. The root is above itself. -/
def step (location : List String) : Path.Component → Except FileError (List String)
  | .root => .ok []
  | .current => .ok location
  | .parent => .ok location.dropLast
  | .name s => if isShortName s then .ok (location ++ [s]) else .error .nameTooLong

/-- The location that steps lead to. Each step but the last has to lead to a directory. -/
def walk (t : FileTree) (location : List String) :
    List Path.Component → Except FileError (List String)
  | [] => .ok location
  | c :: rest =>
    match t.get? location with
    | none => .error .notFound
    | some (.file _) => .error .notDirectory
    | some (.directory _) => do t.walk (← step location c) rest

/-- Refuses what no path can be. -/
def checkPath (path : String) : Except FileError Unit :=
  if Text.contains path "\x00" then .error .badName
  else if !Path.isShort path then .error .nameTooLong
  else .ok ()

def find (t : FileTree) (path : String) : Except FileError (List String) := do
  checkPath path
  if path.isEmpty then .error .notFound else t.walk t.here (Path.components path)

/-- A path that ends like this can only lead to a directory. -/
def isDirectoryPath (path : String) : Bool :=
  Text.endsWith path "/" || Text.endsWith path "/."

def read (t : FileTree) (path : String) : Except FileError String := do
  match t.get? (← t.find path) with
  | none => .error .notFound
  | some (.directory _) => .error .isDirectory
  | some (.file text) =>
    if isDirectoryPath path then .error .notDirectory
    else match text with
      | some s => .ok s
      | none => .error .notText

/-- Makes every directory on the way that is missing. A file on the way to a directory that is there
is no directory; one that takes the place of a directory to be made exists already. -/
def makeDirectories (t : FileTree) (isMaking : Bool) (location : List String) :
    List Path.Component → Except FileError FileTree
  | [] => .ok t
  | c :: rest => do
    let location ← step location c
    match t.get? location with
    | some (.directory _) => t.makeDirectories isMaking location rest
    | some (.file _) => .error (if isMaking || rest.isEmpty then .exists else .notDirectory)
    | none => (t.put location (.directory [])).makeDirectories true location rest

def write (t : FileTree) (path text : String) : Except FileError FileTree := do
  checkPath (Path.parentText path)
  let t ← t.makeDirectories false t.here ((Path.parent? path).getD [])
  let location ← t.find path
  match t.get? location with
  | some (.directory _) => .error .isDirectory
  | _ => return t.put location (.file (some text))

end FileTree

end RelSchema
