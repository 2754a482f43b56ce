import RelSchema.Text.Split

namespace RelSchema.Path

def isAbsolute (path : String) : Bool :=
  Text.startsWith path "/"

/-- The path of `part` as seen from `base`; an absolute part stands for itself. -/
def join (base part : String) : String :=
  if isAbsolute part then part
  else if base.isEmpty || Text.endsWith base "/" then base ++ part
  else base ++ "/" ++ part

def joinAll (base : String) (parts : List String) : String :=
  parts.foldl join base

inductive Component
  | root
  | current
  | parent
  | name (s : String)
  deriving DecidableEq, Inhabited

/-- Empty parts and single dots stand for nothing. -/
def isSilent (part : String) : Bool :=
  part = "" || part = "."

def Component.ofPart? (part : String) : Option Component :=
  if isSilent part then none
  else if part = ".." then some .parent
  else some (.name part)

/-- The steps of a path. A single dot counts only where the path begins with it. -/
def components (path : String) : List Component :=
  let parts := Text.split '/' path
  let start :=
    if isAbsolute path then [.root] else if parts.head? = some "." then [.current] else []
  start ++ parts.filterMap Component.ofPart?

def parent? (path : String) : Option (List Component) :=
  match (components path).reverse with
  | [] | .root :: _ => none
  | _ :: rest => some rest.reverse

/-- The text of a path up to its last step, without the silent parts before that. -/
def parentText (path : String) : String :=
  let parts := (Text.split '/' path).reverse
  "/".intercalate (((parts.dropWhile isSilent).drop 1).dropWhile isSilent).reverse

/-- Whether a path has at most 4095 bytes, the most that a machine takes. -/
def isShort (path : String) : Bool :=
  path.utf8ByteSize < 4096

def directory (path : String) : String :=
  .ofList ((path.toList.reverse.dropWhile (· ≠ '/')).drop 1).reverse

/-- The name of a file without its last ending. A dot that begins the name begins no ending. -/
def fileStem? (path : String) : Option String :=
  match (components path).getLast? with
  | some (.name s) =>
    let afterDot := s.toList.reverse.takeWhile (· ≠ '.')
    let stem := (s.toList.reverse.drop (afterDot.length + 1)).reverse
    some (if stem.isEmpty then s else .ofList stem)
  | _ => none

def same (p q : String) : Bool :=
  components p = components q

end RelSchema.Path
