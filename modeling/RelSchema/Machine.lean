import RelSchema.Document.Reader
import RelSchema.Output

namespace RelSchema

/-- What a run can do besides computing. -/
structure Machine (m : Type → Type) where
  readFile : String → m (Except FileError String)
  /-- Writes a file anew, with the directories that lead to it. -/
  writeFile : String → String → m (Except FileError Unit)
  print : String → m Unit
  complain : String → m Unit
  report : Notice → m Unit

/-- The name of a schema that has none of its own. -/
def unnamed : String := "schema"

namespace Machine

variable {m : Type → Type} [Monad m] (machine : Machine m)

def readText (options : Options) (defaultName text : String) : m (Except ReadError Schema) := do
  match Document.ofYaml? text with
  | none => return .error .malformed
  | some doc =>
    (doc.notices options).forM machine.report
    return doc.toSchema options defaultName

/-- The machine only reports, and the text decides what is read. -/
theorem readText_eq [LawfulMonad m] (options : Options) (defaultName text : String) :
    machine.readText options defaultName text = do
      (((Document.ofYaml? text).map (·.notices options)).getD []).forM machine.report
      return Schema.ofYaml options defaultName text := by
  cases h : Document.ofYaml? text with
  | none => simp [readText, Schema.ofYaml, h]
  | some doc => simp [readText, Schema.ofYaml, h]

/-- Reads a schema from a file, and names it after the file if it has no name. -/
def readPath (options : Options) (path : String) : m (Except ReadError Schema) := do
  machine.report (.readsFile path)
  match ← machine.readFile path with
  | .error e => return .error (.file e)
  | .ok text => machine.readText options ((Path.fileStem? path).getD unnamed) text

def render (o : Output) (s : Schema) : m (Except WriteError String) := do
  (o.renderNotices s).forM machine.report
  return o.render s

def write (o : Output) (s : Schema) : m (Except WriteError String) := do
  match ← machine.render o s with
  | .error e => return .error e
  | .ok text =>
    let path := o.path s.name
    match ← machine.writeFile path text with
    | .error e => return .error (.file e)
    | .ok () =>
      machine.report (.wroteFile o.format path)
      return .ok path

end Machine

end RelSchema
