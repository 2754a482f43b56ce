import RelSchema.Keyed
import RelSchema.Yaml.Scalar

namespace RelSchema.Yaml

/-- A reading can fail, and it can follow only so many more references. -/
abbrev Reading := StateT Nat Option

namespace Tree

variable (t : Tree)

def follow : Node → Reading Node
  | .anchored _ node => pure node
  | .reference number => do
    match ← get with
    | 0 => failure
    | n + 1 =>
      set n
      return t.target number
  | node => pure node

/-- The text of a scalar as it is written, whatever it may stand for. -/
def text (node : Node) : Reading String := do
  match ← t.follow node with
  | .scalar _ _ s => return s
  | _ => failure

/-- The text of a scalar, or that there is none. -/
def optionalText (node : Node) : Reading (Option String) := do
  match ← t.follow node with
  | .scalar tag isPlain s =>
    if !isPlain then return some s
    else if tag = some (.core "null") then
      if Scalar.null? s then return none else failure
    else if tag.isSome then return some s
    else return if s.isEmpty || Scalar.null? s then none else some s
  | _ => failure

/-- An empty scalar without quotes stands for an empty collection. -/
def items (node : Node) : Reading (List Node) := do
  match ← t.follow node with
  | .sequence _ items => return items
  | .scalar _ true "" => return []
  | _ => failure

def entries (node : Node) : Reading (List (String × Node)) := do
  match ← t.follow node with
  | .mapping _ entries => entries.mapM fun (key, value) => do return (← t.text key, value)
  | .scalar _ true "" => return []
  | _ => failure

def scalar (node : Node) : Reading Scalar := do
  match ← t.follow node with
  | .scalar tag isPlain s => Scalar.of? tag isPlain s
  | _ => failure

/-- Tags count only here, where a node is read as a value. -/
def value (node : Node) : Reading Value := do
  (← t.scalar node).value?

/-- A table whose keys are any scalars, and whose values `read` reads. -/
def table {α : Type} (read : Node → Reading α) (node : Node) : Reading (Keyed α) := do
  let entries ← (← t.entries node).mapM fun (key, value) => do return (key, ← read value)
  return .ofEntries entries

/-- The node of a key that may be missing, but may not be there twice. -/
def member (entries : List (String × Node)) (key : String) : Reading (Option Node) :=
  match entries.filter (·.1 = key) with
  | [] => return none
  | [(_, node)] => return some node
  | _ => failure

def optional {α : Type} (entries : List (String × Node)) (key : String) (absent : α)
    (read : Node → Reading α) : Reading α := do
  match ← member entries key with
  | some node => read node
  | none => return absent

def required {α : Type} (entries : List (String × Node)) (key : String)
    (read : Node → Reading α) : Reading α := do
  match ← member entries key with
  | some node => read node
  | none => failure

def list {α : Type} (read : Node → Reading α) (node : Node) : Reading (List α) := do
  (← t.items node).mapM read

/-- A tag says what a collection is. -/
def checkTag (tag : Option Tag) : Reading Unit :=
  if tag.any (·.isUnknown) then failure else return

/-- Reads a node that has to be some value, with at most `depth` collections within another. -/
def checkValue : Nat → Node → Reading Unit
  | 0, node => do
    if (← t.scalar node).fits then return else failure
  | depth + 1, node => do
    match ← t.follow node with
    | .sequence tag items =>
      checkTag tag
      items.forM (checkValue depth)
    | .mapping tag entries =>
      checkTag tag
      entries.forM fun (key, value) => do
        checkValue depth key
        checkValue depth value
    | .scalar tag isPlain s => do
      if (← Scalar.of? tag isPlain s).fits then return else failure
    | _ => failure

end Tree

end RelSchema.Yaml
