import RelSchema.Document
import RelSchema.Yaml.Node.Grammar
import RelSchema.Yaml.Reading

namespace RelSchema

open Yaml

/-- The parts of an entry of an enumeration that is written as a record. -/
inductive EntryPart
  | key | value | unknown
  deriving DecidableEq

/-- The part that a scalar names, by its name or by its place. -/
def EntryPart.ofScalar? : Scalar → Option EntryPart
  | .text s => some (if s = "key" then .key else if s = "value" then .value else .unknown)
  | .int n =>
    if n < 0 || UInt64.size ≤ n then none
    else some (if n = 0 then .key else if n = 1 then .value else .unknown)
  | _ => none

/-- How deep a part may be nested that does not count. -/
def nestingLimit : Nat := 123

namespace Document

variable (t : Tree)

/-- A part of a record, still to be read if it counts. -/
def readPart (key value : Node) : Reading (EntryPart × Node) := do
  let part ← EntryPart.ofScalar? (← t.scalar key)
  if part = .unknown then t.checkValue nestingLimit value
  return (part, value)

/-- An entry of an enumeration is a pair, or a record of its parts. -/
def readPair (node : Node) : Reading (Value × Value) := do
  match ← t.follow node with
  | .sequence tag [key, value] =>
    Tree.checkTag tag
    return (← t.value key, ← t.value value)
  | .mapping tag entries =>
    Tree.checkTag tag
    let parts ← entries.mapM fun (key, value) => readPart t key value
    match parts.filter (·.1 = .key), parts.filter (·.1 = .value) with
    | [(_, key)], [(_, value)] => return (← t.value key, ← t.value value)
    | _, _ => failure
  | _ => failure

def readEnumeration (node : Node) : Reading Enumeration := do
  let entries ← t.entries node
  return {
    name := ← Tree.required entries "name" t.text
    entries := ← Tree.optional entries "data" [] (t.list (readPair t)) }

/-- The name of a cell has to stand for a text. -/
def readCellName (node : Node) : Reading String := do
  match ← t.scalar node with
  | .text s => return s
  | _ => failure

def readRow (node : Node) : Reading DocumentRow := do
  match ← t.follow node with
  | .sequence tag items =>
    Tree.checkTag tag
    return .list (← items.mapM t.value)
  | .mapping tag entries =>
    Tree.checkTag tag
    let cells ← entries.mapM fun (key, value) => do return (← readCellName t key, ← t.value value)
    return .map (.ofEntries cells)
  | _ => failure

def readModel (node : Node) : Reading DocumentModel := do
  let entries ← t.entries node
  return {
    name := ← Tree.required entries "name" t.text
    properties := ← Tree.optional entries "properties" [] (t.table t.text)
    fields := ← Tree.required entries "fields" (t.list (t.table t.value))
    data := ← Tree.optional entries "data" [] (t.list (readRow t)) }

def readRoot : Reading Document := do
  let entries ← t.entries t.root
  return {
    name := ← Tree.optional entries "name" none t.optionalText
    enums := ← Tree.optional entries "enums" [] (t.list (readEnumeration t))
    models := ← Tree.optional entries "models" [] (t.list (readModel t)) }

def ofTree? : Option Document :=
  (readRoot t).run' t.allowance

def ofYaml? (s : String) : Option Document := do
  ofTree? (← Tree.ofText? s)

end Document

def Schema.ofYaml (options : Options) (defaultName text : String) : Except ReadError Schema :=
  match Document.ofYaml? text with
  | none => .error .malformed
  | some doc => doc.toSchema options defaultName

end RelSchema
