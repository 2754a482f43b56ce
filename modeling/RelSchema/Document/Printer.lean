import RelSchema.Document
import RelSchema.Yaml.Data

namespace RelSchema

open Yaml

def optionalEntry (key : String) (items : List Data) : List (String × Data) :=
  if items.isEmpty then [] else [(key, .list items)]

namespace DocumentRow

def toData : DocumentRow → Data
  | .list cells => .list (cells.map .scalar)
  | .map cells => .map (cells.map fun (key, value) => (key, .scalar value))

end DocumentRow

namespace DocumentModel

def toData (m : DocumentModel) : Data :=
  let properties := m.properties.map fun (key, value) => (key, Data.text value)
  let fields := m.fields.map fun f => Data.map (f.map fun (key, value) => (key, .scalar value))
  .map ([("name", .text m.name)] ++
    (if properties.isEmpty then [] else [("properties", .map properties)]) ++
    [("fields", .list fields)] ++ optionalEntry "data" (m.data.map (·.toData)))

end DocumentModel

namespace Document

def enumerationData (e : Enumeration) : Data :=
  .map [
    ("name", .text e.name),
    ("data", .list (e.entries.map fun (key, value) => .list [.scalar key, .scalar value]))]

def toData (doc : Document) : Data :=
  .map ((doc.name.toList.map fun name => ("name", .text name)) ++ [
    ("enums", .list (doc.enums.map enumerationData)),
    ("models", .list (doc.models.map (·.toData)))])

def toYaml (doc : Document) : String :=
  doc.toData.toText

end Document

end RelSchema
