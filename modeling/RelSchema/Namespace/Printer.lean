import RelSchema.Namespace
import RelSchema.Yaml.Data

namespace RelSchema

open Yaml

def NamespaceValue.toData : NamespaceValue → Data
  | .text s => .text s
  | .list items => .list (items.map .text)
  | .int n => .scalar (.int (.ofNat n))

def Namespace.toYaml (ns : Namespace) : Except NamespaceError String := do
  let entries ← ns.entries
  return (Data.map (entries.map fun (key, value) => (key, value.toData))).toText

end RelSchema
