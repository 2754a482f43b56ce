import RelSchema.Field

namespace RelSchema.Field

/-- A primary key has the type of keys, and an enumeration the type named for it. -/
def haskellBaseType (f : Field) : Except FieldError String :=
  if f.isPk then .ok "DBKey"
  else if f.isEnum then .ok (Text.pascalCase f.spec.name)
  else f.typeName .haskell

def haskellType (f : Field) : Except FieldError String := do
  let type ← f.haskellBaseType
  return if f.isRequired then type else "Maybe " ++ type

/-- The types of a record stand below each other if names have fewer than thirty bytes. -/
def haskellDefinition (f : Field) : Except FieldError String := do
  let name := f.name .haskell
  let type ← f.haskellType
  return name ++ .ofList (List.replicate (30 - (name.utf8ByteSize + 1)) ' ') ++ ":: " ++ type

end RelSchema.Field
