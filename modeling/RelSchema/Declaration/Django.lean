import RelSchema.Declaration.Python

namespace RelSchema.Field

/-- The class a foreign key refers to, named as the key without its last two characters. -/
def djangoTarget (f : Field) : String :=
  if f.isSelfReference then "self"
  else
    let name := (Text.pascalCase (f.name .django)).toList
    .ofList (name.take (name.length - 2))

def plainDjangoArguments (f : Field) : List String :=
  (if f.isEnum then ["choices=" ++ Text.upper (f.name .django)] else []) ++
    (match f.defaultClause? .django with
      | some default => ["default=" ++ Python.quote default]
      | none => []) ++
    (if f.spec.description.isEmpty then [] else ["help_text=" ++ Python.quote f.spec.description])

/-- The arguments of a field, its length aside. -/
def djangoArguments (f : Field) : List String :=
  let optional := Python.boolName (!f.isRequired)
  let nullability := ["blank=" ++ optional, "null=" ++ optional]
  if f.isPk then ["blank=False", "null=False", "primary_key=True"]
  else if f.isFk then
    [Python.quote f.djangoTarget] ++ nullability ++
      (if f.isSelfReference then ["related_name=" ++ Python.quote "children"] else []) ++
      ["on_delete=models.CASCADE"]
  else nullability ++ f.plainDjangoArguments

def djangoAttribute (f : Field) : String :=
  if f.isFk then Text.stripId (f.name .django) else f.name .django

def djangoDefinition (f : Field) : Except FieldError String := do
  let type ← f.baseType
  let name ← f.physicalType .django type
  let kind := if f.isFk then "ForeignKey" else name
  let (kind, length) ← match type, f.spec.length with
    | .str, some n => pure (kind, ["max_length=" ++ toString n.toNat])
    | .str, none => do pure (← f.physicalType .django .txt, [])
    | _, _ => pure (kind, [])
  return f.djangoAttribute ++ " = models." ++ kind ++ "(" ++
    Python.arguments (f.djangoArguments ++ length) ++ ")"

end RelSchema.Field
