import RelSchema.Script.Lines
import RelSchema.WriteError

namespace RelSchema.Script.Django

def choices (e : Enumeration) : String :=
  "\n" ++ Text.upper e.name ++ " = [\n" ++
    block "    " (e.entries.map fun (key, value) =>
      "(" ++ key.quoted.display ++ ", " ++ value.quoted.display ++ "),") ++ "]\n"

/-- The names shown for a model that belongs to a package. -/
def verboseNames (m : Model) : Except NamespaceError String :=
  match Namespace.ofModel? .django m with
  | none => .ok ""
  | some ns => do
    let title := Namespace.classTitle (← ns.className)
    return "        verbose_name = \"" ++ title ++ "\"\n        verbose_name_plural = \"" ++
      Text.plural title ++ "\"\n"

/-- A row is shown as its searchable key or, without one, as its primary key. -/
def display (m : Model) : String :=
  match m.skField?.or m.pkField? with
  | some f => "\n    def __str__(self):\n        return str(self." ++ f.name .django ++ ")\n"
  | none => ""

def modelClass (m : Model) : Except WriteError String := do
  let fields ← (m.fieldDefinitions .django).mapError .field
  let names ← (verboseNames m).mapError .package
  return "\n\nclass " ++ m.className ++ "(models.Model):\n" ++ block "    " fields ++
    "\n    class Meta:\n        db_table = \"" ++ m.name ++ "\"\n" ++ names ++ display m

def models (s : Schema) : Except WriteError String := do
  let classes ← s.models.mapM modelClass
  return "\"\"\"" ++ s.name ++ " models.\"\"\"\nfrom django.db import models\n" ++
    .join (s.enumerations.map choices) ++ .join classes

/-- What a factory makes: a class of the neighbouring module or one named by its package. -/
def factoryTarget (m : Model) : Except NamespaceError String :=
  match Namespace.ofModel? .factoryBoy m with
  | none => .ok ("model." ++ m.className)
  | some ns => do
    let app ← ns.appName
    let cls ← ns.className
    return "\"" ++ app.leaf ++ "." ++ cls.leaf ++ "\""

def factoryClass (m : Model) : Except WriteError String := do
  let target ← (factoryTarget m).mapError .package
  let fields ← (m.fieldDefinitions .factoryBoy).mapError .field
  return "\n\nclass " ++ m.className ++
    "Factory(factory.django.DjangoModelFactory):\n    class Meta:\n        model = " ++ target ++
    "\n\n" ++ block "    " fields

def factories (s : Schema) : Except WriteError String := do
  let classes ← s.models.mapM factoryClass
  return "\"\"\"" ++ s.name ++ " factories.\"\"\"\nimport factory\n\n" ++
    "from . import models as model\n" ++ .join classes

end RelSchema.Script.Django
