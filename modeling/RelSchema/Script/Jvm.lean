import RelSchema.Schema
import RelSchema.Script.Lines

namespace RelSchema.Script.Jvm

def classText (keyword : String) (m : Model) (members : List String) : String :=
  "\n@Entity\n@Table(name = \"" ++ m.name ++ "\")\n" ++
    keyword ++ " " ++ m.className ++ " \x7b\n" ++ block "    " members ++ "\x7d\n"

def javaClass (m : Model) : Except FieldError String := do
  let members ← m.fieldDefinitions .java
  let accessors ← m.methods .java
  return classText "public class" m (members ++ accessors)

def scalaClass (m : Model) : Except FieldError String := do
  return classText "class" m (← m.fieldDefinitions .scala)

def java (s : Schema) : Except FieldError String := do
  let classes ← s.models.mapM javaClass
  return "// " ++ s.name ++ " entities\nimport javax.persistence.*;\n" ++ .join classes

def scala (s : Schema) : Except FieldError String := do
  let classes ← s.models.mapM scalaClass
  return "// " ++ s.name ++
    " entities\nimport javax.persistence._\nimport scala.beans.BeanProperty\n" ++ .join classes

end RelSchema.Script.Jvm
