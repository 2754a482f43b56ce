import RelSchema.Proofs.Declaration

namespace RelSchema

/-- A member of a class. Only a Scala member has an initial value. -/
structure Member where
  annotations : List String
  name : String
  type : String
  initial : Option String := none

def Member.declaration (m : Member) : String :=
  match m.initial with
  | none => "private " ++ m.type ++ " " ++ m.name ++ ";"
  | some value => "var " ++ m.name ++ ": " ++ m.type ++ " = " ++ value

def Member.text (m : Member) : String :=
  Field.bodyLines (m.annotations ++ [m.declaration, "\n"])

/-- A method that returns a member. -/
structure Getter where
  property : String
  type : String
  member : String

def Getter.lines (g : Getter) : List String :=
  ["public " ++ g.type ++ " get" ++ g.property ++ "() \x7b", "    return this." ++ g.member ++ ";",
    "\x7d", "\n"]

/-- A method that assigns its parameter to a member. -/
structure Setter where
  property : String
  type : String
  parameter : String
  member : String

def Setter.lines (s : Setter) : List String :=
  ["public void set" ++ s.property ++ "(" ++ s.type ++ " " ++ s.parameter ++ ") \x7b",
    "    this." ++ s.member ++ " = " ++ s.parameter ++ ";", "\x7d", "\n"]

structure Accessors where
  getter : Getter
  setter : Setter

def Accessors.text (a : Accessors) : String :=
  Field.bodyLines (a.getter.lines ++ a.setter.lines)

namespace Field

def javaMember (f : Field) (type : String) : Member where
  annotations :=
    if f.isPk then generatedKey
    else if f.isFk then joinedColumn (f.name .java)
    else ["@Column(name=\"" ++ f.name .java ++ "\")"]
  name := Text.camelCase (f.name .java)
  type := type

/-- A primary key keeps its name, and other members are in camel case. -/
def scalaMember (f : Field) (type : String) : Member where
  annotations :=
    if f.isPk then generatedKey ++ ["@BeanProperty"]
    else if f.isFk then joinedColumn (f.name .scala)
    else ["@BeanProperty"]
  name := if f.isPk then f.name .scala else Text.camelCase (f.name .scala)
  type := type
  initial := some (if f.isPk then "_" else f.name .scala)

/-- The member that a field becomes in a dialect of the JVM. -/
def member (d : Dialect) (f : Field) : Except FieldError Member :=
  match d with
  | .java => (f.memberType .java).map f.javaMember
  | .scala => (f.memberType .scala).map f.scalaMember
  | _ => .error (.notImplemented d .definition)

/-- The getter and the setter of the member that a field becomes. -/
def accessorMethods (d : Dialect) (f : Field) : Except FieldError Accessors :=
  (f.typeName d).map fun type =>
    { getter :=
        { property := Text.pascalCase (f.name d), type, member := Text.camelCase (f.name d) }
      setter :=
        { property := Text.pascalCase (f.name d), type, parameter := f.name d
          member := Text.camelCase (f.name d) } }

variable {d : Dialect} {f : Field}

theorem javaDefinition_eq : f.javaDefinition = (f.member .java).map (·.text) := by
  rw [javaDefinition, member]
  cases f.memberType .java <;> rfl

theorem scalaDefinition_eq : f.scalaDefinition = (f.member .scala).map (·.text) := by
  rw [scalaDefinition, member]
  cases f.memberType .scala with
  | error => rfl
  | ok type =>
    have hblank : " = _" = " = " ++ "_" := rfl
    simp only [Except.map, bind, Except.bind, scalaMember, Member.text, Member.declaration, hblank,
      ← String.append_assoc]
    cases f.isPk <;> cases f.isFk <;> rfl

theorem accessors_eq : f.accessors d = (f.accessorMethods d).map (·.text) := by
  rw [accessors, accessorMethods]
  cases f.typeName d <;> rfl

/-- No length is written, and a short text has the type of a long one. -/
theorem columnType?_of_jvm (hd : d = .java ∨ d = .scala) (t : BaseType) (length : Option UInt32) :
    d.columnType? t length = d.typeName? t := by
  rcases hd with rfl | rfl <;> cases t <;> cases length <;> rfl

theorem memberType_eq_typeName (hd : d = .java ∨ d = .scala) : f.memberType d = f.typeName d := by
  have hname : f.typeName d = f.columnType d := by
    have hpg : d ≠ .pgEnum := by rcases hd with rfl | rfl <;> decide
    rw [typeName]
    cases f.columnType d with
    | error => rfl
    | ok type => simp [bind, Except.bind, pure, Except.pure, hpg]
  rw [hname, memberType, columnType]
  cases f.baseType with
  | error => rfl
  | ok t =>
    change f.physicalType d t = _
    rw [physicalType]
    simp only [bind, Except.bind, columnType?_of_jvm hd]

end Field

end RelSchema
