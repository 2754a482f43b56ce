import RelSchema.Model
import RelSchema.Proofs.Fault

namespace RelSchema

/-- The dialects that have no name for the numeric type. -/
def Dialect.lacksNumeric : List Dialect :=
  [.java, .scala, .sqlAlchemy, .django, .factoryBoy]

theorem Dialect.columnType?_eq_none_iff (d : Dialect) (t : BaseType) (length : Option UInt32) :
    d.columnType? t length = none ↔ d.typeName? t = none := by
  cases t with
  | str =>
    cases length with
    | some n => exact Option.map_eq_none_iff
    | none =>
      -- A short text becomes a long one, and no dialect lacks either.
      change d.typeName? .txt = none ↔ d.typeName? .str = none
      rw [typeName?_eq_none_iff, typeName?_eq_none_iff]
      constructor <;> rintro ⟨h, _⟩ <;> cases h
  | _ => rfl

namespace FieldSpec

/-- What keeps a field of a model from having a type. -/
def typeFault? (d : Dialect) (model : String) (spec : FieldSpec) : Option FieldError :=
  match spec.type with
  | none => some (.missingType (model ++ "." ++ spec.name))
  | some t =>
    if d.typeName? t = none then some (.unmapped (model ++ "." ++ spec.name) t d) else none

variable (model : String)

theorem typeFault?_plain (spec : FieldSpec) :
    spec.typeFault? .plain model =
      if spec.type = none then some (.missingType (model ++ "." ++ spec.name)) else none := by
  cases h : spec.type <;> simp [typeFault?, h, Dialect.typeName?]

theorem typeFault?_of_typed {spec : FieldSpec} (h : spec.type ≠ none) (d : Dialect) :
    spec.typeFault? d model =
      if d ∈ Dialect.lacksNumeric ∧ spec.type = some .numeric then
        some (.unmapped (model ++ "." ++ spec.name) .numeric d)
      else none := by
  cases ht : spec.type with
  | none => exact absurd ht h
  | some t =>
    simp only [typeFault?, ht, Dialect.typeName?_eq_none_iff, Dialect.lacksNumeric,
      Option.some.injEq, and_comm]
    by_cases hnumeric : t = .numeric
    · rw [hnumeric]
    · rw [if_neg fun hd => hnumeric hd.1, if_neg fun hd => hnumeric hd.1]

end FieldSpec

namespace Field

def typeFault? (d : Dialect) (f : Field) : Option FieldError :=
  f.spec.typeFault? d f.modelName

theorem baseType_eq_ok_iff {f : Field} {t : BaseType} :
    f.baseType = .ok t ↔ f.spec.type = some t := by
  unfold baseType
  cases f.spec.type <;> simp

theorem physicalType_eq_ok_iff {d : Dialect} {f : Field} {t : BaseType} {name : String} :
    f.physicalType d t = .ok name ↔ d.typeName? t = some name := by
  unfold physicalType
  cases d.typeName? t <;> simp

theorem fault?_physicalType (d : Dialect) (f : Field) (t : BaseType) :
    fault? (f.physicalType d t) =
      if d.typeName? t = none then some (.unmapped f.qualifiedName t d) else none := by
  cases h : d.typeName? t <;> simp [physicalType, h]

theorem fault?_columnType (d : Dialect) (f : Field) : fault? (f.columnType d) = f.typeFault? d := by
  unfold columnType baseType typeFault? FieldSpec.typeFault?
  cases f.spec.type with
  | none => rfl
  | some t =>
    have hiff := d.columnType?_eq_none_iff t f.spec.length
    cases hc : d.columnType? t f.spec.length with
    | none => simp [bind, Except.bind, hc, hiff.1 hc, qualifiedName]
    | some name =>
      have hn : d.typeName? t ≠ none := fun h => by simp [hiff.2 h] at hc
      simp [bind, Except.bind, hc, hn]

theorem fault?_typeName (d : Dialect) (f : Field) : fault? (f.typeName d) = f.typeFault? d := by
  rw [typeName, fault?_bind_pure, fault?_columnType]

theorem fault?_memberType (d : Dialect) (f : Field) :
    fault? (f.memberType d) = f.typeFault? d := by
  unfold memberType baseType typeFault? FieldSpec.typeFault?
  cases f.spec.type with
  | none => rfl
  | some t => exact f.fault?_physicalType d t

end Field

end RelSchema
