import RelSchema.Proofs.Field.Typing

namespace RelSchema.Field

variable (d : Dialect) (f : Field)

theorem fault?_bind_physicalType {α : Type} (g : BaseType → String → Except FieldError α)
    (hg : ∀ t name, fault? (g t name) = none) :
    fault? (do
      let t ← f.baseType
      let name ← f.physicalType d t
      g t name) = f.typeFault? d := by
  have hname : ∀ t, fault? (f.physicalType d t >>= g t) = fault? (f.physicalType d t) := by
    intro t
    rw [fault?_bind fun name _ => hg t name, Option.or_none]
  rw [← fault?_memberType, memberType]
  cases f.baseType with
  | error => rfl
  | ok t => exact hname t

theorem fault?_sqlDefinition : fault? (f.sqlDefinition d) = f.typeFault? d := by
  rw [sqlDefinition, fault?_bind_pure, sqlColumn, fault?_bind_pure, fault?_typeName]

theorem fault?_abapDefinition : fault? f.abapDefinition = f.typeFault? .abap := by
  rw [abapDefinition, fault?_bind_pure, abapComponent, fault?_bind_pure, fault?_typeName]

theorem fault?_javaDefinition : fault? f.javaDefinition = f.typeFault? .java := by
  rw [javaDefinition, fault?_bind_pure, fault?_memberType]

theorem fault?_scalaDefinition : fault? f.scalaDefinition = f.typeFault? .scala := by
  rw [scalaDefinition, fault?_bind_pure, fault?_memberType]

theorem fault?_sqlAlchemyDefinition :
    fault? f.sqlAlchemyDefinition = f.typeFault? .sqlAlchemy := by
  rw [sqlAlchemyDefinition, fault?_bind_pure, sqlAlchemyType]
  exact fault?_bind_physicalType _ _ _ fun _ _ => fault?_pure _

theorem fault?_djangoDefinition : fault? f.djangoDefinition = f.typeFault? .django := by
  refine fault?_bind_physicalType _ _ _ fun t name => ?_
  -- A short text without a length becomes a long one, which has a name.
  cases t <;> cases f.spec.length <;> rfl

theorem fault?_factoryDefinition : fault? f.factoryDefinition = f.typeFault? .factoryBoy :=
  fault?_bind_physicalType _ _ _ fun _ _ => fault?_pure _

theorem fault?_accessors : fault? (f.accessors d) = f.typeFault? d := by
  rw [accessors, fault?_bind_pure, fault?_typeName]

variable {d f}

/-- Keys and enumerations of Haskell need no base type, and every base type has a name there. -/
theorem fault?_haskellDefinition (h : f.spec.type ≠ none) :
    fault? f.haskellDefinition = f.typeFault? .haskell := by
  have htyped : f.typeFault? .haskell = none := by
    rw [typeFault?, FieldSpec.typeFault?_of_typed _ h,
      if_neg fun hd => by simp [Dialect.lacksNumeric] at hd]
  rw [haskellDefinition, fault?_bind_pure, haskellType, fault?_bind_pure, haskellBaseType, htyped]
  split
  · rfl
  · split
    · rfl
    · rw [fault?_typeName, htyped]

theorem fault?_definition (hd : d ≠ .plain) (h : f.spec.type ≠ none) :
    fault? (f.definition d) = f.typeFault? d := by
  cases d with
  | plain => exact absurd rfl hd
  | sql | sqlite | postgres | pgEnum => exact f.fault?_sqlDefinition _
  | abap => exact f.fault?_abapDefinition
  | haskell => exact fault?_haskellDefinition h
  | java => exact f.fault?_javaDefinition
  | scala => exact f.fault?_scalaDefinition
  | sqlAlchemy => exact f.fault?_sqlAlchemyDefinition
  | django => exact f.fault?_djangoDefinition
  | factoryBoy => exact f.fault?_factoryDefinition

theorem exists_definition (htyped : f.spec.type ≠ none) (hd : d ≠ .plain)
    (hnumeric : d ∈ Dialect.lacksNumeric → f.spec.type ≠ some .numeric) :
    ∃ line, f.definition d = .ok line := by
  rw [← fault?_eq_none_iff, fault?_definition hd htyped, typeFault?,
    FieldSpec.typeFault?_of_typed _ htyped, if_neg fun h => hnumeric h.1 h.2]

end RelSchema.Field
