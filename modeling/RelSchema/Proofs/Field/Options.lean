import RelSchema.Declaration

namespace RelSchema

/-- The field as if the options had been chosen for it and for the model it belongs to. -/
def Field.under (options : Options) (f : Field) : Field :=
  { f with owner := f.owner.map ({ · with options }), options }

namespace Field

/-- If the dialect has comments, the options place them where the field has them. -/
def SameComments (d : Dialect) (options : Options) (f : Field) : Prop :=
  d.isSql = true → f.options.commentOffset = options.commentOffset

variable (d : Dialect) (options : Options) (f : Field)

@[simp] theorem spec_under : (f.under options).spec = f.spec := rfl

@[simp] theorem modelName_under : (f.under options).modelName = f.modelName := by
  cases howner : f.owner <;> simp [modelName, under, howner]

@[simp] theorem name_under : (f.under options).name d = f.name d := by
  cases d <;> simp [name]

@[simp] theorem typeName_under : (f.under options).typeName d = f.typeName d := by
  obtain ⟨spec, owner, isLast, _⟩ := f
  cases owner <;> rfl

theorem method_under : (f.under options).method d = f.method d := by
  obtain ⟨spec, owner, isLast, _⟩ := f
  cases d <;> cases owner <;> rfl

theorem subFactory_under (table : String) :
    (f.under options).subFactory table = f.subFactory table := by
  have hfilter : ((f.under options).owner.filter fun m =>
        table = "parent" && m.hasNamespaceProperties) =
      (f.owner.filter fun m => table = "parent" && m.hasNamespaceProperties).map
        ({ · with options }) := Option.filter_map
  rw [subFactory, subFactory, hfilter]
  cases f.owner.filter fun m => table = "parent" && m.hasNamespaceProperties <;> rfl

theorem factoryDefinition_under : (f.under options).factoryDefinition = f.factoryDefinition := by
  simp only [factoryDefinition, subFactory_under]
  obtain ⟨spec, owner, isLast, _⟩ := f
  cases owner <;> rfl

theorem sqlDefinition_under (h : f.options.commentOffset = options.commentOffset) :
    (f.under options).sqlDefinition d = f.sqlDefinition d := by
  have hcolumn : (f.under options).sqlColumn d = f.sqlColumn d := by
    obtain ⟨spec, owner, isLast, _⟩ := f
    cases owner <;> rfl
  rw [sqlDefinition, sqlDefinition, hcolumn, h]
  rfl

theorem definition_under (h : f.SameComments d options) :
    (f.under options).definition d = f.definition d := by
  cases d with
  | sql | sqlite | postgres | pgEnum => exact f.sqlDefinition_under _ options (h rfl)
  | factoryBoy => exact f.factoryDefinition_under options
  | _ =>
    obtain ⟨spec, owner, isLast, _⟩ := f
    cases owner <;> rfl

end Field

end RelSchema
