import RelSchema.Proofs.Field.Options
import RelSchema.Proofs.Model.Cleaning
import RelSchema.Proofs.Schema.Specialization

namespace RelSchema

namespace Model

/-- The model as if the options had been chosen for it. -/
def under (options : Options) (m : Model) : Model :=
  { m with info := { m.info with options }, fields := m.fields.map (·.under options) }

def SameComments (d : Dialect) (options : Options) (m : Model) : Prop :=
  ∀ f ∈ m.fields, f.SameComments d options

theorem linkFields_under (info : ModelInfo) (keyLine : Bool) (options : Options)
    (fields : List Field) :
    (linkFields info keyLine fields).map (·.under options) =
      linkFields { info with options } keyLine (fields.map (·.withOptions options)) := by
  induction fields with
  | nil => rfl
  | cons f rest ih =>
    cases rest with
    | nil => rfl
    | cons g rest =>
      rw [linkFields_cons _ _ f (List.cons_ne_nil g rest), List.map_cons, ih]
      rfl

theorem under_ofParts (info : ModelInfo) (fields : List Field) (data : List Row)
    (kind : Option NamespaceKind) (options : Options) :
    (ofParts info fields data kind).under options =
      ofParts { info with options } (fields.map (·.withOptions options)) data kind := by
  have hjunction : isJunctionOf { info with options } (fields.map (·.withOptions options)) =
      isJunctionOf info fields := by
    refine isJunctionOf_congr rfl ?_
    rw [List.map_map]
    rfl
  simp only [ofParts, under, linkFields_under, hjunction]

theorem under_retarget (m : Model) (kind : Option NamespaceKind) (options options' : Options) :
    (m.retarget kind options).under options' = m.retarget kind options' := by
  rw [retarget, under_ofParts, List.map_map]
  rfl

theorem retarget_under (m : Model) (kind : Option NamespaceKind) (options options' : Options) :
    (m.under options').retarget kind options = m.retarget kind options := by
  refine ofParts_congr_release _ _ _ ?_
  rw [under, List.map_map, List.map_map, List.map_map]
  rfl

variable (d : Dialect) (options : Options) (m : Model)

@[simp] theorem className_under : (m.under options).className = m.className := rfl

@[simp] theorem data_under : (m.under options).data = m.data := rfl

@[simp] theorem map_spec_under : (m.under options).fields.map (·.spec) = m.fields.map (·.spec) := by
  rw [under, List.map_map]
  rfl

theorem outline_under : (m.under options).outline = m.outline := by
  rw [outline, outline, map_spec_under]
  rfl

theorem isJunction_under : (m.under options).isJunction = m.isJunction :=
  isJunctionOf_congr rfl (m.map_spec_under options)

theorem fieldNames_under : (m.under options).fieldNames d = m.fieldNames d := by
  simp [fieldNames, under]

theorem fieldsOf_under (role : IndexRole) :
    (m.under options).fieldsOf role = (m.fieldsOf role).map (·.under options) := by
  simp only [fieldsOf, under, List.filter_map]
  rfl

theorem dependencies_under : (m.under options).dependencies d = m.dependencies d := by
  simp [dependencies, fkFields, fieldsOf_under]

theorem compositeKeyLine_under : (m.under options).compositeKeyLine d = m.compositeKeyLine d := by
  simp [compositeKeyLine, pfkFields, fieldsOf_under, Function.comp_def]

theorem plainTypes_under : (m.under options).plainTypes = m.plainTypes := by
  simp [plainTypes, under, List.filterMap_map]

theorem methods_under : (m.under options).methods d = m.methods d :=
  mapM_map_congr fun f _ => f.method_under d options

theorem cleanRow_under (row : Row) : (m.under options).cleanRow row = m.cleanRow row :=
  cleanRow_congr (m.map_spec_under options) row

theorem hasFk_under : (m.under options).hasFk = m.hasFk := by
  rw [hasFk, hasFk, hasRole_eq_any, hasRole_eq_any, map_spec_under]

theorem options_of_mem_retarget {kind : Option NamespaceKind} {f : Field}
    (hf : f ∈ (m.retarget kind options).fields) : f.options = options := by
  have hrelease := List.mem_map_of_mem (f := Field.release) hf
  rw [retarget, ofParts, map_release_linkFields, List.map_map] at hrelease
  obtain ⟨g, -, hg⟩ := List.mem_map.1 hrelease
  exact (congrArg Field.options hg).symm

variable {d options m}

theorem sameComments_retarget {kind : Option NamespaceKind} {options' : Options}
    (h : options.commentOffset = options'.commentOffset) :
    (m.retarget kind options).SameComments d options' := by
  intro f hf _
  rw [options_of_mem_retarget options m hf, h]

theorem fieldDefinitions_under (h : m.SameComments d options) :
    (m.under options).fieldDefinitions d = m.fieldDefinitions d :=
  mapM_map_congr fun f hf => f.definition_under d options (h f hf)

theorem fieldDefinitions_under_of_not_isSql (hd : d.isSql = false) :
    (m.under options).fieldDefinitions d = m.fieldDefinitions d := by
  refine fieldDefinitions_under fun f _ hsql => ?_
  rw [hd] at hsql
  cases hsql

theorem definitions_under (h : m.SameComments d options) :
    (m.under options).definitions d = m.definitions d := by
  rw [definitions, definitions, fieldDefinitions_under h, isJunction_under, compositeKeyLine_under]

end Model

end RelSchema
