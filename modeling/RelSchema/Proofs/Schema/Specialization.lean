import RelSchema.Proofs.Document.Reading

namespace RelSchema

/-- The part of a model that a check of its enumerations looks at. -/
def Model.outline (m : Model) : String × List FieldSpec :=
  (m.name, m.fields.map (·.spec))

@[simp] theorem Model.outline_retarget (m : Model) (kind : Option NamespaceKind)
    (options : Options) : (m.retarget kind options).outline = m.outline := by
  simp only [outline, name_retarget, map_spec_retarget]

namespace Schema

/-- The first field of a model that refers to an enumeration that is not there. -/
def outlineFault? (enums : Keyed Enumeration) (outline : String × List FieldSpec) :
    Option SchemaError :=
  ((outline.2.filter fun spec => Text.startsWith spec.constraint "enum").find?
    fun spec => !enums.has spec.name).map fun spec => .missingEnum outline.1 spec.name

theorem outlineFault?_outline (enums : Keyed Enumeration) (m : Model) :
    outlineFault? enums m.outline =
      (m.enumFields.find? fun f => !enums.has f.spec.name).map fun f =>
        .missingEnum m.name f.spec.name := by
  simp only [outlineFault?, Model.outline, Model.enumFields, List.filter_map, List.find?_map,
    Option.map_map]
  rfl

theorem missingEnum?_eq_findSome?_outline (models : List Model) (enums : Keyed Enumeration) :
    missingEnum? models enums = (models.map (·.outline)).findSome? (outlineFault? enums) := by
  rw [List.findSome?_map]
  exact congrArg (models.findSome? ·) (funext fun m => (outlineFault?_outline enums m).symm)

/-- Every enumeration that a field refers to is there. -/
def IsClosed (s : Schema) : Prop :=
  missingEnum? s.models s.enums = none

/-- The schema made anew for a target, still to be checked. -/
def view (s : Schema) (target : Target) : Schema :=
  { s with
    dialect := target.dialect
    models := s.models.map (·.retarget target.namespaceKind target.options)
    options := target.options }

theorem isClosed_of_new {name : String} {models : List Model} {enums : List Enumeration}
    {dialect : Dialect} {s : Schema} (h : Schema.new name models enums dialect = .ok s) :
    s.IsClosed := by
  obtain ⟨hclosed, rfl⟩ := new_eq_ok_iff.1 h
  exact hclosed

theorem isClosed_of_toSchema {doc : Document} {options : Options} {name : String} {s : Schema}
    (h : doc.toSchema options name = .ok s) : s.IsClosed := by
  obtain ⟨models, _, hclosed, rfl⟩ := Document.toSchema_eq_ok_iff.1 h
  exact hclosed

theorem missingEnum?_view (s : Schema) (target : Target) :
    missingEnum? (s.view target).models (s.view target).enums = missingEnum? s.models s.enums := by
  have houtline : (s.view target).models.map (·.outline) = s.models.map (·.outline) := by
    rw [Schema.view, List.map_map]
    exact List.map_congr_left fun m _ => m.outline_retarget _ _
  rw [missingEnum?_eq_findSome?_outline, houtline, ← missingEnum?_eq_findSome?_outline]
  rfl

theorem IsClosed.view {s : Schema} (h : s.IsClosed) (target : Target) :
    (s.view target).IsClosed :=
  (s.missingEnum?_view target).trans h

theorem IsClosed.specialize {s : Schema} (h : s.IsClosed) (target : Target) :
    s.specialize target = .ok (s.view target) :=
  check_eq_ok_iff.2 ⟨h.view target, rfl⟩

theorem view_view (s : Schema) (target target' : Target) :
    (s.view target).view target' = s.view target' := by
  simp only [view, List.map_map]
  congr 1
  exact List.map_congr_left fun m _ => m.retarget_retarget _ _ _ _

/-- A chain of targets leaves what its last target alone would have left. -/
theorem IsClosed.foldlM_specialize {s : Schema} (h : s.IsClosed) (targets : List Target)
    (last : Target) : (targets ++ [last]).foldlM Schema.specialize s = .ok (s.view last) := by
  induction targets generalizing s with
  | nil => exact bind_eq_ok_iff.2 ⟨_, h.specialize last, rfl⟩
  | cons target targets ih =>
    rw [List.cons_append, List.foldlM_cons, h.specialize]
    exact (ih (h.view target)).trans (congrArg _ (s.view_view target last))

end Schema

theorem DocumentModel.retarget_assemble (options : Options) (junctions : List String)
    (m : DocumentModel) (specs : List FieldSpec) (data : List Row) :
    (m.assemble options junctions specs data).retarget none options =
      m.assemble options junctions specs data := by
  refine (Model.retarget_ofParts _ _ _ _ _ _).trans ?_
  rw [List.map_map]
  rfl

theorem Document.view_assemble {doc : Document} {options : Options} {models : List Model}
    (h : doc.toModels options = .ok models) (name : String) :
    (doc.assemble options name models).view { dialect := .plain, options } =
      doc.assemble options name models := by
  have hmodel : ∀ m ∈ models, m.retarget none options = m := by
    intro m hm
    obtain ⟨dm, _, hdm⟩ := exists_of_mem_mapM h hm
    obtain ⟨specs, data, _, _, _, rfl⟩ := (dm.toTypedModel_eq_ok_iff _ _).1 hdm
    exact dm.retarget_assemble options doc.junctions specs data
  have hmodels : models.map (·.retarget none options) = models :=
    (List.map_congr_left hmodel).trans (List.map_id models)
  simp only [Schema.view, assemble, hmodels]

/-- However a schema that was checked when it was made or read is specialized, every step succeeds
and the last target alone decides what comes of it. -/
theorem Schema.specialize_chain {s : Schema}
    (h : (∃ name models enums dialect, Schema.new name models enums dialect = .ok s) ∨
      ∃ doc options name, Document.toSchema doc options name = .ok s)
    (targets : List Target) (last : Target) :
    (∃ t, (targets ++ [last]).foldlM Schema.specialize s = .ok t ∧ s.specialize last = .ok t) ∧
      ∀ doc options name, Document.toSchema doc options name = .ok s →
        s.specialize { dialect := .plain, options } = .ok s := by
  have hclosed : s.IsClosed := by
    rcases h with ⟨_, _, _, _, h⟩ | ⟨_, _, _, h⟩
    · exact isClosed_of_new h
    · exact isClosed_of_toSchema h
  refine ⟨⟨s.view last, hclosed.foldlM_specialize targets last, hclosed.specialize last⟩, ?_⟩
  intro doc options name hread
  obtain ⟨models, hmodels, _, rfl⟩ := Document.toSchema_eq_ok_iff.1 hread
  rw [hclosed.specialize, Document.view_assemble hmodels]

theorem Schema.specialize_chain_fleet :
    ∃ s, Document.fleet.toSchema {} "fleet" = .ok s ∧
      (∃ t, List.foldlM Schema.specialize s ([{ dialect := .pgEnum }, { dialect := .java }] ++
            [{ dialect := .django, namespaceKind := some .djangoApp }]) = .ok t ∧
        s.specialize { dialect := .django, namespaceKind := some .djangoApp } = .ok t) ∧
      s.specialize { dialect := .plain, options := {} } = .ok s := by
  obtain ⟨s, hs⟩ := fault?_eq_none_iff.1
    (show fault? (Document.fleet.toSchema {} "fleet") = none by decide +kernel)
  obtain ⟨hchain, hplain⟩ := Schema.specialize_chain (.inr ⟨_, _, _, hs⟩)
    [{ dialect := .pgEnum }, { dialect := .java }]
    { dialect := .django, namespaceKind := some .djangoApp }
  exact ⟨s, hs, hchain, hplain _ _ _ hs⟩

end RelSchema
