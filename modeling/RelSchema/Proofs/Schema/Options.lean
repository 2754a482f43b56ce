import RelSchema.Proofs.Document.Acceptance
import RelSchema.Proofs.Model.Options

namespace RelSchema

namespace Schema

variable (options : Options) (s : Schema)

/-- The schema as if the options had been chosen for it. -/
def under : Schema :=
  { s with models := s.models.map (·.under options), options }

theorem fields_under : (s.under options).fields = s.fields.map (·.under options) := by
  rw [fields, fields, under, List.flatMap_map, List.map_flatMap]
  rfl

theorem mapM_models_under {ε α : Type} {options : Options} {s : Schema} {g : Model → Except ε α}
    (h : ∀ m ∈ s.models, g (m.under options) = g m) :
    (s.under options).models.mapM g = s.models.mapM g :=
  mapM_map_congr h

theorem baseTypes_under : (s.under options).baseTypes = s.baseTypes := by
  simp only [baseTypes, fields_under, List.any_map]
  rfl

theorem missingEnum?_under (models : List Model) (enums : Keyed Enumeration) :
    missingEnum? (models.map (·.under options)) enums = missingEnum? models enums := by
  simp only [missingEnum?_eq_findSome?_outline, List.map_map, Function.comp_def,
    Model.outline_under]

theorem check_under : (s.under options).check = s.check.map (·.under options) := by
  have hmissing : missingEnum? (s.under options).models (s.under options).enums =
      missingEnum? s.models s.enums := missingEnum?_under options s.models s.enums
  rw [check, check, hmissing]
  cases missingEnum? s.models s.enums <;> rfl

theorem view_under (target : Target) : (s.under options).view target = s.view target := by
  simp only [view, under, List.map_map, Function.comp_def, Model.retarget_under]

theorem under_view (target : Target) :
    (s.view target).under options = s.view { target with options } := by
  simp only [view, under, List.map_map, Function.comp_def, Model.under_retarget]

theorem specialize_under (target : Target) :
    (s.under options).specialize target = s.specialize target :=
  congrArg check (s.view_under options target)

theorem specialize_options (target : Target) :
    s.specialize { target with options } = (s.specialize target).map (·.under options) := by
  have hview : s.specialize { target with options } = ((s.view target).under options).check :=
    congrArg check (s.under_view options target).symm
  rw [hview, check_under]
  rfl

end Schema

namespace DocumentModel

variable {options : Options} {junctions : List String} {dm : DocumentModel}

theorem toTypedModel_under {m : Model} (h : dm.toTypedModel options junctions = .ok m)
    (options' : Options) : dm.toTypedModel options' junctions = .ok (m.under options') := by
  obtain ⟨specs, data, hspecs, hdata, htyped, rfl⟩ := (dm.toTypedModel_eq_ok_iff _ _).1 h
  refine (dm.toTypedModel_eq_ok_iff _ _).2 ⟨specs, data, hspecs, hdata, htyped, ?_⟩
  rw [assemble, assemble, Model.under_ofParts, List.map_map]
  rfl

end DocumentModel

namespace Document

variable {doc : Document} {name : String}

theorem toModels_under {options : Options} {models : List Model}
    (h : doc.toModels options = .ok models) (options' : Options) :
    doc.toModels options' = .ok (models.map (·.under options')) := by
  rw [toModels, mapM_eq_ok_iff] at h ⊢
  exact List.forall₂_map_right_iff.2
    (h.imp fun dm m hm => DocumentModel.toTypedModel_under hm options')

theorem toSchema_under {options : Options} {s : Schema} (h : doc.toSchema options name = .ok s)
    (options' : Options) : doc.toSchema options' name = .ok (s.under options') := by
  obtain ⟨models, hmodels, hclosed, rfl⟩ := toSchema_eq_ok_iff.1 h
  refine toSchema_eq_ok_iff.2 ⟨_, toModels_under hmodels options', ?_, ?_⟩
  · rw [Schema.missingEnum?_under, hclosed]
  · simp only [assemble, Schema.under, List.flatMap_map, Model.plainTypes_under]

theorem toSchema_options (doc : Document) (options options' : Options) (name : String) :
    doc.toSchema options' name = (doc.toSchema options name).map (·.under options') := by
  cases h : doc.toSchema options name with
  | ok s => exact toSchema_under h options'
  | error e =>
    have hfault : fault? (doc.toSchema options' name) = fault? (doc.toSchema options name) := by
      rw [fault?_toSchema, fault?_toSchema]
    rw [h] at hfault
    exact fault?_eq_some_iff.1 hfault

theorem ofSchema_under (options : Options) (s : Schema) :
    ofSchema (s.under options) = ofSchema s := by
  simp only [ofSchema, Schema.under, Model.under, List.map_map, Function.comp_def, Field.spec_under]
  rfl

end Document

end RelSchema
