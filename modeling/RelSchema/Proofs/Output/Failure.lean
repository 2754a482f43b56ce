import RelSchema.Output
import RelSchema.Proofs.Schema.Specialization
import RelSchema.Proofs.Script

namespace RelSchema

namespace Format

/-- The properties that a model with a package has to have. -/
def packageProperties : Format → List String
  | .djangoModels => ["model"]
  | .djangoFactories => ["app", "model"]
  | _ => []

/-- The formats whose dialects have no name for the numeric type. -/
def lacksNumeric : List Format :=
  [.hibernate, .scala, .sqlAlchemy, .djangoModels, .djangoFactories]

theorem dialect_mem_iff (format : Format) :
    format.dialect ∈ Dialect.lacksNumeric ↔ format ∈ lacksNumeric := by
  cases format <;> decide

theorem ne_yaml_of_mem_lacksNumeric {format : Format} (h : format ∈ lacksNumeric) :
    format ≠ .yaml := by
  rintro rfl
  revert h
  decide

theorem dialect_ne_plain {format : Format} (h : format ≠ .yaml) : format.dialect ≠ .plain := by
  cases format <;> simp_all [dialect]

/-- A factory begins with the package of its model, and anything else with the fields. -/
def modelFault? (format : Format) (m : Model) : Option WriteError :=
  let types := (m.typeFault? format.dialect).map WriteError.field
  let package := (m.packageFault? format.packageProperties).map WriteError.package
  if format = .djangoFactories then package.or types else types.or package

theorem modelFault?_of_no_properties {format : Format} (h : format.packageProperties = [])
    (m : Model) : format.modelFault? m = (m.typeFault? format.dialect).map .field := by
  have hformat : format ≠ .djangoFactories := by
    rintro rfl
    cases h
  have hpackage : m.packageFault? [] = none := by
    unfold Model.packageFault?
    split <;> rfl
  rw [modelFault?, if_neg hformat, h, hpackage, Option.map_none, Option.or_none]

end Format

namespace Schema

theorem isTyped_of_toSchema {doc : Document} {options : Options} {name : String} {s : Schema}
    (h : doc.toSchema options name = .ok s) : ∀ m ∈ s.models, m.IsTyped := by
  intro m hm f hf
  obtain ⟨models, hmodels, _, rfl⟩ := Document.toSchema_eq_ok_iff.1 h
  obtain ⟨dm, _, hdm⟩ := exists_of_mem_mapM hmodels hm
  obtain ⟨specs, data, _, _, htyped, rfl⟩ := (dm.toTypedModel_eq_ok_iff _ _).1 hdm
  have hspec := List.mem_map_of_mem (f := fun f : Field => f.spec) hf
  rw [DocumentModel.map_spec_assemble] at hspec
  exact htyped f.spec hspec

/-- The name of the first numeric field, with its model, in the order of models and fields. -/
def firstNumeric? (s : Schema) : Option String :=
  s.models.findSome? fun m =>
    (m.fields.find? (·.spec.type = some .numeric)).map fun f => m.name ++ "." ++ f.spec.name

end Schema

namespace Output

theorem fault?_script {format : Format} {s : Schema} (hformat : format ≠ .yaml)
    (hd : s.dialect = format.dialect) (hs : ∀ m ∈ s.models, m.IsTyped) :
    fault? (script format s) = s.models.findSome? format.modelFault? := by
  have hfields : ∀ text : Except FieldError String, format.packageProperties = [] →
      fault? text = s.models.findSome? (·.typeFault? format.dialect) →
      fault? (text.mapError WriteError.field) = s.models.findSome? format.modelFault? := by
    intro text hnone htext
    rw [fault?_mapError, htext, List.map_findSome?]
    exact congrArg (s.models.findSome? ·)
      (funext fun m => (format.modelFault?_of_no_properties hnone m).symm)
  cases format with
  | yaml => exact absurd rfl hformat
  | sql | sqlite | postgres | pgEnum =>
    have hplain := Format.dialect_ne_plain hformat
    refine hfields _ rfl ?_
    rw [← hd] at hplain ⊢
    exact Script.Sql.fault?_text hs hplain
  | haskell => exact hfields _ rfl (Script.Haskell.fault?_text hs)
  | hibernate => exact hfields _ rfl (Script.Jvm.fault?_java hs)
  | scala => exact hfields _ rfl (Script.Jvm.fault?_scala hs)
  | sqlAlchemy => exact hfields _ rfl (Script.SqlAlchemy.fault?_text hs)
  | djangoModels => exact Script.Django.fault?_models hs
  | djangoFactories => exact Script.Django.fault?_factories hs
  | abap => exact hfields _ rfl (Script.Abap.fault?_text hs)

/-- The first fault of a model as a format's dialect sees it. -/
def modelFault? (o : Output) (m : Model) : Option WriteError :=
  o.format.modelFault? (m.retarget o.namespaceKind o.options)

theorem fault?_render {o : Output} {s : Schema} (hformat : o.format ≠ .yaml) (hclosed : s.IsClosed)
    (hs : ∀ m ∈ s.models, m.IsTyped) : fault? (o.render s) = s.models.findSome? o.modelFault? := by
  have hview : ∀ m ∈ (s.view o.target).models, m.IsTyped := by
    intro m hm
    obtain ⟨n, hn, rfl⟩ := List.mem_map.1 hm
    exact (hs n hn).retarget _ _
  have hrender : o.render s = script o.format (s.view o.target) := by
    rw [render, if_neg hformat, hclosed.specialize]
    rfl
  rw [hrender, fault?_script hformat rfl hview, Schema.view, List.findSome?_map]
  rfl

/-- A numeric field has no type in the format. -/
def LacksType (o : Output) (s : Schema) : Prop :=
  o.format ∈ Format.lacksNumeric ∧ ∃ m ∈ s.models, ∃ f ∈ m.fields, f.spec.type = some .numeric

instance (o : Output) (s : Schema) : Decidable (o.LacksType s) :=
  inferInstanceAs (Decidable (_ ∧ _))

/-- A model that is to be in a package lacks a property that names it. -/
def LacksProperty (o : Output) (s : Schema) : Prop :=
  o.namespaceKind ≠ none ∧
    ∃ m ∈ s.models, ∃ key ∈ o.format.packageProperties, m.info.properties.has key = false

theorem modelFault?_eq_none_iff {m : Model} (h : m.IsTyped) (o : Output) :
    o.modelFault? m = none ↔
      (o.format ∈ Format.lacksNumeric → ∀ f ∈ m.fields, f.spec.type ≠ some .numeric) ∧
      (o.namespaceKind ≠ none →
        ∀ key ∈ o.format.packageProperties, m.info.properties.has key = true) := by
  have htypes : (m.retarget o.namespaceKind o.options).typeFault? o.format.dialect = none ↔
      (o.format ∈ Format.lacksNumeric → ∀ f ∈ m.fields, f.spec.type ≠ some .numeric) := by
    rw [h.typeFault?_retarget]
    simp only [Format.dialect_mem_iff]
    split <;> simp_all
  have hpackage : (m.retarget o.namespaceKind o.options).packageFault?
        o.format.packageProperties = none ↔
      (o.namespaceKind ≠ none →
        ∀ key ∈ o.format.packageProperties, m.info.properties.has key = true) := by
    have hkind : (m.retarget o.namespaceKind o.options).namespaceKind = o.namespaceKind := rfl
    have hinfo : (m.retarget o.namespaceKind o.options).info.properties = m.info.properties := rfl
    rw [Model.packageFault?, hkind, hinfo]
    split <;> simp_all
  rw [← htypes, ← hpackage, modelFault?, Format.modelFault?]
  split
  · simp [and_comm]
  · simp

theorem modelFault?_of_no_package {o : Output} {m : Model} (h : m.IsTyped)
    (hkind : o.namespaceKind = none) (hformat : o.format ∈ Format.lacksNumeric) :
    o.modelFault? m =
      ((m.fields.find? (·.spec.type = some .numeric)).map fun f =>
        m.name ++ "." ++ f.spec.name).map
        fun path => .field (.unmapped path .numeric o.format.dialect) := by
  have hpackage : (m.retarget o.namespaceKind o.options).packageFault?
      o.format.packageProperties = none := if_pos hkind
  have htypes := h.typeFault?_retarget o.format.dialect o.namespaceKind o.options
  rw [if_pos ((Format.dialect_mem_iff _).2 hformat)] at htypes
  rw [modelFault?, Format.modelFault?, hpackage, htypes, Option.map_map, Option.map_map]
  split
  · exact Option.none_or
  · exact Option.or_none

theorem exists_render_iff {o : Output} {s : Schema} (hclosed : s.IsClosed)
    (hs : ∀ m ∈ s.models, m.IsTyped) :
    (∃ text, o.render s = .ok text) ↔ ¬ (o.LacksType s ∨ o.LacksProperty s) := by
  by_cases hformat : o.format = .yaml
  · have htype : ¬ o.LacksType s := fun h => Format.ne_yaml_of_mem_lacksNumeric h.1 hformat
    have hproperty : ¬ o.LacksProperty s := by
      rintro ⟨_, m, _, key, hkey, _⟩
      rw [hformat] at hkey
      cases hkey
    exact iff_of_true ⟨_, if_pos hformat⟩ (not_or.2 ⟨htype, hproperty⟩)
  · rw [← fault?_eq_none_iff, fault?_render hformat hclosed hs, List.findSome?_eq_none_iff]
    constructor
    · rintro h (⟨hlacks, m, hm, f, hf, hnumeric⟩ | ⟨hkind, m, hm, key, hkey, hhas⟩)
      · exact ((modelFault?_eq_none_iff (hs m hm) o).1 (h m hm)).1 hlacks f hf hnumeric
      · have hhas' := ((modelFault?_eq_none_iff (hs m hm) o).1 (h m hm)).2 hkind key hkey
        rw [hhas] at hhas'
        cases hhas'
    · intro h m hm
      rw [modelFault?_eq_none_iff (hs m hm)]
      constructor
      · intro hlacks f hf hnumeric
        exact h (.inl ⟨hlacks, m, hm, f, hf, hnumeric⟩)
      · intro hkind key hkey
        by_contra hhas
        exact h (.inr ⟨hkind, m, hm, key, hkey, Bool.eq_false_iff.2 hhas⟩)

/-- A schema that has been read is written unless a numeric field lacks a type or, if there are
packages, a model lacks a property. Without packages the error names the first numeric field. -/
theorem render_outcome {doc : Document} {readOptions : Options} {name : String} {s : Schema}
    (h : doc.toSchema readOptions name = .ok s) (o : Output) :
    ((∃ text, o.render s = .ok text) ↔ ¬ (o.LacksType s ∨ o.LacksProperty s)) ∧
      (o.namespaceKind = none → o.LacksType s →
        ∃ path, s.firstNumeric? = some path ∧
          o.render s = .error (.field (.unmapped path .numeric o.format.dialect))) := by
  have hclosed := Schema.isClosed_of_toSchema h
  have hs := Schema.isTyped_of_toSchema h
  refine ⟨exists_render_iff hclosed hs, ?_⟩
  rintro hkind ⟨hlacks, m, hm, f, hf, hnumeric⟩
  have hformat := Format.ne_yaml_of_mem_lacksNumeric hlacks
  have hfault : fault? (o.render s) = s.firstNumeric?.map fun path =>
      .field (.unmapped path .numeric o.format.dialect) := by
    rw [fault?_render hformat hclosed hs, Schema.firstNumeric?, List.map_findSome?]
    exact findSome?_congr fun n hn => modelFault?_of_no_package (hs n hn) hkind hlacks
  cases hpath : s.firstNumeric? with
  | none =>
    rw [Schema.firstNumeric?, List.findSome?_eq_none_iff] at hpath
    have hnone := Option.map_eq_none_iff.1 (hpath m hm)
    exact absurd (decide_eq_true hnumeric) (List.find?_eq_none.1 hnone f hf)
  | some path =>
    rw [hpath] at hfault
    exact ⟨path, rfl, fault?_eq_some_iff.1 hfault⟩

theorem render_outcome_fleet :
    ∃ s, Document.fleet.toSchema {} "fleet" = .ok s ∧
      LacksType { format := .hibernate } s ∧
      ∃ path, s.firstNumeric? = some path ∧
        render { format := .hibernate } s = .error (.field (.unmapped path .numeric .java)) := by
  obtain ⟨s, hs, hlacks⟩ := exists_eq_ok_of_any (x := Document.fleet.toSchema {} "fleet")
    (p := fun s => LacksType { format := .hibernate } s) (by decide +kernel)
  exact ⟨s, hs, hlacks, (render_outcome hs { format := .hibernate }).2 rfl hlacks⟩

end Output

end RelSchema
