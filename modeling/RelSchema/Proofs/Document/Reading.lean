import RelSchema.Document
import RelSchema.Proofs.Field.Typing
import RelSchema.Proofs.Model.Linking

namespace RelSchema

namespace Model

/-- What keeps the first of the fields without a type from having one. -/
def typeFault? (d : Dialect) (m : Model) : Option FieldError :=
  m.fields.findSome? (·.typeFault? d)

theorem fault?_types (d : Dialect) (m : Model) : fault? (m.types d) = m.typeFault? d := by
  simp only [types, fault?_mapM, Field.fault?_typeName, typeFault?]

theorem typeFault?_ofParts (d : Dialect) (info : ModelInfo) (fields : List Field)
    (data : List Row) (kind : Option NamespaceKind) :
    (ofParts info fields data kind).typeFault? d =
      (fields.map (·.spec)).findSome? (·.typeFault? d info.name) :=
  findSome?_linkFields _ _ (fun name spec => spec.typeFault? d name) fields

end Model

theorem Schema.check_eq_ok_iff {s t : Schema} :
    s.check = .ok t ↔ missingEnum? s.models s.enums = none ∧ s = t := by
  unfold check
  cases missingEnum? s.models s.enums <;> simp

theorem Schema.new_eq_ok_iff {name : String} {models : List Model} {enums : List Enumeration}
    {dialect : Dialect} {s : Schema} :
    Schema.new name models enums dialect = .ok s ↔
      missingEnum? models (.ofEntries (enums.map fun e => (e.name, e))) = none ∧
        { name, dialect, models, enums := .ofEntries (enums.map fun e => (e.name, e)) } = s :=
  check_eq_ok_iff

namespace DocumentModel

variable (options : Options) (junctions : List String) (m : DocumentModel)

/-- The model whose attributes and rows have been read. -/
def assemble (specs : List FieldSpec) (data : List Row) : Model :=
  .ofParts
    { name := m.name
      properties := m.properties
      isCandidate := junctions.contains m.name
      options }
    (specs.map fun spec => { spec, options }) data none

theorem map_spec_fields (specs : List FieldSpec) :
    (specs.map fun spec => ({ spec, options } : Field)).map (·.spec) = specs := by
  rw [List.map_map]
  exact List.map_id specs

@[simp] theorem map_spec_assemble (specs : List FieldSpec) (data : List Row) :
    (m.assemble options junctions specs data).fields.map (·.spec) = specs := by
  rw [assemble, Model.map_spec_ofParts, map_spec_fields]

theorem fault?_types_assemble (specs : List FieldSpec) (data : List Row) :
    fault? ((m.assemble options junctions specs data).types .plain) =
      specs.findSome? fun spec =>
        if spec.type = none then some (.missingType (m.name ++ "." ++ spec.name)) else none := by
  rw [Model.fault?_types, assemble, Model.typeFault?_ofParts, map_spec_fields]
  simp only [FieldSpec.typeFault?_plain]

theorem orderRows_eq_ok_iff {model : String} {names : List String} {index : Nat}
    {rows : List DocumentRow} {data : List Row} :
    orderRows model names index rows = .ok data ↔
      List.Forall₂ (fun row cells => row.order names = .ok cells) rows data := by
  induction rows generalizing index data with
  | nil =>
    rw [List.forall₂_nil_left_iff, orderRows, Except.ok.injEq, eq_comm]
  | cons row rows ih =>
    rw [orderRows, List.forall₂_cons_left_iff]
    constructor
    · intro h
      obtain ⟨cells, hcells, h⟩ := bind_eq_ok_iff.1 h
      obtain ⟨rest, hrest, h⟩ := bind_eq_ok_iff.1 h
      cases h
      exact ⟨cells, rest, mapError_eq_ok_iff.1 hcells, ih.1 hrest, rfl⟩
    · rintro ⟨cells, rest, hcells, hrest, rfl⟩
      rw [hcells, ih.2 hrest]
      rfl

theorem toModel_eq_ok_iff {model : Model} :
    m.toModel options junctions = .ok model ↔ ∃ specs data, m.specs = .ok specs ∧
      orderRows m.name (specs.map (·.name)) 0 m.data = .ok data ∧
      m.assemble options junctions specs data = model := by
  constructor
  · intro h
    obtain ⟨specs, hspecs, h⟩ := bind_eq_ok_iff.1 h
    obtain ⟨data, hdata, h⟩ := bind_eq_ok_iff.1 h
    cases h
    exact ⟨specs, data, hspecs, hdata, rfl⟩
  · rintro ⟨specs, data, hspecs, hdata, rfl⟩
    exact bind_eq_ok_iff.2 ⟨specs, hspecs, bind_eq_ok_iff.2 ⟨data, hdata, rfl⟩⟩

theorem toTypedModel_eq_ok_iff {model : Model} :
    m.toTypedModel options junctions = .ok model ↔ ∃ specs data, m.specs = .ok specs ∧
      orderRows m.name (specs.map (·.name)) 0 m.data = .ok data ∧
      (∀ spec ∈ specs, spec.type ≠ none) ∧ m.assemble options junctions specs data = model := by
  have htyped : ∀ specs data,
      (∃ types, (m.assemble options junctions specs data).types .plain = .ok types) ↔
        ∀ spec ∈ specs, spec.type ≠ none := by
    intro specs data
    rw [← fault?_eq_none_iff, fault?_types_assemble]
    simp [List.findSome?_eq_none_iff]
  constructor
  · intro h
    obtain ⟨model', hmodel, h⟩ := bind_eq_ok_iff.1 h
    obtain ⟨types, htypes, h⟩ := bind_eq_ok_iff.1 h
    cases h
    obtain ⟨specs, data, hspecs, hdata, rfl⟩ := (m.toModel_eq_ok_iff _ _).1 hmodel
    rw [mapError_eq_ok_iff] at htypes
    exact ⟨specs, data, hspecs, hdata, (htyped specs data).1 ⟨types, htypes⟩, rfl⟩
  · rintro ⟨specs, data, hspecs, hdata, ht, rfl⟩
    obtain ⟨types, htypes⟩ := (htyped specs data).2 ht
    have hmodel := (m.toModel_eq_ok_iff options junctions).2 ⟨specs, data, hspecs, hdata, rfl⟩
    exact bind_eq_ok_iff.2
      ⟨_, hmodel, bind_eq_ok_iff.2 ⟨types, mapError_eq_ok_iff.2 htypes, rfl⟩⟩

variable {options junctions} {m} {model : Model}

theorem name_of_toTypedModel (h : m.toTypedModel options junctions = .ok model) :
    model.name = m.name := by
  obtain ⟨_, _, _, _, _, rfl⟩ := (m.toTypedModel_eq_ok_iff _ _).1 h
  rfl

theorem isCandidate_of_toTypedModel (h : m.toTypedModel options junctions = .ok model) :
    model.info.isCandidate = junctions.contains m.name := by
  obtain ⟨_, _, _, _, _, rfl⟩ := (m.toTypedModel_eq_ok_iff _ _).1 h
  rfl

end DocumentModel

namespace Document

/-- The schema whose models have been read. -/
def assemble (doc : Document) (options : Options) (defaultName : String) (models : List Model) :
    Schema where
  name := doc.name.getD defaultName
  models := models
  enums := .ofEntries (doc.enums.map fun e => (e.name, e))
  types := sortedNames (models.flatMap (·.plainTypes))
  options := options

theorem toSchema_eq_ok_iff {doc : Document} {options : Options} {defaultName : String}
    {s : Schema} :
    doc.toSchema options defaultName = .ok s ↔ ∃ models, doc.toModels options = .ok models ∧
      Schema.missingEnum? models (.ofEntries (doc.enums.map fun e => (e.name, e))) = none ∧
      doc.assemble options defaultName models = s := by
  constructor
  · intro h
    obtain ⟨models, hmodels, h⟩ := bind_eq_ok_iff.1 h
    obtain ⟨made, hmade, h⟩ := bind_eq_ok_iff.1 h
    rw [mapError_eq_ok_iff, Schema.new_eq_ok_iff] at hmade
    obtain ⟨hclosed, rfl⟩ := hmade
    cases h
    exact ⟨models, hmodels, hclosed, rfl⟩
  · rintro ⟨models, hmodels, hclosed, rfl⟩
    have hmade : Schema.new (doc.name.getD defaultName) models doc.enums = .ok _ :=
      Schema.new_eq_ok_iff.2 ⟨hclosed, rfl⟩
    exact bind_eq_ok_iff.2
      ⟨models, hmodels, bind_eq_ok_iff.2 ⟨_, mapError_eq_ok_iff.2 hmade, rfl⟩⟩

/-- A document in which an enumeration is given twice, a row is given as a map, and a field is
numeric. -/
def fleet : Document where
  enums := [
    { name := "kind", entries := [(.text "car", .text "Car")] },
    { name := "kind", entries := [(.text "van", .text "Van")] }]
  models := [{
    name := "vehicle"
    properties := [("app", "fleet")]
    fields := [
      [("name", .text "id"), ("type", .text " serial "), ("index", .text "PK")],
      [("name", .text "kind"), ("type", .text "str"), ("length", .text "8"),
        ("constraint", .text "enum")],
      [("name", .text "load"), ("type", .text "numeric"), ("required", .bool true)]]
    data := [
      .list [.int 1, .text "car", .null],
      .map [("load", .float ⟨0x4008000000000000⟩), ("kind", .text "van"), ("id", .int 2)]] }]

end Document

end RelSchema
