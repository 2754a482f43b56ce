import RelSchema.Document.Reader
import RelSchema.Output
import RelSchema.Proofs.Document.Acceptance
import RelSchema.Proofs.Document.Values
import RelSchema.Proofs.FieldSpec.RoundTrip

namespace RelSchema

namespace DocumentModel

variable {options : Options} {junctions : List String}

/-- The written form of a model, in which every row is a list. -/
def ofModel (m : Model) : DocumentModel where
  name := m.name
  properties := m.info.properties
  fields := m.fields.map (·.spec.toRow.toKeyed)
  data := m.data.map .list

theorem orderRows_map_list {model : String} {names : List String} {data : List Row} (index : Nat)
    (h : ∀ row ∈ data, row.length = names.length) :
    orderRows model names index (data.map .list) = .ok data := by
  rw [orderRows_eq_ok_iff, List.forall₂_map_left_iff, List.forall₂_same]
  intro row hrow
  exact if_pos (h row hrow)

/-- No length that has been read is zero, and zero is the only one that would be lost. -/
theorem specs_ofModel_assemble {dm : DocumentModel} {specs : List FieldSpec} {data : List Row}
    (h : dm.specs = .ok specs) :
    (ofModel (dm.assemble options junctions specs data)).specs = .ok specs := by
  have hfields : (ofModel (dm.assemble options junctions specs data)).fields =
      specs.map (·.toRow.toKeyed) := by
    have hspecs := dm.map_spec_assemble options junctions specs data
    rw [ofModel, ← hspecs, List.map_map, hspecs]
    rfl
  have hread : ∀ spec ∈ specs, FieldSpec.ofKeyed spec.toRow.toKeyed = .ok spec := by
    intro spec hspec
    obtain ⟨field, _, hfield⟩ := exists_of_mem_mapM (mapError_eq_ok_iff.1 h) hspec
    exact FieldSpec.ofKeyed_toKeyed (FieldSpec.length_of_ofRow hfield)
  rw [DocumentModel.specs, mapError_eq_ok_iff, hfields, mapM_eq_ok_iff,
    List.forall₂_map_left_iff, List.forall₂_same]
  exact hread

theorem toTypedModel_ofModel {dm : DocumentModel} {m : Model}
    (h : dm.toTypedModel options junctions = .ok m) :
    (ofModel m).toTypedModel options junctions = .ok m := by
  obtain ⟨specs, data, hspecs, hdata, htyped, rfl⟩ := (dm.toTypedModel_eq_ok_iff _ _).1 h
  have hrows : orderRows dm.name (specs.map (·.name)) 0 (data.map .list) = .ok data :=
    orderRows_map_list 0 fun row hrow => length_of_mem_orderRows hdata hrow
  exact (toTypedModel_eq_ok_iff _ _ _).2
    ⟨specs, data, specs_ofModel_assemble hspecs, hrows, htyped, rfl⟩

end DocumentModel

namespace Document

variable {doc : Document} {options : Options} {name : String} {s : Schema}

theorem junctions_ofSchema (h : doc.toModels options = .ok s.models) :
    (ofSchema s).junctions = doc.junctions := by
  have hnames : s.models.map (·.name) = doc.models.map (·.name) :=
    map_eq_of_mapM h fun _ _ hm => DocumentModel.name_of_toTypedModel hm
  rw [junctions, junctions, ← hnames, ofSchema, List.map_map]
  rfl

theorem toModels_ofSchema (h : doc.toModels options = .ok s.models) :
    (ofSchema s).toModels options = .ok s.models := by
  have hmodels : (ofSchema s).models = s.models.map DocumentModel.ofModel := rfl
  have hread : ∀ m ∈ s.models,
      (DocumentModel.ofModel m).toTypedModel options doc.junctions = .ok m := by
    intro m hm
    obtain ⟨dm, _, hdm⟩ := exists_of_mem_mapM h hm
    exact DocumentModel.toTypedModel_ofModel hdm
  rw [toModels, junctions_ofSchema h, hmodels, mapM_eq_ok_iff, List.forall₂_map_left_iff,
    List.forall₂_same]
  exact hread

theorem ofEntries_values (enums : List Enumeration) :
    Keyed.ofEntries (((Keyed.ofEntries (enums.map fun e => (e.name, e))).map (·.2)).map
        fun e => (e.name, e)) =
      Keyed.ofEntries (enums.map fun e => (e.name, e)) := by
  have hnamed : ∀ entry ∈ Keyed.ofEntries (enums.map fun e => (e.name, e)),
      (entry.2.name, entry.2) = entry := by
    intro entry hentry
    obtain ⟨e, _, rfl⟩ := List.mem_map.1 (Keyed.mem_of_mem_ofEntries hentry)
    rfl
  have hmap : ((Keyed.ofEntries (enums.map fun e => (e.name, e))).map (·.2)).map
      (fun e => (e.name, e)) = Keyed.ofEntries (enums.map fun e => (e.name, e)) := by
    rw [List.map_map]
    exact (List.map_congr_left hnamed).trans (List.map_id _)
  rw [hmap, Keyed.ofEntries_eq_self (Keyed.nodup_keys_ofEntries _)]

theorem toSchema_ofSchema (h : doc.toSchema options name = .ok s) (other : String) :
    (ofSchema s).toSchema options other = .ok s := by
  obtain ⟨models, hmodels, hclosed, rfl⟩ := toSchema_eq_ok_iff.1 h
  have henums : Keyed.ofEntries
      ((ofSchema (doc.assemble options name models)).enums.map fun e => (e.name, e)) =
        Keyed.ofEntries (doc.enums.map fun e => (e.name, e)) := ofEntries_values doc.enums
  refine toSchema_eq_ok_iff.2 ⟨models, toModels_ofSchema hmodels, ?_, ?_⟩
  · rw [henums]
    exact hclosed
  · rw [assemble, henums]
    rfl

end Document

theorem Schema.ofYaml_eq_ok_iff {options : Options} {name text : String} {s : Schema} :
    Schema.ofYaml options name text = .ok s ↔
      ∃ doc, Document.ofYaml? text = some doc ∧ doc.toSchema options name = .ok s := by
  unfold ofYaml
  cases Document.ofYaml? text <;> simp

/-- A document is kept by YAML if it is read back from its own text. -/
def Document.SurvivesYaml (doc : Document) : Prop :=
  ofYaml? doc.toYaml = some doc

instance (doc : Document) : Decidable doc.SurvivesYaml :=
  inferInstanceAs (Decidable (Document.ofYaml? doc.toYaml = some doc))

/-- What has been read from YAML, and is written to YAML that keeps its document, is read back under
any default name as the schema it was. It equals that schema if no NaN stood in the first text, and
is written to the same text again. -/
theorem Schema.yaml_round_trip {options : Options} {name source : String} {s : Schema}
    (hread : Schema.ofYaml options name source = .ok s)
    (hnan : ∀ doc, Document.ofYaml? source = some doc → doc.IsNaNFree)
    (hyaml : (Document.ofSchema s).SurvivesYaml) {o : Output} (hformat : o.format = .yaml)
    (other : String) :
    ∃ text again, o.render s = .ok text ∧ Schema.ofYaml options other text = .ok again ∧
      (again == s) = true ∧ again = s ∧ o.render again = .ok text := by
  obtain ⟨doc, hdoc, hs⟩ := ofYaml_eq_ok_iff.1 hread
  have hwrite : o.render s = .ok (Document.ofSchema s).toYaml := if_pos hformat
  have hagain : Schema.ofYaml options other (Document.ofSchema s).toYaml = .ok s :=
    ofYaml_eq_ok_iff.2 ⟨_, hyaml, Document.toSchema_ofSchema hs other⟩
  exact ⟨_, s, hwrite, hagain, beq_self ((hnan doc hdoc).isNaN_values hs), rfl, hwrite⟩

/-- The text of a document that names the cells of a row. -/
def garage : String :=
  "models:\n- name: car\n  fields:\n  - \x7bname: id, type: int\x7d\n  data:\n  - \x7bid: 1\x7d\n"

theorem Schema.yaml_round_trip_garage :
    ∃ s, Schema.ofYaml {} "garage" garage = .ok s ∧ ∃ text again,
      Output.render { format := .yaml } s = .ok text ∧
      Schema.ofYaml {} "other" text = .ok again ∧ (again == s) = true ∧ again = s ∧
      Output.render { format := .yaml } again = .ok text := by
  have hread : ∃ s, Schema.ofYaml {} "garage" garage = .ok s ∧
      (Document.ofSchema s).SurvivesYaml := exists_eq_ok_of_any (by decide +kernel)
  have hfree : (Document.ofYaml? garage).all (fun doc => decide doc.IsNaNFree) = true := by
    decide +kernel
  have hnan : ∀ doc, Document.ofYaml? garage = some doc → doc.IsNaNFree := by
    intro doc hdoc
    rw [hdoc] at hfree
    exact of_decide_eq_true hfree
  obtain ⟨s, hs, hyaml⟩ := hread
  exact ⟨s, hs, Schema.yaml_round_trip hs hnan hyaml rfl "other"⟩

end RelSchema
