import RelSchema.Proofs.Document.Faults
import RelSchema.Proofs.Keyed
import RelSchema.Proofs.Schema.Specialization

namespace RelSchema

theorem head?_map_filter {α β : Type} (p : α → Bool) (f : α → β) (l : List α) :
    ((l.filter p).map f).head? = l.findSome? fun a => if p a then some (f a) else none := by
  rw [List.head?_map, List.head?_filter, map_find?]

namespace DocumentModel

variable (options : Options) (junctions : List String) (m : DocumentModel)

theorem fault?_orderRows (model : String) (names : List String) (index : Nat)
    (rows : List DocumentRow) :
    fault? (orderRows model names index rows) = (rowFaults model names index rows).head? := by
  induction rows generalizing index with
  | nil => rfl
  | cons row rows ih =>
    rw [orderRows, fault?_bind fun _ _ => fault?_bind_pure _ _, fault?_mapError,
      DocumentRow.fault?_order, ih, rowFaults, rowFaults, List.zipIdx_cons, List.flatMap_cons,
      List.head?_append, List.head?_map]

theorem fault?_specs :
    fault? m.specs = ((m.fields.flatMap DocumentField.faults).map (.field m.name)).head? := by
  simp only [specs, fault?_mapError, fault?_mapM, FieldSpec.fault?_ofKeyed, List.head?_map,
    List.head?_flatMap]

theorem map_name_specs {specs : List FieldSpec} (h : m.specs = .ok specs) :
    specs.map (·.name) = m.fieldNames :=
  map_eq_of_mapM (mapError_eq_ok_iff.1 h) fun _ _ hspec => (FieldSpec.ofKeyed_eq_ok hspec).1

theorem findSome?_untyped {specs : List FieldSpec} (h : m.specs = .ok specs) :
    (specs.findSome? fun spec =>
        if spec.type = none then some (FieldError.missingType (m.name ++ "." ++ spec.name))
        else none) =
      ((m.fields.filter DocumentField.isUntyped).map fun field =>
        .missingType (m.name ++ "." ++ DocumentField.name field)).head? := by
  rw [head?_map_filter]
  refine findSome?_eq_of_mapM (mapError_eq_ok_iff.1 h) fun field spec hspec => ?_
  obtain ⟨hname, -, huntyped⟩ := FieldSpec.ofKeyed_eq_ok hspec
  simp only [hname, huntyped]

/-- Reading a model fails with its first fault. -/
theorem fault?_toTypedModel :
    fault? (m.toTypedModel options junctions) = m.faults.head? := by
  have htypes : ∀ model, m.toModel options junctions = .ok model →
      fault? (do
        let _ ← (model.types .plain).mapError (ReadError.field m.name)
        return model) =
        ((m.fields.filter DocumentField.isUntyped).map fun field =>
          ReadError.field m.name
            (.missingType (m.name ++ "." ++ DocumentField.name field))).head? := by
    intro model hmodel
    obtain ⟨specs, data, hspecs, -, rfl⟩ := (m.toModel_eq_ok_iff _ _).1 hmodel
    rw [fault?_bind_pure, fault?_mapError, fault?_types_assemble, m.findSome?_untyped hspecs,
      ← List.head?_map, List.map_map]
    rfl
  have hrows : fault? (m.toModel options junctions) =
      (fault? m.specs).or (rowFaults m.name m.fieldNames 0 m.data).head? := by
    refine fault?_bind fun specs hspecs => ?_
    rw [fault?_bind_pure, fault?_orderRows, m.map_name_specs hspecs]
  rw [toTypedModel, fault?_bind htypes, hrows, fault?_specs, faults, List.head?_append,
    List.head?_append]

theorem head?_enumFaults (enums : List Enumeration) {specs : List FieldSpec}
    (h : m.specs = .ok specs) :
    (m.enumFaults enums).head? =
      (Schema.outlineFault? (.ofEntries (enums.map fun e => (e.name, e))) (m.name, specs)).map
        .schema := by
  have hkeys : ∀ key, Keyed.has (.ofEntries (enums.map fun e => (e.name, e))) key =
      (enums.map (·.name)).contains key := by
    intro key
    rw [Keyed.has_ofEntries, List.map_map]
    rfl
  rw [Schema.outlineFault?, List.find?_filter, ← List.head?_filter, ← List.head?_map,
    ← List.head?_map, List.map_map, head?_map_filter, enumFaults, head?_map_filter]
  refine (findSome?_eq_of_mapM (mapError_eq_ok_iff.1 h) fun field spec hspec => ?_).symm
  obtain ⟨hname, hconstraint, -⟩ := FieldSpec.ofKeyed_eq_ok hspec
  simp only [hname, hconstraint, hkeys, DocumentField.isEnum, Function.comp_apply, Bool.and_eq_true,
    Bool.decide_and, Bool.decide_eq_true]

theorem outline_assemble (specs : List FieldSpec) (data : List Row) :
    (m.assemble options junctions specs data).outline = (m.name, specs) := by
  rw [Model.outline, map_spec_assemble]
  rfl

theorem length_of_mem_orderRows {model : String} {names : List String} {index : Nat}
    {rows : List DocumentRow} {data : List Row} (h : orderRows model names index rows = .ok data)
    {row : Row} (hrow : row ∈ data) : row.length = names.length := by
  obtain ⟨written, _, horder⟩ := exists_of_mem_forall₂ (orderRows_eq_ok_iff.1 h) hrow
  exact DocumentRow.length_order horder

end DocumentModel

theorem Schema.fault?_new (name : String) (models : List Model) (enums : List Enumeration)
    (dialect : Dialect) :
    fault? (Schema.new name models enums dialect) =
      (models.map (·.outline)).findSome? (outlineFault? (.ofEntries (enums.map fun e =>
        (e.name, e)))) := by
  rw [← missingEnum?_eq_findSome?_outline, Schema.new, check]
  split <;> simp_all

namespace Document

variable (doc : Document) (options : Options) (name : String)

theorem fault?_toModels :
    fault? (doc.toModels options) = (doc.models.flatMap (·.faults)).head? := by
  rw [toModels, fault?_mapM, List.head?_flatMap]
  exact congrArg (doc.models.findSome? ·)
    (funext fun m => m.fault?_toTypedModel options doc.junctions)

theorem fault?_toSchema : fault? (doc.toSchema options name) = doc.faults.head? := by
  rw [faults, List.head?_append, ← fault?_toModels doc options]
  refine fault?_bind fun models hmodels => ?_
  rw [fault?_bind_pure, fault?_mapError, Schema.fault?_new, List.findSome?_map,
    List.map_findSome?, List.head?_flatMap]
  refine findSome?_eq_of_mapM hmodels fun dm m hm => ?_
  obtain ⟨specs, data, hspecs, _, _, rfl⟩ := (dm.toTypedModel_eq_ok_iff _ _).1 hm
  rw [dm.head?_enumFaults doc.enums hspecs, Function.comp_apply, Function.comp_apply,
    DocumentModel.outline_assemble]

end Document

theorem notMem_openTypes {type : String} (h : type ∈ typeNames) : type ∉ openTypes := by
  obtain ⟨t, _, rfl⟩ := List.mem_map.1 h
  cases t <;> decide

theorem DocumentField.no_faults_iff (field : Keyed Value) :
    faults field = [] ∧ isUntyped field = false ↔
      typeName field ∈ typeNames ∧ roleName field ∈ roleNames := by
  simp only [faults, isUntyped, List.append_eq_nil_iff, ite_eq_left_iff, List.cons_ne_nil,
    imp_false, not_not, List.mem_append, decide_eq_false_iff_not]
  constructor
  · rintro ⟨⟨htype, hrole⟩, hopen⟩
    exact ⟨htype.resolve_left hopen, hrole⟩
  · rintro ⟨htype, hrole⟩
    exact ⟨⟨.inr htype, hrole⟩, notMem_openTypes htype⟩

namespace DocumentRow

theorem missing_eq_nil_iff (cells : Keyed Value) (earlier names : List String) :
    missing cells earlier names = [] ↔
      names.Nodup ∧ (∀ name ∈ names, name ∉ earlier) ∧
        ∀ name ∈ names, cells.has name = true := by
  induction names generalizing earlier with
  | nil => simp [missing]
  | cons name names ih =>
    simp only [missing, List.append_eq_nil_iff, ih, List.nodup_cons, List.forall_mem_cons]
    grind

theorem faults_list_eq_nil_iff (names : List String) (cells : List Value) :
    (list cells).faults names = [] ↔ cells.length = names.length := by
  simp [faults]

theorem faults_map_eq_nil_iff (names : List String) (cells : Keyed Value) :
    (map cells).faults names = [] ↔
      names.Nodup ∧ ∀ name ∈ names, cells.has name = true := by
  rw [faults, List.map_eq_nil_iff, missing_eq_nil_iff]
  simp

end DocumentRow

namespace DocumentModel

theorem rowFaults_eq_nil_iff (model : String) (names : List String) (index : Nat)
    (rows : List DocumentRow) :
    rowFaults model names index rows = [] ↔ ∀ row ∈ rows, row.faults names = [] := by
  induction rows generalizing index with
  | nil => simp [rowFaults]
  | cons row rows ih =>
    rw [rowFaults, List.zipIdx_cons, List.flatMap_cons, List.append_eq_nil_iff,
      List.map_eq_nil_iff, List.forall_mem_cons, ← ih (index + 1), rowFaults]

/-- What it takes for a model to be read, given the enumerations of its document. -/
structure IsAcceptable (enums : List Enumeration) (m : DocumentModel) : Prop where
  typed : ∀ field ∈ m.fields, DocumentField.typeName field ∈ typeNames
  indexed : ∀ field ∈ m.fields, DocumentField.roleName field ∈ roleNames
  listed : ∀ cells, .list cells ∈ m.data → cells.length = m.fields.length
  mapped : ∀ cells, .map cells ∈ m.data →
    m.fieldNames.Nodup ∧ ∀ name ∈ m.fieldNames, cells.has name = true
  enumerated : ∀ field ∈ m.fields, DocumentField.isEnum field = true →
    DocumentField.name field ∈ enums.map (·.name)

theorem faults_eq_nil_iff (m : DocumentModel) :
    m.faults = [] ↔
      (∀ field ∈ m.fields, DocumentField.typeName field ∈ typeNames ∧
        DocumentField.roleName field ∈ roleNames) ∧
      ∀ row ∈ m.data, row.faults m.fieldNames = [] := by
  rw [faults, List.append_eq_nil_iff, List.append_eq_nil_iff, List.map_eq_nil_iff,
    List.flatMap_eq_nil_iff, rowFaults_eq_nil_iff, List.map_eq_nil_iff, List.filter_eq_nil_iff]
  simp only [← DocumentField.no_faults_iff, Bool.not_eq_true]
  constructor
  · rintro ⟨⟨hfields, hrows⟩, htypes⟩
    exact ⟨fun field hfield => ⟨hfields field hfield, htypes field hfield⟩, hrows⟩
  · rintro ⟨hfields, hrows⟩
    exact ⟨⟨fun field hfield => (hfields field hfield).1, hrows⟩,
      fun field hfield => (hfields field hfield).2⟩

theorem enumFaults_eq_nil_iff (enums : List Enumeration) (m : DocumentModel) :
    m.enumFaults enums = [] ↔ ∀ field ∈ m.fields, DocumentField.isEnum field = true →
      DocumentField.name field ∈ enums.map (·.name) := by
  simp [enumFaults]

theorem isAcceptable_iff (enums : List Enumeration) (m : DocumentModel) :
    m.IsAcceptable enums ↔ m.faults = [] ∧ m.enumFaults enums = [] := by
  have hlength : m.fieldNames.length = m.fields.length := List.length_map _
  rw [faults_eq_nil_iff, enumFaults_eq_nil_iff]
  constructor
  · intro h
    refine ⟨⟨fun field hfield => ⟨h.typed field hfield, h.indexed field hfield⟩, ?_⟩, h.enumerated⟩
    rintro (cells | cells) hrow
    · rw [DocumentRow.faults_list_eq_nil_iff, hlength]
      exact h.listed cells hrow
    · exact (DocumentRow.faults_map_eq_nil_iff _ _).2 (h.mapped cells hrow)
  · rintro ⟨⟨hfields, hrows⟩, henums⟩
    refine ⟨fun field hfield => (hfields field hfield).1,
      fun field hfield => (hfields field hfield).2, ?_, ?_, henums⟩
    · intro cells hcells
      rw [← hlength]
      exact (DocumentRow.faults_list_eq_nil_iff _ _).1 (hrows _ hcells)
    · exact fun cells hcells => (DocumentRow.faults_map_eq_nil_iff _ _).1 (hrows _ hcells)

theorem length_row_of_toTypedModel {options : Options} {junctions : List String}
    {dm : DocumentModel} {m : Model} (h : dm.toTypedModel options junctions = .ok m) {row : Row}
    (hrow : row ∈ m.data) : row.length = m.fields.length := by
  obtain ⟨specs, data, _, hdata, _, rfl⟩ := (dm.toTypedModel_eq_ok_iff _ _).1 h
  have hfields := congrArg List.length (dm.map_spec_assemble options junctions specs data)
  rw [List.length_map] at hfields
  rw [length_of_mem_orderRows hdata hrow, List.length_map, hfields]

end DocumentModel

namespace Document

def IsAcceptable (doc : Document) : Prop :=
  ∀ m ∈ doc.models, m.IsAcceptable doc.enums

theorem isAcceptable_iff (doc : Document) : doc.IsAcceptable ↔ doc.faults = [] := by
  rw [faults, List.append_eq_nil_iff, List.flatMap_eq_nil_iff, List.flatMap_eq_nil_iff]
  simp only [IsAcceptable, DocumentModel.isAcceptable_iff]
  constructor
  · intro h
    exact ⟨fun m hm => (h m hm).1, fun m hm => (h m hm).2⟩
  · rintro ⟨hmodels, henums⟩ m hm
    exact ⟨hmodels m hm, henums m hm⟩

theorem length_row_of_toSchema {doc : Document} {options : Options} {name : String} {s : Schema}
    (h : doc.toSchema options name = .ok s) :
    ∀ m ∈ s.models, ∀ row ∈ m.data, row.length = m.fields.length := by
  intro m hm row hrow
  obtain ⟨models, hmodels, _, rfl⟩ := toSchema_eq_ok_iff.1 h
  obtain ⟨dm, _, hdm⟩ := exists_of_mem_mapM hmodels hm
  exact DocumentModel.length_row_of_toTypedModel hdm hrow

/-- A document is read if it is acceptable, and only then. Otherwise it is refused for the first of
its faults. Rows that have been read have a cell for every field. -/
theorem toSchema_outcome (doc : Document) (options : Options) (name : String) :
    ((∃ s, doc.toSchema options name = .ok s) ↔ doc.IsAcceptable) ∧
      (∀ e, doc.toSchema options name = .error e ↔ doc.faults.head? = some e) ∧
      ∀ s, doc.toSchema options name = .ok s →
        ∀ m ∈ s.models, ∀ row ∈ m.data, row.length = m.fields.length := by
  refine ⟨?_, ?_, ?_⟩
  · rw [← fault?_eq_none_iff, fault?_toSchema, List.head?_eq_none_iff, isAcceptable_iff]
  · intro e
    rw [← fault?_eq_some_iff, fault?_toSchema]
  · intro s hs m hm row hrow
    obtain ⟨models, hmodels, _, rfl⟩ := toSchema_eq_ok_iff.1 hs
    obtain ⟨dm, _, hdm⟩ := exists_of_mem_mapM hmodels hm
    exact DocumentModel.length_row_of_toTypedModel hdm hrow

end Document

end RelSchema
