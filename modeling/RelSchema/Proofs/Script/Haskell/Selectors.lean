import Mathlib.Data.List.Nodup
import RelSchema.Proofs.Declaration.Haskell
import RelSchema.Proofs.Model.Trailing
import RelSchema.Proofs.Script.Haskell.Constructors
import RelSchema.Proofs.Text.SnakeName

namespace RelSchema

open Text

/-- A field of a record: the function that selects it, and its type. -/
structure RecordField where
  selector : String
  type : String

def RecordField.text (field : RecordField) : String :=
  field.selector ++ .ofList (List.replicate (30 - (field.selector.utf8ByteSize + 1)) ' ') ++
    ":: " ++ field.type

namespace Field

variable {f : Field}

def recordField (f : Field) : Except FieldError RecordField :=
  f.haskellBaseType.map fun type => ⟨f.name .haskell, f.wrapped type⟩

theorem definition_haskell_eq (f : Field) :
    f.definition .haskell = f.recordField.map RecordField.text := by
  rw [definition, haskellDefinition_eq, recordField]
  cases f.haskellBaseType <;> rfl

theorem selector_of_recordField {field : RecordField} (h : f.recordField = .ok field) :
    field.selector = f.name .haskell := by
  obtain ⟨type, _, rfl⟩ := map_eq_ok_iff.1 h
  rfl

end Field

namespace Script.Haskell

def recordOf (m : Model) (fields : List RecordField) : String :=
  "\ndata " ++ m.className ++ " = " ++ m.className ++ "\n" ++
    block "    " (recordLines (fields.map RecordField.text)) ++
    "    \x7d deriving (Show, Generic)\n"

/-- The selector of a field, of which the names of the model and of the field are given. -/
def selector (model field : String) : String :=
  camelCase (model ++ "_" ++ field)

variable {s : Schema} {m : Model} {kind : Option NamespaceKind} {options : Options}

theorem record_eq (m : Model) : record m = (m.fields.mapM Field.recordField).map (recordOf m) := by
  have hfields : m.fieldDefinitions .haskell =
      (m.fields.mapM Field.recordField).map (·.map RecordField.text) :=
    mapM_eq_map Field.definition_haskell_eq m.fields
  rw [record, hfields]
  cases m.fields.mapM Field.recordField <;> rfl

theorem map_selector_of_mapM {fields : List RecordField}
    (hleads : ∀ f ∈ m.fields, f.spec.action ≠ FieldSpec.noPrefix)
    (h : (m.retarget kind options).fields.mapM Field.recordField = .ok fields) :
    fields.map (·.selector) = m.fields.map fun f => selector m.name f.spec.name := by
  have hspecs := m.map_spec_retarget kind options
  have hname : ∀ f ∈ (m.retarget kind options).fields,
      f.name .haskell = selector m.name f.spec.name := by
    intro f hf
    obtain ⟨g, hg, hspec⟩ := Model.exists_field_of_map_spec_eq hspecs hf
    have howner : f.modelName = m.name := by
      rw [Field.modelName, (m.isLinked_retarget kind options).owner f hf]
      rfl
    have haction : f.spec.action ≠ FieldSpec.noPrefix := hspec ▸ hleads g hg
    rw [Field.name, if_neg haction, howner, selector]
  rw [map_eq_of_mapM h fun f field => Field.selector_of_recordField, List.map_congr_left hname]
  have hnames := congrArg (List.map fun spec => selector m.name spec.name) hspecs
  rw [List.map_map, List.map_map] at hnames
  exact hnames

/-- The names of a schema's models, each with those of the fields. -/
def fieldPaths (s : Schema) : List (String × String) :=
  s.models.flatMap fun m => m.fields.map fun f => (m.name, f.spec.name)

theorem mem_fieldPaths {model field : String} :
    (model, field) ∈ fieldPaths s ↔
      ∃ m ∈ s.models, m.name = model ∧ ∃ f ∈ m.fields, f.spec.name = field := by
  simp only [fieldPaths, List.mem_flatMap, List.mem_map, Prod.mk.injEq]
  constructor
  · rintro ⟨m, hm, f, hf, rfl, rfl⟩
    exact ⟨m, hm, rfl, f, hf, rfl⟩
  · rintro ⟨m, hm, rfl, f, hf, rfl⟩
    exact ⟨m, hm, f, hf, rfl, rfl⟩

theorem nodup_fieldPaths (hmodels : (s.models.map (·.name)).Nodup)
    (hfields : ∀ m ∈ s.models, (m.fields.map (·.spec.name)).Nodup) : (fieldPaths s).Nodup := by
  rw [fieldPaths, List.nodup_flatMap]
  constructor
  · intro m hm
    have hpath : Function.Injective fun name : String => (m.name, name) :=
      fun _ _ h => (Prod.mk.inj h).2
    have hpaths := (hfields m hm).map hpath
    rwa [List.map_map] at hpaths
  · rw [List.Nodup, List.pairwise_map] at hmodels
    refine hmodels.imp fun {m m'} hne path hpath hpath' => hne ?_
    obtain ⟨f, _, rfl⟩ := List.mem_map.1 hpath
    obtain ⟨f', _, heq⟩ := List.mem_map.1 hpath'
    exact (Prod.mk.inj heq).1.symm

/-- No two models have one name, nor two fields of a model, and the names are words that underscores
join. Every selector begins with the name of its model. -/
structure PlainNames (s : Schema) : Prop where
  models : (s.models.map (·.name)).Nodup
  fields : ∀ m ∈ s.models, (m.fields.map (·.spec.name)).Nodup
  snake : ∀ m ∈ s.models, IsSnakeName m.name ∧ ∀ f ∈ m.fields, IsSnakeName f.spec.name
  leads : ∀ m ∈ s.models, ∀ f ∈ m.fields, f.spec.action ≠ FieldSpec.noPrefix

instance (s : Schema) : Decidable (PlainNames s) :=
  decidable_of_iff ((s.models.map (·.name)).Nodup ∧
      (∀ m ∈ s.models, (m.fields.map (·.spec.name)).Nodup) ∧
      (∀ m ∈ s.models, IsSnakeName m.name ∧ ∀ f ∈ m.fields, IsSnakeName f.spec.name) ∧
      ∀ m ∈ s.models, ∀ f ∈ m.fields, f.spec.action ≠ FieldSpec.noPrefix)
    ⟨fun ⟨models, fields, snake, leads⟩ => ⟨models, fields, snake, leads⟩,
      fun h => ⟨h.models, h.fields, h.snake, h.leads⟩⟩

/-- One model's name is that of the other with a part behind it, and a field of the other begins
with this part where a field of the one goes on. -/
def Clash (m m' : Model) : Prop :=
  ∃ part, m'.name = m.name ++ "_" ++ part ∧
    ∃ f ∈ m.fields, ∃ f' ∈ m'.fields, f.spec.name = part ++ "_" ++ f'.spec.name

theorem selector_eq_iff {a b c d : String} (ha : IsSnakeName a) (hb : IsSnakeName b)
    (hc : IsSnakeName c) (hd : IsSnakeName d) :
    selector a b = selector c d ↔ (a = c ∧ b = d) ∨
      (∃ part, c = a ++ "_" ++ part ∧ b = part ++ "_" ++ d) ∨
      ∃ part, a = c ++ "_" ++ part ∧ d = part ++ "_" ++ b := by
  rw [selector, selector, (ha.append hb).camelCase_inj (hc.append hd), append_underscore_eq_iff]

theorem PlainNames.nodup_selectors_iff (h : PlainNames s) :
    ((fieldPaths s).map fun path => selector path.1 path.2).Nodup ↔
      ∀ m ∈ s.models, ∀ m' ∈ s.models, ¬ Clash m m' := by
  rw [List.nodup_map_iff_inj_on (nodup_fieldPaths h.models h.fields)]
  constructor
  · rintro hinj m hm m' hm' ⟨part, hname, f, hf, f', hf', hfield⟩
    have heq : selector m.name f.spec.name = selector m'.name f'.spec.name :=
      (selector_eq_iff (h.snake m hm).1 ((h.snake m hm).2 f hf) (h.snake m' hm').1
        ((h.snake m' hm').2 f' hf')).2 (.inr (.inl ⟨part, hname, hfield⟩))
    have hpaths := hinj _ (mem_fieldPaths.2 ⟨m, hm, rfl, f, hf, rfl⟩) _
      (mem_fieldPaths.2 ⟨m', hm', rfl, f', hf', rfl⟩) heq
    -- The second model's name is longer.
    have hlength := congrArg String.length (((Prod.mk.inj hpaths).1).trans hname)
    simp only [String.length_append] at hlength
    have hunderscore : "_".length = 1 := by decide
    omega
  · rintro hclash ⟨_, _⟩ hpath ⟨_, _⟩ hpath' heq
    obtain ⟨m, hm, rfl, f, hf, rfl⟩ := mem_fieldPaths.1 hpath
    obtain ⟨m', hm', rfl, f', hf', rfl⟩ := mem_fieldPaths.1 hpath'
    rcases (selector_eq_iff (h.snake m hm).1 ((h.snake m hm).2 f hf) (h.snake m' hm').1
      ((h.snake m' hm').2 f' hf')).1 heq with ⟨hmodel, hfield⟩ | ⟨part, hname, hfield⟩ |
      ⟨part, hname, hfield⟩
    · exact Prod.ext hmodel hfield
    · exact absurd ⟨part, hname, f, hf, f', hf', hfield⟩ (hclash m hm m' hm')
    · exact absurd ⟨part, hname, f', hf', f, hf, hfield⟩ (hclash m' hm' m hm)

theorem records_of_render {o : Output} {text : String} (hformat : o.format = .haskell)
    (h : o.render s = .ok text) :
    ∃ records, List.Forall₂ (fun m fields =>
        (m.retarget o.namespaceKind o.options).fields.mapM Field.recordField = .ok fields)
      s.models records ∧
      text = header s ++ .join (s.enumerations.map enumeration) ++
        .join (List.zipWith recordOf s.models records) := by
  obtain ⟨texts, htexts, htext⟩ := text_of_render hformat h
  rw [mapM_eq_ok_iff, List.forall₂_map_left_iff] at htexts
  have hrecords : ∃ records, List.Forall₂ (fun m fields =>
        (m.retarget o.namespaceKind o.options).fields.mapM Field.recordField = .ok fields)
      s.models records ∧ texts = List.zipWith recordOf s.models records := by
    clear htext
    generalize s.models = models at htexts ⊢
    induction htexts with
    | nil => exact ⟨[], .nil, rfl⟩
    | @cons m text models texts hrecord _ ih =>
      obtain ⟨records, hall, rfl⟩ := ih
      rw [record_eq] at hrecord
      obtain ⟨fields, hfields, rfl⟩ := map_eq_ok_iff.1 hrecord
      exact ⟨fields :: records, .cons hfields hall, rfl⟩
  obtain ⟨records, hall, rfl⟩ := hrecords
  exact ⟨records, hall, htext⟩

theorem map_selector_of_forall₂ {records : List (List RecordField)}
    (hleads : ∀ m ∈ s.models, ∀ f ∈ m.fields, f.spec.action ≠ FieldSpec.noPrefix)
    (h : List.Forall₂ (fun m fields =>
      (m.retarget kind options).fields.mapM Field.recordField = .ok fields) s.models records) :
    records.flatten.map (·.selector) =
      (fieldPaths s).map fun path => selector path.1 path.2 := by
  rw [fieldPaths]
  generalize s.models = models at h hleads
  induction h with
  | nil => rfl
  | cons hfields _ ih =>
    rw [List.forall_mem_cons] at hleads
    rw [List.flatten_cons, List.map_append, map_selector_of_mapM hleads.1 hfields, ih hleads.2,
      List.flatMap_cons, List.map_append, List.map_map]
    rfl

/-- The selectors of a module are distinct, unless a part of a name stands once at the end of a
model's name and once at the beginning of a field's. -/
theorem selectors_distinct_iff {o : Output} {text : String} (hformat : o.format = .haskell)
    (hrender : o.render s = .ok text) (hnames : PlainNames s) :
    ∃ records, List.Forall₂ (fun m fields =>
        (m.retarget o.namespaceKind o.options).fields.mapM Field.recordField = .ok fields)
      s.models records ∧
      text = header s ++ .join (s.enumerations.map enumeration) ++
        .join (List.zipWith recordOf s.models records) ∧
      ((records.flatten.map (·.selector)).Nodup ↔
        ∀ m ∈ s.models, ∀ m' ∈ s.models, ¬ Clash m m') := by
  obtain ⟨records, hall, htext⟩ := records_of_render hformat hrender
  refine ⟨records, hall, htext, ?_⟩
  rw [map_selector_of_forall₂ hnames.leads hall]
  exact hnames.nodup_selectors_iff

/-- Orders, and the lines that they consist of. -/
def orders (field : String) : Document where
  models := [
    { name := "order", fields := [[("name", .text field), ("type", .text "int")]] },
    { name := "order_line", fields := [[("name", .text "id"), ("type", .text "int")]] }]

theorem selectors_distinct_iff_orders :
    ∃ s text records, (orders "total").toSchema {} "schema" = .ok s ∧
      Output.render { format := .haskell } s = .ok text ∧
      List.Forall₂ (fun m fields =>
        (m.retarget none {}).fields.mapM Field.recordField = .ok fields) s.models records ∧
      (records.flatten.map (·.selector)).Nodup := by
  obtain ⟨s, hs, htext, hnames, hunderscore⟩ := exists_eq_ok_of_any
    (x := (orders "total").toSchema {} "schema")
    (p := fun s => fault? (Output.render { format := .haskell } s) = none ∧ PlainNames s ∧
      ∀ m ∈ s.models, ∀ f ∈ m.fields, '_' ∉ f.spec.name.toList) (by decide +kernel)
  obtain ⟨text, htext⟩ := fault?_eq_none_iff.1 htext
  obtain ⟨records, hall, _, hiff⟩ := selectors_distinct_iff rfl htext hnames
  refine ⟨s, text, records, hs, htext, hall, hiff.2 ?_⟩
  rintro m hm m' _ ⟨part, _, f, hf, f', _, hfield⟩
  refine hunderscore m hm f hf ?_
  rw [hfield]
  simp

/-- The line of an order and the key of an order line have one selector. -/
theorem selectors_clash_orders :
    ∃ s text records, (orders "line_id").toSchema {} "schema" = .ok s ∧ PlainNames s ∧
      Output.render { format := .haskell } s = .ok text ∧
      List.Forall₂ (fun m fields =>
        (m.retarget none {}).fields.mapM Field.recordField = .ok fields) s.models records ∧
      text = header s ++ .join (s.enumerations.map enumeration) ++
        .join (List.zipWith recordOf s.models records) ∧
      records.flatten.map (·.selector) = ["orderLineId", "orderLineId"] ∧
      ¬ (records.flatten.map (·.selector)).Nodup := by
  obtain ⟨s, hs, htext, hnames, hselectors⟩ := exists_eq_ok_of_any
    (x := (orders "line_id").toSchema {} "schema")
    (p := fun s => fault? (Output.render { format := .haskell } s) = none ∧ PlainNames s ∧
      ((fieldPaths s).map fun path => selector path.1 path.2) = ["orderLineId", "orderLineId"])
    (by decide +kernel)
  obtain ⟨text, htext⟩ := fault?_eq_none_iff.1 htext
  obtain ⟨records, hall, hparts⟩ := records_of_render rfl htext
  rw [← map_selector_of_forall₂ hnames.leads hall] at hselectors
  refine ⟨s, text, records, hs, hnames, htext, hall, hparts, hselectors, ?_⟩
  rw [hselectors]
  decide

end Script.Haskell

end RelSchema
