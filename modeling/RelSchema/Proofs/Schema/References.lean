import RelSchema.Proofs.Keyed
import RelSchema.Proofs.Output.Failure
import RelSchema.Proofs.Output.Rendering
import RelSchema.Proofs.Script.Enumerations

namespace RelSchema

namespace Schema

/-- The enumerations of a schema are those of these names, and fields refer to no other. -/
structure Declares (s : Schema) (names : List String) : Prop where
  nodup : s.enumNames.Nodup
  mem_iff : ∀ name, name ∈ s.enumNames ↔ name ∈ names
  resolves : s.ResolvesEnums

theorem IsClosed.has_of_isEnum {s : Schema} (h : s.IsClosed) {m : Model} (hm : m ∈ s.models)
    {f : Field} (hf : f ∈ m.fields) (henum : f.isEnum = true) :
    s.enums.has f.spec.name = true := by
  have hmodel := List.findSome?_eq_none_iff.1 h m hm
  rw [Option.map_eq_none_iff, List.find?_eq_none] at hmodel
  have hnot := hmodel f (List.mem_filter.2 ⟨hf, henum⟩)
  simpa using hnot

theorem enumNames_eq_keys {s : Schema} (h : ∀ entry ∈ s.enums, entry.1 = entry.2.name) :
    s.enumNames = s.enums.keys := by
  rw [enumNames, enumerations, List.map_map]
  exact List.map_congr_left fun entry hentry => (h entry hentry).symm

theorem declares_of_new {name : String} {models : List Model} {enums : List Enumeration}
    {dialect : Dialect} {s : Schema} (h : Schema.new name models enums dialect = .ok s) :
    s.Declares (enums.map (·.name)) := by
  have henums : s.enums = .ofEntries (enums.map fun e => (e.name, e)) := by
    obtain ⟨_, rfl⟩ := new_eq_ok_iff.1 h
    rfl
  have hkeys : s.enumNames = s.enums.keys := by
    apply enumNames_eq_keys
    intro entry hentry
    rw [henums] at hentry
    obtain ⟨e, _, rfl⟩ := List.mem_map.1 (Keyed.mem_of_mem_ofEntries hentry)
    rfl
  constructor
  · rw [hkeys, henums]
    exact Keyed.nodup_keys_ofEntries _
  · intro n
    rw [hkeys, henums, ← Keyed.has_iff_mem_keys, Keyed.has_ofEntries, List.contains_iff_mem,
      List.map_map]
    rfl
  · intro m hm f hf henum
    rw [hkeys, ← Keyed.has_iff_mem_keys]
    exact (isClosed_of_new h).has_of_isEnum hm hf (Field.isEnum_iff.2 henum)

theorem Declares.view {s : Schema} {names : List String} (h : s.Declares names) (target : Target) :
    (s.view target).Declares names := by
  refine ⟨h.nodup, h.mem_iff, ?_⟩
  intro m hm f hf henum
  obtain ⟨n, hn, rfl⟩ := List.mem_map.1 hm
  obtain ⟨g, hg, hspec⟩ := Model.exists_field_of_map_spec_eq (n.map_spec_retarget _ _) hf
  rw [Field.IsEnumerated, ← hspec] at henum
  rw [← hspec]
  exact h.resolves n hn g hg henum

end Schema

theorem Model.isTyped_of_retarget {m : Model} (kind : Option NamespaceKind) (options : Options)
    (h : (m.retarget kind options).IsTyped) : m.IsTyped := by
  intro f hf
  obtain ⟨g, hg, hspec⟩ := exists_field_of_map_spec_eq (m.map_spec_retarget kind options).symm hf
  rw [← hspec]
  exact h g hg

namespace Output

theorem exists_render_djangoModels {o : Output} {s : Schema} {text : String} (hclosed : s.IsClosed)
    (hformat : o.format = .djangoFactories) (h : o.render s = .ok text)
    (hiterators : Script.Django.IteratorsResolve (s.view o.target) text) :
    ∃ models, { o with format := .djangoModels }.render s = .ok models := by
  obtain ⟨classes, hclasses, _⟩ := hiterators
  have hs : ∀ m ∈ s.models, m.IsTyped := by
    intro m hm
    apply Model.isTyped_of_retarget o.namespaceKind o.options
    intro f hf hnone
    obtain ⟨_, _, _, lines, _, _, hlines⟩ :=
      exists_of_mem_forall₂ hclasses.flip (List.mem_map_of_mem hm)
    obtain ⟨_, _, call, hcall, _⟩ := exists_of_mem_forall₂ hlines.flip hf
    obtain ⟨type, htype, _⟩ := bind_eq_ok_iff.1 hcall
    rw [Field.baseType_eq_ok_iff, hnone] at htype
    cases htype
  have hno := (exists_render_iff hclosed hs).1 ⟨text, h⟩
  rw [exists_render_iff hclosed hs]
  rintro (⟨_, hnumeric⟩ | ⟨hkind, m, hm, key, hkey, hhas⟩)
  · apply hno
    refine .inl ⟨?_, hnumeric⟩
    rw [hformat]
    decide
  · apply hno
    refine .inr ⟨hkind, m, hm, key, ?_, hhas⟩
    rw [hformat]
    exact List.mem_cons_of_mem _ hkey

end Output

/-- Whatever a schema is written as, its enumerations are declared once each, and what a field
refers to is declared above it or, from a factory, in the module of models. -/
theorem Schema.enum_references_resolve {name : String} {models : List Model}
    {enums : List Enumeration} {dialect : Dialect} {made : Schema}
    (h : Schema.new name models enums dialect = .ok made) (types : List String) (options : Options)
    {o : Output} {text : String} (hrender : o.render { made with types, options } = .ok text) :
    let s := { made with types, options }
    let v := s.view o.target
    v.enumNames.Nodup ∧ (∀ n, n ∈ v.enumNames ↔ n ∈ enums.map (·.name)) ∧
      (o.format = .pgEnum → Script.Sql.TypesResolve v text) ∧
      (o.format = .djangoModels → Script.Django.ChoicesResolve v text) ∧
      (o.format = .djangoFactories → Script.Django.IteratorsResolve v text ∧
        ∃ modelsText, { o with format := .djangoModels }.render s = .ok modelsText ∧
          Script.Django.ChoicesResolve v modelsText) ∧
      (o.format = .haskell → Script.Haskell.TypesResolve v text) := by
  intro s v
  have hclosed : made.IsClosed := isClosed_of_new h
  have hmade := declares_of_new h
  have hs : s.Declares (enums.map (·.name)) := ⟨hmade.nodup, hmade.mem_iff, hmade.resolves⟩
  have hv : v.Declares (enums.map (·.name)) := hs.view o.target
  have hscript : ∀ format, o.format = format → format ≠ .yaml →
      Output.script format v = .ok text := by
    rintro format rfl hyaml
    exact Output.render_eq_ok hyaml hrender
  refine ⟨hv.nodup, hv.mem_iff, ?_, ?_, ?_, ?_⟩
  · intro hformat
    have hdialect : v.dialect = .pgEnum := congrArg Format.dialect hformat
    exact Script.Sql.typesResolve hv.resolves hdialect
      (mapError_eq_ok_iff.1 (hscript _ hformat (by decide)))
  · intro hformat
    exact Script.Django.choicesResolve hv.resolves (hscript _ hformat (by decide))
  · intro hformat
    have hiterators := Script.Django.iteratorsResolve hv.resolves (hscript _ hformat (by decide))
    obtain ⟨modelsText, hmodels⟩ :=
      Output.exists_render_djangoModels (s := s) hclosed hformat hrender hiterators
    have hscript' := Output.render_eq_ok (show Format.djangoModels ≠ .yaml by decide) hmodels
    exact ⟨hiterators, modelsText, hmodels,
      Script.Django.choicesResolve (hs.view _).resolves hscript'⟩
  · intro hformat
    exact Script.Haskell.typesResolve hv.resolves
      (mapError_eq_ok_iff.1 (hscript _ hformat (by decide)))

/-- Vehicles of a kind. -/
def Model.vehicle : Model :=
  .ofParts { name := "vehicle" }
    [{ spec := { name := "id", type := some .serial, index := .pk } },
     { spec := { name := "kind", type := some .str, constraint := "enumerated" } }] [] none

/-- The same enumeration twice. -/
def Enumeration.kinds : List Enumeration :=
  [{ name := "kind", entries := [(.text "car", .text "Car")] },
   { name := "kind", entries := [(.text "van", .text "Van")] }]

theorem Schema.enum_references_resolve_vehicle :
    ∃ made text, Schema.new "fleet" [.vehicle] Enumeration.kinds = .ok made ∧
      Output.render { format := .djangoFactories } made = .ok text ∧
      Script.Django.IteratorsResolve (made.view { dialect := .factoryBoy }) text ∧
      ∃ models, Output.render { format := .djangoModels } made = .ok models ∧
        Script.Django.ChoicesResolve (made.view { dialect := .factoryBoy }) models := by
  obtain ⟨made, hmade, hrender⟩ := exists_eq_ok_of_any
    (x := Schema.new "fleet" [.vehicle] Enumeration.kinds)
    (p := fun made => fault? (Output.render { format := .djangoFactories } made) = none)
    (by decide +kernel)
  obtain ⟨text, htext⟩ := fault?_eq_none_iff.1 hrender
  obtain ⟨_, _, _, _, hfactories, _⟩ :=
    enum_references_resolve hmade made.types made.options htext
  exact ⟨made, text, hmade, htext, hfactories rfl⟩

end RelSchema
