import RelSchema.Proofs.Declaration
import RelSchema.Proofs.Document.Reading
import RelSchema.Script.Abap
import RelSchema.Script.Django
import RelSchema.Script.Haskell
import RelSchema.Script.Jvm
import RelSchema.Script.Sql
import RelSchema.Script.SqlAlchemy

namespace RelSchema

namespace Model

variable {d : Dialect} {m : Model}

def IsTyped (m : Model) : Prop :=
  ∀ f ∈ m.fields, f.spec.type ≠ none

/-- The first of the properties that a model with a package lacks. -/
def packageFault? (keys : List String) (m : Model) : Option NamespaceError :=
  if m.namespaceKind = none then none
  else (keys.find? fun key => !m.info.properties.has key).map (.missingProperty m.name)

theorem IsTyped.retarget (h : m.IsTyped) (kind : Option NamespaceKind) (options : Options) :
    (m.retarget kind options).IsTyped := by
  intro f hf
  have hspec : f.spec ∈ m.fields.map (·.spec) := by
    rw [← m.map_spec_retarget kind options]
    exact List.mem_map_of_mem hf
  obtain ⟨g, hg, hgf⟩ := List.mem_map.1 hspec
  rw [← hgf]
  exact h g hg

theorem IsTyped.typeFault?_retarget (h : m.IsTyped) (d : Dialect) (kind : Option NamespaceKind)
    (options : Options) :
    (m.retarget kind options).typeFault? d =
      if d ∈ Dialect.lacksNumeric then
        (m.fields.find? (·.spec.type = some .numeric)).map fun f =>
          .unmapped (m.name ++ "." ++ f.spec.name) .numeric d
      else none := by
  have hspecs : (m.retarget kind options).typeFault? d =
      m.fields.findSome? fun f => f.spec.typeFault? d m.name := by
    rw [Model.retarget, typeFault?_ofParts, List.map_map, List.findSome?_map]
    rfl
  rw [hspecs]
  split
  · rename_i hd
    rw [map_find?]
    refine findSome?_congr fun f hf => ?_
    simp only [FieldSpec.typeFault?_of_typed _ (h f hf), hd, true_and, decide_eq_true_eq]
  · rename_i hd
    refine List.findSome?_eq_none_iff.2 fun f hf => ?_
    rw [FieldSpec.typeFault?_of_typed _ (h f hf), if_neg fun hnumeric => hd hnumeric.1]

theorem IsTyped.fault?_fieldDefinitions (h : m.IsTyped) (hd : d ≠ .plain) :
    fault? (m.fieldDefinitions d) = m.typeFault? d :=
  fault?_mapM_of fun f hf => Field.fault?_definition hd (h f hf)

theorem IsTyped.fault?_definitions (h : m.IsTyped) (hd : d ≠ .plain) :
    fault? (m.definitions d) = m.typeFault? d := by
  rw [definitions, fault?_bind_pure, h.fault?_fieldDefinitions hd]

theorem fault?_methods_java (m : Model) : fault? (m.methods .java) = m.typeFault? .java :=
  fault?_mapM_of fun f _ => f.fault?_accessors .java

end Model

namespace Script

variable {m : Model} {s : Schema}

theorem Sql.fault?_text (hs : ∀ m ∈ s.models, m.IsTyped) (hd : s.dialect ≠ .plain) :
    fault? (Sql.text s) = s.models.findSome? (·.typeFault? s.dialect) := by
  rw [text, fault?_bind_pure]
  refine fault?_mapM_of fun m hm => ?_
  rw [table, fault?_bind_pure, (hs m hm).fault?_definitions hd]

theorem Abap.fault?_text (hs : ∀ m ∈ s.models, m.IsTyped) :
    fault? (Abap.text s) = s.models.findSome? (·.typeFault? .abap) := by
  rw [text, fault?_bind_pure]
  refine fault?_mapM_of fun m hm => ?_
  rw [structureText, fault?_bind_pure, (hs m hm).fault?_fieldDefinitions (by decide)]

theorem Haskell.fault?_text (hs : ∀ m ∈ s.models, m.IsTyped) :
    fault? (Haskell.text s) = s.models.findSome? (·.typeFault? .haskell) := by
  rw [text, fault?_bind_pure]
  refine fault?_mapM_of fun m hm => ?_
  rw [record, fault?_bind_pure, (hs m hm).fault?_fieldDefinitions (by decide)]

theorem Jvm.fault?_java (hs : ∀ m ∈ s.models, m.IsTyped) :
    fault? (Jvm.java s) = s.models.findSome? (·.typeFault? .java) := by
  rw [java, fault?_bind_pure]
  refine fault?_mapM_of fun m hm => ?_
  have hmethods : ∀ members : List String,
      fault? (do
        let accessors ← m.methods .java
        return classText "public class" m (members ++ accessors)) = m.typeFault? .java := by
    intro members
    rw [fault?_bind_pure, m.fault?_methods_java]
  rw [javaClass, fault?_bind fun members _ => hmethods members,
    (hs m hm).fault?_fieldDefinitions (by decide), Option.or_self]

theorem Jvm.fault?_scala (hs : ∀ m ∈ s.models, m.IsTyped) :
    fault? (Jvm.scala s) = s.models.findSome? (·.typeFault? .scala) := by
  rw [scala, fault?_bind_pure]
  refine fault?_mapM_of fun m hm => ?_
  rw [scalaClass, fault?_bind_pure, (hs m hm).fault?_fieldDefinitions (by decide)]

namespace SqlAlchemy

theorem mapM_eq_none_iff {α β : Type} {f : α → Option β} {l : List α} :
    l.mapM f = none ↔ ∃ a ∈ l, f a = none := by
  induction l with
  | nil => simp
  | cons a l ih =>
    cases ha : f a with
    | none => simp [List.mapM_cons, ha]
    | some b => cases hl : l.mapM f <;> simp_all [List.mapM_cons]

theorem untypedField?_eq (s : Schema) :
    untypedField? s = s.fields.findSome? (·.typeFault? .sqlAlchemy) := by
  refine congrArg (s.fields.findSome? ·) (funext fun f => ?_)
  rw [← Field.fault?_typeName]
  cases f.typeName .sqlAlchemy <;> rfl

theorem fault?_imports (hs : ∀ f ∈ s.fields, f.spec.type ≠ none) :
    fault? (imports s) = s.fields.findSome? (·.typeFault? .sqlAlchemy) := by
  have hmem : ∀ t, t ∈ s.baseTypes ↔ ∃ f ∈ s.fields, f.spec.type = some t := by
    intro t
    simp [Schema.baseTypes, BaseType.mem_all]
  rw [← untypedField?_eq, imports]
  cases hnames : s.baseTypes.mapM (Dialect.typeName? .sqlAlchemy) with
  | none =>
    obtain ⟨t, ht, hname⟩ := mapM_eq_none_iff.1 hnames
    obtain ⟨f, hf, hft⟩ := (hmem t).1 ht
    cases hfault : untypedField? s with
    | some e => rfl
    | none =>
      rw [untypedField?_eq, List.findSome?_eq_none_iff] at hfault
      have hnone := hfault f hf
      simp [Field.typeFault?, FieldSpec.typeFault?, hft, hname] at hnone
  | some names =>
    rw [untypedField?_eq]
    refine (List.findSome?_eq_none_iff.2 fun f hf => ?_).symm
    cases hft : f.spec.type with
    | none => exact absurd hft (hs f hf)
    | some t =>
      have hname : Dialect.typeName? .sqlAlchemy t ≠ none := by
        intro h
        have hnone := mapM_eq_none_iff.2 ⟨t, (hmem t).2 ⟨f, hf, hft⟩, h⟩
        rw [hnames] at hnone
        cases hnone
      simp [Field.typeFault?, FieldSpec.typeFault?, hft, hname]

theorem fault?_text (hs : ∀ m ∈ s.models, m.IsTyped) :
    fault? (text s) = s.models.findSome? (·.typeFault? .sqlAlchemy) := by
  have hfields : s.fields.findSome? (·.typeFault? .sqlAlchemy) =
      s.models.findSome? (·.typeFault? .sqlAlchemy) := by
    rw [Schema.fields, ← List.head?_filterMap, List.filterMap_flatMap, List.head?_flatMap]
    simp only [List.head?_filterMap, Model.typeFault?]
  have himports : fault? (imports s) = s.models.findSome? (·.typeFault? .sqlAlchemy) := by
    rw [← hfields]
    refine fault?_imports fun f hf => ?_
    obtain ⟨m, hm, hfm⟩ := List.mem_flatMap.1 hf
    exact hs m hm f hfm
  have hclasses : fault? (s.models.mapM classText) =
      s.models.findSome? (·.typeFault? .sqlAlchemy) := by
    refine fault?_mapM_of fun m hm => ?_
    rw [classText, fault?_bind_pure, (hs m hm).fault?_fieldDefinitions (by decide)]
  rw [text, fault?_bind fun names _ => fault?_bind_pure _ _, himports, hclasses, Option.or_self]

end SqlAlchemy

namespace Django

theorem fault?_property (ns : Namespace) (key : String) :
    fault? (ns.property key) =
      if ns.model.info.properties.has key = true then none
      else some (.missingProperty ns.model.name key) := by
  rw [Namespace.property, Keyed.has]
  cases ns.model.info.properties.get? key <;> rfl

theorem fault?_verboseNames (m : Model) :
    fault? (verboseNames m) = m.packageFault? ["model"] := by
  unfold verboseNames Model.packageFault? Namespace.ofModel?
  cases m.namespaceKind with
  | none => rfl
  | some kind =>
    have hname := fault?_property ⟨m, kind, .django⟩ "model"
    simp only [Option.map_some, fault?_bind_pure, Namespace.className, Namespace.classPath,
      fault?_map, hname]
    by_cases hmodel : m.info.properties.has "model" <;> simp [hmodel]

theorem fault?_factoryTarget (m : Model) :
    fault? (factoryTarget m) = m.packageFault? ["app", "model"] := by
  unfold factoryTarget Model.packageFault? Namespace.ofModel?
  cases m.namespaceKind with
  | none => rfl
  | some kind =>
    have happ := fault?_property ⟨m, kind, .factoryBoy⟩ "app"
    have hname := fault?_property ⟨m, kind, .factoryBoy⟩ "model"
    simp only [Option.map_some]
    rw [fault?_bind fun app _ => fault?_bind_pure _ _, Namespace.appName, Namespace.app,
      Namespace.className, Namespace.classPath, fault?_map, fault?_map, happ, hname]
    by_cases hmodel : m.info.properties.has "model" <;>
      by_cases happ : m.info.properties.has "app" <;> simp [hmodel, happ]

theorem fault?_models (hs : ∀ m ∈ s.models, m.IsTyped) :
    fault? (models s) = s.models.findSome? fun m =>
      ((m.typeFault? .django).map .field).or ((m.packageFault? ["model"]).map .package) := by
  rw [models, fault?_bind_pure]
  refine fault?_mapM_of fun m hm => ?_
  rw [modelClass, fault?_bind fun fields _ => fault?_bind_pure _ _, fault?_mapError,
    fault?_mapError, (hs m hm).fault?_fieldDefinitions (by decide), fault?_verboseNames]

theorem fault?_factories (hs : ∀ m ∈ s.models, m.IsTyped) :
    fault? (factories s) = s.models.findSome? fun m =>
      ((m.packageFault? ["app", "model"]).map .package).or
        ((m.typeFault? .factoryBoy).map .field) := by
  rw [factories, fault?_bind_pure]
  refine fault?_mapM_of fun m hm => ?_
  rw [factoryClass, fault?_bind fun target _ => fault?_bind_pure _ _, fault?_mapError,
    fault?_mapError, (hs m hm).fault?_fieldDefinitions (by decide), fault?_factoryTarget]

end Django

end Script

end RelSchema
