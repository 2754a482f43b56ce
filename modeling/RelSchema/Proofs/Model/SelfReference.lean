import RelSchema.Proofs.Document.Reading
import RelSchema.Proofs.Field.ForeignKey
import RelSchema.Proofs.Model.Trailing

namespace RelSchema

open Python

/-- The factory that makes rows of the model, by its class or by its path in the package. -/
def ModelInfo.IsFactory (info : ModelInfo) (factory : Expr) : Prop :=
  factory = .name (Text.pascalCase info.name ++ "Factory") ∨
    ∃ app, info.properties.get? "app" = some app ∧
      factory = .literal ("'" ++ app ++ ".factories." ++ Text.pascalCase info.name ++ "Factory'")

namespace Field

variable {f : Field} {info : ModelInfo}

theorem stripId_of_isSelfReference (h : f.isSelfReference = true) :
    f.isFk = true ∧ Text.stripId f.spec.name = "parent" := by
  simp only [isSelfReference, Bool.and_eq_true, decide_eq_true_eq] at h
  rw [h.2]
  exact ⟨h.1, Text.stripId_append_id "parent"⟩

theorem subFactoryExpr_parent (howner : f.owner = some info) :
    f.subFactoryExpr "parent" =
      if info.hasNamespaceProperties then
        .literal ("'" ++ (info.properties.get? "app").getD "" ++ ".factories." ++
          Text.pascalCase info.name ++ "Factory'")
      else .name ("Parent" ++ "Factory") := by
  have hparent : Text.pascalCase "parent" = "Parent" := by decide +kernel
  simp only [subFactoryExpr, howner, Option.filter_some, decide_true, Bool.true_and, hparent]
  cases info.hasNamespaceProperties <;> rfl

theorem isFactory_subFactoryExpr_iff (howner : f.owner = some info) :
    info.IsFactory (f.subFactoryExpr "parent") ↔
      info.hasNamespaceProperties = true ∨ Text.pascalCase info.name = "Parent" := by
  rw [subFactoryExpr_parent howner, ModelInfo.IsFactory]
  cases hpackage : info.hasNamespaceProperties with
  | true =>
    have hhas : info.properties.has "app" = true := by
      rw [ModelInfo.hasNamespaceProperties, Bool.and_eq_true] at hpackage
      exact hpackage.2
    obtain ⟨app, happ⟩ := Option.isSome_iff_exists.1 hhas
    refine iff_of_true (.inr ⟨app, happ, ?_⟩) (.inl rfl)
    rw [happ]
    rfl
  | false =>
    simp only [Bool.false_eq_true, ↓reduceIte, Expr.name.injEq, String.append_left_inj,
      reduceCtorEq, and_false, exists_false, or_false, false_or]
    exact eq_comm

end Field

namespace Model

/-- A field that refers to its own model does so in SQL and for Django. For SQLAlchemy it does so if
the model is called `parent`, and for factories also if the model is in a package. -/
theorem self_reference_iff (info : ModelInfo) (fields : List Field) (data : List Row)
    (kind : Option NamespaceKind) {f : Field} (hf : f ∈ (ofParts info fields data kind).fields)
    (hself : f.isSelfReference = true) :
    (∀ d : Dialect, d.isSql = true → (∃ line, f.definition d = .ok line) →
        f.SqlRefers d info.name) ∧
      ((∃ line, f.definition .django = .ok line) → f.DjangoRefers "parent" "self") ∧
      ((∃ line, f.definition .sqlAlchemy = .ok line) →
        (f.SqlAlchemyRefers info.name "parent" (Text.pascalCase info.name) ↔
          info.name = "parent")) ∧
      ((∃ line, f.definition .factoryBoy = .ok line) →
        ((∃ factory, f.FactoryRefers "parent" factory ∧ info.IsFactory factory) ↔
          info.hasNamespaceProperties = true ∨ Text.pascalCase info.name = "Parent")) := by
  have howner : f.owner = some info := (isLinked_ofParts info fields data kind).owner f hf
  obtain ⟨hfk, hstrip⟩ := Field.stripId_of_isSelfReference hself
  refine ⟨?_, ?_, ?_, ?_⟩
  · intro d hd h
    have htable : f.referencedTable = info.name := by
      simp [Field.referencedTable, hself, Field.modelName, howner]
    exact htable ▸ Field.sqlRefers hfk hd h
  · intro h
    have htarget : f.djangoTarget = "self" := if_pos hself
    have hrefers := Field.djangoRefers hfk h
    rwa [hstrip, htarget] at hrefers
  · intro h
    rw [Field.sqlAlchemyRefers_iff hfk h, hstrip]
    constructor
    · rintro ⟨hname, _⟩
      exact hname
    · intro hname
      exact ⟨hname, rfl, congrArg Text.pascalCase hname⟩
  · intro h
    have hrefers : ∀ factory, f.FactoryRefers "parent" factory ↔
        factory = f.subFactoryExpr "parent" := by
      intro factory
      have hiff := @Field.factoryRefers_iff f hfk h factory
      rwa [hstrip] at hiff
    simp only [hrefers, exists_eq_left]
    exact Field.isFactory_subFactoryExpr_iff howner

/-- The fields of a tree of nodes. -/
def nodeFields : List Field :=
  [{ spec := { name := "id", type := some .serial, index := .pk } },
   { spec := { name := "parent_id", type := some .int, index := .fk } }]

theorem self_reference_iff_node :
    let info : ModelInfo := { name := "node", properties := [("app", "a.tree"), ("model", "Node")] }
    ∃ f ∈ (ofParts info nodeFields [] none).fields, f.isSelfReference = true ∧
      f.SqlRefers .postgres "node" ∧ f.DjangoRefers "parent" "self" ∧
      (f.SqlAlchemyRefers "node" "parent" (Text.pascalCase "node") ↔ "node" = "parent") ∧
      ∃ factory, f.FactoryRefers "parent" factory ∧ info.IsFactory factory := by
  intro info
  have hf : (ofParts info nodeFields [] none).fields[1] ∈
      (ofParts info nodeFields [] none).fields := List.getElem_mem _
  have hdef : ∀ d : Dialect, d ≠ .plain →
      ∃ line, (ofParts info nodeFields [] none).fields[1].definition d = .ok line := by
    intro d hd
    exact Field.exists_definition (by decide) hd (by intro; decide)
  obtain ⟨hsql, hdjango, hsqlAlchemy, hfactory⟩ := self_reference_iff info nodeFields [] none hf rfl
  exact ⟨_, hf, rfl, hsql .postgres rfl (hdef _ (by decide)), hdjango (hdef _ (by decide)),
    hsqlAlchemy (hdef _ (by decide)), (hfactory (hdef _ (by decide))).2 (.inl rfl)⟩

end Model

/-- A tree of nodes in no package. -/
def Document.nodes : Document where
  models := [
    { name := "node"
      fields := [
        [("name", .text "id"), ("type", .text "serial"), ("index", .text "pk")],
        [("name", .text "parent_id"), ("type", .text "int"), ("index", .text "fk")]] }]

/-- The parent of a node is a node, but SQLAlchemy looks for it in a table `parent`, and its factory
for a `ParentFactory`. -/
theorem Model.self_reference_missed_node :
    ∃ s, Document.nodes.toSchema {} "schema" = .ok s ∧ ∃ m ∈ s.models,
      ∃ f ∈ (m.retarget none {}).fields, m.name = "node" ∧ f.isSelfReference = true ∧
        f.SqlAlchemyRefers "parent" "parent" "Parent" ∧
        ¬ f.SqlAlchemyRefers m.name "parent" m.className ∧
        f.FactoryRefers "parent" (.name "ParentFactory") ∧
        ¬ ∃ factory, f.FactoryRefers "parent" factory ∧ m.info.IsFactory factory := by
  obtain ⟨s, hs, m, hm, f, hf, hname, hproperties, hself, htype⟩ := exists_eq_ok_of_any
    (x := Document.nodes.toSchema {} "schema")
    (p := fun s => ∃ m ∈ s.models, ∃ f ∈ (m.retarget none {}).fields, m.name = "node" ∧
      m.info.properties = [] ∧ f.isSelfReference = true ∧
        f.spec.type = some .int) (by decide +kernel)
  have howner : f.owner = some { m.info with options := {} } :=
    (isLinked_ofParts _ _ _ _).owner f hf
  obtain ⟨hfk, hstrip⟩ := Field.stripId_of_isSelfReference hself
  have hdef : ∀ d : Dialect, d ≠ .plain → ∃ line, f.definition d = .ok line := by
    intro d hd
    exact Field.exists_definition (by simp [htype]) hd (by simp [htype])
  have halchemy := @Field.sqlAlchemyRefers_iff f hfk (hdef _ (by decide))
  have hfactory := @Field.factoryRefers_iff f hfk (hdef _ (by decide))
  have hclass : Text.pascalCase "parent" = "Parent" ∧ Text.pascalCase "node" ≠ "Parent" := by
    decide +kernel
  rw [hstrip] at halchemy hfactory
  refine ⟨s, hs, m, hm, f, hf, hname, hself, halchemy.2 ⟨rfl, rfl, hclass.1.symm⟩, ?_, ?_, ?_⟩
  · rw [halchemy, hname]
    simp
  · rw [hfactory, Field.subFactoryExpr_parent howner]
    simp [ModelInfo.hasNamespaceProperties, hproperties, Keyed.has, Keyed.get?]
  · rintro ⟨factory, hrefers, hown⟩
    rw [hfactory] at hrefers
    subst hrefers
    rcases (Field.isFactory_subFactoryExpr_iff howner).1 hown with hpackage | hparent
    · simp [ModelInfo.hasNamespaceProperties, hproperties, Keyed.has, Keyed.get?] at hpackage
    · have hnode : Text.pascalCase "node" = "Parent" := hname ▸ hparent
      exact hclass.2 hnode

end RelSchema
