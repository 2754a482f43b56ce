import RelSchema.Proofs.Declaration.Haskell
import RelSchema.Proofs.Field.Declared
import RelSchema.Proofs.Output.Failure

namespace RelSchema

namespace Field

open Python

def SqlRequires (d : Dialect) (f : Field) : Prop :=
  ∃ column, f.sqlColumn d = .ok column ∧
    f.definition d = .ok (withComment column.text f.options.commentOffset f.spec.description) ∧
    column.isRequired = true

def SqlAlchemyRequires (f : Field) : Prop :=
  ∃ call, f.columnCall = .ok call ∧
    f.definition .sqlAlchemy = .ok (Assignment.mk f.spec.name call).text ∧
    .keyword "nullable" (.bool false) ∈ call.args

def DjangoRequires (f : Field) : Prop :=
  ∃ call, f.djangoCall = .ok call ∧
    f.definition .django = .ok (Assignment.mk f.djangoAttribute call).text ∧
    .keyword "null" (.bool false) ∈ call.args ∧ .keyword "blank" (.bool false) ∈ call.args

/-- The type of the record field is not wrapped. -/
def HaskellRequires (f : Field) : Prop :=
  ∃ type, f.haskellBaseType = .ok type ∧
    f.definition .haskell = .ok (f.haskellLine (f.wrapped type)) ∧ f.wrapped type = type

variable {f : Field} {d : Dialect}

theorem sqlRequires_iff (htyped : f.spec.type ≠ none) (hd : d.isSql = true) :
    f.SqlRequires d ↔ f.isRequired = true := by
  obtain ⟨column, hcolumn, hdef⟩ := exists_sqlColumn htyped hd
  obtain ⟨_, hrequired, _⟩ := sqlColumn_eq_ok hcolumn
  constructor
  · rintro ⟨column', hcolumn', _, h⟩
    cases hcolumn.symm.trans hcolumn'
    exact hrequired.symm.trans h
  · exact fun h => ⟨column, hcolumn, hdef, hrequired.trans h⟩

theorem haskellRequires_iff (htyped : f.spec.type ≠ none) :
    f.HaskellRequires ↔ f.isRequired = true := by
  obtain ⟨type, htype, hdef⟩ := exists_eq_ok_of_eq_map (y := f.definition .haskell)
    f.haskellDefinition_eq (exists_definition htyped (by decide) fun h => absurd h (by decide))
  constructor
  · rintro ⟨_, _, _, h⟩
    exact wrapped_eq_self_iff.1 h
  · exact fun h => ⟨type, htype, hdef, wrapped_eq_self_iff.2 h⟩

theorem sqlAlchemyRequires_iff (htyped : f.spec.type ≠ none)
    (hnumeric : f.spec.type ≠ some .numeric) (hkey : f.isKey = false) :
    f.SqlAlchemyRequires ↔ f.isDemanded = true := by
  have hnullable : ∀ call, f.columnCall = .ok call →
      (.keyword "nullable" (.bool false) ∈ call.args ↔ f.isDemanded = true) := by
    intro call hcall
    rw [nullable_of_columnCall hcall hkey, Expr.bool_inj, eq_comm, Bool.not_eq_false']
  obtain ⟨call, hcall, hdef⟩ := exists_columnCall htyped hnumeric hkey
  constructor
  · rintro ⟨call', hcall', _, h⟩
    exact (hnullable call' hcall').1 h
  · exact fun h => ⟨call, hcall, hdef, (hnullable call hcall).2 h⟩

theorem djangoRequires_iff (htyped : f.spec.type ≠ none) (hnumeric : f.spec.type ≠ some .numeric)
    (hkey : f.isKey = false) : f.DjangoRequires ↔ f.isRequired = true := by
  obtain ⟨hpk, hfk, _⟩ := roles_of_isKey hkey
  have hnull : ∀ call key, f.djangoCall = .ok call → key = "null" ∨ key = "blank" →
      (.keyword key (.bool false) ∈ call.args ↔ f.isRequired = true) := by
    intro call key hcall hname
    rw [nullability_of_djangoCall hcall hpk hfk hname, Expr.bool_inj, eq_comm, Bool.not_eq_false']
  obtain ⟨call, hcall, hdef⟩ := exists_djangoCall htyped hnumeric
  constructor
  · rintro ⟨call', hcall', _, h, _⟩
    exact (hnull call' _ hcall' (.inl rfl)).1 h
  · exact fun h => ⟨call, hcall, hdef, (hnull call _ hcall (.inl rfl)).2 h,
      (hnull call _ hcall (.inr rfl)).2 h⟩

theorem isRequired_eq_isDemanded_iff :
    (f.isRequired = true ↔ f.isDemanded = true) ↔
      ∀ n, f.spec.required = some n → n = 0 ∨ n = 1 := by
  unfold isRequired isDemanded
  cases f.spec.required with
  | none => simp
  | some n =>
    by_cases h : n = 1
    · simp [h]
    · simp [h]

end Field

/-- For a field that is no key, two of the targets ask whether a requirement is given that is not
zero, and the others whether it is one. So all of them agree if it is zero, one or not given. -/
theorem Schema.nullability_agrees_iff {doc : Document} {readOptions : Options} {name : String}
    {s : Schema} (h : doc.toSchema readOptions name = .ok s) {m : Model} (hm : m ∈ s.models)
    (kind : Option NamespaceKind) (options : Options) {f : Field}
    (hf : f ∈ (m.retarget kind options).fields)
    (hrole : f.spec.index = .none ∨ f.spec.index = .sk) :
    let required := (m.retarget kind options).requiredFields
    (∀ d : Dialect, d.isSql = true → (f.SqlRequires d ↔ f.HaskellRequires)) ∧
      (f.spec.type ≠ some .numeric → (f.DjangoRequires ↔ f.HaskellRequires) ∧
        (f.SqlAlchemyRequires ↔ f ∈ required)) ∧
      ((f.HaskellRequires ↔ f ∈ required) ↔
        ∀ n, f.spec.required = some n → n = 0 ∨ n = 1) := by
  intro required
  have htyped : f.spec.type ≠ none := (isTyped_of_toSchema h m hm).retarget kind options f hf
  have hkey := Field.isKey_eq_false_iff.2 hrole
  have hrequired : f ∈ required ↔ f.isDemanded = true := by
    rw [show required = List.filter _ _ from rfl, List.mem_filter]
    exact and_iff_right hf
  have hhaskell := Field.haskellRequires_iff htyped
  refine ⟨?_, ?_, ?_⟩
  · intro d hd
    rw [Field.sqlRequires_iff htyped hd, hhaskell]
  · intro hnumeric
    rw [Field.djangoRequires_iff htyped hnumeric hkey, hhaskell,
      Field.sqlAlchemyRequires_iff htyped hnumeric hkey, hrequired]
    exact ⟨Iff.rfl, Iff.rfl⟩
  · rw [hhaskell, hrequired]
    exact Field.isRequired_eq_isDemanded_iff

/-- A car with a number of doors, which has to be given if `required` says so. -/
def Document.doors (required : Int64) : Document where
  models := [
    { name := "car"
      fields := [[("name", .text "doors"), ("type", .text "int"), ("required", .int required)]] }]

theorem Schema.nullability_agrees_iff_doors :
    ∃ s, (Document.doors 1).toSchema {} "schema" = .ok s ∧
      ∃ m ∈ s.models, ∃ f ∈ (m.retarget none {}).fields,
        (f.SqlRequires .sqlite ↔ f.HaskellRequires) ∧
        (f.DjangoRequires ↔ f.HaskellRequires) ∧
        (f.SqlAlchemyRequires ↔ f ∈ (m.retarget none {}).requiredFields) ∧
        (f.HaskellRequires ↔ f ∈ (m.retarget none {}).requiredFields) := by
  obtain ⟨s, hs, m, hm, f, hf, hrole, htype, hone⟩ := exists_eq_ok_of_any
    (x := (Document.doors 1).toSchema {} "schema")
    (p := fun s => ∃ m ∈ s.models, ∃ f ∈ (m.retarget none {}).fields,
      (f.spec.index = .none ∨ f.spec.index = .sk) ∧ f.spec.type ≠ some .numeric ∧
        f.spec.required = some 1) (by decide +kernel)
  obtain ⟨hsql, hpython, hiff⟩ := nullability_agrees_iff hs hm none {} hf hrole
  refine ⟨s, hs, m, hm, f, hf, hsql .sqlite rfl, (hpython htype).1, (hpython htype).2, hiff.2 ?_⟩
  intro n hn
  rw [hone] at hn
  cases hn
  exact .inr rfl

/-- If two are required, a number of doors may be left out in SQL but not in SQLAlchemy. -/
theorem Schema.nullability_disagrees_doors :
    ∃ s, (Document.doors 2).toSchema {} "schema" = .ok s ∧
      ∃ m ∈ s.models, ∃ f ∈ (m.retarget none {}).fields, f.spec.index = .none ∧
        ¬ f.SqlRequires .sql ∧ ¬ f.DjangoRequires ∧ ¬ f.HaskellRequires ∧
        f.SqlAlchemyRequires ∧ f ∈ (m.retarget none {}).requiredFields := by
  obtain ⟨s, hs, m, hm, f, hf, hrole, htype, htwo⟩ := exists_eq_ok_of_any
    (x := (Document.doors 2).toSchema {} "schema")
    (p := fun s => ∃ m ∈ s.models, ∃ f ∈ (m.retarget none {}).fields,
      f.spec.index = .none ∧ f.spec.type = some .int ∧ f.spec.required = some 2)
    (by decide +kernel)
  have htyped : f.spec.type ≠ none := by simp [htype]
  have hnumeric : f.spec.type ≠ some .numeric := by simp [htype]
  have hkey := Field.isKey_eq_false_iff.2 (.inl hrole)
  have hrequired : ¬ f.isRequired = true := by simp [Field.isRequired, htwo]
  have hdemanded : f.isDemanded = true := by simp [Field.isDemanded, htwo]
  refine ⟨s, hs, m, hm, f, hf, hrole, ?_, ?_, ?_, ?_, ?_⟩
  · rwa [Field.sqlRequires_iff htyped rfl]
  · rwa [Field.djangoRequires_iff htyped hnumeric hkey]
  · rwa [Field.haskellRequires_iff htyped]
  · rwa [Field.sqlAlchemyRequires_iff htyped hnumeric hkey]
  · exact List.mem_filter.2 ⟨hf, hdemanded⟩

end RelSchema
