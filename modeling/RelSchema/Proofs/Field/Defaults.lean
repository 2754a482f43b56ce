import RelSchema.Proofs.Document.Reading
import RelSchema.Proofs.Field.Declared

namespace RelSchema

namespace Field

open Python

def SqlDefaults (d : Dialect) (f : Field) : Prop :=
  ∃ column literal, f.sqlColumn d = .ok column ∧
    f.definition d = .ok (withComment column.text f.options.commentOffset f.spec.description) ∧
    column.role = .default ("default " ++ literal)

def SqlAlchemyDefaults (f : Field) : Prop :=
  ∃ call value, f.columnCall = .ok call ∧
    f.definition .sqlAlchemy = .ok (Assignment.mk f.spec.name call).text ∧
    .keyword "default" value ∈ call.args

def DjangoDefaults (f : Field) : Prop :=
  ∃ call value, f.djangoCall = .ok call ∧
    f.definition .django = .ok (Assignment.mk f.djangoAttribute call).text ∧
    .keyword "default" value ∈ call.args

variable {f : Field} {d : Dialect}

theorem defaultClause?_of_isSql (hd : d.isSql = true) :
    f.defaultClause? d =
      if isZero f.spec.default || f.spec.default.isTruthy then
        some ("default " ++ defaultLiteral f.spec.default)
      else none := by
  cases d with
  | sql | sqlite | postgres | pgEnum => rfl
  | _ => cases hd

theorem role_of_sqlColumn {column : SqlColumn} (h : f.sqlColumn d = .ok column) :
    column.role = f.sqlRole d := by
  obtain ⟨_, _, h⟩ := bind_eq_ok_iff.1 h
  cases h
  rfl

theorem sqlRole_eq_default_iff (hd : d.isSql = true) {clause : String} :
    f.sqlRole d = .default clause ↔
      f.isKey = false ∧ (isZero f.spec.default = true ∨ f.spec.default.isTruthy = true) ∧
        clause = "default " ++ defaultLiteral f.spec.default := by
  cases hkey : f.isKey with
  | false =>
    obtain ⟨hpk, hfk, hpfk⟩ := roles_of_isKey hkey
    rw [sqlRole, hpk, hfk, hpfk, defaultClause?_of_isSql hd, ← Bool.or_eq_true]
    cases isZero f.spec.default || f.spec.default.isTruthy <;> simp [eq_comm]
  | true =>
    have hrole : f.sqlRole d ≠ .default clause := by
      rw [isKey, Bool.or_assoc, Bool.or_eq_true] at hkey
      rw [sqlRole]
      split
      · simp
      · rename_i hpk
        rw [if_pos (hkey.resolve_left hpk)]
        simp
    exact iff_of_false hrole (by simp)

theorem type_ne_none_of_sqlColumn {column : SqlColumn} (h : f.sqlColumn d = .ok column) :
    f.spec.type ≠ none := by
  obtain ⟨htype, _⟩ := sqlColumn_eq_ok h
  obtain ⟨_, htype, _⟩ := bind_eq_ok_iff.1 htype
  obtain ⟨type, htype, _⟩ := bind_eq_ok_iff.1 htype
  simp [baseType_eq_ok_iff.1 htype]

theorem sqlDefaults_iff (hd : d.isSql = true) :
    f.SqlDefaults d ↔ f.spec.type ≠ none ∧ f.isKey = false ∧
      (isZero f.spec.default = true ∨ f.spec.default.isTruthy = true) := by
  constructor
  · rintro ⟨column, literal, hcolumn, _, hrole⟩
    rw [role_of_sqlColumn hcolumn, sqlRole_eq_default_iff hd] at hrole
    exact ⟨type_ne_none_of_sqlColumn hcolumn, hrole.1, hrole.2.1⟩
  · rintro ⟨htyped, hkey, hgiven⟩
    obtain ⟨column, hcolumn, hdef⟩ := exists_sqlColumn htyped hd
    refine ⟨column, defaultLiteral f.spec.default, hcolumn, hdef, ?_⟩
    rw [role_of_sqlColumn hcolumn, sqlRole_eq_default_iff hd]
    exact ⟨hkey, hgiven, rfl⟩

theorem exists_defaultClause?_iff (hd : d = .sqlAlchemy ∨ d = .django) :
    (∃ s, f.defaultClause? d = some s) ↔ f.spec.default.isTruthy = true := by
  rcases hd with rfl | rfl <;> simp [defaultClause?]

theorem exists_default_iff {x : Except FieldError Expr} {written : Expr → Prop}
    (hcall : ∃ call, x = .ok call ∧ written call)
    (hdefault : ∀ call value, x = .ok call → (.keyword "default" value ∈ call.args ↔
      ∃ s, f.defaultClause? d = some s ∧ value = .string s)) :
    (∃ call value, x = .ok call ∧ written call ∧ .keyword "default" value ∈ call.args) ↔
      ∃ s, f.defaultClause? d = some s := by
  constructor
  · rintro ⟨call, value, hcall, _, hvalue⟩
    obtain ⟨s, hs, _⟩ := (hdefault call value hcall).1 hvalue
    exact ⟨s, hs⟩
  · rintro ⟨s, hs⟩
    obtain ⟨call, hcall, hwritten⟩ := hcall
    exact ⟨call, .string s, hcall, hwritten, (hdefault call _ hcall).2 ⟨s, hs, rfl⟩⟩

theorem sqlAlchemyDefaults_iff (htyped : f.spec.type ≠ none)
    (hnumeric : f.spec.type ≠ some .numeric) (hkey : f.isKey = false) :
    f.SqlAlchemyDefaults ↔ f.spec.default.isTruthy = true := by
  rw [← exists_defaultClause?_iff (.inl rfl)]
  exact exists_default_iff (exists_columnCall htyped hnumeric hkey) fun _ _ hcall =>
    default_of_columnCall hcall hkey

theorem djangoDefaults_iff (htyped : f.spec.type ≠ none)
    (hnumeric : f.spec.type ≠ some .numeric) (hkey : f.isKey = false) :
    f.DjangoDefaults ↔ f.spec.default.isTruthy = true := by
  obtain ⟨hpk, hfk, _⟩ := roles_of_isKey hkey
  rw [← exists_defaultClause?_iff (.inr rfl)]
  exact exists_default_iff (exists_djangoCall htyped hnumeric) fun _ _ hcall =>
    default_of_djangoCall hcall hpk hfk

theorem isTruthy_of_isZero {v : Value} (h : isZero v = true) : v.isTruthy = false := by
  cases v <;> simp_all [isZero, Value.isTruthy]

end Field

/-- A default counts for SQL if and only if it counts for SQLAlchemy and for Django, unless it is
zero. -/
theorem Model.defaults_agree_iff {d : Dialect} (hd : d.isSql = true) :
    (∀ (f : Field) (type : BaseType), f.spec.index = .none ∨ f.spec.index = .sk →
      f.spec.type = some type → (∀ d : Dialect, d.typeName? type ≠ none) →
        (f.SqlAlchemyDefaults ↔ f.DjangoDefaults) ∧
        ((f.SqlDefaults d ↔ f.SqlAlchemyDefaults) ↔ Field.isZero f.spec.default = false)) ∧
    ∀ m : Model, m.hasDefaults = false →
      ((∀ f ∈ m.fields, ¬ f.SqlDefaults d) ↔
        ∀ f ∈ m.fields, f.spec.type ≠ none → f.isKey = false →
          Field.isZero f.spec.default = false) := by
  constructor
  · intro f type hrole htype hmapped
    have htyped : f.spec.type ≠ none := by simp [htype]
    have hnumeric : f.spec.type ≠ some .numeric := by
      rw [htype]
      rintro ⟨⟩
      exact hmapped .django rfl
    have hkey := Field.isKey_eq_false_iff.2 hrole
    rw [Field.sqlAlchemyDefaults_iff htyped hnumeric hkey,
      Field.djangoDefaults_iff htyped hnumeric hkey, Field.sqlDefaults_iff hd]
    refine ⟨Iff.rfl, ?_⟩
    cases hzero : Field.isZero f.spec.default with
    | false => simp [htyped, hkey]
    | true => simp [htyped, hkey, Field.isTruthy_of_isZero hzero]
  · intro m hm
    refine forall₂_congr fun f hf => ?_
    have hfalsy : f.spec.default.isTruthy = false := by
      simpa using List.any_eq_false.1 hm f hf
    simp [Field.sqlDefaults_iff hd, hfalsy]

/-- A store with a number of pieces, which is `count` unless another one is given. -/
def Document.store (count : Value) : Document where
  models := [
    { name := "store"
      fields := [[("name", .text "pieces"), ("type", .text "int"), ("default", count)]] }]

theorem Model.defaults_agree_iff_store :
    ∃ s, (Document.store (.text "0")).toSchema {} "schema" = .ok s ∧
      ∃ m ∈ s.models, ∃ f ∈ m.fields, f.spec.index = .none ∧
        (f.SqlAlchemyDefaults ↔ f.DjangoDefaults) ∧ (f.SqlDefaults .pgEnum ↔ f.SqlAlchemyDefaults) ∧
        ∃ empty, (Document.store .null).toSchema {} "schema" = .ok empty ∧
          ∃ m ∈ empty.models, m.hasDefaults = false ∧ ∀ f ∈ m.fields, ¬ f.SqlDefaults .pgEnum := by
  obtain ⟨s, hs, m, hm, f, hf, hrole, htype, hzero⟩ := exists_eq_ok_of_any
    (x := (Document.store (.text "0")).toSchema {} "schema")
    (p := fun s => ∃ m ∈ s.models, ∃ f ∈ m.fields, f.spec.index = .none ∧
      f.spec.type = some .int ∧ Field.isZero f.spec.default = false) (by decide +kernel)
  obtain ⟨empty, hempty, n, hn, hnone, hfields⟩ := exists_eq_ok_of_any
    (x := (Document.store .null).toSchema {} "schema")
    (p := fun s => ∃ m ∈ s.models, m.hasDefaults = false ∧
      ∀ f ∈ m.fields, Field.isZero f.spec.default = false) (by decide +kernel)
  have hmapped : ∀ d : Dialect, d.typeName? .int ≠ none := by
    intro d
    cases d <;> decide
  obtain ⟨hfield, hmodel⟩ := defaults_agree_iff (d := .pgEnum) rfl
  obtain ⟨hpython, hsql⟩ := hfield f .int (.inl hrole) htype hmapped
  exact ⟨s, hs, m, hm, f, hf, hrole, hpython, hsql.2 hzero, empty, hempty, n, hn, hnone,
    (hmodel n hnone).2 fun f hf _ _ => hfields f hf⟩

/-- No pieces are a default number of pieces in SQL, but not for SQLAlchemy and Django, and a model
with this default has none. -/
theorem Model.defaults_disagree_store :
    ∃ s, (Document.store (.int 0)).toSchema {} "schema" = .ok s ∧
      ∃ m ∈ s.models, m.hasDefaults = false ∧ ∃ f ∈ (m.retarget none {}).fields,
        f.spec.index = .none ∧ f.SqlDefaults .sql ∧ ¬ f.SqlAlchemyDefaults ∧
          ¬ f.DjangoDefaults := by
  obtain ⟨s, hs, m, hm, hnone, f, hf, hrole, htype, hzero⟩ := exists_eq_ok_of_any
    (x := (Document.store (.int 0)).toSchema {} "schema")
    (p := fun s => ∃ m ∈ s.models, m.hasDefaults = false ∧ ∃ f ∈ (m.retarget none {}).fields,
      f.spec.index = .none ∧ f.spec.type = some .int ∧ f.spec.default = .int 0)
    (by decide +kernel)
  have htyped : f.spec.type ≠ none := by simp [htype]
  have hnumeric : f.spec.type ≠ some .numeric := by simp [htype]
  have hkey := Field.isKey_eq_false_iff.2 (.inl hrole)
  have hfalsy : ¬ f.spec.default.isTruthy = true := by
    rw [hzero]
    decide
  refine ⟨s, hs, m, hm, hnone, f, hf, hrole, ?_, ?_, ?_⟩
  · rw [Field.sqlDefaults_iff rfl, hzero]
    exact ⟨htyped, hkey, .inl rfl⟩
  · rwa [Field.sqlAlchemyDefaults_iff htyped hnumeric hkey]
  · rwa [Field.djangoDefaults_iff htyped hnumeric hkey]

end RelSchema
