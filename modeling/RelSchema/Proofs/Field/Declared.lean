import RelSchema.Proofs.Declaration
import RelSchema.Proofs.Declaration.Django
import RelSchema.Proofs.Declaration.Sql
import RelSchema.Proofs.Declaration.SqlAlchemy

namespace RelSchema.Field

open Python

variable {f : Field} {d : Dialect}

theorem isKey_eq_false_iff : f.isKey = false ↔ f.spec.index = .none ∨ f.spec.index = .sk := by
  unfold isKey isPk isFk isPfk
  cases f.spec.index <;> decide

theorem roles_of_isKey (h : f.isKey = false) :
    f.isPk = false ∧ f.isFk = false ∧ f.isPfk = false := by
  rw [isKey, Bool.or_eq_false_iff, Bool.or_eq_false_iff] at h
  exact ⟨h.1.1, h.1.2, h.2⟩

theorem exists_sqlColumn (htyped : f.spec.type ≠ none) (hd : d.isSql = true) :
    ∃ column, f.sqlColumn d = .ok column ∧
      f.definition d =
        .ok (withComment column.text f.options.commentOffset f.spec.description) := by
  have hdialect : ∀ d : Dialect, d.isSql = true → d ≠ .plain ∧ d ∉ Dialect.lacksNumeric := by
    intro d
    cases d <;> decide
  obtain ⟨hplain, hmapped⟩ := hdialect d hd
  exact exists_eq_ok_of_eq_map (definition_eq_map_sqlColumn hd)
    (exists_definition htyped hplain fun h => absurd h hmapped)

theorem exists_columnCall (htyped : f.spec.type ≠ none) (hnumeric : f.spec.type ≠ some .numeric)
    (hkey : f.isKey = false) :
    ∃ call, f.columnCall = .ok call ∧
      f.definition .sqlAlchemy = .ok (Assignment.mk f.spec.name call).text := by
  obtain ⟨_, hfk, hpfk⟩ := roles_of_isKey hkey
  have hreference : (f.isFk || f.isPfk) = false := by rw [hfk, hpfk]; rfl
  exact exists_eq_ok_of_eq_map (y := f.definition .sqlAlchemy)
    (f.sqlAlchemyDefinition_of_plain hreference)
    (exists_definition htyped (by decide) fun _ => hnumeric)

theorem exists_djangoCall (htyped : f.spec.type ≠ none) (hnumeric : f.spec.type ≠ some .numeric) :
    ∃ call, f.djangoCall = .ok call ∧
      f.definition .django = .ok (Assignment.mk f.djangoAttribute call).text :=
  exists_eq_ok_of_eq_map (y := f.definition .django) f.djangoDefinition_eq
    (exists_definition htyped (by decide) fun _ => hnumeric)

end RelSchema.Field
