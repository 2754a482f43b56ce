import RelSchema.Proofs.Declaration
import RelSchema.Proofs.Declaration.Django
import RelSchema.Proofs.Declaration.Sql
import RelSchema.Proofs.Declaration.SqlAlchemy
import RelSchema.Proofs.Text.Words

namespace RelSchema

namespace Field

open Python

def SqlRefers (d : Dialect) (f : Field) (table : String) : Prop :=
  ∃ column, f.sqlColumn d = .ok column ∧
    f.definition d = .ok (withComment column.text f.options.commentOffset f.spec.description) ∧
    column.role = .reference table

/-- The column refers to the key of a table, and the attribute that goes with it to a class. -/
def SqlAlchemyRefers (f : Field) (table name className : String) : Prop :=
  ∃ column relationship,
    f.sqlAlchemyAssignments = .ok [⟨f.spec.name, column⟩, ⟨name, relationship⟩] ∧
    f.definition .sqlAlchemy = .ok ((Assignment.mk f.spec.name column).text ++ "\n    " ++
      (Assignment.mk name relationship).text) ∧
    (∃ cascades, .call "ForeignKey" (.string (table ++ ".id") :: cascades) ∈ column.args) ∧
    relationship.args.head? = some (.string className)

def DjangoRefers (f : Field) (name target : String) : Prop :=
  ∃ call, f.djangoCall = .ok call ∧
    f.definition .django = .ok (Assignment.mk name call).text ∧
    call.args.head? = some (.string target)

def FactoryRefers (f : Field) (name : String) (factory : Expr) : Prop :=
  let call := Expr.call "factory.SubFactory" [factory]
  f.factoryCall = .ok call ∧ f.definition .factoryBoy = .ok (Assignment.mk name call).text

variable {f : Field} {d : Dialect}

theorem isPk_of_refers (h : f.isFk = true ∨ f.isPfk = true) : f.isPk = false := by
  unfold isFk isPfk isPk at *
  cases hindex : f.spec.index <;> simp_all

theorem isPk_of_isFk (h : f.isFk = true) : f.isPk = false :=
  isPk_of_refers (.inl h)

theorem sqlRefers (hfk : f.isFk = true) (hd : d.isSql = true)
    (h : ∃ line, f.definition d = .ok line) : f.SqlRefers d f.referencedTable := by
  obtain ⟨column, hcolumn, hdef⟩ := exists_eq_ok_of_eq_map (definition_eq_map_sqlColumn hd) h
  refine ⟨column, hcolumn, hdef, ?_⟩
  obtain ⟨type, _, hcolumn⟩ := bind_eq_ok_iff.1 hcolumn
  cases hcolumn
  simp [sqlRole, isPk_of_isFk hfk, hfk]

theorem columnTypeExpr_ne_foreignKey {type : Expr} (h : f.columnTypeExpr = .ok type)
    (args : List Expr) : type ≠ .call "ForeignKey" args := by
  obtain ⟨t, _, h⟩ := bind_eq_ok_iff.1 h
  obtain ⟨name, _, h⟩ := bind_eq_ok_iff.1 h
  rintro rfl
  have htype := Except.ok.inj h
  split at htype <;> simp at htype

/-- A foreign key becomes a column and the attribute that goes with it. -/
theorem exists_sqlAlchemyAssignments (hkey : (f.isFk || f.isPfk) = true)
    (h : ∃ line, f.definition .sqlAlchemy = .ok line) :
    ∃ type column relationship, f.columnTypeExpr = .ok type ∧
      column = Expr.call "Column" (type :: f.columnArguments (Text.stripId f.spec.name)) ∧
      relationship = f.relationshipCall (Text.stripId f.spec.name) ∧
      f.sqlAlchemyAssignments =
        .ok [⟨f.spec.name, column⟩, ⟨Text.stripId f.spec.name, relationship⟩] ∧
      f.definition .sqlAlchemy = .ok ((Assignment.mk f.spec.name column).text ++ "\n    " ++
        (Assignment.mk (Text.stripId f.spec.name) relationship).text) := by
  obtain ⟨as, has, hdef⟩ :=
    exists_eq_ok_of_eq_map (y := f.definition .sqlAlchemy) f.sqlAlchemyDefinition_eq h
  obtain ⟨column, hcolumn, hlist⟩ := bind_eq_ok_iff.1 has
  obtain ⟨type, htype, hcall⟩ := bind_eq_ok_iff.1 hcolumn
  cases hcall
  simp only [hkey, ↓reduceIte] at hlist
  cases hlist
  exact ⟨type, _, _, htype, rfl, rfl, has, hdef⟩

theorem sqlAlchemyRefers_iff (hfk : f.isFk = true) (h : ∃ line, f.definition .sqlAlchemy = .ok line)
    {table name className : String} :
    f.SqlAlchemyRefers table name className ↔
      table = Text.stripId f.spec.name ∧ name = Text.stripId f.spec.name ∧
        className = Text.pascalCase (Text.stripId f.spec.name) := by
  obtain ⟨type, _, _, htype, rfl, rfl, has, hdef⟩ :=
    exists_sqlAlchemyAssignments (by rw [hfk, Bool.true_or]) h
  have harguments : f.columnArguments (Text.stripId f.spec.name) =
      [f.foreignKeyCall (Text.stripId f.spec.name), f.nullableKeyword] := by
    simp [columnArguments, isPk_of_isFk hfk, hfk]
  constructor
  · rintro ⟨column, relationship, has', _, ⟨cascades, hmem⟩, hclass⟩
    have hlist := Except.ok.inj (has.symm.trans has')
    simp only [List.cons.injEq, Assignment.mk.injEq, true_and, and_true] at hlist
    obtain ⟨rfl, rfl, rfl⟩ := hlist
    rw [Expr.args, harguments, List.mem_cons, List.mem_cons, List.mem_singleton] at hmem
    rcases hmem with hmem | hmem | hmem
    · exact absurd hmem.symm (columnTypeExpr_ne_foreignKey htype _)
    · have hkey : some (Expr.string (table ++ ".id")) =
          some (.string (Text.stripId f.spec.name ++ ".id")) := congrArg (·.args.head?) hmem
      have htable := Expr.string_inj.1 (Option.some.inj hkey)
      exact ⟨(String.append_left_inj _).1 htable, rfl,
        (Expr.string_inj.1 (Option.some.inj hclass)).symm⟩
    · cases hmem
  · rintro ⟨rfl, rfl, rfl⟩
    refine ⟨_, _, has, hdef, ?_, rfl⟩
    rw [Expr.args, harguments]
    exact ⟨_, List.mem_cons_of_mem _ List.mem_cons_self⟩

theorem djangoRefers (hfk : f.isFk = true) (h : ∃ line, f.definition .django = .ok line) :
    f.DjangoRefers (Text.stripId f.spec.name) f.djangoTarget := by
  obtain ⟨call, hcall, hdef⟩ :=
    exists_eq_ok_of_eq_map (y := f.definition .django) f.djangoDefinition_eq h
  have hname : f.djangoAttribute = Text.stripId f.spec.name := if_pos hfk
  rw [hname] at hdef
  refine ⟨call, hcall, hdef, ?_⟩
  obtain ⟨type, _, hcall⟩ := bind_eq_ok_iff.1 hcall
  obtain ⟨kind, _, hcall⟩ := bind_eq_ok_iff.1 hcall
  cases hcall
  simp [Expr.args, djangoExprs, isPk_of_isFk hfk, hfk]

theorem factoryRefers_iff (hfk : f.isFk = true) (h : ∃ line, f.definition .factoryBoy = .ok line)
    {factory : Expr} :
    f.FactoryRefers (Text.stripId f.spec.name) factory ↔
      factory = f.subFactoryExpr (Text.stripId f.spec.name) := by
  obtain ⟨call, hcall, hdef⟩ :=
    exists_eq_ok_of_eq_map (y := f.definition .factoryBoy) f.factoryDefinition_eq h
  have hname : f.factoryAttribute = Text.stripId f.spec.name := if_pos hfk
  rw [hname] at hdef
  obtain ⟨type, _, hvalue⟩ := bind_eq_ok_iff.1 hcall
  obtain ⟨sample, _, hvalue⟩ := bind_eq_ok_iff.1 hvalue
  simp only [isPk_of_isFk hfk, hfk, Bool.false_and, Bool.false_eq_true, ↓reduceIte] at hvalue
  cases hvalue
  constructor
  · rintro ⟨hcall', _⟩
    have hargs := Except.ok.inj (hcall'.symm.trans hcall)
    simpa using hargs
  · rintro rfl
    exact ⟨hcall, hdef⟩

theorem subFactoryExpr_of_ne {table : String} (h : table ≠ "parent") :
    f.subFactoryExpr table = .name (Text.pascalCase table ++ "Factory") := by
  simp [subFactoryExpr, h]

/-- In every dialect, a foreign key that is named for a table refers to that table or to its
class. -/
theorem foreign_key_targets_agree (hfk : f.isFk = true)
    (hascii : ∀ c ∈ f.spec.name.toList, c.toNat < 0x80)
    (hid : Text.endsWith f.spec.name "_id" = true) (hparent : f.spec.name ≠ "parent_id")
    {type : BaseType} (htype : f.spec.type = some type)
    (hmapped : ∀ d : Dialect, d.typeName? type ≠ none) :
    ∃ table, f.spec.name = table ++ "_id" ∧
      (∀ d : Dialect, d.isSql = true → f.SqlRefers d table) ∧
      f.SqlAlchemyRefers table table (Text.pascalCase table) ∧
      f.DjangoRefers table (Text.pascalCase table) ∧
      f.FactoryRefers table (.name (Text.pascalCase table ++ "Factory")) := by
  obtain ⟨table, hname⟩ := Text.exists_append_of_endsWith hid
  have hself : f.isSelfReference = false := by simp [isSelfReference, hparent]
  have hstrip : Text.stripId f.spec.name = table := by rw [hname, Text.stripId_append_id]
  have htable : ∀ c ∈ table.toList, c.toNat < 0x80 := by
    intro c hc
    rw [hname, String.toList_append] at hascii
    exact hascii c (List.mem_append_left _ hc)
  have hdef : ∀ d : Dialect, d ≠ .plain → ∃ line, f.definition d = .ok line := by
    intro d hd
    refine exists_definition (by simp [htype]) hd ?_
    rintro - hnumeric
    rw [htype] at hnumeric
    cases hnumeric
    exact hmapped .django rfl
  refine ⟨table, hname, ?_, ?_, ?_, ?_⟩
  · intro d hd
    have hplain : d ≠ .plain := by
      rintro rfl
      cases hd
    have hreference : f.referencedTable = table := by
      simp [referencedTable, hself, hstrip]
    exact hreference ▸ sqlRefers hfk hd (hdef d hplain)
  · exact (sqlAlchemyRefers_iff hfk (hdef _ (by decide))).2
      ⟨hstrip.symm, hstrip.symm, by rw [hstrip]⟩
  · have htarget : f.djangoTarget = Text.pascalCase table := by
      have hclass : Text.pascalCase (f.name .django) = Text.pascalCase table ++ "Id" :=
        (congrArg Text.pascalCase hname).trans (Text.pascalCase_append_id htable)
      simp [djangoTarget, hself, hclass]
    have hrefers := djangoRefers hfk (hdef _ (by decide))
    rwa [hstrip, htarget] at hrefers
  · have hne : table ≠ "parent" := by
      rintro rfl
      exact hparent hname
    have hrefers := (factoryRefers_iff hfk (hdef _ (by decide))).2 rfl
    rwa [hstrip, subFactoryExpr_of_ne hne] at hrefers

/-- A key of a table whose name holds an acronym, a digit and two underscores in a row. -/
def serverKey : Field where
  spec := { name := "HTTPServer__2_id", type := some .int, index := .fk }

theorem foreign_key_targets_agree_server :
    ∃ table, serverKey.spec.name = table ++ "_id" ∧ serverKey.SqlRefers .sqlite table ∧
      serverKey.SqlAlchemyRefers table table (Text.pascalCase table) ∧
      serverKey.DjangoRefers table (Text.pascalCase table) ∧
      serverKey.FactoryRefers table (.name (Text.pascalCase table ++ "Factory")) := by
  have hmapped : ∀ d : Dialect, d.typeName? .int ≠ none := by
    intro d
    cases d <;> decide
  have hall : serverKey.spec.name.toList.all (·.toNat < 0x80) = true := by decide
  have hascii : ∀ c ∈ serverKey.spec.name.toList, c.toNat < 0x80 := fun c hc =>
    of_decide_eq_true (List.all_eq_true.1 hall c hc)
  obtain ⟨table, hname, hsql, hpython⟩ :=
    foreign_key_targets_agree (f := serverKey) rfl hascii (by decide) (by decide) rfl hmapped
  exact ⟨table, hname, hsql .sqlite rfl, hpython⟩

end Field

end RelSchema
