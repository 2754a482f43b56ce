import RelSchema.Proofs.Field.Defaults
import RelSchema.Proofs.Model.Trailing
import RelSchema.Proofs.Script.Sql.Inserts

namespace RelSchema

/-- A line between the brackets of a table: a column with its comment, or the columns that make up
the primary key. -/
inductive TableLine
  | column (column : SqlColumn) (offset : Nat) (description : String)
  | key (names : List String)

namespace TableLine

def text : TableLine → String
  | .column c offset description => withComment c.text offset description
  | .key names => "primary key(" ++ ", ".intercalate names ++ ")"

def declaresKey : TableLine → Bool
  | .column c _ _ => c.role = .primaryKey
  | .key _ => true

end TableLine

def Field.tableLine (d : Dialect) (f : Field) : Except FieldError TableLine :=
  (f.sqlColumn d).map fun c => .column c f.options.commentOffset f.spec.description

namespace Field

variable {f : Field} {d : Dialect}

theorem definition_eq_map_tableLine (hd : d.isSql = true) (f : Field) :
    f.definition d = (f.tableLine d).map (·.text) := by
  rw [definition_eq_map_sqlColumn hd, tableLine]
  cases f.sqlColumn d <;> rfl

theorem sqlRole_eq_primaryKey_iff : f.sqlRole d = .primaryKey ↔ f.isPk = true := by
  unfold sqlRole
  split
  · rename_i hpk
    simp [hpk]
  · rename_i hpk
    split
    · simp [hpk]
    · split <;> simp [hpk]

theorem declaresKey_of_tableLine {line : TableLine} (h : f.tableLine d = .ok line) :
    line.declaresKey = f.isPk := by
  obtain ⟨column, hcolumn, rfl⟩ := map_eq_ok_iff.1 h
  rw [TableLine.declaresKey, role_of_sqlColumn hcolumn, Bool.eq_iff_iff, decide_eq_true_iff,
    sqlRole_eq_primaryKey_iff]

end Field

namespace Model

/-- The lines of the model's table, of which the last one is the key line of a junction table. -/
def tableLines (d : Dialect) (m : Model) : Except FieldError (List TableLine) := do
  let columns ← m.fields.mapM (·.tableLine d)
  return columns ++ if m.isJunction then [.key (m.pfkFields.map (·.name d))] else []

variable {d : Dialect} {m : Model}

theorem definitions_eq_map_tableLines (hd : d.isSql = true) (m : Model) :
    m.definitions d = (m.tableLines d).map (·.map (·.text)) := by
  rw [definitions, fieldDefinitions, mapM_eq_map (Field.definition_eq_map_tableLine hd), tableLines]
  cases m.fields.mapM (·.tableLine d) with
  | error => rfl
  | ok columns =>
    change Except.ok (if m.isJunction then columns.map (·.text) ++ [m.compositeKeyLine d]
      else columns.map (·.text)) = .ok (List.map (·.text) (columns ++ _))
    rw [List.map_append]
    cases m.isJunction with
    | false => exact congrArg Except.ok (List.append_nil _).symm
    | true => rfl

theorem countP_declaresKey {lines : List TableLine} (h : m.tableLines d = .ok lines) :
    lines.countP (·.declaresKey) =
      (m.fields.filter (·.isPk)).length + if m.isJunction then 1 else 0 := by
  obtain ⟨columns, hcolumns, h⟩ := bind_eq_ok_iff.1 h
  cases h
  rw [List.countP_append, countP_eq_of_mapM hcolumns fun _ _ => Field.declaresKey_of_tableLine,
    List.countP_eq_length_filter]
  cases m.isJunction <;> rfl

theorem filter_isPk_retarget (m : Model) (kind : Option NamespaceKind) (options : Options) :
    ((m.retarget kind options).fields.filter (·.isPk)).length =
      (m.fields.filter (·.isPk)).length := by
  have hcount : ∀ fields : List Field, (fields.filter (·.isPk)).length =
      (fields.map (·.spec)).countP (·.index = .pk) := by
    intro fields
    rw [List.countP_map, List.countP_eq_length_filter]
    rfl
  rw [hcount, hcount, map_spec_retarget]

end Model

namespace Script.Sql

/-- What goes before a table: its dependencies, and the removal of a table of its name. -/
def preparation (d : Dialect) (m : Model) : String :=
  .join ((m.dependencies d).map ("\n" ++ ·)) ++ "\ndrop table if exists " ++ m.name ++ ";\n"

def creation (m : Model) (lines : List TableLine) : String :=
  "create table " ++ m.name ++ " (\n" ++ block "    " (lines.map (·.text)) ++ ");\n"

theorem table_eq_map_tableLines {d : Dialect} (hd : d.isSql = true) (m : Model) :
    table d m = (m.tableLines d).map fun lines =>
      preparation d m ++ creation m lines ++ inserts d m := by
  rw [table, m.definitions_eq_map_tableLines hd]
  cases m.tableLines d with
  | error => rfl
  | ok lines =>
    have hsplit : ";\ncreate table " = ";\n" ++ "create table " := rfl
    unfold preparation creation
    simp only [Except.map, bind, Except.bind, pure, Except.pure, hsplit, String.append_assoc]

end Script.Sql

namespace Output

open Script

/-- A table declares at most one primary key if and only if its model has at most one field that is
one, and has none if it is a junction table. -/
theorem primary_key_unique_iff {doc : Document} {readOptions : Options} {name : String} {s : Schema}
    {o : Output} (h : doc.toSchema readOptions name = .ok s)
    (hsql : o.format.dialect.isSql = true) :
    ∃ tables, o.render s =
        .ok (Sql.header (s.view o.target) ++ Sql.createTypes (s.view o.target) ++ .join tables) ∧
      List.Forall₂ (fun m table => ∃ before lines after,
          (m.retarget o.namespaceKind o.options).tableLines o.format.dialect = .ok lines ∧
          table = before ++ Sql.creation m lines ++ after ∧
          (lines.countP (·.declaresKey) ≤ 1 ↔ (m.fields.filter (·.isPk)).length ≤ 1 ∧
            (m.info.isCandidate = true ∧ (∃ f ∈ m.fields, f.spec.index = .pfk) →
              ∀ f ∈ m.fields, f.spec.index ≠ .pk)))
        s.models tables := by
  obtain ⟨tables, hrender, htables⟩ := exists_tables_of_toSchema h hsql
  refine ⟨tables, hrender, htables.imp fun m table htable => ?_⟩
  rw [Sql.table_eq_map_tableLines hsql] at htable
  obtain ⟨lines, hlines, rfl⟩ := map_eq_ok_iff.1 htable
  refine ⟨Sql.preparation _ _, lines, Sql.inserts _ _, hlines, rfl, ?_⟩
  rw [Model.countP_declaresKey hlines, Model.filter_isPk_retarget, Model.isJunction_retarget,
    ← Model.isJunctionOf_eq_true_iff]
  change _ + (if m.isJunction then 1 else 0) ≤ 1 ↔ _ ∧ (m.isJunction = true → _)
  have hnone : (∀ f ∈ m.fields, f.spec.index ≠ .pk) ↔ (m.fields.filter (·.isPk)).length = 0 := by
    rw [List.length_eq_zero_iff, List.filter_eq_nil_iff]
    simp only [Field.isPk, decide_eq_true_eq, ne_eq]
  rw [hnone]
  generalize (m.fields.filter (·.isPk)).length = keys
  cases m.isJunction with
  | false => simp
  | true =>
    simp only [↓reduceIte, forall_const]
    omega

end Output

/-- Persons, books, and loans of books to persons. -/
def Document.loans : Document where
  models := [
    { name := "person"
      fields := [[("name", .text "id"), ("type", .text "serial"), ("index", .text "pk")]] },
    { name := "book"
      fields := [[("name", .text "isbn"), ("type", .text "str"), ("index", .text "pk")]] },
    { name := "person_book"
      fields := [
        [("name", .text "person_id"), ("type", .text "int"), ("index", .text "pfk")],
        [("name", .text "book_id"), ("type", .text "str"), ("index", .text "pfk")]] }]

theorem Output.primary_key_unique_iff_loans :
    ∃ s, Document.loans.toSchema {} "schema" = .ok s ∧
      ∃ tables, Output.render { format := .pgEnum } s =
          .ok (Script.Sql.header (s.view { dialect := .pgEnum }) ++
            Script.Sql.createTypes (s.view { dialect := .pgEnum }) ++ .join tables) ∧
        List.Forall₂ (fun m table => ∃ before lines after,
            table = before ++ Script.Sql.creation m lines ++ after ∧
            lines.countP (·.declaresKey) ≤ 1)
          s.models tables := by
  obtain ⟨s, hs, hkeys⟩ := exists_eq_ok_of_any (x := Document.loans.toSchema {} "schema")
    (p := fun s => ∀ m ∈ s.models, (m.fields.filter (·.isPk)).length ≤ 1 ∧
      (m.info.isCandidate = true ∧ (∃ f ∈ m.fields, f.spec.index = .pfk) →
        ∀ f ∈ m.fields, f.spec.index ≠ .pk)) (by decide +kernel)
  obtain ⟨tables, hrender, hall⟩ := primary_key_unique_iff (o := { format := .pgEnum }) hs rfl
  refine ⟨s, hs, tables, hrender, ((List.forall₂_and_left _ _).2 ⟨hkeys, hall⟩).imp ?_⟩
  rintro m table ⟨hm, before, lines, after, _, htable, hiff⟩
  exact ⟨before, lines, after, htable, hiff.2 hm⟩

/-- Places on shelves, which are told apart by two numbers. -/
def Document.places : Document where
  models := [
    { name := "place"
      fields := [
        [("name", .text "shelf"), ("type", .text "int"), ("index", .text "pk")],
        [("name", .text "number"), ("type", .text "int"), ("index", .text "pk")]] }]

/-- A key of two columns is declared twice. -/
theorem Output.primary_key_repeated_places :
    ∃ s, Document.places.toSchema {} "schema" = .ok s ∧
      Output.render { format := .sql } s = .ok ("-- schema (Sql)\n\n" ++
        "drop table if exists place;\ncreate table place (\n    shelf integer primary key,\n" ++
        "    number integer primary key\n);\n") ∧
      ∃ m ∈ s.models, ∃ lines, (m.retarget none {}).tableLines .sql = .ok lines ∧
        lines.map (·.text) = ["shelf integer primary key,", "number integer primary key"] ∧
        lines.countP (·.declaresKey) = 2 := by
  obtain ⟨s, hs, htext, m, hm, hlines⟩ :=
    exists_eq_ok_of_any (x := Document.places.toSchema {} "schema")
    (p := fun s => Output.render { format := .sql } s =
        .ok ("-- schema (Sql)\n\n" ++
          "drop table if exists place;\ncreate table place (\n    shelf integer primary key,\n" ++
          "    number integer primary key\n);\n") ∧
      ∃ m ∈ s.models, ((m.retarget none {}).tableLines .sql).toOption.any (fun lines => decide (
        lines.map (·.text) = ["shelf integer primary key,", "number integer primary key"] ∧
        lines.countP (·.declaresKey) = 2)) = true) (by decide +kernel)
  obtain ⟨lines, hlines, htwo⟩ := exists_eq_ok_of_any hlines
  exact ⟨s, hs, htext, m, hm, lines, hlines, htwo⟩

end RelSchema
