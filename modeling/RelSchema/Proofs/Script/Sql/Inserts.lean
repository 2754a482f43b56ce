import RelSchema.Proofs.Model.Cleaning
import RelSchema.Proofs.Output.Failure
import RelSchema.Proofs.Output.Rendering
import RelSchema.Proofs.Document.Acceptance
import RelSchema.Proofs.Script.Sql.Scanning

namespace RelSchema

namespace Script.Sql

/-- The statement names the fields of the model in their order, and `rows` are scanned from what
follows. -/
def Inserts (m : Model) (rows : List (List Cell)) (statement : String) : Prop :=
  ∃ values : String,
    statement = "\ninsert into " ++ m.name ++ " (" ++
      ", ".intercalate (m.fields.map (·.spec.name)) ++ ") values" ++ values ∧
    scanValues values.toList = some (rows, ['\n'])

/-- The rows of the model as they are inserted. -/
def insertedRows (m : Model) : List (List Cell) :=
  m.data.map fun row => (m.cleanRow row).map .ofValue

theorem insertedRows_retarget (m : Model) (kind : Option NamespaceKind) (options : Options) :
    insertedRows (m.retarget kind options) = insertedRows m := by
  refine List.map_congr_left fun row _ => ?_
  rw [Model.cleanRow_congr (m.map_spec_retarget kind options)]

theorem Inserts.of_retarget {m : Model} {kind : Option NamespaceKind} {options : Options}
    {rows : List (List Cell)} {statement : String}
    (h : Inserts (m.retarget kind options) rows statement) : Inserts m rows statement := by
  have hnames : (m.retarget kind options).fields.map (·.spec.name) =
      m.fields.map (·.spec.name) := by
    have hspecs := congrArg (List.map FieldSpec.name) (m.map_spec_retarget kind options)
    rwa [List.map_map, List.map_map] at hspecs
  obtain ⟨values, hstatement, hscan⟩ := h
  rw [hnames] at hstatement
  exact ⟨values, hstatement, hscan⟩

theorem fieldNames_of_isSql {d : Dialect} (hd : d.isSql = true) (m : Model) :
    m.fieldNames d = m.fields.map (·.spec.name) := by
  refine List.map_congr_left fun f _ => ?_
  cases d <;> first | rfl | cases hd

theorem scanValues_tuples (m : Model) (hdata : m.data ≠ []) :
    scanValues ("\n    " ++ ",\n    ".intercalate (m.data.map (tuple m)) ++ ";\n").toList =
      some (insertedRows m, ['\n']) := by
  have htext : ("\n    " ++ ",\n    ".intercalate (m.data.map (tuple m)) ++ ";\n").toList =
      "\n    ".toList ++ ((',' :: "\n    ".toList).intercalate
        (m.data.map fun row => (tuple m row).toList) ++ ';' :: ['\n']) := by
    simp [String.toList_intercalate, Function.comp_def]
  have hreads : List.Forall₂ (Reads scanTuple ';') (m.data.map fun row => (tuple m row).toList)
      (insertedRows m) := by
    rw [insertedRows, List.forall₂_map_left_iff, List.forall₂_map_right_iff]
    exact List.forall₂_same.2 fun row _ => reads_tuple m row
  obtain ⟨row, rows, hrows⟩ := List.exists_cons_of_ne_nil hdata
  obtain ⟨c, hc, hblank, -⟩ := (reads_tuple m row).head_intercalate (',' :: "\n    ".toList)
    (rows.map fun row => (tuple m row).toList) (';' :: ['\n'])
  have hhead : ((',' :: "\n    ".toList).intercalate
      (m.data.map fun row => (tuple m row).toList) ++ ';' :: ['\n']).head? = some c := by
    rw [hrows]
    exact hc
  have hblanks : "\n    ".toList.all Text.isBlank = true := by decide
  rw [scanValues, htext, dropWhile_blanks_append hblanks hhead hblank]
  exact scanItems_intercalate (by decide) hblanks hreads (by simpa using hdata) _

theorem inserts_of_rows {d : Dialect} (hd : d.isSql = true) {m : Model} (hdata : m.data ≠ []) :
    Inserts m (insertedRows m) (inserts d m) := by
  refine ⟨_, ?_, scanValues_tuples m hdata⟩
  rw [inserts, if_neg (by simpa using hdata), fieldNames_of_isSql hd]
  simp only [String.append_assoc]
  rfl

theorem table_eq_map (d : Dialect) (m : Model) :
    table d m = (table d { m with data := [] }).map (· ++ inserts d m) := by
  have hdefinitions : Model.definitions d { m with data := [] } = m.definitions d := rfl
  have hdependencies : Model.dependencies d { m with data := [] } = m.dependencies d := rfl
  have hinserts : inserts d { m with data := [] } = "" := rfl
  unfold table
  rw [hdefinitions]
  cases m.definitions d with
  | error e => rfl
  | ok definitions =>
    refine congrArg Except.ok ?_
    rw [hdependencies, hinserts, String.append_empty]
    rfl

end Script.Sql

namespace Output

open Script

variable {o : Output}

theorem format_eq_of_isSql (hsql : o.format.dialect.isSql = true) :
    o.format ≠ .yaml ∧ o.format ∉ Format.lacksNumeric ∧ o.format.packageProperties = [] := by
  revert hsql
  cases o.format <;> decide

theorem script_of_isSql (hsql : o.format.dialect.isSql = true) (s : Schema) :
    script o.format s = (Sql.text s).mapError .field := by
  cases hformat : o.format <;> first | rfl | (rw [hformat] at hsql; cases hsql)

theorem exists_render_of_isSql {s : Schema} (hsql : o.format.dialect.isSql = true)
    (hclosed : s.IsClosed) (hs : ∀ m ∈ s.models, m.IsTyped) : ∃ text, o.render s = .ok text := by
  obtain ⟨_, hnumeric, hproperties⟩ := format_eq_of_isSql hsql
  refine (exists_render_iff hclosed hs).2 (not_or.2 ⟨fun h => hnumeric h.1, ?_⟩)
  rintro ⟨_, m, _, key, hkey, _⟩
  rw [hproperties] at hkey
  cases hkey

/-- Every schema that has been read is written as SQL, table by table. -/
theorem exists_tables_of_toSchema {doc : Document} {readOptions : Options} {name : String}
    {s : Schema} (h : doc.toSchema readOptions name = .ok s)
    (hsql : o.format.dialect.isSql = true) :
    ∃ tables, o.render s =
        .ok (Sql.header (s.view o.target) ++ Sql.createTypes (s.view o.target) ++ .join tables) ∧
      List.Forall₂ (fun m table =>
          Sql.table o.format.dialect (m.retarget o.namespaceKind o.options) = .ok table)
        s.models tables := by
  obtain ⟨hformat, -, -⟩ := format_eq_of_isSql hsql
  obtain ⟨text, htext⟩ := exists_render_of_isSql hsql (Schema.isClosed_of_toSchema h)
    (Schema.isTyped_of_toSchema h)
  have hscript := render_eq_ok hformat htext
  rw [script_of_isSql hsql, mapError_eq_ok_iff] at hscript
  obtain ⟨tables, htables, hjoined⟩ := bind_eq_ok_iff.1 hscript
  cases hjoined
  rw [mapM_eq_ok_iff, Schema.view, List.forall₂_map_left_iff] at htables
  exact ⟨tables, htext, htables⟩

/-- Behind what creates the table of a model with data, a statement names the fields in their order,
and its rows are scanned from it in their order, cleaned, with one cell for every field. -/
def FillsTable (o : Output) (m : Model) (text : String) : Prop :=
  m.data ≠ [] → ∃ creation statement,
    Sql.table o.format.dialect { m.retarget o.namespaceKind o.options with data := [] } =
      .ok creation ∧
    text = creation ++ statement ∧ Sql.Inserts m (Sql.insertedRows m) statement ∧
    ∀ row ∈ m.data, (m.cleanRow row).length = m.fields.length

theorem fillsTable {m : Model} {text : String} (hsql : o.format.dialect.isSql = true)
    (hrows : ∀ row ∈ m.data, row.length = m.fields.length)
    (htext : Sql.table o.format.dialect (m.retarget o.namespaceKind o.options) = .ok text) :
    o.FillsTable m text := by
  intro hdata
  obtain ⟨creation, hcreation, rfl⟩ := map_eq_ok_iff.1 ((Sql.table_eq_map _ _).symm.trans htext)
  refine ⟨creation, _, hcreation, rfl, ?_, ?_⟩
  · have hinserts := Sql.inserts_of_rows hsql (m := m.retarget o.namespaceKind o.options) hdata
    rw [Sql.insertedRows_retarget] at hinserts
    exact hinserts.of_retarget
  · intro row hrow
    rw [Model.cleanRow, List.length_zipWith, hrows row hrow, Nat.min_self]

/-- Every schema that has been read is written as SQL, and the data of its tables can be scanned
back from the text. -/
theorem inserted_rows_scan {doc : Document} {readOptions : Options} {name : String} {s : Schema}
    (h : doc.toSchema readOptions name = .ok s) (hsql : o.format.dialect.isSql = true) :
    ∃ tables, o.render s =
        .ok (Sql.header (s.view o.target) ++ Sql.createTypes (s.view o.target) ++ .join tables) ∧
      List.Forall₂ o.FillsTable s.models tables := by
  obtain ⟨tables, hrender, htables⟩ := exists_tables_of_toSchema h hsql
  have hrows := Document.length_row_of_toSchema h
  refine ⟨tables, hrender, List.forall₂_iff_zip.2 ⟨htables.length_eq, fun {m table} hzip => ?_⟩⟩
  have htable := (List.forall₂_iff_zip.1 htables).2 hzip
  exact fillsTable hsql (hrows m (List.of_mem_zip hzip).1) htable

end Output

/-- Notes with texts that hold what separates cells and rows. -/
def Document.notes : Document where
  models := [{
    name := "note"
    fields := [
      [("name", .text "id"), ("type", .text "serial"), ("index", .text "pk")],
      [("name", .text "body"), ("type", .text "txt")],
      [("name", .text "day"), ("type", .text "date")],
      [("name", .text "done"), ("type", .text "bool")]]
    data := [
      .list [.int 1, .text "it's (done),\n'not'", .text "2020-01-02 00:00:00", .bool true],
      .list [.int 2, .text "n/a", .null, .int 0]] }]

theorem Output.inserted_rows_scan_notes :
    ∃ s, Document.notes.toSchema {} "notes" = .ok s ∧
      s.models.map Script.Sql.insertedRows = [[
        [.bare "1", .quoted "it's (done),\n'not'", .quoted "2020-01-02", .bare "true"],
        [.bare "2", .bare "null", .bare "null", .bare "false"]]] ∧
      ∃ tables, Output.render { format := .postgres } s =
          .ok (Script.Sql.header (s.view { dialect := .postgres }) ++
            Script.Sql.createTypes (s.view { dialect := .postgres }) ++ .join tables) ∧
        List.Forall₂ (Output.FillsTable { format := .postgres }) s.models tables := by
  obtain ⟨s, hs, hrows⟩ := exists_eq_ok_of_any (x := Document.notes.toSchema {} "notes")
    (p := fun s => s.models.map Script.Sql.insertedRows = [[
      [.bare "1", .quoted "it's (done),\n'not'", .quoted "2020-01-02", .bare "true"],
      [.bare "2", .bare "null", .bare "null", .bare "false"]]]) (by decide +kernel)
  exact ⟨s, hs, hrows, Output.inserted_rows_scan (o := { format := .postgres }) hs rfl⟩

end RelSchema
