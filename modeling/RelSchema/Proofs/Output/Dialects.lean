import RelSchema.Proofs.Field.Defaults
import RelSchema.Proofs.Model.Trailing
import RelSchema.Proofs.Script.Sql.Inserts

namespace RelSchema

theorem Dialect.exists_columnType? (t : BaseType) (length : Option UInt32) :
    ∃ name, ∀ d : Dialect, d.isSql = true → d.columnType? t length = some name := by
  have hnamed : Dialect.columnType? .sql t length ≠ none := by
    rw [Ne, columnType?_eq_none_iff]
    exact fun h => Option.some_ne_none _ h
  obtain ⟨name, hname⟩ := Option.ne_none_iff_exists'.1 hnamed
  refine ⟨name, fun d hd => ?_⟩
  cases d with
  | sql | sqlite | postgres | pgEnum => exact hname
  | _ => cases hd

namespace Field

/-- Both dialects type the field by an enumeration, or neither does. -/
def TypedAlike (d d' : Dialect) (f : Field) : Prop :=
  f.isEnum = true → (d = .pgEnum ↔ d' = .pgEnum)

variable {f : Field} {d d' : Dialect}

theorem typedAlike_of_not_isEnum (h : f.isEnum = false) : f.TypedAlike d d' := by
  intro henum
  rw [h] at henum
  cases henum

theorem columnType_of_isSql (hd : d.isSql = true) (f : Field) :
    f.columnType d = f.columnType .sql := by
  rw [columnType, columnType]
  cases f.baseType with
  | error => rfl
  | ok t =>
    obtain ⟨name, hname⟩ := Dialect.exists_columnType? t f.spec.length
    simp only [bind, Except.bind, hname d hd, hname .sql rfl]

theorem typeFault?_of_isSql (hd : d.isSql = true) (f : Field) :
    f.typeFault? d = f.typeFault? .sql := by
  rw [← fault?_columnType, ← fault?_columnType, columnType_of_isSql hd]

theorem typeName_congr (hd : d.isSql = true) (hd' : d'.isSql = true) (h : f.TypedAlike d d') :
    f.typeName d = f.typeName d' := by
  have henum : (d = .pgEnum && f.isEnum) = (d' = .pgEnum && f.isEnum) := by
    cases hf : f.isEnum with
    | false => rw [Bool.and_false, Bool.and_false]
    | true => simp only [h hf]
  rw [typeName, typeName, columnType_of_isSql hd, columnType_of_isSql hd', name_of_isSql f hd,
    name_of_isSql f hd', henum]

theorem sqlRole_of_isSql (hd : d.isSql = true) (f : Field) : f.sqlRole d = f.sqlRole .sql := by
  rw [sqlRole, sqlRole, defaultClause?_of_isSql hd, defaultClause?_of_isSql rfl]

theorem sqlColumn_congr (hd : d.isSql = true) (hd' : d'.isSql = true) (h : f.TypedAlike d d') :
    f.sqlColumn d = f.sqlColumn d' := by
  rw [sqlColumn, sqlColumn, typeName_congr hd hd' h, name_of_isSql f hd, name_of_isSql f hd',
    sqlRole_of_isSql hd, sqlRole_of_isSql hd', separator_of_isSql f hd, separator_of_isSql f hd']

theorem definition_congr (hd : d.isSql = true) (hd' : d'.isSql = true) (h : f.TypedAlike d d') :
    f.definition d = f.definition d' := by
  rw [definition_eq_map_sqlColumn hd, definition_eq_map_sqlColumn hd', sqlColumn_congr hd hd' h]

theorem fault?_definition_congr (hd : d.isSql = true) (hd' : d'.isSql = true) (f : Field) :
    fault? (f.definition d) = fault? (f.definition d') := by
  rw [definition_of_isSql f hd, definition_of_isSql f hd', fault?_sqlDefinition,
    fault?_sqlDefinition, typeFault?_of_isSql hd, typeFault?_of_isSql hd']

end Field

namespace Script.Sql

variable {d d' : Dialect} {m : Model}

theorem definitions_congr (hd : d.isSql = true) (hd' : d'.isSql = true)
    (h : ∀ f ∈ m.fields, f.TypedAlike d d') : m.definitions d = m.definitions d' := by
  have hlines : m.fieldDefinitions d = m.fieldDefinitions d' :=
    mapM_congr fun f hf => Field.definition_congr hd hd' (h f hf)
  rw [Model.definitions, Model.definitions, hlines, Model.compositeKeyLine_of_isSql hd,
    Model.compositeKeyLine_of_isSql hd']

theorem dependencies_of_isSql (hd : d.isSql = true) (m : Model) :
    m.dependencies d = m.dependencies .sql := by
  refine List.map_congr_left fun f _ => ?_
  rw [f.name_of_isSql hd, f.name_of_isSql rfl]

theorem table_congr (hd : d.isSql = true) (hd' : d'.isSql = true)
    (h : ∀ f ∈ m.fields, f.TypedAlike d d') : table d m = table d' m := by
  rw [table, table, definitions_congr hd hd' h, dependencies_of_isSql hd,
    dependencies_of_isSql hd', inserts, inserts, fieldNames_of_isSql hd, fieldNames_of_isSql hd']

/-- Whatever the types, what keeps one dialect from writing a table keeps the other from it. -/
theorem fault?_table_of_isSql (hd : d.isSql = true) (hd' : d'.isSql = true) (m : Model) :
    fault? (table d m) = fault? (table d' m) := by
  have hlines : fault? (m.fieldDefinitions d) = fault? (m.fieldDefinitions d') := by
    rw [Model.fieldDefinitions, Model.fieldDefinitions, fault?_mapM, fault?_mapM]
    exact findSome?_congr fun f _ => f.fault?_definition_congr hd hd'
  rw [table, table, fault?_bind_pure, fault?_bind_pure, Model.definitions, Model.definitions,
    fault?_bind_pure, fault?_bind_pure, hlines]

end Script.Sql

namespace Output

open Script

/-- The part of an SQL script that one model makes: what it depends on, its table and its data. -/
def block (o : Output) (m : Model) : Except FieldError String :=
  Sql.table o.format.dialect (m.retarget o.namespaceKind o.options)

/-- The text is a header, the types and the blocks of the models, in this order. -/
structure Writes (o : Output) (s : Schema) (types : String) (blocks : List String) : Prop where
  blocks_eq : s.models.mapM o.block = .ok blocks
  render_eq : o.render s =
    .ok ("-- " ++ s.name ++ " (" ++ o.format.dialect.name ++ ")\n" ++ types ++ .join blocks)

variable {o : Output} {s : Schema}

theorem render_of_missingEnum {e : SchemaError} (hformat : o.format ≠ .yaml)
    (h : Schema.missingEnum? s.models s.enums = some e) : o.render s = .error (.schema e) := by
  have hcheck : s.specialize o.target = .error e := by
    change (s.view o.target).check = _
    rw [Schema.check, Schema.missingEnum?_view, h]
  rw [render, if_neg hformat, hcheck]
  rfl

theorem render_of_isClosed (hsql : o.format.dialect.isSql = true) (h : s.IsClosed) :
    o.render s = ((s.models.mapM o.block).map fun blocks =>
      "-- " ++ s.name ++ " (" ++ o.format.dialect.name ++ ")\n" ++
        (if o.format.dialect = .pgEnum then .join (s.enumerations.map Sql.createType) else "") ++
        .join blocks).mapError .field := by
  have hblocks : (s.view o.target).models.mapM (Sql.table o.format.dialect) =
      s.models.mapM o.block := mapM_map_congr fun _ _ => rfl
  rw [render, if_neg (format_eq_of_isSql hsql).1, h.specialize]
  change script o.format (s.view o.target) = _
  rw [script_of_isSql hsql, Sql.text]
  change Except.mapError _ ((s.view o.target).models.mapM (Sql.table o.format.dialect) >>= _) = _
  rw [hblocks]
  cases s.models.mapM o.block <;> rfl

theorem render_of_block_error (hsql : o.format.dialect.isSql = true) (h : s.IsClosed)
    {e : FieldError} (hblocks : s.models.mapM o.block = .error e) :
    o.render s = .error (.field e) := by
  rw [render_of_isClosed hsql h, hblocks]
  rfl

theorem writes_of_blocks (hsql : o.format.dialect.isSql = true) (h : s.IsClosed)
    {blocks : List String} (hblocks : s.models.mapM o.block = .ok blocks) :
    o.Writes s (if o.format.dialect = .pgEnum then .join (s.enumerations.map Sql.createType)
      else "") blocks := by
  refine ⟨hblocks, ?_⟩
  rw [render_of_isClosed hsql h, hblocks]
  rfl

variable {options : Options} {kind : Option NamespaceKind} {format format' : Format}

theorem block_congr (hsql : format.dialect.isSql = true) (hsql' : format'.dialect.isSql = true)
    {m : Model} (h : ∀ f ∈ m.fields, f.TypedAlike format.dialect format'.dialect) :
    block ⟨format, options, kind⟩ m = block ⟨format', options, kind⟩ m := by
  refine Sql.table_congr hsql hsql' fun f hf henum => ?_
  obtain ⟨g, hg, hspec⟩ :=
    Model.exists_field_of_map_spec_eq (m.map_spec_retarget kind options) hf
  rw [Field.isEnum, ← hspec] at henum
  exact h g hg henum

theorem block_of_enumFields_eq_nil (hsql : format.dialect.isSql = true)
    (hsql' : format'.dialect.isSql = true) {m : Model} (h : m.enumFields = []) :
    block ⟨format, options, kind⟩ m = block ⟨format', options, kind⟩ m := by
  rw [Model.enumFields, List.filter_eq_nil_iff] at h
  exact block_congr hsql hsql' fun f hf => Field.typedAlike_of_not_isEnum (by simpa using h f hf)

variable (options kind) in
theorem fault?_mapM_block (hsql : format.dialect.isSql = true)
    (hsql' : format'.dialect.isSql = true) (models : List Model) :
    fault? (models.mapM (block ⟨format, options, kind⟩)) =
      fault? (models.mapM (block ⟨format', options, kind⟩)) := by
  rw [fault?_mapM, fault?_mapM]
  exact findSome?_congr fun m _ => Sql.fault?_table_of_isSql hsql hsql' _

theorem writes_plain (hsql : format.dialect.isSql = true) (hplain : format.dialect ≠ .pgEnum)
    (h : s.IsClosed) {blocks : List String}
    (hblocks : s.models.mapM (block ⟨.sql, options, kind⟩) = .ok blocks) :
    Writes ⟨format, options, kind⟩ s "" blocks := by
  have hsame : s.models.mapM (block ⟨format, options, kind⟩) = .ok blocks := by
    rw [← hblocks]
    refine mapM_congr fun m _ => block_congr hsql rfl fun f _ _ => ?_
    exact iff_of_false hplain (by decide)
  have hwrites := writes_of_blocks (o := ⟨format, options, kind⟩) hsql h hsame
  rwa [if_neg hplain] at hwrites

theorem writes_pgEnum_of_no_enums (h : s.IsClosed) {blocks : List String}
    (hblocks : s.models.mapM (block ⟨.sql, options, kind⟩) = .ok blocks) (henums : s.enums = [])
    (hnone : ∀ m ∈ s.models, m.enumFields = []) : Writes ⟨.pgEnum, options, kind⟩ s "" blocks := by
  have hsame : s.models.mapM (block ⟨.pgEnum, options, kind⟩) = .ok blocks := by
    rw [← hblocks]
    exact mapM_congr fun m hm => block_of_enumFields_eq_nil rfl rfl (hnone m hm)
  have hwrites := writes_of_blocks (o := ⟨.pgEnum, options, kind⟩) rfl h hsame
  rw [Schema.enumerations, henums] at hwrites
  exact hwrites

/-- The dialects of SQL write every schema alike or fail alike. Postgres with its own types for
enumerations puts these first and writes the same blocks for the models that refer to none. -/
theorem sql_dialects_agree (s : Schema) (options : Options) (kind : Option NamespaceKind) :
    (∃ e, ∀ format ∈ [Format.sql, .sqlite, .postgres, .pgEnum],
      render ⟨format, options, kind⟩ s = .error e) ∨
    ∃ blocks enumBlocks,
      (∀ format ∈ [Format.sql, .sqlite, .postgres], Writes ⟨format, options, kind⟩ s "" blocks) ∧
      Writes ⟨.pgEnum, options, kind⟩ s (.join (s.enumerations.map Sql.createType)) enumBlocks ∧
      (∀ (i : Nat) (m : Model), s.models[i]? = some m → m.enumFields = [] →
        blocks[i]? = enumBlocks[i]?) ∧
      (s.enums = [] → (∀ m ∈ s.models, m.enumFields = []) →
        Writes ⟨.pgEnum, options, kind⟩ s "" blocks) := by
  have hsql : ∀ format ∈ [Format.sql, .sqlite, .postgres, .pgEnum],
      format.dialect.isSql = true ∧ format ≠ .yaml := by decide
  cases hmissing : Schema.missingEnum? s.models s.enums with
  | some e =>
    exact .inl ⟨.schema e, fun format hformat =>
      render_of_missingEnum (hsql format hformat).2 hmissing⟩
  | none =>
    cases hblocks : s.models.mapM (block ⟨.sql, options, kind⟩) with
    | error e =>
      refine .inl ⟨.field e, fun format hformat => ?_⟩
      have hfault : fault? (s.models.mapM (block ⟨.sql, options, kind⟩)) = _ :=
        fault?_mapM_block options kind rfl (hsql format hformat).1 s.models
      rw [hblocks, fault?_error, eq_comm, fault?_eq_some_iff] at hfault
      exact render_of_block_error (hsql format hformat).1 hmissing hfault
    | ok blocks =>
      have hfault : fault? (s.models.mapM (block ⟨.sql, options, kind⟩)) =
          fault? (s.models.mapM (block ⟨.pgEnum, options, kind⟩)) :=
        fault?_mapM_block options kind rfl rfl s.models
      rw [hblocks, fault?_ok, eq_comm, fault?_eq_none_iff] at hfault
      obtain ⟨enumBlocks, henum⟩ := hfault
      refine .inr ⟨blocks, enumBlocks, ?_, writes_of_blocks rfl hmissing henum, ?_, ?_⟩
      · intro format hformat
        have hplain : format.dialect.isSql = true ∧ format.dialect ≠ .pgEnum := by
          revert format
          decide
        exact writes_plain hplain.1 hplain.2 hmissing hblocks
      · intro i m hm hnone
        exact getElem?_eq_of_mapM hblocks henum hm (block_of_enumFields_eq_nil rfl rfl hnone)
      · exact writes_pgEnum_of_no_enums hmissing hblocks

end Output

/-- Owners, who are of no kind, and vehicles, which are of one of two. -/
def Document.garage : Document where
  enums := [{ name := "kind", entries := [(.text "car", .text "Car"), (.text "van", .text "Van")] }]
  models := [
    { name := "owner"
      fields := [[("name", .text "id"), ("type", .text "serial"), ("index", .text "pk")]]
      data := [.list [.int 1]] },
    { name := "vehicle"
      fields := [
        [("name", .text "kind"), ("type", .text "str"), ("constraint", .text "enum"),
          ("default", .text "car")],
        [("name", .text "owner_id"), ("type", .text "int"), ("index", .text "fk")]] }]

theorem Output.sql_dialects_agree_garage :
    ∃ s, Document.garage.toSchema {} "garage" = .ok s ∧ ∃ blocks enumBlocks,
      (∀ format ∈ [Format.sql, .sqlite, .postgres], Writes ⟨format, {}, none⟩ s "" blocks) ∧
      Writes ⟨.pgEnum, {}, none⟩ s "\ncreate type kind as enum ('car', 'van');\n" enumBlocks ∧
      blocks[0]? = enumBlocks[0]? ∧ blocks[1]? ≠ enumBlocks[1]? := by
  obtain ⟨s, hs, htypes, ⟨owner, howner, hnone⟩, hvehicle⟩ := exists_eq_ok_of_any
    (x := Document.garage.toSchema {} "garage")
    (p := fun s => String.join (s.enumerations.map Script.Sql.createType) =
        "\ncreate type kind as enum ('car', 'van');\n" ∧
      (∃ m ∈ s.models[0]?, m.enumFields.isEmpty = true) ∧
      ((s.models.mapM (block ⟨.sql, {}, none⟩)).toOption.bind (·[1]?)) ≠
        (s.models.mapM (block ⟨.pgEnum, {}, none⟩)).toOption.bind (·[1]?)) (by decide +kernel)
  obtain ⟨_, htext, -⟩ := exists_tables_of_toSchema (o := ⟨.sql, {}, none⟩) hs rfl
  rcases sql_dialects_agree s {} none with
    ⟨e, herror⟩ | ⟨blocks, enumBlocks, hplain, henum, hsame, -⟩
  · rw [herror .sql List.mem_cons_self] at htext
    cases htext
  · rw [htypes] at henum
    rw [(hplain .sql List.mem_cons_self).blocks_eq, henum.blocks_eq] at hvehicle
    exact ⟨s, hs, blocks, enumBlocks, hplain, henum,
      hsame 0 owner howner (List.isEmpty_iff.1 hnone), hvehicle⟩

end RelSchema
