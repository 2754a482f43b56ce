import RelSchema.Proofs.Model.Cleaning
import RelSchema.Proofs.Output.Rendering
import RelSchema.Proofs.Script.Python.Pieces

namespace RelSchema

open Python

namespace Script.SqlAlchemy

def classPieces (m : Model) : Except FieldError (List Piece) := do
  let columns ← m.fields.mapM Field.columnPieces
  return [.code ("\n\nclass " ++ m.className ++ "(Base):\n    __tablename__ = "), .string m.name,
    .code "\n\n"] ++ blockPieces "    " columns

def cellPieces (cell : String × Value) : List Piece :=
  [.code (cell.1 ++ "="), .ofValue literal cell.2]

def seedPieces (m : Model) (row : Row) : List Piece :=
  let cells := m.namedRow .sqlAlchemy (m.cleanRow row) false
  .code ("    session.add(" ++ m.className ++ "(") :: argumentPieces (cells.map cellPieces) ++
    [.code "))\n"]

def seedsPieces (s : Schema) : List Piece :=
  if s.models.all (·.data.isEmpty) then []
  else .code "\n\ndef seed(session):\n" ::
    (s.models.flatMap fun m => m.data.map (seedPieces m)).flatten

def pieces (s : Schema) : Except FieldError (List Piece) := do
  let imports ← imports s
  let classes ← s.models.mapM classPieces
  return .code (header s imports) :: classes.flatten ++ seedsPieces s

theorem classText_eq_map_textOf (m : Model) : classText m = (classPieces m).map textOf := by
  have hcolumns : m.fieldDefinitions .sqlAlchemy =
      (m.fields.mapM Field.columnPieces).map (·.map textOf) :=
    mapM_eq_map (fun f => f.sqlAlchemyDefinition_eq_map_textOf) m.fields
  rw [classText, classPieces, hcolumns]
  cases m.fields.mapM Field.columnPieces with
  | error => rfl
  | ok columns =>
    refine congrArg Except.ok ?_
    rw [textOf_append, textOf_blockPieces]
    simp only [textOf_cons, textOf_nil, Piece.text_code, Piece.text_string, quote,
      String.append_empty]
    rw [show "(Base):\n    __tablename__ = \"" = "(Base):\n    __tablename__ = " ++ "\"" from rfl,
      show "\"\n\n" = "\"" ++ "\n\n" from rfl]
    simp only [String.append_assoc]

theorem textOf_cellPieces (cell : String × Value) :
    textOf (cellPieces cell) = cell.1 ++ "=" ++ literal cell.2.quoted := by
  have hvalue := Piece.text_ofValue literal (fun _ => rfl) cell.2
  rw [cellPieces, textOf_cons, textOf_cons, hvalue, textOf_nil, Piece.text_code,
    String.append_empty]

theorem seedLine_eq_textOf (m : Model) (row : Row) :
    seedLine m row = textOf (seedPieces m row) := by
  have hcells : (m.namedRow .sqlAlchemy (m.cleanRow row) true).map (fun cell =>
      cell.1 ++ "=" ++ literal cell.2) =
        ((m.namedRow .sqlAlchemy (m.cleanRow row) false).map cellPieces).map textOf := by
    rw [Model.namedRow, Model.namedRow, if_pos rfl, if_neg (by decide), List.zip_map_right,
      List.map_map, List.map_map]
    exact List.map_congr_left fun cell _ => (textOf_cellPieces cell).symm
  have hline : seedLine m row = "    session.add(" ++ m.className ++ "(" ++
      arguments ((m.namedRow .sqlAlchemy (m.cleanRow row) true).map fun cell =>
        cell.1 ++ "=" ++ literal cell.2) ++ "))\n" := rfl
  rw [hline, hcells, ← textOf_argumentPieces, seedPieces]
  simp [String.append_assoc]

theorem seeds_eq_textOf (s : Schema) : seeds s = textOf (seedsPieces s) := by
  unfold seeds seedsPieces
  split
  · rfl
  · have hrows : ∀ m : Model, m.data.map (seedLine m) = (m.data.map (seedPieces m)).map textOf := by
      intro m
      rw [List.map_map]
      exact List.map_congr_left fun row _ => seedLine_eq_textOf m row
    simp only [textOf_cons, textOf_flatten, List.map_flatMap, hrows, Piece.text_code]

theorem text_eq_map_textOf (s : Schema) : text s = (pieces s).map textOf := by
  rw [text, pieces, mapM_eq_map classText_eq_map_textOf]
  cases imports s with
  | error => rfl
  | ok imported =>
    cases s.models.mapM classPieces with
    | error => rfl
    | ok classes =>
      refine congrArg Except.ok ?_
      simp [textOf_flatten, seeds_eq_textOf, String.append_assoc]

theorem string_mem_classPieces {m : Model} {ps : List Piece} (h : classPieces m = .ok ps)
    (x : String) :
    .string x ∈ ps ↔ x = m.name ∨ ∃ f ∈ m.fields, f.isKey = false ∧ f.spec.Gives x := by
  obtain ⟨columns, hcolumns, h⟩ := bind_eq_ok_iff.1 h
  cases h
  have hfields := exists_mem_of_mapM_iff hcolumns fun _ _ hps =>
    Field.string_mem_columnPieces hps x
  rw [List.mem_append, string_mem_blockPieces, hfields]
  simp

theorem string_mem_seedPieces {m : Model} {row : Row} {x : String} :
    .string x ∈ seedPieces m row ↔ .text x ∈ m.cleanRow row := by
  have hwidth : (m.cleanRow row).length ≤ (m.fieldNames .sqlAlchemy).length := by
    rw [Model.cleanRow, List.length_zipWith, Model.fieldNames, List.length_map]
    exact Nat.min_le_left _ _
  have hcells : (m.namedRow .sqlAlchemy (m.cleanRow row) false).map (·.2) = m.cleanRow row :=
    List.map_snd_zip hwidth
  rw [← hcells]
  simp [seedPieces, string_mem_argumentPieces, cellPieces]

theorem string_mem_seedsPieces {s : Schema} {x : String} :
    .string x ∈ seedsPieces s ↔ ∃ m ∈ s.models, ∃ row ∈ m.data, .text x ∈ m.cleanRow row := by
  unfold seedsPieces
  split
  · rename_i hempty
    simp only [List.all_eq_true, List.isEmpty_iff] at hempty
    simp +contextual [hempty]
  · simp [string_mem_seedPieces, and_assoc]

end Script.SqlAlchemy

namespace Script.Django

def choicePieces (e : Enumeration) : List Piece :=
  .code ("\n" ++ Text.upper e.name ++ " = [\n") ::
    blockPieces "    " (e.entries.map fun (key, value) =>
      [.code "(", .ofValue Value.display key, .code ", ", .ofValue Value.display value,
        .code "),"]) ++ [.code "]\n"]

def classPieces (m : Model) : Except WriteError (List Piece) := do
  let fields ← (m.fields.mapM Field.djangoPieces).mapError .field
  let names ← (verboseNames m).mapError .package
  return .code ("\n\nclass " ++ m.className ++ "(models.Model):\n") ::
    blockPieces "    " fields ++
      [.code "\n    class Meta:\n        db_table = ", .string m.name,
        .code ("\n" ++ names ++ display m)]

def pieces (s : Schema) : Except WriteError (List Piece) := do
  let classes ← s.models.mapM classPieces
  return .code ("\"\"\"" ++ s.name ++ " models.\"\"\"\nfrom django.db import models\n") ::
    (s.enumerations.map choicePieces).flatten ++ classes.flatten

theorem choices_eq_textOf (e : Enumeration) : choices e = textOf (choicePieces e) := by
  have hvalue := Piece.text_ofValue Value.display fun _ => rfl
  simp only [choicePieces, List.cons_append, textOf_cons, textOf_append, textOf_blockPieces,
    List.map_map, Piece.text_code, textOf_nil, String.append_empty, choices, Function.comp_def,
    hvalue, String.append_assoc]

theorem modelClass_eq_map_textOf (m : Model) : modelClass m = (classPieces m).map textOf := by
  have hfields : m.fieldDefinitions .django =
      (m.fields.mapM Field.djangoPieces).map (·.map textOf) :=
    mapM_eq_map (fun f => f.djangoDefinition_eq_map_textOf) m.fields
  rw [modelClass, classPieces, hfields]
  cases m.fields.mapM Field.djangoPieces with
  | error => rfl
  | ok fields =>
    cases verboseNames m with
    | error => rfl
    | ok names =>
      refine congrArg Except.ok ?_
      simp only [List.cons_append, textOf_cons, textOf_append, textOf_blockPieces, textOf_nil,
        Piece.text_code, Piece.text_string, quote, String.append_empty]
      rw [show "\n    class Meta:\n        db_table = \"" =
          "\n    class Meta:\n        db_table = " ++ "\"" from rfl,
        show "\"\n" = "\"" ++ "\n" from rfl]
      simp only [String.append_assoc]

theorem models_eq_map_textOf (s : Schema) : models s = (pieces s).map textOf := by
  rw [models, pieces, mapM_eq_map modelClass_eq_map_textOf]
  cases s.models.mapM classPieces with
  | error => rfl
  | ok classes =>
    have hchoices : s.enumerations.map choices = (s.enumerations.map choicePieces).map textOf := by
      rw [List.map_map]
      exact List.map_congr_left fun e _ => choices_eq_textOf e
    refine congrArg Except.ok ?_
    simp [textOf_flatten, hchoices, String.append_assoc]

theorem string_mem_choicePieces {e : Enumeration} {x : String} :
    .string x ∈ choicePieces e ↔ ∃ entry ∈ e.entries, entry.1 = .text x ∨ entry.2 = .text x := by
  simp [choicePieces, string_mem_blockPieces]

theorem string_mem_classPieces {m : Model} {ps : List Piece} (h : classPieces m = .ok ps)
    (x : String) :
    .string x ∈ ps ↔
      x = m.name ∨ ∃ f ∈ m.fields, (f.isPk || f.isFk) = false ∧ f.spec.Gives x := by
  obtain ⟨fields, hfields, h⟩ := bind_eq_ok_iff.1 h
  obtain ⟨names, _, h⟩ := bind_eq_ok_iff.1 h
  cases h
  have hstrings := exists_mem_of_mapM_iff (mapError_eq_ok_iff.1 hfields) fun _ _ hps =>
    Field.string_mem_djangoPieces hps x
  rw [List.mem_append, List.mem_cons, string_mem_blockPieces, hstrings]
  simp [or_comm]

end Script.Django

/-- The strings of a schema that a format writes between quotes. For Django a field that is both a
primary and a foreign key is no key. -/
def Schema.Quotes (s : Schema) (format : Format) (x : String) : Prop :=
  match format with
  | .sqlAlchemy =>
    (∃ m ∈ s.models, x = m.name ∨ ∃ f ∈ m.fields, f.isKey = false ∧ f.spec.Gives x) ∨
      ∃ m ∈ s.models, ∃ row ∈ m.data, .text x ∈ m.cleanRow row
  | .djangoModels =>
    (∃ m ∈ s.models, x = m.name ∨ ∃ f ∈ m.fields, (f.isPk || f.isFk) = false ∧ f.spec.Gives x) ∨
      ∃ e ∈ s.enumerations, ∃ entry ∈ e.entries, entry.1 = .text x ∨ entry.2 = .text x
  | _ => False

theorem Schema.quotes_view_iff (s : Schema) (target : Target) (format : Format) (x : String) :
    (s.view target).Quotes format x ↔ s.Quotes format x := by
  let retarget := fun m : Model => m.retarget target.namespaceKind target.options
  have hrows : ∀ m row, (retarget m).cleanRow row = m.cleanRow row :=
    fun m row => Model.cleanRow_congr (m.map_spec_retarget _ _) row
  have hplain : ∀ m, (∃ f ∈ (retarget m).fields, f.isKey = false ∧ f.spec.Gives x) ↔
      ∃ f ∈ m.fields, f.isKey = false ∧ f.spec.Gives x :=
    fun m => m.exists_field_retarget_iff _ _ fun spec =>
      Field.isKey { spec } = false ∧ spec.Gives x
  have hdjango : ∀ m, (∃ f ∈ (retarget m).fields, (f.isPk || f.isFk) = false ∧ f.spec.Gives x) ↔
      ∃ f ∈ m.fields, (f.isPk || f.isFk) = false ∧ f.spec.Gives x :=
    fun m => m.exists_field_retarget_iff _ _ fun spec =>
      (Field.isPk { spec } || Field.isFk { spec }) = false ∧ spec.Gives x
  cases format with
  | sqlAlchemy =>
    change (∃ m ∈ s.models.map retarget, _) ∨ (∃ m ∈ s.models.map retarget, _) ↔ _
    simp only [List.mem_map, exists_exists_and_eq_and, hrows, hplain]
    rfl
  | djangoModels =>
    change (∃ m ∈ s.models.map retarget, _) ∨ _ ↔ _
    simp only [List.mem_map, exists_exists_and_eq_and, hdjango]
    rfl
  | _ => rfl

namespace Output

/-- The script of a format in pieces. That of another format is taken as code. -/
def pieces (format : Format) (s : Schema) : Except WriteError (List Piece) :=
  match format with
  | .sqlAlchemy => (Script.SqlAlchemy.pieces s).mapError .field
  | .djangoModels => Script.Django.pieces s
  | format => (script format s).map fun text => [.code text]

theorem script_eq_map_textOf (format : Format) (s : Schema) :
    script format s = (pieces format s).map textOf := by
  have hcode : ∀ x : Except WriteError String,
      x = (x.map fun text => [Piece.code text]).map textOf := by
    intro x
    cases x with
    | error => rfl
    | ok text => simp [Except.map]
  cases format with
  | sqlAlchemy =>
    rw [script, pieces, Script.SqlAlchemy.text_eq_map_textOf]
    cases Script.SqlAlchemy.pieces s <;> rfl
  | djangoModels => exact Script.Django.models_eq_map_textOf s
  | _ => exact hcode _

theorem string_mem_pieces {format : Format}
    (hformat : format = .sqlAlchemy ∨ format = .djangoModels) {s : Schema} {ps : List Piece}
    (h : pieces format s = .ok ps) (x : String) : .string x ∈ ps ↔ s.Quotes format x := by
  rcases hformat with rfl | rfl
  · obtain ⟨imported, _, h⟩ := bind_eq_ok_iff.1 (mapError_eq_ok_iff.1 h)
    obtain ⟨classes, hclasses, h⟩ := bind_eq_ok_iff.1 h
    cases h
    have hstrings := exists_mem_of_mapM_iff hclasses fun _ _ hps =>
      Script.SqlAlchemy.string_mem_classPieces hps x
    simp [Schema.Quotes, Script.SqlAlchemy.string_mem_seedsPieces, hstrings]
  · obtain ⟨classes, hclasses, h⟩ := bind_eq_ok_iff.1 h
    cases h
    have hstrings := exists_mem_of_mapM_iff hclasses fun _ _ hps =>
      Script.Django.string_mem_classPieces hps x
    simp [Schema.Quotes, Script.Django.string_mem_choicePieces, hstrings, or_comm]

/-- Where a string stands between quotes in a module of Python, what is read is the string itself,
up to its quote and no further, exactly if the string is verbatim. -/
theorem literals_read_back_iff {o : Output} {s : Schema} {text : String}
    (hformat : o.format = .sqlAlchemy ∨ o.format = .djangoModels) (h : o.render s = .ok text)
    (names : String → Option Nat) :
    ∃ ps, pieces o.format (s.view o.target) = .ok ps ∧ text = textOf ps ∧
      (∀ x, .string x ∈ ps ↔ s.Quotes o.format x) ∧
      ∀ before x after, ps = before ++ .string x :: after →
        (scanString names (textOf (.string x :: after)).toList =
          some (x.toList.map Char.toNat, (textOf after).toList) ↔ IsVerbatim x) := by
  have hyaml : o.format ≠ .yaml := by
    rcases hformat with hformat | hformat <;> rw [hformat] <;> decide
  have hscript := render_eq_ok hyaml h
  rw [script_eq_map_textOf, map_eq_ok_iff] at hscript
  obtain ⟨ps, hps, htext⟩ := hscript
  refine ⟨ps, hps, htext.symm, fun x => ?_, fun _ x after _ => scanString_textOf_iff names x after⟩
  rw [string_mem_pieces hformat hps, Schema.quotes_view_iff]

/-- Songs with a title and what is said of it. -/
def songs (description : String) : Document where
  models := [
    { name := "song"
      fields := [[("name", .text "title"), ("type", .text "txt"),
        ("description", .text description)]] }]

theorem literals_read_back_iff_songs :
    ∃ s, (songs "may have a \\d").toSchema {} "schema" = .ok s ∧
      ∀ o ∈ [({ format := .sqlAlchemy } : Output), { format := .djangoModels }],
        ∃ text before after, o.render s = .ok text ∧
          text = textOf (before ++ .string "may have a \\d" :: after) ∧
          scanString (fun _ => none) (textOf (.string "may have a \\d" :: after)).toList =
            some ("may have a \\d".toList.map Char.toNat, (textOf after).toList) := by
  obtain ⟨s, hs, hrender, m, hm, f, hf, hkey, hdescription⟩ := exists_eq_ok_of_any
    (x := (songs "may have a \\d").toSchema {} "schema")
    (p := fun s => (∀ o ∈ [({ format := .sqlAlchemy } : Output), { format := .djangoModels }],
        fault? (o.render s) = none) ∧
      ∃ m ∈ s.models, ∃ f ∈ m.fields, f.isKey = false ∧ f.spec.description = "may have a \\d")
    (by decide +kernel)
  refine ⟨s, hs, fun o ho => ?_⟩
  obtain ⟨text, htext⟩ := fault?_eq_none_iff.1 (hrender o ho)
  have hformat : o.format = .sqlAlchemy ∨ o.format = .djangoModels := by
    rcases List.mem_cons.1 ho with rfl | ho
    · exact .inl rfl
    · exact .inr (by rw [List.mem_singleton.1 ho])
  obtain ⟨ps, _, hps, hquotes, hscan⟩ := literals_read_back_iff hformat htext fun _ => none
  have hgives : f.spec.Gives "may have a \\d" := .inr ⟨by decide, hdescription⟩
  have hmem : s.Quotes o.format "may have a \\d" := by
    rcases hformat with hformat | hformat <;> rw [hformat]
    · exact .inl ⟨m, hm, .inr ⟨f, hf, hkey, hgives⟩⟩
    · have hplain : (f.isPk || f.isFk) = false := (Bool.or_eq_false_iff.1 hkey).1
      exact .inl ⟨m, hm, .inr ⟨f, hf, hplain, hgives⟩⟩
  obtain ⟨before, after, rfl⟩ := List.append_of_mem ((hquotes _).2 hmem)
  exact ⟨text, before, after, htext, hps, (hscan before _ after rfl).2 (by decide)⟩

/-- The quote in a description ends the literal of the description. -/
theorem literals_not_read_back_songs :
    (∃ s, (songs "called \"x\"").toSchema {} "schema" = .ok s ∧
      (∃ m ∈ s.models, ∃ f ∈ m.fields, f.isKey = false ∧ f.spec.description = "called \"x\"") ∧
      Output.render { format := .sqlAlchemy } s = .ok (
        "\"\"\"schema models.\"\"\"\nfrom sqlalchemy import Column, String\n" ++
        "from sqlalchemy.orm import declarative_base, relationship\n\n" ++
        "Base = declarative_base()\n\n\nclass Song(Base):\n    __tablename__ = \"song\"\n\n" ++
        "    title = Column(String, nullable=True, doc=" ++ quote "called \"x\"" ++ ")\n")) ∧
      ∀ names, scanString names (quote "called \"x\"" ++ ")\n").toList =
        some ("called ".toList.map Char.toNat, "x\"\")\n".toList) := by
  constructor
  · exact exists_eq_ok_of_any (by decide +kernel)
  · intro names
    exact (scanString_quote_iff "called " "x\"\")\n".toList).2 (by decide)

end Output

end RelSchema
