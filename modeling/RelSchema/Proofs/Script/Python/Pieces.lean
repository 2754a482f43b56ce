import RelSchema.Proofs.Declaration.Django
import RelSchema.Proofs.Declaration.SqlAlchemy
import RelSchema.Proofs.Script.Python.Scanning
import RelSchema.Script.Lines

namespace RelSchema

namespace Python

inductive Piece
  | code (text : String)
  | string (s : String)
  deriving DecidableEq

def Piece.text : Piece → String
  | .code text => text
  | .string s => quote s

@[simp] theorem Piece.text_code (text : String) : (code text).text = text := rfl

@[simp] theorem Piece.text_string (s : String) : (string s).text = quote s := rfl

def textOf (ps : List Piece) : String :=
  .join (ps.map (·.text))

@[simp] theorem textOf_nil : textOf [] = "" := rfl

@[simp] theorem textOf_cons (p : Piece) (ps : List Piece) :
    textOf (p :: ps) = p.text ++ textOf ps :=
  String.join_cons

@[simp] theorem textOf_append (ps qs : List Piece) :
    textOf (ps ++ qs) = textOf ps ++ textOf qs := by
  rw [textOf, List.map_append, String.join_append]
  rfl

theorem textOf_flatten (pss : List (List Piece)) :
    textOf pss.flatten = .join (pss.map textOf) := by
  induction pss with
  | nil => rfl
  | cons ps pss ih => rw [List.flatten_cons, textOf_append, ih, List.map_cons, String.join_cons]

theorem scanString_textOf_iff (names : String → Option Nat) (s : String) (after : List Piece) :
    scanString names (textOf (.string s :: after)).toList =
        some (s.toList.map Char.toNat, (textOf after).toList) ↔ IsVerbatim s := by
  rw [textOf_cons, String.toList_append]
  exact scanString_quote_iff s _

/-- A value with its text between quotes; any other value is written as code. -/
def Piece.ofValue (write : Value → String) : Value → Piece
  | .text s => .string s
  | v => .code (write v)

theorem Piece.text_ofValue (write : Value → String) (h : ∀ s, write (.text s) = s) (v : Value) :
    (ofValue write v).text = write v.quoted := by
  cases v with
  | text s => rw [ofValue, text_string, Value.quoted, h, quote]
  | _ => rfl

@[simp] theorem Piece.string_eq_ofValue_iff {write : Value → String} {v : Value} {s : String} :
    .string s = ofValue write v ↔ v = .text s := by
  cases v <;> simp [ofValue, eq_comm]

/-- Arguments without strings. -/
def codePieces (args : List String) : List (List Piece) :=
  args.map ([.code ·])

theorem map_textOf_codePieces (args : List String) : (codePieces args).map textOf = args := by
  rw [codePieces, List.map_map]
  exact (List.map_congr_left fun arg _ => by simp).trans (List.map_id args)

theorem string_notMem_codePieces {args : List String} {s : String} :
    ¬ ∃ arg ∈ codePieces args, .string s ∈ arg := by
  simp [codePieces]

def keywordPieces (key : String) (value : Option String) : List (List Piece) :=
  value.toList.map fun value => [.code (key ++ "="), .string value]

def argumentPieces (args : List (List Piece)) : List Piece :=
  [Piece.code ", "].intercalate args

theorem textOf_argumentPieces (args : List (List Piece)) :
    textOf (argumentPieces args) = arguments (args.map textOf) := by
  unfold argumentPieces arguments
  induction args with
  | nil => rfl
  | cons arg args ih =>
    cases args with
    | nil => simp
    | cons next args =>
      rw [List.intercalate_cons_cons, textOf_append, textOf_append, ih, List.map_cons,
        List.map_cons, List.map_cons, String.intercalate_cons_cons]
      simp

theorem string_mem_argumentPieces {args : List (List Piece)} {s : String} :
    .string s ∈ argumentPieces args ↔ ∃ arg ∈ args, .string s ∈ arg := by
  unfold argumentPieces
  induction args with
  | nil => simp
  | cons arg args ih =>
    cases args with
    | nil => simp
    | cons next args =>
      rw [List.intercalate_cons_cons, List.mem_append, List.mem_append, ih]
      simp

def blockPieces (indent : String) (lines : List (List Piece)) : List Piece :=
  (lines.map fun line => .code indent :: line ++ [.code "\n"]).flatten

theorem textOf_blockPieces (indent : String) (lines : List (List Piece)) :
    textOf (blockPieces indent lines) = Script.block indent (lines.map textOf) := by
  rw [blockPieces, textOf_flatten, Script.block, List.map_map, List.map_map]
  congr 2
  funext line
  simp [String.append_assoc]

theorem string_mem_blockPieces {indent : String} {lines : List (List Piece)} {s : String} :
    .string s ∈ blockPieces indent lines ↔ ∃ line ∈ lines, .string s ∈ line := by
  simp [blockPieces]

end Python

/-- A string that the declarations of a plain field hold: its default or its description. -/
def FieldSpec.Gives (spec : FieldSpec) (s : String) : Prop :=
  (spec.default.isTruthy = true ∧ spec.default.display = s) ∨ (s ≠ "" ∧ spec.description = s)

namespace Field

open Python

def description? (f : Field) : Option String :=
  if f.spec.description.isEmpty then none else some f.spec.description

/-- What a plain field of a class is declared with by name. -/
def optionPieces (d : Dialect) (key : String) (f : Field) : List (List Piece) :=
  keywordPieces "default" (f.defaultClause? d) ++ keywordPieces key f.description?

def columnArgumentPieces (f : Field) (table : String) : List (List Piece) :=
  if f.isKey then codePieces (f.sqlAlchemyArguments table)
  else codePieces [f.nullableArgument] ++ f.optionPieces .sqlAlchemy "doc"

def columnPieces (f : Field) : Except FieldError (List Piece) := do
  let type ← f.sqlAlchemyType
  let table := Text.stripId f.spec.name
  return .code (f.spec.name ++ " = Column(" ++ type ++ ", ") ::
    argumentPieces (f.columnArgumentPieces table) ++
      [.code (if f.isFk || f.isPfk then ")\n" ++ f.relationship table else ")")]

def djangoArgumentPieces (f : Field) : List (List Piece) :=
  if f.isPk || f.isFk then codePieces f.djangoArguments
  else
    let optional := boolName (!f.isRequired)
    codePieces (["blank=" ++ optional, "null=" ++ optional] ++
      if f.isEnum then ["choices=" ++ Text.upper f.spec.name] else []) ++
        f.optionPieces .django "help_text"

def djangoPieces (f : Field) : Except FieldError (List Piece) := do
  let type ← f.baseType
  let name ← f.physicalType .django type
  return .code (f.djangoAttribute ++ " = models." ++ f.djangoKind type name ++ "(") ::
    argumentPieces (f.djangoArgumentPieces ++
      codePieces ((f.lengthKeywords type).map (·.text))) ++ [.code ")"]

variable {f : Field} {d : Dialect} {key table : String}

theorem map_textOf_keywordPieces (key : String) (value : Option String) :
    (keywordPieces key value).map textOf =
      match value with
      | some value => [key ++ "=" ++ quote value]
      | none => [] := by
  cases value <;> simp [keywordPieces]

theorem map_textOf_optionPieces :
    (f.optionPieces d key).map textOf =
      (match f.defaultClause? d with
        | some default => ["default=" ++ quote default]
        | none => []) ++
      (if f.spec.description.isEmpty then [] else [key ++ "=" ++ quote f.spec.description]) := by
  rw [optionPieces, List.map_append, map_textOf_keywordPieces, map_textOf_keywordPieces,
    description?]
  congr 1
  cases f.spec.description.isEmpty <;> rfl

theorem map_textOf_columnArgumentPieces :
    (f.columnArgumentPieces table).map textOf = f.sqlAlchemyArguments table := by
  unfold columnArgumentPieces
  split
  · exact map_textOf_codePieces _
  · rename_i hkey
    simp only [isKey, Bool.or_eq_true, not_or] at hkey
    rw [sqlAlchemyArguments, if_neg hkey.1.1, if_neg hkey.1.2, if_neg hkey.2, List.map_append,
      map_textOf_codePieces, map_textOf_optionPieces, plainColumnArguments, List.append_assoc]
    rfl

theorem map_textOf_djangoArgumentPieces :
    f.djangoArgumentPieces.map textOf = f.djangoArguments := by
  unfold djangoArgumentPieces
  split
  · exact map_textOf_codePieces _
  · rename_i hkey
    rw [Bool.or_eq_true, not_or] at hkey
    rw [djangoArguments, if_neg hkey.1, if_neg hkey.2, List.map_append, map_textOf_codePieces,
      map_textOf_optionPieces, plainDjangoArguments]
    simp only [List.append_assoc]
    rfl

theorem sqlAlchemyDefinition_eq_map_textOf :
    f.sqlAlchemyDefinition = f.columnPieces.map textOf := by
  rw [sqlAlchemyDefinition, columnPieces]
  cases f.sqlAlchemyType with
  | error => rfl
  | ok type =>
    refine congrArg Except.ok ?_
    simp only [List.cons_append, textOf_cons, textOf_append, textOf_argumentPieces,
      map_textOf_columnArgumentPieces, textOf_nil, Piece.text_code, String.append_empty]
    split
    · rw [show ")\n" = ")" ++ "\n" from rfl]
      simp only [String.append_assoc]
      rfl
    · simp only [String.append_assoc]
      rfl

theorem djangoDefinition_eq_map_textOf : f.djangoDefinition = f.djangoPieces.map textOf := by
  rw [djangoDefinition_eq, djangoCall, djangoPieces]
  cases f.baseType with
  | error => rfl
  | ok type =>
    change (f.physicalType .django type >>= _).map _ = (f.physicalType .django type >>= _).map _
    cases f.physicalType .django type with
    | error => rfl
    | ok name =>
      refine congrArg Except.ok ((text_djangoCall _ _).trans ?_)
      simp only [List.cons_append, textOf_cons, textOf_append, textOf_argumentPieces,
        List.map_append, map_textOf_djangoArgumentPieces, map_textOf_codePieces, textOf_nil,
        Piece.text_code, String.append_empty, String.append_assoc]

theorem description?_eq_some_iff {s : String} :
    f.description? = some s ↔ s ≠ "" ∧ f.spec.description = s := by
  rw [description?, Option.ite_none_left_eq_some, String.isEmpty_iff, Option.some.injEq]
  constructor <;> rintro ⟨hne, rfl⟩ <;> exact ⟨hne, rfl⟩

theorem string_mem_optionPieces {s : String} (hdefault : f.defaultClause? d =
      if f.spec.default.isTruthy then some f.spec.default.display else none) :
    (∃ arg ∈ f.optionPieces d key, .string s ∈ arg) ↔ f.spec.Gives s := by
  have hkeyword : ∀ key value, (∃ arg ∈ keywordPieces key value, Piece.string s ∈ arg) ↔
      value = some s := by
    intro key value
    cases value <;> simp [keywordPieces, eq_comm]
  simp only [optionPieces, List.mem_append, or_and_right, exists_or, hkeyword, hdefault,
    description?_eq_some_iff, Option.ite_none_right_eq_some, Option.some.injEq, FieldSpec.Gives]

theorem string_mem_columnPieces {ps : List Piece} (h : f.columnPieces = .ok ps) (s : String) :
    .string s ∈ ps ↔ f.isKey = false ∧ f.spec.Gives s := by
  obtain ⟨type, _, h⟩ := bind_eq_ok_iff.1 h
  cases h
  rw [List.mem_append, List.mem_cons, string_mem_argumentPieces, columnArgumentPieces]
  cases hkey : f.isKey with
  | true => simp [string_notMem_codePieces]
  | false =>
    have hoptions : (∃ arg ∈ f.optionPieces .sqlAlchemy "doc", .string s ∈ arg) ↔
        f.spec.Gives s := string_mem_optionPieces rfl
    simp [or_and_right, exists_or, hoptions, string_notMem_codePieces]

theorem string_mem_djangoPieces {ps : List Piece} (h : f.djangoPieces = .ok ps) (s : String) :
    .string s ∈ ps ↔ (f.isPk || f.isFk) = false ∧ f.spec.Gives s := by
  obtain ⟨type, _, h⟩ := bind_eq_ok_iff.1 h
  obtain ⟨name, _, h⟩ := bind_eq_ok_iff.1 h
  cases h
  rw [List.mem_append, List.mem_cons, string_mem_argumentPieces, djangoArgumentPieces]
  cases hkey : f.isPk || f.isFk with
  | true => simp [or_and_right, exists_or, string_notMem_codePieces]
  | false =>
    have hoptions : (∃ arg ∈ f.optionPieces .django "help_text", .string s ∈ arg) ↔
        f.spec.Gives s := string_mem_optionPieces rfl
    simp [or_and_right, exists_or, hoptions, string_notMem_codePieces]

end Field

end RelSchema
