import RelSchema.Declaration.SqlAlchemy
import RelSchema.Proofs.Declaration.Expression
import RelSchema.Proofs.Field.Typing

namespace RelSchema.Field

open Python

def nullableKeyword (f : Field) : Expr :=
  .keyword "nullable" (.bool (!f.isDemanded))

def foreignKeyCall (f : Field) (table : String) : Expr :=
  .call "ForeignKey" ([.string (table ++ ".id")] ++
    (if Text.contains f.spec.constraint "on delete cascade" then
      [.keyword "ondelete" (.literal "'CASCADE'")] else []) ++
    (if Text.contains f.spec.constraint "on update cascade" then
      [.keyword "onupdate" (.literal "'CASCADE'")] else []))

def keyKeywords : List Expr :=
  [.keyword "nullable" (.bool false), .keyword "primary_key" (.bool true)]

def plainColumnKeywords (f : Field) : List Expr :=
  [f.nullableKeyword] ++ Expr.keywordOfOption "default" (f.defaultClause? .sqlAlchemy) ++
    Expr.keywordUnlessEmpty "doc" f.spec.description

def columnArguments (f : Field) (table : String) : List Expr :=
  if f.isPk then keyKeywords
  else if f.isFk then [f.foreignKeyCall table, f.nullableKeyword]
  else if f.isPfk then f.foreignKeyCall table :: keyKeywords
  else f.plainColumnKeywords

/-- The column has the type of an enumeration: the field is no key and has no length. -/
def hasEnumType (f : Field) : Bool :=
  f.isEnum && !f.isKey && !(f.spec.type = some .str && f.spec.length.isSome)

def columnTypeExpr (f : Field) : Except FieldError Expr := do
  let type ← f.baseType
  let name ← f.physicalType .sqlAlchemy type
  return match type, f.spec.length with
    | .str, some n => .call "String" [.literal (toString n.toNat)]
    | _, _ => .name (if f.isEnum && !f.isKey then Text.upper f.spec.name else name)

def columnCall (f : Field) : Except FieldError Expr := do
  let type ← f.columnTypeExpr
  return .call "Column" (type :: f.columnArguments (Text.stripId f.spec.name))

def relationshipCall (f : Field) (table : String) : Expr :=
  .call "relationship"
    [.string (Text.pascalCase table), .keyword "backref" (.string (Text.plural f.modelName))]

/-- The attributes of a class that a field becomes: its column and, for a foreign key, the row it
refers to. -/
def sqlAlchemyAssignments (f : Field) : Except FieldError (List Assignment) := do
  let column ← f.columnCall
  let table := Text.stripId f.spec.name
  return ⟨f.spec.name, column⟩ ::
    if f.isFk || f.isPfk then [⟨table, f.relationshipCall table⟩] else []

variable (f : Field) (table : String)

theorem text_foreignKeyCall : (f.foreignKeyCall table).text = f.foreignKeyArgument table := by
  rw [foreignKeyCall, Expr.text_call, List.map_append, List.map_append, foreignKeyArgument]
  split <;> split <;> rfl

theorem map_text_plainColumnKeywords :
    f.plainColumnKeywords.map (·.text) = f.plainColumnArguments := by
  rw [plainColumnKeywords, List.map_append, List.map_append, Expr.map_text_keywordOfOption,
    Expr.map_text_keywordUnlessEmpty]
  rfl

theorem map_text_columnArguments :
    (f.columnArguments table).map (·.text) = f.sqlAlchemyArguments table := by
  unfold columnArguments sqlAlchemyArguments
  split
  · rfl
  · split
    · rw [List.map_cons, text_foreignKeyCall]
      rfl
    · split
      · rw [List.map_cons, text_foreignKeyCall]
        rfl
      · exact f.map_text_plainColumnKeywords

theorem columnArguments_ne_nil : f.columnArguments table ≠ [] := by
  unfold columnArguments keyKeywords plainColumnKeywords
  split
  · simp
  · split
    · simp
    · split <;> simp

theorem sqlAlchemyType_eq : f.sqlAlchemyType = f.columnTypeExpr.map (·.text) := by
  unfold sqlAlchemyType columnTypeExpr
  cases f.baseType with
  | error => rfl
  | ok type =>
    change f.physicalType .sqlAlchemy type >>= _ = (f.physicalType .sqlAlchemy type >>= _).map _
    cases f.physicalType .sqlAlchemy type with
    | error => rfl
    | ok name => cases type <;> cases f.spec.length <;> rfl

theorem text_column (type : Expr) :
    (Assignment.mk f.spec.name (.call "Column" (type :: f.columnArguments table))).text =
      f.spec.name ++ " = Column(" ++ type.text ++ ", " ++
        arguments (f.sqlAlchemyArguments table) ++ ")" := by
  have hne : f.sqlAlchemyArguments table ≠ [] := by
    rw [← map_text_columnArguments]
    exact fun h => f.columnArguments_ne_nil table (List.map_eq_nil_iff.1 h)
  rw [Assignment.text, Expr.text_call, List.map_cons, map_text_columnArguments, arguments_cons hne,
    show " = Column(" = " = " ++ ("Column" ++ "(") from rfl]
  simp only [String.append_assoc]

theorem relationship_eq : f.relationship table =
    "    " ++ (Assignment.mk table (f.relationshipCall table)).text := by
  have hargs : arguments ([Expr.string (Text.pascalCase table),
      Expr.keyword "backref" (.string (Text.plural f.modelName))].map (·.text)) =
        quote (Text.pascalCase table) ++ ", " ++ ("backref=" ++ quote (Text.plural f.modelName)) :=
    rfl
  rw [relationship, Assignment.text, relationshipCall, Expr.text_call, hargs,
    show " = relationship(" = " = " ++ ("relationship" ++ "(") from rfl,
    show ", backref=" = ", " ++ "backref=" from rfl]
  simp only [String.append_assoc]

theorem sqlAlchemyDefinition_eq :
    f.sqlAlchemyDefinition =
      f.sqlAlchemyAssignments.map fun as => "\n    ".intercalate (as.map (·.text)) := by
  rw [sqlAlchemyDefinition, sqlAlchemyType_eq, sqlAlchemyAssignments, columnCall]
  cases f.columnTypeExpr with
  | error => rfl
  | ok type =>
    have hcolumn := f.text_column (Text.stripId f.spec.name) type
    simp only [Except.map, bind, Except.bind, pure, Except.pure, name, ← hcolumn, relationship_eq]
    split
    · simp only [List.map_cons, List.map_nil, String.intercalate_cons_cons, String.append_assoc]
      rfl
    · rfl

theorem sqlAlchemyDefinition_of_plain (h : (f.isFk || f.isPfk) = false) :
    f.sqlAlchemyDefinition =
      f.columnCall.map fun call => (Assignment.mk f.spec.name call).text := by
  rw [sqlAlchemyDefinition_eq, sqlAlchemyAssignments, h]
  cases f.columnCall <;> rfl

variable {f : Field} {table : String}

theorem names_keyKeywords : keyKeywords.flatMap (·.names) = [] := rfl

theorem names_foreignKeyCall : (f.foreignKeyCall table).names = ["ForeignKey"] := by
  rw [foreignKeyCall, Expr.names_call]
  split <;> split <;> rfl

theorem names_plainColumnKeywords : f.plainColumnKeywords.flatMap (·.names) = [] := by
  rw [plainColumnKeywords, List.flatMap_append, List.flatMap_append, Expr.keywordUnlessEmpty]
  cases f.defaultClause? .sqlAlchemy <;> split <;> rfl

theorem names_columnArguments : (f.columnArguments table).flatMap (·.names) =
    if f.isFk || f.isPfk then ["ForeignKey"] else [] := by
  have hrole : f.isPk = true → f.isFk = false ∧ f.isPfk = false := by
    unfold isPk isFk isPfk
    cases f.spec.index <;> simp
  unfold columnArguments
  split
  · rename_i hpk
    obtain ⟨hfk, hpfk⟩ := hrole hpk
    simp [names_keyKeywords, hfk, hpfk]
  · split
    · rename_i hfk
      simp [hfk, names_foreignKeyCall, nullableKeyword, Expr.names, Expr.bool]
    · rename_i hfk
      split
      · rename_i hpfk
        simp [hpfk, names_foreignKeyCall, names_keyKeywords]
      · rename_i hpfk
        simp [hfk, hpfk, names_plainColumnKeywords]

theorem columnTypeExpr_eq_ok {type : Expr} (h : f.columnTypeExpr = .ok type) :
    ∃ t name, f.spec.type = some t ∧ Dialect.sqlAlchemy.typeName? t = some name ∧
      type.names = [if f.hasEnumType then Text.upper f.spec.name else name] := by
  obtain ⟨t, ht, h⟩ := bind_eq_ok_iff.1 h
  obtain ⟨name, hname, h⟩ := bind_eq_ok_iff.1 h
  rw [baseType_eq_ok_iff] at ht
  rw [physicalType_eq_ok_iff] at hname
  refine ⟨t, name, ht, hname, ?_⟩
  cases h
  cases t with
  | str =>
    cases hlength : f.spec.length with
    | some n =>
      cases hname
      simp [hasEnumType, ht, hlength, Expr.names, Expr.namesOfList]
    | none => simp [hasEnumType, ht, hlength, Expr.names]
  | _ => simp [hasEnumType, ht, Expr.names]

theorem keyword_mem_columnCall {call value : Expr} {key : String} (h : f.columnCall = .ok call) :
    .keyword key value ∈ call.args ↔
      .keyword key value ∈ f.columnArguments (Text.stripId f.spec.name) := by
  obtain ⟨type, htype, h⟩ := bind_eq_ok_iff.1 h
  obtain ⟨t, _, htype⟩ := bind_eq_ok_iff.1 htype
  obtain ⟨name, _, htype⟩ := bind_eq_ok_iff.1 htype
  cases h
  have hne : Expr.keyword key value ≠ type := by
    rintro rfl
    have htype := Except.ok.inj htype
    split at htype <;> cases htype
  rw [Expr.args, List.mem_cons]
  exact or_iff_right hne

theorem columnArguments_of_isKey (hkey : f.isKey = false) :
    f.columnArguments table = f.plainColumnKeywords := by
  simp only [isKey, Bool.or_eq_false_iff] at hkey
  simp [columnArguments, hkey]

theorem nullable_of_columnCall {call value : Expr} (h : f.columnCall = .ok call)
    (hkey : f.isKey = false) :
    .keyword "nullable" value ∈ call.args ↔ value = .bool (!f.isDemanded) := by
  rw [keyword_mem_columnCall h, columnArguments_of_isKey hkey]
  simp [plainColumnKeywords, nullableKeyword, Expr.keyword_mem_keywordOfOption,
    Expr.keyword_mem_keywordUnlessEmpty]

theorem default_of_columnCall {call value : Expr} (h : f.columnCall = .ok call)
    (hkey : f.isKey = false) :
    .keyword "default" value ∈ call.args ↔
      ∃ s, f.defaultClause? .sqlAlchemy = some s ∧ value = .string s := by
  rw [keyword_mem_columnCall h, columnArguments_of_isKey hkey]
  simp [plainColumnKeywords, nullableKeyword, Expr.keyword_mem_keywordOfOption,
    Expr.keyword_mem_keywordUnlessEmpty]

end RelSchema.Field
