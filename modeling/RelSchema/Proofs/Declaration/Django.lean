import RelSchema.Declaration.Django
import RelSchema.Declaration.Factory
import RelSchema.Proofs.Declaration.Expression
import RelSchema.Proofs.Field.Typing

namespace RelSchema.Field

open Python

def nullabilityKeywords (f : Field) : List Expr :=
  [.keyword "blank" (.bool (!f.isRequired)), .keyword "null" (.bool (!f.isRequired))]

def plainDjangoKeywords (f : Field) : List Expr :=
  (if f.isEnum then [.keyword "choices" (.name (Text.upper f.spec.name))] else []) ++
    Expr.keywordOfOption "default" (f.defaultClause? .django) ++
    Expr.keywordUnlessEmpty "help_text" f.spec.description

def djangoExprs (f : Field) : List Expr :=
  if f.isPk then
    [.keyword "blank" (.bool false), .keyword "null" (.bool false),
      .keyword "primary_key" (.bool true)]
  else if f.isFk then
    [.string f.djangoTarget] ++ f.nullabilityKeywords ++
      (if f.isSelfReference then [.keyword "related_name" (.string "children")] else []) ++
      [.keyword "on_delete" (.name "models.CASCADE")]
  else f.nullabilityKeywords ++ f.plainDjangoKeywords

def lengthKeywords (f : Field) (type : BaseType) : List Expr :=
  match type, f.spec.length with
  | .str, some n => [.keyword "max_length" (.literal (toString n.toNat))]
  | _, _ => []

/-- A short text without a length becomes a long one, even if it is a foreign key. -/
def djangoKind (f : Field) (type : BaseType) (name : String) : String :=
  if type = .str && f.spec.length.isNone then "TextField" else if f.isFk then "ForeignKey" else name

def djangoCall (f : Field) : Except FieldError Expr := do
  let type ← f.baseType
  let name ← f.physicalType .django type
  return .call ("models." ++ f.djangoKind type name) (f.djangoExprs ++ f.lengthKeywords type)

/-- The factory of the rows that a foreign key refers to, by its name or by its path. -/
def subFactoryExpr (f : Field) (table : String) : Expr :=
  match f.owner.filter fun m => table = "parent" && m.hasNamespaceProperties with
  | some model =>
    .literal ("'" ++ (model.properties.get? "app").getD "" ++ ".factories." ++
      Text.pascalCase model.name ++ "Factory'")
  | none => .name (Text.pascalCase table ++ "Factory")

def factoryCall (f : Field) : Except FieldError Expr := do
  let type ← f.baseType
  let sample ← f.physicalType .factoryBoy type
  return if f.isPk && (type = .int || type = .serial) then
      .call "factory.Sequence" [.literal "lambda n: n"]
    else if f.isFk then
      .call "factory.SubFactory" [f.subFactoryExpr (Text.stripId f.spec.name)]
    else if f.isEnum then
      .call "factory.Iterator" [.name ("model." ++ Text.upper f.spec.name)]
    else
      .call "factory.Faker" [.literal ("'" ++ (sampleNamed? f.spec.name).getD sample ++ "'")]

variable {f : Field}

theorem map_text_plainDjangoKeywords :
    f.plainDjangoKeywords.map (·.text) = f.plainDjangoArguments := by
  rw [plainDjangoKeywords, List.map_append, List.map_append, Expr.map_text_keywordOfOption,
    Expr.map_text_keywordUnlessEmpty, plainDjangoArguments]
  split <;> rfl

theorem map_text_djangoExprs : f.djangoExprs.map (·.text) = f.djangoArguments := by
  unfold djangoExprs djangoArguments
  split
  · rfl
  · split
    · split <;> rfl
    · rw [List.map_append, map_text_plainDjangoKeywords]
      rfl

theorem text_djangoCall (kind : String) (length : List Expr) :
    (Assignment.mk f.djangoAttribute (.call ("models." ++ kind) (f.djangoExprs ++ length))).text =
      f.djangoAttribute ++ " = models." ++ kind ++ "(" ++
        arguments (f.djangoArguments ++ length.map (·.text)) ++ ")" := by
  rw [Assignment.text, Expr.text_call, List.map_append, map_text_djangoExprs,
    show " = models." = " = " ++ "models." from rfl]
  simp only [String.append_assoc]

theorem djangoDefinition_eq :
    f.djangoDefinition =
      f.djangoCall.map fun call => (Assignment.mk f.djangoAttribute call).text := by
  unfold djangoDefinition djangoCall
  cases f.baseType with
  | error => rfl
  | ok type =>
    change (f.physicalType .django type >>= _) = (f.physicalType .django type >>= _).map _
    cases f.physicalType .django type with
    | error => rfl
    | ok name =>
      refine Eq.trans ?_ (congrArg Except.ok (text_djangoCall _ _).symm)
      unfold djangoKind lengthKeywords
      cases type with
      | str => cases f.spec.length <;> rfl
      | _ => rfl

theorem text_subFactoryCall (table : String) :
    (Expr.call "factory.SubFactory" [f.subFactoryExpr table]).text = f.subFactory table := by
  rw [Expr.text_call_singleton, subFactoryExpr, subFactory]
  cases f.owner.filter fun m => table = "parent" && m.hasNamespaceProperties with
  | none =>
    rw [show "factory.SubFactory(" = "factory.SubFactory" ++ "(" from rfl,
      show "Factory)" = "Factory" ++ ")" from rfl]
    simp only [Expr.text, String.append_assoc]
  | some model =>
    rw [show "factory.SubFactory('" = "factory.SubFactory" ++ "(" ++ "'" from rfl,
      show "Factory')" = "Factory'" ++ ")" from rfl]
    simp only [Expr.text, String.append_assoc]

theorem factoryDefinition_eq :
    f.factoryDefinition =
      f.factoryCall.map fun call => (Assignment.mk f.factoryAttribute call).text := by
  unfold factoryDefinition factoryCall
  cases f.baseType with
  | error => rfl
  | ok type =>
    change (f.physicalType .factoryBoy type >>= _) = (f.physicalType .factoryBoy type >>= _).map _
    cases f.physicalType .factoryBoy type with
    | error => rfl
    | ok sample =>
      refine congrArg Except.ok (congrArg (f.factoryAttribute ++ " = " ++ ·) ?_)
      split
      · rfl
      · split
        · exact (f.text_subFactoryCall _).symm
        · split
          · rw [Expr.text_call_singleton,
              show "factory.Iterator(model." = "factory.Iterator" ++ "(" ++ "model." from rfl]
            simp only [Expr.text, String.append_assoc]
            rfl
          · rw [Expr.text_call_singleton,
              show "factory.Faker('" = "factory.Faker" ++ "(" ++ "'" from rfl,
              show "')" = "'" ++ ")" from rfl]
            simp only [Expr.text, String.append_assoc]
            rfl

theorem keyword_mem_djangoCall {call value : Expr} {key : String} (h : f.djangoCall = .ok call)
    (hkey : key ≠ "max_length") :
    .keyword key value ∈ call.args ↔ .keyword key value ∈ f.djangoExprs := by
  obtain ⟨type, _, h⟩ := bind_eq_ok_iff.1 h
  obtain ⟨name, _, h⟩ := bind_eq_ok_iff.1 h
  cases h
  have hlength : Expr.keyword key value ∉ f.lengthKeywords type := by
    unfold lengthKeywords
    split <;> simp [hkey]
  simp [Expr.args, hlength]

theorem keyword_mem_plainDjangoKeywords {key : String} {value : Expr}
    (h : .keyword key value ∈ f.plainDjangoKeywords) :
    (f.isEnum = true ∧ key = "choices" ∧ value = .name (Text.upper f.spec.name)) ∨
      key = "default" ∨ key = "help_text" := by
  rw [plainDjangoKeywords, List.mem_append, List.mem_append, Expr.keyword_mem_keywordOfOption,
    Expr.keyword_mem_keywordUnlessEmpty] at h
  rcases h with (h | ⟨hkey, _⟩) | ⟨_, hkey, _⟩
  · split at h
    · rename_i henum
      cases List.mem_singleton.1 h
      exact .inl ⟨henum, rfl, rfl⟩
    · cases h
  · exact .inr (.inl hkey)
  · exact .inr (.inr hkey)

theorem choices_of_djangoCall {call value : Expr} (h : f.djangoCall = .ok call)
    (hvalue : .keyword "choices" value ∈ call.args) :
    f.isEnum = true ∧ value = .name (Text.upper f.spec.name) := by
  rw [keyword_mem_djangoCall h (by decide), djangoExprs, nullabilityKeywords] at hvalue
  split at hvalue
  · simp at hvalue
  · split at hvalue
    · split at hvalue <;> simp [Expr.string] at hvalue
    · have hplain : .keyword "choices" value ∈ f.plainDjangoKeywords := by simpa using hvalue
      rcases keyword_mem_plainDjangoKeywords hplain with ⟨henum, _, hvalue⟩ | hkey | hkey
      · exact ⟨henum, hvalue⟩
      · exact absurd hkey (by decide)
      · exact absurd hkey (by decide)

theorem nullability_of_djangoCall {call value : Expr} {key : String} (h : f.djangoCall = .ok call)
    (hpk : f.isPk = false) (hfk : f.isFk = false) (hkey : key = "null" ∨ key = "blank") :
    .keyword key value ∈ call.args ↔ value = .bool (!f.isRequired) := by
  have hplain : .keyword key value ∉ f.plainDjangoKeywords := by
    intro hmem
    rcases keyword_mem_plainDjangoKeywords hmem with ⟨_, rfl, _⟩ | rfl | rfl <;> simp at hkey
  have hlength : key ≠ "max_length" := by
    rintro rfl
    simp at hkey
  rw [keyword_mem_djangoCall h hlength, djangoExprs, hpk, hfk, nullabilityKeywords]
  rcases hkey with rfl | rfl <;> simp [hplain]

theorem default_of_djangoCall {call value : Expr} (h : f.djangoCall = .ok call)
    (hpk : f.isPk = false) (hfk : f.isFk = false) :
    .keyword "default" value ∈ call.args ↔
      ∃ s, f.defaultClause? .django = some s ∧ value = .string s := by
  have hchoices : .keyword "default" value ∉
      if f.isEnum then [Expr.keyword "choices" (.name (Text.upper f.spec.name))] else [] := by
    split <;> simp
  rw [keyword_mem_djangoCall h (by decide), djangoExprs, hpk, hfk, nullabilityKeywords,
    plainDjangoKeywords]
  simp [hchoices, Expr.keyword_mem_keywordOfOption, Expr.keyword_mem_keywordUnlessEmpty]

theorem iterator_of_factoryCall {args : List Expr}
    (h : f.factoryCall = .ok (.call "factory.Iterator" args)) :
    f.isEnum = true ∧ args = [.name ("model." ++ Text.upper f.spec.name)] := by
  obtain ⟨type, _, h⟩ := bind_eq_ok_iff.1 h
  obtain ⟨name, _, h⟩ := bind_eq_ok_iff.1 h
  have h := Except.ok.inj h
  split at h
  · simp at h
  · split at h
    · simp at h
    · split at h
      · rename_i henum
        cases h
        exact ⟨henum, rfl⟩
      · simp at h

end RelSchema.Field
