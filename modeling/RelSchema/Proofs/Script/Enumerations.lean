import RelSchema.Proofs.Declaration.Django
import RelSchema.Proofs.Declaration.Haskell
import RelSchema.Proofs.Declaration.Sql
import RelSchema.Proofs.Script.Sql.Inserts
import RelSchema.Script.Django
import RelSchema.Script.Haskell

namespace RelSchema

open Python

/-- A field refers to an enumeration if its constraint begins with this word. -/
def Field.IsEnumerated (f : Field) : Prop :=
  "enum".toList <+: f.spec.constraint.toList

theorem Field.isEnum_iff {f : Field} : f.isEnum = true ↔ f.IsEnumerated :=
  List.isPrefixOf_iff_prefix

namespace Schema

def enumNames (s : Schema) : List String :=
  s.enumerations.map (·.name)

/-- There is an enumeration of the name of every field that refers to one. -/
def ResolvesEnums (s : Schema) : Prop :=
  ∀ m ∈ s.models, ∀ f ∈ m.fields, f.IsEnumerated → f.spec.name ∈ s.enumNames

end Schema

namespace Script

def indented (lines : List String) : String :=
  .join (lines.map fun line => "    " ++ line ++ "\n")

/-- Below its header the text declares each enumeration once, and below these it has a part for each
model. -/
def DeclaresFirst (s : Schema) (header : String) (declares : Enumeration → String → Prop)
    (body : Model → String → Prop) (text : String) : Prop :=
  ∃ declarations bodies, List.Forall₂ declares s.enumerations declarations ∧
    List.Forall₂ body s.models bodies ∧ text = header ++ .join declarations ++ .join bodies

variable {s : Schema} {m : Model} {f : Field} {text line : String}

theorem declaresFirst {ε : Type} {header : String} {declares : Enumeration → String → Prop}
    {body : Model → String → Prop} (declare : Enumeration → String)
    (hdeclare : ∀ e, declares e (declare e)) {write : Model → Except ε String}
    {bodies : List String} (hbodies : s.models.mapM write = .ok bodies)
    (hbody : ∀ m ∈ s.models, ∀ text, write m = .ok text → body m text) :
    DeclaresFirst s header declares body
      (header ++ .join (s.enumerations.map declare) ++ .join bodies) := by
  refine ⟨_, bodies, ?_, forall₂_of_mapM hbodies hbody, rfl⟩
  rw [List.forall₂_map_right_iff]
  exact List.forall₂_same.2 fun e _ => hdeclare e

namespace Sql

open Text (blanks)

/-- A type is created that has the name of the enumeration, and its keys in quotes. -/
def CreatesType (e : Enumeration) (statement : String) : Prop :=
  ∃ labels, List.Forall₂ (fun key label => Reads scanCell ')' label.toList (.quoted key.display))
      e.keys labels ∧
    statement = "\ncreate type " ++ e.name ++ " as enum (" ++ ", ".intercalate labels ++ ");\n"

theorem createsType (e : Enumeration) : CreatesType e (createType e) := by
  refine ⟨_, ?_, rfl⟩
  rw [List.forall₂_map_right_iff]
  exact List.forall₂_same.2 fun key _ => reads_quote

/-- The line gives a column its type, which is one of `types` if the field refers to an
enumeration. -/
def DeclaresColumn (types : List String) (f : Field) (line : String) : Prop :=
  ∃ type words separator comment,
    line = " ".intercalate (f.spec.name :: type :: words) ++ separator ++ comment ∧
    (separator = "" ∨ separator = ",") ∧
    (comment = "" ∨ ∃ n, comment = " " ++ (blanks n ++ "-- " ++ f.spec.description)) ∧
    (f.IsEnumerated → type ∈ types)

/-- The table of the model is dropped, created with a column for each field and at most one line
more, and filled. -/
def CreatesTable (types : List String) (m : Model) (text : String) : Prop :=
  ∃ required columns keyLines : List String, ∃ insertion,
    text = .join (required.map ("\n--REQ tables/" ++ ·)) ++ "\ndrop table if exists " ++ m.name ++
      ";\ncreate table " ++ m.name ++ " (\n" ++ indented (columns ++ keyLines) ++ ");\n" ++
      insertion ∧
    List.Forall₂ (DeclaresColumn types) m.fields columns ∧
    (keyLines = [] ∨ ∃ names, keyLines = ["primary key(" ++ ", ".intercalate names ++ ")"]) ∧
    (insertion = "" ∨ ∃ rows, Inserts m rows insertion)

/-- Types are created before tables. -/
def TypesResolve (s : Schema) (text : String) : Prop :=
  DeclaresFirst s ("-- " ++ s.name ++ " (PgEnum)\n") CreatesType (CreatesTable s.enumNames) text

variable {types : List String}

theorem declaresColumn (hf : f.IsEnumerated → f.spec.name ∈ types)
    (h : f.definition .pgEnum = .ok line) : DeclaresColumn types f line := by
  rw [Field.definition_eq_map_sqlColumn rfl] at h
  obtain ⟨column, hcolumn, rfl⟩ := map_eq_ok_iff.1 h
  obtain ⟨comment, hline, hcomment⟩ :=
    exists_comment column.text f.options.commentOffset f.spec.description
  obtain ⟨type, htype, hcolumn⟩ := bind_eq_ok_iff.1 hcolumn
  cases hcolumn
  refine ⟨type, _, f.separator .pgEnum, comment, hline, ?_, hcomment, fun henum => ?_⟩
  · rw [f.separator_of_isSql rfl]
    split
    · exact .inl rfl
    · exact .inr rfl
  · obtain ⟨_, _, htype⟩ := bind_eq_ok_iff.1 htype
    have hname : f.spec.name = type := by
      rw [if_pos (by rw [Field.isEnum_iff.2 henum]; rfl)] at htype
      exact Except.ok.inj htype
    rw [← hname]
    exact hf henum

theorem exists_dependencies (m : Model) :
    ∃ required : List String,
      (m.dependencies .pgEnum).map ("\n" ++ ·) = required.map ("\n--REQ tables/" ++ ·) := by
  refine ⟨m.fkFields.map fun f =>
    let name := (f.name .pgEnum).toList
    .ofList (name.take (name.length - 3)), ?_⟩
  rw [Model.dependencies, List.map_map, List.map_map]
  exact List.map_congr_left fun f _ => (String.append_assoc ..).symm

theorem exists_keyLines {definitions : List String} (h : m.definitions .pgEnum = .ok definitions) :
    ∃ columns keyLines, m.fieldDefinitions .pgEnum = .ok columns ∧
      definitions = columns ++ keyLines ∧
      (keyLines = [] ∨ ∃ names, keyLines = ["primary key(" ++ ", ".intercalate names ++ ")"]) := by
  obtain ⟨columns, hcolumns, h⟩ := bind_eq_ok_iff.1 h
  cases h
  split
  · exact ⟨columns, _, hcolumns, rfl, .inr ⟨_, rfl⟩⟩
  · exact ⟨columns, [], hcolumns, (List.append_nil _).symm, .inl rfl⟩

theorem inserts_eq_empty_or (m : Model) :
    inserts .pgEnum m = "" ∨ ∃ rows, Inserts m rows (inserts .pgEnum m) := by
  by_cases hdata : m.data = []
  · apply Or.inl
    rw [inserts, hdata]
    rfl
  · exact .inr ⟨_, inserts_of_rows rfl hdata⟩

theorem createsTable (hm : ∀ f ∈ m.fields, f.IsEnumerated → f.spec.name ∈ types)
    (h : table .pgEnum m = .ok text) : CreatesTable types m text := by
  obtain ⟨definitions, hdefinitions, h⟩ := bind_eq_ok_iff.1 h
  cases h
  obtain ⟨columns, keyLines, hcolumns, rfl, hkey⟩ := exists_keyLines hdefinitions
  obtain ⟨required, hrequired⟩ := exists_dependencies m
  refine ⟨required, columns, keyLines, inserts .pgEnum m, ?_, ?_, hkey, inserts_eq_empty_or m⟩
  · rw [hrequired]
    rfl
  · exact forall₂_of_mapM hcolumns fun f hf line => declaresColumn (hm f hf)

theorem typesResolve (hs : s.ResolvesEnums) (hd : s.dialect = .pgEnum)
    (h : Sql.text s = .ok text) : TypesResolve s text := by
  obtain ⟨tables, htables, h⟩ := bind_eq_ok_iff.1 h
  cases h
  rw [hd] at htables
  have hheader : header s = "-- " ++ s.name ++ " (PgEnum)\n" := by
    rw [header, hd, String.append_assoc, String.append_assoc]
    rfl
  rw [hheader, createTypes, if_pos hd]
  exact declaresFirst createType createsType htables fun m hm text => createsTable (hs m hm)

end Sql

namespace Django

def constants (s : Schema) : List String :=
  s.enumerations.map fun e => Text.upper e.name

/-- The constant that is named for the enumeration has its keys with their values. -/
def DefinesConstant (e : Enumeration) (text : String) : Prop :=
  text = "\n" ++ Text.upper e.name ++ " = [\n" ++
    indented (e.entries.map fun (key, value) =>
      "(" ++ key.quoted.display ++ ", " ++ value.quoted.display ++ "),") ++ "]\n"

/-- The line assigns the call of the field, whose choices are one of the constants. -/
def HasChoices (xs : List String) (f : Field) (line : String) : Prop :=
  ∃ call, f.djangoCall = .ok call ∧ line = (Assignment.mk f.djangoAttribute call).text ∧
    ∀ value, .keyword "choices" value ∈ call.args → ∃ x ∈ xs, value = .name x

/-- The class of the model has a line for each field and, below these, the model's names. -/
def DefinesClass (xs : List String) (m : Model) (text : String) : Prop :=
  ∃ lines names shown,
    text = "\n\nclass " ++ m.className ++ "(models.Model):\n" ++ indented lines ++
      "\n    class Meta:\n        db_table = \"" ++ m.name ++ "\"\n" ++ names ++ shown ∧
    List.Forall₂ (HasChoices xs) m.fields lines ∧
    (names = "" ∨ ∃ title, names = "        verbose_name = \"" ++ title ++
      "\"\n        verbose_name_plural = \"" ++ Text.plural title ++ "\"\n") ∧
    (shown = "" ∨ ∃ key,
      shown = "\n    def __str__(self):\n        return str(self." ++ key ++ ")\n")

/-- Constants are defined before classes. -/
def ChoicesResolve (s : Schema) (text : String) : Prop :=
  DeclaresFirst s ("\"\"\"" ++ s.name ++ " models.\"\"\"\nfrom django.db import models\n")
    DefinesConstant (DefinesClass (constants s)) text

/-- The line assigns the call of the field, and what that iterates over is one of the constants in
the module of models. -/
def IteratesOver (xs : List String) (f : Field) (line : String) : Prop :=
  ∃ call, f.factoryCall = .ok call ∧ line = (Assignment.mk f.factoryAttribute call).text ∧
    ∀ args, call = .call "factory.Iterator" args → ∃ x ∈ xs, args = [.name ("model." ++ x)]

def DefinesFactory (xs : List String) (m : Model) (text : String) : Prop :=
  ∃ target lines,
    text = "\n\nclass " ++ m.className ++
      "Factory(factory.django.DjangoModelFactory):\n    class Meta:\n        model = " ++ target ++
      "\n\n" ++ indented lines ∧
    (target = "model." ++ m.className ∨ ∃ app cls, target = "\"" ++ app ++ "." ++ cls ++ "\"") ∧
    List.Forall₂ (IteratesOver xs) m.fields lines

def IteratorsResolve (s : Schema) (text : String) : Prop :=
  ∃ classes, List.Forall₂ (DefinesFactory (constants s)) s.models classes ∧
    text = "\"\"\"" ++ s.name ++ " factories.\"\"\"\nimport factory\n\n" ++
      "from . import models as model\n" ++ .join classes

variable {xs : List String}

theorem upper_mem_constants {name : String} (h : name ∈ s.enumNames) :
    Text.upper name ∈ constants s := by
  obtain ⟨e, he, rfl⟩ := List.mem_map.1 h
  exact List.mem_map_of_mem he

theorem hasChoices (hf : f.IsEnumerated → Text.upper f.spec.name ∈ xs)
    (h : f.definition .django = .ok line) : HasChoices xs f line := by
  obtain ⟨call, hcall, rfl⟩ := map_eq_ok_iff.1 (f.djangoDefinition_eq.symm.trans h)
  refine ⟨call, hcall, rfl, fun value hvalue => ?_⟩
  obtain ⟨henum, rfl⟩ := Field.choices_of_djangoCall hcall hvalue
  exact ⟨_, hf (Field.isEnum_iff.1 henum), rfl⟩

theorem verboseNames_eq_empty_or {names : String} (h : verboseNames m = .ok names) :
    names = "" ∨ ∃ title, names = "        verbose_name = \"" ++ title ++
      "\"\n        verbose_name_plural = \"" ++ Text.plural title ++ "\"\n" := by
  unfold verboseNames at h
  split at h
  · cases h
    exact .inl rfl
  · obtain ⟨cls, _, h⟩ := bind_eq_ok_iff.1 h
    cases h
    exact .inr ⟨_, rfl⟩

theorem display_eq_empty_or (m : Model) :
    display m = "" ∨ ∃ key,
      display m = "\n    def __str__(self):\n        return str(self." ++ key ++ ")\n" := by
  unfold display
  split
  · exact .inr ⟨_, rfl⟩
  · exact .inl rfl

theorem definesClass (hm : ∀ f ∈ m.fields, f.IsEnumerated → Text.upper f.spec.name ∈ xs)
    (h : modelClass m = .ok text) : DefinesClass xs m text := by
  obtain ⟨lines, hlines, h⟩ := bind_eq_ok_iff.1 h
  obtain ⟨names, hnames, h⟩ := bind_eq_ok_iff.1 h
  cases h
  have hfields := forall₂_of_mapM (mapError_eq_ok_iff.1 hlines)
    fun f hf line => hasChoices (hm f hf)
  exact ⟨lines, names, display m, rfl, hfields,
    verboseNames_eq_empty_or (mapError_eq_ok_iff.1 hnames), display_eq_empty_or m⟩

theorem definesConstant (e : Enumeration) : DefinesConstant e (choices e) := rfl

theorem choicesResolve (hs : s.ResolvesEnums) (h : models s = .ok text) :
    ChoicesResolve s text := by
  obtain ⟨classes, hclasses, h⟩ := bind_eq_ok_iff.1 h
  cases h
  refine declaresFirst choices definesConstant hclasses fun m hm text => ?_
  exact definesClass fun f hf henum => upper_mem_constants (hs m hm f hf henum)

theorem iteratesOver (hf : f.IsEnumerated → Text.upper f.spec.name ∈ xs)
    (h : f.definition .factoryBoy = .ok line) : IteratesOver xs f line := by
  obtain ⟨call, hcall, rfl⟩ := map_eq_ok_iff.1 (f.factoryDefinition_eq.symm.trans h)
  refine ⟨call, hcall, rfl, ?_⟩
  rintro args rfl
  obtain ⟨henum, rfl⟩ := Field.iterator_of_factoryCall hcall
  exact ⟨_, hf (Field.isEnum_iff.1 henum), rfl⟩

theorem factoryTarget_eq_ok {target : String} (h : factoryTarget m = .ok target) :
    target = "model." ++ m.className ∨ ∃ app cls, target = "\"" ++ app ++ "." ++ cls ++ "\"" := by
  unfold factoryTarget at h
  split at h
  · cases h
    exact .inl rfl
  · obtain ⟨app, _, h⟩ := bind_eq_ok_iff.1 h
    obtain ⟨cls, _, h⟩ := bind_eq_ok_iff.1 h
    cases h
    exact .inr ⟨_, _, rfl⟩

theorem definesFactory (hm : ∀ f ∈ m.fields, f.IsEnumerated → Text.upper f.spec.name ∈ xs)
    (h : factoryClass m = .ok text) : DefinesFactory xs m text := by
  obtain ⟨target, htarget, h⟩ := bind_eq_ok_iff.1 h
  obtain ⟨lines, hlines, h⟩ := bind_eq_ok_iff.1 h
  cases h
  have hfields := forall₂_of_mapM (mapError_eq_ok_iff.1 hlines)
    fun f hf line => iteratesOver (hm f hf)
  exact ⟨target, lines, rfl, factoryTarget_eq_ok (mapError_eq_ok_iff.1 htarget), hfields⟩

theorem iteratorsResolve (hs : s.ResolvesEnums) (h : factories s = .ok text) :
    IteratorsResolve s text := by
  obtain ⟨classes, hclasses, h⟩ := bind_eq_ok_iff.1 h
  cases h
  refine ⟨classes, forall₂_of_mapM hclasses fun m hm text => ?_, rfl⟩
  exact definesFactory fun f hf henum => upper_mem_constants (hs m hm f hf henum)

end Django

namespace Haskell

def dataTypes (s : Schema) : List String :=
  s.enumerations.map fun e => Text.pascalCase e.name

/-- The data type that is named for the enumeration has a constructor for each key. -/
def DeclaresData (e : Enumeration) (text : String) : Prop :=
  text = "\ndata " ++ Text.pascalCase e.name ++ " = " ++
    " | ".intercalate (e.keys.map fun key => Text.pascalCase key.display) ++
      " deriving (Show, Eq, Generic)\n"

/-- The line gives the field its type. If the field refers to an enumeration and is no primary key,
the type is one of `types`, perhaps wrapped. -/
def HasType (types : List String) (f : Field) (line : String) : Prop :=
  ∃ lead gap wrapper type,
    line = lead ++ f.name .haskell ++ .ofList (List.replicate gap ' ') ++ ":: " ++ wrapper ++ type ∧
    (lead = "\x7b " ∨ lead = ", ") ∧ (wrapper = "" ∨ wrapper = "Maybe ") ∧
    (f.IsEnumerated → f.spec.index ≠ .pk → type ∈ types)

def DeclaresRecord (types : List String) (m : Model) (text : String) : Prop :=
  ∃ lines,
    text = "\ndata " ++ m.className ++ " = " ++ m.className ++ "\n" ++ indented lines ++
      "    \x7d deriving (Show, Generic)\n" ∧
    List.Forall₂ (HasType types) m.fields lines

/-- The data types of enumerations are declared before records. -/
def TypesResolve (s : Schema) (text : String) : Prop :=
  DeclaresFirst s ("-- " ++ s.name ++ " records\n\x7b-# LANGUAGE DeriveGeneric #-\x7d\nmodule " ++
      Text.pascalCase s.name ++ " where\n\nimport Data.Time\nimport GHC.Generics\n")
    DeclaresData (DeclaresRecord (dataTypes s)) text

variable {types : List String}

theorem declaresData (e : Enumeration) : DeclaresData e (enumeration e) := rfl

theorem hasType (hf : f.IsEnumerated → Text.pascalCase f.spec.name ∈ types) {lead : String}
    (hlead : lead = "\x7b " ∨ lead = ", ") (h : f.definition .haskell = .ok line) :
    HasType types f (lead ++ line) := by
  obtain ⟨type, htype, rfl⟩ := map_eq_ok_iff.1 (f.haskellDefinition_eq.symm.trans h)
  have hmember : f.IsEnumerated → f.spec.index ≠ .pk → type ∈ types := by
    intro henum hpk
    rw [Field.haskellBaseType, if_neg (by simpa [Field.isPk] using hpk),
      if_pos (Field.isEnum_iff.2 henum)] at htype
    cases htype
    exact hf henum
  obtain ⟨wrapper, hwrapped, hwrapper⟩ := f.exists_wrapper type
  obtain ⟨gap, hline⟩ : ∃ gap, f.haskellLine (wrapper ++ type) =
    f.name .haskell ++ .ofList (List.replicate gap ' ') ++ ":: " ++ (wrapper ++ type) := ⟨_, rfl⟩
  refine ⟨lead, gap, wrapper, type, ?_, hlead, hwrapper, hmember⟩
  rw [hwrapped, hline]
  simp only [String.append_assoc]

theorem forall₂_recordLines {R : Field → String → Prop} {fields : List Field} {lines : List String}
    (h : List.Forall₂ (fun f line => ∀ lead, lead = "\x7b " ∨ lead = ", " → R f (lead ++ line))
      fields lines) : List.Forall₂ R fields (recordLines lines) := by
  cases h with
  | nil => exact .nil
  | cons hfirst hrest =>
    refine .cons (hfirst _ (.inl rfl)) ?_
    rw [List.forall₂_map_right_iff]
    exact hrest.imp fun f line hline => hline _ (.inr rfl)

theorem declaresRecord (hm : ∀ f ∈ m.fields, f.IsEnumerated → Text.pascalCase f.spec.name ∈ types)
    (h : record m = .ok text) : DeclaresRecord types m text := by
  obtain ⟨lines, hlines, h⟩ := bind_eq_ok_iff.1 h
  cases h
  refine ⟨recordLines lines, rfl, forall₂_recordLines ?_⟩
  exact forall₂_of_mapM hlines fun f hf line h lead hlead => hasType (hm f hf) hlead h

theorem typesResolve (hs : s.ResolvesEnums) (h : Haskell.text s = .ok text) :
    TypesResolve s text := by
  obtain ⟨records, hrecords, h⟩ := bind_eq_ok_iff.1 h
  cases h
  refine declaresFirst enumeration declaresData hrecords fun m hm text => ?_
  refine declaresRecord fun f hf henum => ?_
  obtain ⟨e, he, hname⟩ := List.mem_map.1 (hs m hm f hf henum)
  exact List.mem_map.2 ⟨e, he, congrArg Text.pascalCase hname⟩

end Haskell

end Script

end RelSchema
