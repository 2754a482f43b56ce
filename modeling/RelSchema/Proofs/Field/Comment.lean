import RelSchema.Proofs.Declaration.Abap
import RelSchema.Proofs.Field.Defaults
import RelSchema.Proofs.Field.ForeignKey
import RelSchema.Proofs.Text.Lines
import RelSchema.Proofs.Value.Display

namespace RelSchema

open Text (IsLine blanks behindLine isLine_append isLine_blanks)

/-- The mark that begins the comment of a declaration. SQL has none without a description. -/
def Dialect.commentMark? (d : Dialect) (description : String) : Option String :=
  if d = .abap then some "\"" else if description.isEmpty then none else some "--"

/-- The declaration once everything is deleted from the mark before the description to the end of
the line that the mark is in. -/
def withoutComment? (d : Dialect) (description text : String) : Option String :=
  match d.commentMark? description with
  | none => some text
  | some mark =>
    (Text.dropSuffix? text (mark ++ " " ++ description)).map (· ++ behindLine description)

theorem withoutComment?_append {d : Dialect} {description mark : String}
    (h : d.commentMark? description = some mark) (code : String) :
    withoutComment? d description (code ++ (mark ++ " " ++ description)) =
      some (code ++ behindLine description) := by
  simp only [withoutComment?, h, Text.dropSuffix?_append, Option.map_some]

theorem withComment_empty (line : String) (offset : Nat) : withComment line offset "" = line :=
  if_pos (by simp)

theorem withComment_of_ne {offset : Nat} {description : String} (hoffset : offset ≠ 0)
    (hdescription : description ≠ "") (line : String) :
    withComment line offset description =
      line ++ blanks (offset - Text.width line - 5 + 1) ++ ("--" ++ " " ++ description) := by
  have hblanks : ∀ n, blanks (n + 1) = " " ++ blanks n := by
    intro n
    rw [← String.toList_inj]
    simp [blanks, List.replicate_succ]
  rw [withComment_eq, if_neg (by simp [hoffset, hdescription]), hblanks]
  simp only [String.append_assoc]
  rfl

namespace Field

variable {f : Field} {d : Dialect}

theorem name_of_ne_haskell (hd : d ≠ .haskell) : f.name d = f.spec.name := by
  unfold name
  split
  · exact absurd rfl hd
  · rfl

theorem isLine_typeName? {t : BaseType} {type : String} (h : d.typeName? t = some type) :
    IsLine type := by
  have hall : ∀ (d : Dialect) (t : BaseType), (d.typeName? t).all (!·.toList.contains '\n') := by
    intro d t
    cases d <;> cases t <;> decide
  have htype := hall d t
  rw [h] at htype
  simpa [IsLine] using htype

theorem isLine_natText (n : Nat) : IsLine (toString n) := by
  intro hmem
  have hplain := List.all_eq_true.1 (isPlain_natText n).all _ hmem
  revert hplain
  decide

theorem isLine_columnType? {t : BaseType} {length : Option UInt32} {type : String}
    (h : d.columnType? t length = some type) : IsLine type := by
  cases t with
  | str =>
    cases length with
    | some n =>
      obtain ⟨name, hname, rfl⟩ := Option.map_eq_some_iff.1 h
      have hname := isLine_typeName? hname
      split
      · rw [isLine_append, isLine_append, isLine_append]
        exact ⟨⟨⟨hname, by decide⟩, isLine_natText _⟩, by decide⟩
      · exact hname
    | none => exact isLine_typeName? h
  | _ => exact isLine_typeName? h

theorem isLine_typeName (hd : d ≠ .haskell) (hname : IsLine f.spec.name) {type : String}
    (h : f.typeName d = .ok type) : IsLine type := by
  obtain ⟨type, htype, h⟩ := bind_eq_ok_iff.1 h
  obtain ⟨t, _, htype⟩ := bind_eq_ok_iff.1 htype
  cases h
  split
  · rwa [name_of_ne_haskell hd]
  · split at htype
    · rename_i hcolumn
      cases htype
      exact isLine_columnType? hcolumn
    · cases htype

theorem isLine_defaultLiteral {v : Value} (h : IsLine v.display) : IsLine (defaultLiteral v) := by
  cases v with
  | text s =>
    rw [defaultLiteral, isLine_append, isLine_append]
    exact ⟨⟨by decide, h⟩, by decide⟩
  | _ => exact h

theorem isLine_defaultClause? (hd : d.isSql = true ∨ d = .abap) (h : IsLine f.spec.default.display)
    {clause : String} (hclause : f.defaultClause? d = some clause) : IsLine clause := by
  have hliteral := isLine_defaultLiteral h
  rcases hd with hd | rfl
  · rw [defaultClause?_of_isSql hd, Option.ite_none_right_eq_some, Option.some.injEq] at hclause
    obtain ⟨_, rfl⟩ := hclause
    exact isLine_append.2 ⟨by decide, hliteral⟩
  · rw [defaultClause?, Option.ite_none_right_eq_some, Option.some.injEq] at hclause
    obtain ⟨_, rfl⟩ := hclause
    exact isLine_append.2 ⟨by decide, hliteral⟩

theorem isLine_referencedTable_iff (hname : IsLine f.spec.name) :
    IsLine f.referencedTable ↔ (f.isSelfReference = true → IsLine f.modelName) := by
  unfold referencedTable
  split
  · rename_i hself
    simp [hself]
  · rename_i hself
    simp [hself, hname.stripId]

/-- Of what a column is declared to be, only the name of its own model can have several lines. -/
theorem isLine_roleWords_iff (hd : d.isSql = true) (hname : IsLine f.spec.name)
    (hdefault : IsLine f.spec.default.display) :
    (∀ word ∈ (f.sqlRole d).words, IsLine word) ↔
      (f.isSelfReference = true → IsLine f.modelName) := by
  have hself : f.isSelfReference = true → f.isPk = false ∧ f.isFk = true := by
    intro h
    have hfk := (Bool.and_eq_true_iff.1 h).1
    exact ⟨isPk_of_isFk hfk, hfk⟩
  unfold sqlRole
  split
  · rename_i hpk
    refine iff_of_true ?_ fun h => ?_
    · simp +decide
    · rw [(hself h).1] at hpk
      cases hpk
  · split
    · simp +decide [ColumnRole.words, isLine_referencedTable_iff hname]
    · rename_i hreference
      refine iff_of_true ?_ fun h => ?_
      · split
        · rename_i clause hclause
          simp [ColumnRole.words, isLine_defaultClause? (.inl hd) hdefault hclause]
        · simp [ColumnRole.words]
      · rw [(hself h).2] at hreference
        exact absurd rfl hreference

theorem isLine_sqlColumn_iff (hd : d.isSql = true) (hname : IsLine f.spec.name)
    (hdefault : IsLine f.spec.default.display) (hconstraint : IsLine f.spec.constraint)
    {column : SqlColumn} (h : f.sqlColumn d = .ok column) :
    IsLine column.text ↔ (f.isSelfReference = true → IsLine f.modelName) := by
  obtain ⟨type, htype, h⟩ := bind_eq_ok_iff.1 h
  cases h
  have hhaskell : d ≠ .haskell := by
    rintro rfl
    cases hd
  have htype := isLine_typeName hhaskell hname htype
  have hseparator : IsLine (f.separator d) := by
    rw [f.separator_of_isSql hd]
    split <;> decide
  rw [← isLine_roleWords_iff hd hname hdefault, SqlColumn.text, isLine_append,
    Text.isLine_intercalate (by decide), and_iff_left hseparator, f.name_of_isSql hd]
  split <;> split <;> simp +decide [hname, htype, hconstraint, or_imp, forall_and]

theorem isLine_abapComponent (hname : IsLine f.spec.name) (hdefault : IsLine f.spec.default.display)
    {component : String} (h : f.abapComponent = .ok component) : IsLine component := by
  obtain ⟨type, htype, h⟩ := bind_eq_ok_iff.1 h
  cases h
  have htype := isLine_typeName (by decide) hname htype
  have hseparator : IsLine (f.separator .abap) := by
    unfold separator
    split <;> decide
  have hdefault : ∀ clause, f.defaultClause? .abap = some clause → IsLine clause := fun _ =>
    isLine_defaultClause? (.inr rfl) hdefault
  simp only [Text.padRight_eq, isLine_append, isLine_blanks, name]
  refine ⟨⟨⟨⟨⟨hname, trivial⟩, by decide⟩, htype⟩, ?_⟩, hseparator⟩
  cases hclause : f.defaultClause? .abap with
  | none => decide
  | some clause => exact isLine_append.2 ⟨by decide, hdefault clause hclause⟩

def withoutDescription (f : Field) : Field :=
  { f with spec := f.spec.withDescription "" }

/-- The declaration is one line, and without its comment it is what it would be without a
description, but for blanks at its end. -/
def StaysInComment (d : Dialect) (f : Field) : Prop :=
  ∃ text bare code bareCode n, f.definition d = .ok text ∧
    f.withoutDescription.definition d = .ok bare ∧
    withoutComment? d f.spec.description text = some code ∧
    withoutComment? d "" bare = some bareCode ∧
    IsLine text ∧ code = bareCode ++ blanks n

/-- Without their comments, the declarations with and without the description differ by blanks and
by what stands behind the description's first line. -/
def HasCode (d : Dialect) (f : Field) (code : String) : Prop :=
  ∃ text bare n, f.definition d = .ok text ∧ f.withoutDescription.definition d = .ok bare ∧
    withoutComment? d f.spec.description text =
      some (code ++ blanks n ++ behindLine f.spec.description) ∧
    withoutComment? d "" bare = some code ∧
    (IsLine text ↔ IsLine code ∧ IsLine f.spec.description)

theorem StaysInComment.isLine {text : String} (h : f.StaysInComment d)
    (hdef : f.definition d = .ok text) : IsLine text := by
  obtain ⟨text', _, _, _, _, hdef', _, _, _, hline, _⟩ := h
  cases hdef.symm.trans hdef'
  exact hline

theorem HasCode.staysInComment_iff {code : String} (h : f.HasCode d code) :
    f.StaysInComment d ↔ IsLine code ∧ IsLine f.spec.description := by
  obtain ⟨text, bare, n, hdef, hbareDef, hcode, hbareCode, hline⟩ := h
  constructor
  · intro hstays
    exact hline.1 (hstays.isLine hdef)
  · rintro ⟨hcodeLine, hdescription⟩
    rw [hdescription.behindLine_eq, String.append_empty] at hcode
    exact ⟨text, bare, _, code, n, hdef, hbareDef, hcode, hbareCode,
      hline.2 ⟨hcodeLine, hdescription⟩, rfl⟩

theorem sqlColumn_withoutDescription : f.withoutDescription.sqlColumn d = f.sqlColumn d := rfl

theorem hasCode_of_isSql (hd : d.isSql = true) (hoffset : f.options.commentOffset ≠ 0)
    {column : SqlColumn} (h : f.sqlColumn d = .ok column) : f.HasCode d column.text := by
  have habap : d ≠ .abap := by
    rintro rfl
    cases hd
  have hdef : ∀ g : Field, g.sqlColumn d = .ok column →
      g.definition d =
        .ok (withComment column.text g.options.commentOffset g.spec.description) := by
    intro g hg
    rw [definition_eq_map_sqlColumn hd, hg]
    rfl
  have htext := hdef f h
  have hbare := hdef f.withoutDescription (sqlColumn_withoutDescription.trans h)
  have hbareCode : withoutComment? d "" column.text = some column.text := by
    simp [withoutComment?, Dialect.commentMark?, habap]
  rw [show f.withoutDescription.spec.description = "" from rfl, withComment_empty] at hbare
  by_cases hdescription : f.spec.description = ""
  · rw [hdescription, withComment_empty] at htext
    refine ⟨_, _, 0, htext, hbare, ?_, hbareCode, ?_⟩
    · rw [hdescription, hbareCode]
      simp [blanks, behindLine]
    · simp [hdescription, IsLine]
  · have hmark : d.commentMark? f.spec.description = some "--" := by
      simp [Dialect.commentMark?, habap, hdescription]
    rw [withComment_of_ne hoffset hdescription] at htext
    refine ⟨_, _, _, htext, hbare, withoutComment?_append hmark _, hbareCode, ?_⟩
    simp +decide

theorem hasCode_abap {component : String} (h : f.abapComponent = .ok component) :
    f.HasCode .abap (Text.padRight component 30 ++ " ") := by
  have hdef : ∀ g : Field, g.abapComponent = .ok component → g.definition .abap =
      .ok (Text.padRight component 30 ++ " " ++ ("\"" ++ " " ++ g.spec.description)) := by
    intro g hg
    change g.abapDefinition = _
    rw [abapDefinition_eq, hg]
    rfl
  have hbare := hdef f.withoutDescription h
  refine ⟨_, _, 0, hdef f h, hbare, ?_, ?_, ?_⟩
  · rw [withoutComment?_append rfl]
    simp [blanks]
  · rw [show f.withoutDescription.spec.description = "" from rfl, withoutComment?_append rfl]
    simp [behindLine]
  · simp +decide

/-- A declaration whose other parts are lines keeps its description in the comment exactly if the
description is a line. Behind a first line, a description goes on outside of the comment. -/
theorem description_stays_in_comment_iff
    (hd : d.isSql = true ∧ f.options.commentOffset ≠ 0 ∨ d = .abap) (htyped : f.spec.type ≠ none)
    (hname : IsLine f.spec.name) (hdefault : IsLine f.spec.default.display)
    (hconstraint : IsLine f.spec.constraint) :
    f.StaysInComment d ↔ IsLine f.spec.description ∧
      (d.isSql = true → f.isSelfReference = true → IsLine f.modelName) := by
  rcases hd with ⟨hd, hoffset⟩ | rfl
  · obtain ⟨column, hcolumn, _⟩ := exists_sqlColumn htyped hd
    rw [(hasCode_of_isSql hd hoffset hcolumn).staysInComment_iff,
      isLine_sqlColumn_iff hd hname hdefault hconstraint hcolumn, and_comm]
    simp only [hd, forall_const]
  · obtain ⟨component, hcomponent, _⟩ :=
      exists_eq_ok_of_eq_map (y := f.definition .abap) abapDefinition_eq
        (exists_definition htyped (by decide) fun h => absurd h (by decide))
    have hline : IsLine (Text.padRight component 30 ++ " ") := by
      simp +decide [Text.padRight_eq, isLine_abapComponent hname hdefault hcomponent]
    rw [(hasCode_abap hcomponent).staysInComment_iff, and_iff_right hline]
    exact (and_iff_left fun h => absurd h (by decide)).symm

/-- A node's reference to the node above it. -/
def parentNode : Field where
  spec := {
    name := "parent_id", type := some .int, index := .fk, constraint := "on delete cascade"
    description := "\"none\" -- or the node above;\tas {} in the tree" }
  owner := some { name := "node" }
  options := { commentOffset := 60 }

theorem description_stays_in_comment_iff_node :
    parentNode.StaysInComment .pgEnum ∧ parentNode.StaysInComment .abap := by
  have hdescription : IsLine parentNode.spec.description ∧ IsLine parentNode.modelName := by decide
  refine ⟨?_, ?_⟩
  · exact (description_stays_in_comment_iff (.inl ⟨rfl, by decide⟩) (by decide) (by decide)
      (by decide) (by decide)).2 ⟨hdescription.1, fun _ _ => hdescription.2⟩
  · exact (description_stays_in_comment_iff (.inr rfl) (by decide) (by decide) (by decide)
      (by decide)).2 ⟨hdescription.1, fun _ _ => hdescription.2⟩

end Field

/-- Memos, described by two lines. -/
def Document.memos : Document where
  models := [
    { name := "memo"
      fields := [[("name", .text "body"), ("type", .text "txt"),
        ("description", .text "first\nsecond")]] }]

/-- The second line of a description is code of the table, and of the structure. -/
theorem Field.description_leaves_comment_memo :
    ∃ s, Document.memos.toSchema {} "schema" = .ok s ∧
      ∃ m ∈ s.models, ∃ f ∈ (m.retarget none { commentOffset := 14 }).fields,
        IsLine f.spec.name ∧ IsLine f.spec.default.display ∧ IsLine f.spec.constraint ∧
        f.definition .sql = .ok "body text -- first\nsecond" ∧
        withoutComment? .sql f.spec.description "body text -- first\nsecond" =
          some "body text \nsecond" ∧
        f.definition .abap = .ok "body       STRING.             \" first\nsecond" ∧
        ¬ f.StaysInComment .sql ∧ ¬ f.StaysInComment .abap := by
  obtain ⟨s, hs, m, hm, f, hf, hname, hdefault, hconstraint, hsql, hcode, habap⟩ :=
    exists_eq_ok_of_any (x := Document.memos.toSchema {} "schema")
    (p := fun s => ∃ m ∈ s.models, ∃ f ∈ (m.retarget none { commentOffset := 14 }).fields,
      IsLine f.spec.name ∧ IsLine f.spec.default.display ∧ IsLine f.spec.constraint ∧
      f.definition .sql = .ok "body text -- first\nsecond" ∧
      withoutComment? .sql f.spec.description "body text -- first\nsecond" =
        some "body text \nsecond" ∧
      f.definition .abap = .ok "body       STRING.             \" first\nsecond")
    (by decide +kernel)
  exact ⟨s, hs, m, hm, f, hf, hname, hdefault, hconstraint, hsql, hcode, habap,
    fun h => absurd (h.isLine hsql) (by decide), fun h => absurd (h.isLine habap) (by decide)⟩

end RelSchema
