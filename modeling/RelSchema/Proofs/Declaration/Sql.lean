import RelSchema.Declaration
import RelSchema.Proofs.Field.Typing
import RelSchema.Proofs.Text.Lines
import RelSchema.Proofs.Text.Replacement

namespace RelSchema

open Text (blanks)

/-- The line of a column up to its separator. -/
def SqlColumn.declaration (column : SqlColumn) : String :=
  { column with separator := "" }.text

theorem SqlColumn.text_eq (column : SqlColumn) :
    column.text = column.declaration ++ column.separator := by
  simp only [text, declaration, String.append_empty]

/-- The template has one place for the description, behind the dashes. -/
theorem replace_padLeft (columns : Nat) (description : String) :
    Text.replace (Text.padLeft "-- \x7b\x7d" columns) "\x7b\x7d" description =
      blanks (columns - 5) ++ "-- " ++ description := by
  have hwidth : Text.width "-- \x7b\x7d" = 5 := by decide +kernel
  have htemplate : Text.padLeft "-- \x7b\x7d" columns =
      blanks (columns - 5) ++ "-- " ++ "\x7b\x7d" := by
    rw [Text.padLeft, hwidth, String.append_assoc]
    rfl
  have hbefore : ¬ ['\x7b', '\x7d'] <:+: (blanks (columns - 5) ++ "-- ").toList := by
    intro hinfix
    have hmem : '\x7b' ∈ (blanks (columns - 5) ++ "-- ").toList :=
      hinfix.subset List.mem_cons_self
    simp [blanks] at hmem
  rw [htemplate]
  generalize blanks (columns - 5) ++ "-- " = before at hbefore ⊢
  rw [Text.replace, String.toList_append, ← String.toList_inj, String.toList_ofList,
    String.toList_append]
  exact Text.replaceList_append_self (by decide) hbefore

theorem withComment_eq (line : String) (offset : Nat) (description : String) :
    withComment line offset description =
      if offset = 0 || description.isEmpty then line
      else line ++ " " ++ (blanks (offset - Text.width line - 5) ++ "-- " ++ description) := by
  rw [withComment]
  simp only [replace_padLeft]

theorem exists_comment (line : String) (offset : Nat) (description : String) :
    ∃ comment, withComment line offset description = line ++ comment ∧
      (comment = "" ∨ ∃ n, comment = " " ++ (blanks n ++ "-- " ++ description)) := by
  rw [withComment_eq]
  split
  · exact ⟨"", String.append_empty.symm, .inl rfl⟩
  · exact ⟨_, String.append_assoc .., .inr ⟨_, rfl⟩⟩

namespace Field

variable {d : Dialect} (f : Field)

theorem name_of_isSql (hd : d.isSql = true) : f.name d = f.spec.name := by
  cases d with
  | sql | sqlite | postgres | pgEnum => rfl
  | _ => cases hd

theorem separator_of_isSql (hd : d.isSql = true) :
    f.separator d = if f.isLast then "" else "," := by
  cases d with
  | sql | sqlite | postgres | pgEnum => rfl
  | _ => cases hd

theorem definition_of_isSql (hd : d.isSql = true) : f.definition d = f.sqlDefinition d := by
  cases d with
  | sql | sqlite | postgres | pgEnum => rfl
  | _ => cases hd

variable {f}

theorem sqlDefinition_eq :
    f.sqlDefinition d = (f.sqlColumn d).map fun column =>
      withComment column.text f.options.commentOffset f.spec.description := by
  rw [sqlDefinition]
  cases f.sqlColumn d <;> rfl

theorem definition_eq_map_sqlColumn (hd : d.isSql = true) :
    f.definition d = (f.sqlColumn d).map fun column =>
      withComment column.text f.options.commentOffset f.spec.description :=
  (f.definition_of_isSql hd).trans sqlDefinition_eq

theorem sqlColumn_eq_ok {column : SqlColumn} (h : f.sqlColumn d = .ok column) :
    f.typeName d = .ok column.type ∧ column.isRequired = f.isRequired ∧
      column.separator = f.separator d := by
  obtain ⟨type, htype, h⟩ := bind_eq_ok_iff.1 h
  cases h
  exact ⟨htype, rfl, rfl⟩

end Field

end RelSchema
