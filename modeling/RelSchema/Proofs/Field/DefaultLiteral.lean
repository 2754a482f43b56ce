import RelSchema.Proofs.Field.Defaults
import RelSchema.Proofs.Script.Sql.Scanning

namespace RelSchema

open Script.Sql

/-- The text does not go on with a quote, so a quote before it is not doubled. -/
def EndsQuote (after : String) : Prop :=
  after.toList.head? ≠ some '\''

theorem EndsQuote.append {after rest : String} (h : EndsQuote after) (hrest : EndsQuote rest) :
    EndsQuote (after ++ rest) := by
  unfold EndsQuote at *
  rw [String.toList_append, List.head?_append]
  cases hhead : after.toList.head? with
  | none => exact hrest
  | some c => rwa [hhead] at h

theorem endsQuote_of_blank (rest : String) : EndsQuote (" " ++ rest) := by
  simp [EndsQuote]

theorem exists_withComment (line : String) (offset : Nat) (description : String) :
    ∃ comment, withComment line offset description = line ++ comment ∧ EndsQuote comment := by
  obtain ⟨comment, htext, hcomment⟩ := exists_comment line offset description
  refine ⟨comment, htext, ?_⟩
  rcases hcomment with rfl | ⟨n, rfl⟩
  · simp [EndsQuote]
  · exact endsQuote_of_blank _

theorem SqlColumn.exists_text_of_default {column : SqlColumn} {clause : String}
    (hrole : column.role = .default clause) (hseparator : EndsQuote column.separator) :
    ∃ after, column.text = column.name ++ " " ++ column.type ++ " " ++ clause ++ after ∧
      EndsQuote after := by
  have htext : column.text = " ".intercalate ([column.name, column.type, clause] ++
      (column.constraint.toList ++ if column.isRequired then ["not null"] else [])) ++
        column.separator := by
    simp only [text, hrole, ColumnRole.words, List.append_assoc]
    rfl
  rw [htext]
  generalize column.constraint.toList ++ (if column.isRequired then ["not null"] else []) = words
  cases words with
  | nil =>
    refine ⟨column.separator, ?_, hseparator⟩
    simp [String.intercalate_cons_cons, String.append_assoc]
  | cons word words =>
    refine ⟨" " ++ (" ".intercalate (word :: words) ++ column.separator), ?_, endsQuote_of_blank _⟩
    rw [String.intercalate_append_of_ne_nil (by simp) (by simp)]
    simp [String.intercalate_cons_cons, String.append_assoc]

namespace Field

variable {f : Field} {d : Dialect}

theorem endsQuote_separator (hd : d.isSql = true) : EndsQuote (f.separator d) := by
  rw [f.separator_of_isSql hd]
  split <;> simp [EndsQuote]

theorem scanCell_defaultLiteral_iff (s : String) {rest : List Char} (h : rest.head? ≠ some '\'') :
    scanCell ((defaultLiteral (.text s)).toList ++ rest) = some (.quoted s, rest) ↔
      '\'' ∉ s.toList := by
  have htext : (defaultLiteral (.text s)).toList ++ rest = '\'' :: (s.toList ++ '\'' :: rest) := by
    simp [defaultLiteral]
  rw [htext, scanCell, ← scanQuoted_append_iff h, Option.map_eq_some_iff]
  constructor
  · rintro ⟨⟨inside, after⟩, hscan, heq⟩
    cases heq
    rwa [String.toList_ofList] at hscan ⊢
  · intro hscan
    exact ⟨_, hscan, by simp⟩

theorem defaultLiteral_eq_literal_iff (s : String) :
    defaultLiteral (.text s) = literal (.text s) ↔ '\'' ∉ s.toList := by
  rw [defaultLiteral, literal, quote, String.append_left_inj, String.append_right_inj,
    ← doubleQuotes_eq_self_iff, ← String.toList_inj, String.toList_ofList]
  exact eq_comm

/-- Where a text stands as the default in a column's line, what is scanned is that text, with
nothing of it left over, exactly if it has no quote. -/
theorem default_literal_scans_iff (hd : d.isSql = true) (htyped : f.spec.type ≠ none)
    (hkey : f.isKey = false) {s : String} (hs : f.spec.default = .text s) :
    (f.SqlDefaults d ↔ s ≠ "") ∧
      (s ≠ "" → ∃ column literal after, f.sqlColumn d = .ok column ∧
        column.role = .default ("default " ++ literal) ∧
        f.definition d =
          .ok (column.name ++ " " ++ column.type ++ " " ++ ("default " ++ literal) ++ after) ∧
        (∀ rest, rest = [] ∨ rest = after.toList →
          (scanCell (literal.toList ++ rest) = some (.quoted s, rest) ↔ '\'' ∉ s.toList)) ∧
        (literal = Script.Sql.literal (.text s) ↔ '\'' ∉ s.toList)) := by
  have hgiven : (isZero f.spec.default = true ∨ f.spec.default.isTruthy = true) ↔ s ≠ "" := by
    simp [hs, isZero, Value.isTruthy]
  constructor
  · rw [sqlDefaults_iff hd, hgiven]
    simp [htyped, hkey]
  · intro hne
    obtain ⟨column, hcolumn, hdef⟩ := exists_sqlColumn htyped hd
    have hrole : column.role = .default ("default " ++ defaultLiteral (.text s)) := by
      rw [role_of_sqlColumn hcolumn, sqlRole_eq_default_iff hd, hgiven, hs]
      exact ⟨hkey, hne, rfl⟩
    have hseparator : EndsQuote column.separator := by
      rw [(sqlColumn_eq_ok hcolumn).2.2]
      exact endsQuote_separator hd
    obtain ⟨after, htext, hafter⟩ := SqlColumn.exists_text_of_default hrole hseparator
    obtain ⟨comment, hline, hcomment⟩ :=
      exists_withComment column.text f.options.commentOffset f.spec.description
    rw [hline, htext, String.append_assoc] at hdef
    refine ⟨column, _, after ++ comment, hcolumn, hrole, hdef, ?_, defaultLiteral_eq_literal_iff s⟩
    rintro rest (rfl | rfl)
    · exact scanCell_defaultLiteral_iff s (by simp)
    · exact scanCell_defaultLiteral_iff s (hafter.append hcomment)

/-- The state of a ticket, and what it may be. -/
def ticketState : Field where
  spec := {
    name := "state", type := some .str, length := some 9, required := some 1
    constraint := "check (state <> 'void')", default := .text "new, open", description := "it's" }

theorem default_literal_scans_iff_ticket :
    ∃ column literal after, ticketState.sqlColumn .postgres = .ok column ∧
      column.role = .default ("default " ++ literal) ∧
      ticketState.definition .postgres =
        .ok (column.name ++ " " ++ column.type ++ " " ++ ("default " ++ literal) ++ after) ∧
      scanCell literal.toList = some (.quoted "new, open", []) ∧
      scanCell (literal.toList ++ after.toList) = some (.quoted "new, open", after.toList) ∧
      literal = Script.Sql.literal (.text "new, open") := by
  obtain ⟨_, hliteral⟩ := default_literal_scans_iff (f := ticketState) (d := .postgres) rfl
    (by decide) rfl rfl
  obtain ⟨column, literal, after, hcolumn, hrole, hdef, hscan, hwritten⟩ := hliteral (by decide)
  have hquote : '\'' ∉ "new, open".toList := by decide
  have halone := (hscan [] (.inl rfl)).2 hquote
  rw [List.append_nil] at halone
  exact ⟨column, literal, after, hcolumn, hrole, hdef, halone, (hscan _ (.inr rfl)).2 hquote,
    hwritten.2 hquote⟩

end Field

/-- Songs with a title unless another one is given. -/
def Document.songs : Document where
  models := [
    { name := "song"
      fields := [[("name", .text "title"), ("type", .text "txt"), ("default", .text "it's")]] }]

/-- The quote in a title ends the literal of the title. -/
theorem Field.default_literal_broken_songs :
    ∃ s, Document.songs.toSchema {} "schema" = .ok s ∧
      ∃ m ∈ s.models, ∃ f ∈ (m.retarget none {}).fields, f.isKey = false ∧
        f.spec.default = .text "it's" ∧ f.definition .sql = .ok "title text default 'it's'" ∧
        f.defaultClause? .sql = some ("default " ++ "'it's'") ∧
        Script.Sql.scanCell "'it's'".toList = some (.quoted "it", ['s', '\'']) ∧
        Script.Sql.literal (.text "it's") = "'it''s'" := by
  obtain ⟨s, hs, m, hm, f, hf, hkey, hdefault, hdef, hclause⟩ := exists_eq_ok_of_any
    (x := Document.songs.toSchema {} "schema")
    (p := fun s => ∃ m ∈ s.models, ∃ f ∈ (m.retarget none {}).fields, f.isKey = false ∧
      f.spec.default = .text "it's" ∧ f.definition .sql = .ok "title text default 'it's'" ∧
      f.defaultClause? .sql = some ("default " ++ "'it's'")) (by decide +kernel)
  exact ⟨s, hs, m, hm, f, hf, hkey, hdefault, hdef, hclause, by decide, by decide⟩

end RelSchema
