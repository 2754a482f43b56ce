import Mathlib.Data.List.TakeWhile
import RelSchema.Proofs.Field.Cascade
import RelSchema.Proofs.Field.Declared

namespace RelSchema

namespace Constraint

open Text

/-- The beginnings, in lower case, by which a constraint becomes part of a column. -/
inductive BeginsInline : List Char → Prop
  | unique (rest : List Char) : BeginsInline ("unique".toList ++ rest)
  | cascade (e : Cascade) {gap gap' : Char} (hgap : isBlank gap = true)
      (hgap' : isBlank gap' = true) (rest : List Char) : BeginsInline (e.clause gap gap' ++ rest)
  | check {blanks inside : List Char} (hblanks : ∀ c ∈ blanks, isBlank c = true)
      (hinside : inside ≠ []) (hline : '\n' ∉ inside) (rest : List Char) :
      BeginsInline ("check".toList ++ (blanks ++ '(' :: (inside ++ ')' :: rest)))

variable {word : String} {cs rest : List Char}

theorem afterWord?_eq_some_iff : afterWord? word cs = some rest ↔ cs = word.toList ++ rest := by
  constructor
  · intro h
    obtain ⟨hword, hrest⟩ := Option.ite_none_right_eq_some.1 h
    obtain ⟨tail, rfl⟩ := List.isPrefixOf_iff_prefix.1 hword
    rw [List.drop_left] at hrest
    rw [Option.some.inj hrest]
  · rintro rfl
    exact afterWord?_append word rest

theorem exists_of_afterBlank? (h : afterBlank? cs = some rest) :
    ∃ gap, isBlank gap = true ∧ cs = gap :: rest := by
  cases cs with
  | nil => cases h
  | cons c cs =>
    obtain ⟨hblank, hcs⟩ := Option.ite_none_right_eq_some.1 h
    exact ⟨c, hblank, congrArg (c :: ·) (Option.some.inj hcs)⟩

theorem isUnique_iff : isUnique cs = true ↔ ∃ rest, cs = "unique".toList ++ rest := by
  rw [isUnique, Option.isSome_iff_exists]
  simp only [afterWord?_eq_some_iff]

theorem exists_clause_of_isCascade (h : isCascade cs = true) :
    ∃ (e : Cascade) (gap gap' : Char) (rest : List Char), isBlank gap = true ∧
      isBlank gap' = true ∧ cs = e.clause gap gap' ++ rest := by
  rw [isCascade_eq] at h
  obtain ⟨rest, h⟩ := Option.isSome_iff_exists.1 h
  obtain ⟨last, h, hcascade⟩ := Option.bind_eq_some_iff.1 h
  obtain ⟨behind, h, hlast⟩ := Option.bind_eq_some_iff.1 h
  obtain ⟨event, h, hbehind⟩ := Option.bind_eq_some_iff.1 h
  obtain ⟨first, hfirst, hevent⟩ := Option.bind_eq_some_iff.1 h
  have hword : ∃ e : Cascade, event = e.word.toList ++ behind := by
    rcases Option.or_eq_some_iff.1 hbehind with hdelete | ⟨_, hupdate⟩
    · exact ⟨.delete, afterWord?_eq_some_iff.1 hdelete⟩
    · exact ⟨.update, afterWord?_eq_some_iff.1 hupdate⟩
  obtain ⟨e, rfl⟩ := hword
  obtain ⟨gap, hgap, rfl⟩ := exists_of_afterBlank? hevent
  obtain ⟨gap', hgap', rfl⟩ := exists_of_afterBlank? hlast
  obtain rfl := afterWord?_eq_some_iff.1 hcascade
  obtain rfl := afterWord?_eq_some_iff.1 hfirst
  exact ⟨e, gap, gap', rest, hgap, hgap', by simp [Cascade.clause]⟩

theorem contains_bracket_iff :
    ((cs.takeWhile (· ≠ '\n')).drop 1).contains ')' = true ↔
      ∃ inside rest, cs = inside ++ ')' :: rest ∧ inside ≠ [] ∧ '\n' ∉ inside := by
  rw [List.contains_iff_mem]
  constructor
  · intro h
    have hcs := List.takeWhile_append_dropWhile (p := (· ≠ '\n')) (l := cs)
    have hline : '\n' ∉ cs.takeWhile (· ≠ '\n') := fun hmem => by
      simpa using List.mem_takeWhile_imp hmem
    cases htake : cs.takeWhile (· ≠ '\n') with
    | nil =>
      rw [htake] at h
      cases h
    | cons c line =>
      rw [htake] at h hcs hline
      obtain ⟨before, after, rfl⟩ := List.append_of_mem h
      have hinside : '\n' ∉ c :: before := fun hmem =>
        hline (List.mem_append_left (')' :: after) hmem)
      exact ⟨c :: before, _, hcs.symm.trans (List.append_assoc (c :: before) _ _),
        List.cons_ne_nil c before, hinside⟩
  · rintro ⟨inside, rest, rfl, hinside, hline⟩
    obtain ⟨c, inside, rfl⟩ := List.exists_cons_of_ne_nil hinside
    have hpos : ∀ d ∈ c :: inside, decide (d ≠ '\n') = true := fun d hd =>
      decide_eq_true fun heq => hline (heq ▸ hd)
    rw [List.takeWhile_append_of_pos hpos, List.takeWhile_cons_of_pos (by decide)]
    exact List.mem_append_right inside List.mem_cons_self

theorem isCheck_iff :
    isCheck cs = true ↔ ∃ blanks inside rest, (∀ c ∈ blanks, isBlank c = true) ∧ inside ≠ [] ∧
      '\n' ∉ inside ∧ cs = "check".toList ++ (blanks ++ '(' :: (inside ++ ')' :: rest)) := by
  constructor
  · intro h
    unfold isCheck at h
    split at h
    · cases h
    · rename_i behind hbehind
      split at h
      · rename_i inner hinner
        obtain ⟨inside, rest, rfl, hinside, hline⟩ := contains_bracket_iff.1 h
        refine ⟨behind.takeWhile isBlank, inside, rest, fun c => List.mem_takeWhile_imp, hinside,
          hline, ?_⟩
        rw [afterWord?_eq_some_iff.1 hbehind, ← hinner, List.takeWhile_append_dropWhile]
      · cases h
  · rintro ⟨blanks, inside, rest, hblanks, hinside, hline, rfl⟩
    have hbracket : isBlank '(' = false := by decide
    have hdrop : (blanks ++ '(' :: (inside ++ ')' :: rest)).dropWhile isBlank =
        '(' :: (inside ++ ')' :: rest) := by
      rw [List.dropWhile_append_of_pos hblanks, List.dropWhile_cons, hbracket]
      rfl
    simp only [isCheck, afterWord?_append, hdrop]
    exact contains_bracket_iff.2 ⟨inside, rest, rfl, hinside, hline⟩

/-- A constraint becomes part of a column exactly if it begins by the grammar, in any case. -/
theorem isInline_iff {constraint : String} :
    isInline constraint = true ↔ BeginsInline (lower constraint).toList := by
  rw [isInline, Bool.or_eq_true, Bool.or_eq_true, isCheck_iff, isUnique_iff]
  constructor
  · rintro ((⟨blanks, inside, rest, hblanks, hinside, hline, hcs⟩ | ⟨rest, hcs⟩) | h)
    · rw [hcs]
      exact .check hblanks hinside hline rest
    · rw [hcs]
      exact .unique rest
    · obtain ⟨e, gap, gap', rest, hgap, hgap', hcs⟩ := exists_clause_of_isCascade h
      rw [hcs]
      exact .cascade e hgap hgap' rest
  · intro h
    generalize (lower constraint).toList = cs at h
    cases h with
    | unique rest => exact .inl (.inr ⟨rest, rfl⟩)
    | cascade e hgap hgap' rest => exact .inr (isCascade_append hgap hgap' rest)
    | check hblanks hinside hline rest =>
      exact .inl (.inl ⟨_, _, rest, hblanks, hinside, hline, rfl⟩)

end Constraint

open Constraint (BeginsInline isInline isInline_iff)

namespace SqlColumn

/-- The declaration up to the place of a constraint: the name, the type and the role. -/
def front (column : SqlColumn) : String :=
  " ".intercalate ([column.name, column.type] ++ column.role.words)

/-- The declaration behind the place of a constraint. -/
def back (column : SqlColumn) : String :=
  (if column.isRequired then " not null" else "") ++ column.separator

variable {column : SqlColumn}

theorem intercalate_snoc {words : List String} (hne : words ≠ []) (word : String) :
    " ".intercalate (words ++ [word]) = " ".intercalate words ++ (" " ++ word) := by
  rw [String.intercalate_append_of_ne_nil hne (List.cons_ne_nil word []),
    String.intercalate_singleton, String.append_assoc]

theorem text_eq_front :
    column.text = column.front ++ column.constraint.elim "" (" " ++ ·) ++ column.back := by
  have hwords : [column.name, column.type] ++ column.role.words ≠ [] :=
    List.append_ne_nil_of_left_ne_nil (List.cons_ne_nil _ _) _
  have hconstraint : " ".intercalate
      ([column.name, column.type] ++ column.role.words ++ column.constraint.toList) =
        column.front ++ column.constraint.elim "" (" " ++ ·) := by
    cases column.constraint with
    | none =>
      rw [Option.toList_none, List.append_nil]
      exact String.append_empty.symm
    | some constraint => exact intercalate_snoc hwords constraint
  rw [text, back, ← hconstraint]
  split
  · rw [intercalate_snoc (List.append_ne_nil_of_left_ne_nil hwords _), String.append_assoc]
    rfl
  · rw [List.append_nil, String.empty_append]

end SqlColumn

namespace Field

def unconstrained (f : Field) : Field :=
  { f with spec := f.spec.withConstraint "" }

/-- With an offset of zero, a declaration has no comment. -/
def uncommented (f : Field) : Field :=
  f.withOptions { f.options with commentOffset := 0 }

/-- The constraint as it stands, with a blank before it, is all that the declaration has beyond
what it would have without a constraint, and it stands behind the column's role. -/
def CarriesConstraint (d : Dialect) (f : Field) : Prop :=
  ∃ column, f.unconstrained.sqlColumn d = .ok column ∧
    f.unconstrained.uncommented.definition d = .ok (column.front ++ column.back) ∧
    f.uncommented.definition d =
      .ok (column.front ++ (" " ++ f.spec.constraint) ++ column.back)

variable {f : Field} {d : Dialect} {column : SqlColumn}

theorem typeName_unconstrained (henum : d ≠ .pgEnum) :
    f.unconstrained.typeName d = f.typeName d := by
  have hd : decide (d = .pgEnum) = false := decide_eq_false henum
  simp only [typeName, hd, Bool.false_and]
  rfl

theorem isInline_unconstrained : isInline f.unconstrained.spec.constraint = false := by
  have hempty : isInline "" = false := by decide
  exact hempty

theorem sqlColumn_unconstrained (henum : d ≠ .pgEnum) (h : f.sqlColumn d = .ok column) :
    f.unconstrained.sqlColumn d = .ok { column with constraint := none } := by
  obtain ⟨type, htype, h⟩ := bind_eq_ok_iff.1 h
  cases h
  rw [sqlColumn, typeName_unconstrained henum, isInline_unconstrained, htype]
  rfl

theorem constraint_of_sqlColumn (h : f.sqlColumn d = .ok column) :
    column.constraint = if isInline f.spec.constraint then some f.spec.constraint else none := by
  obtain ⟨type, _, h⟩ := bind_eq_ok_iff.1 h
  cases h
  rfl

theorem definition_uncommented (hd : d.isSql = true) (h : f.sqlColumn d = .ok column) :
    f.uncommented.definition d = .ok column.text := by
  have huncommented : f.uncommented.sqlColumn d = .ok column := h
  rw [definition_eq_map_sqlColumn hd, huncommented]
  rfl

/-- A constraint that is not part of the column has no effect at all. -/
theorem definition_unconstrained (hd : d.isSql = true) (henum : d ≠ .pgEnum)
    (hinline : isInline f.spec.constraint = false) :
    f.unconstrained.definition d = f.definition d := by
  have hcolumn : f.unconstrained.sqlColumn d = f.sqlColumn d := by
    rw [sqlColumn, sqlColumn, typeName_unconstrained henum, isInline_unconstrained, hinline]
    rfl
  rw [definition_eq_map_sqlColumn hd, definition_eq_map_sqlColumn hd, hcolumn]
  rfl

theorem definition_of_untyped (hd : d.isSql = true) (huntyped : f.spec.type = none) :
    f.definition d = .error (.missingType f.qualifiedName) := by
  rw [definition_eq_map_sqlColumn hd, sqlColumn, typeName, columnType, baseType, huntyped]
  rfl

/-- The declaration is longer by a blank and the constraint, or it is the same. -/
theorem carriesConstraint_iff_isInline (hd : d.isSql = true) (henum : d ≠ .pgEnum)
    (h : f.sqlColumn d = .ok column) :
    f.CarriesConstraint d ↔ isInline f.spec.constraint = true := by
  have hbare := sqlColumn_unconstrained henum h
  have hdef := definition_uncommented hd h
  have hbareDef := definition_uncommented hd hbare
  have hconstraint := constraint_of_sqlColumn h
  rw [SqlColumn.text_eq_front, hconstraint] at hdef
  rw [SqlColumn.text_eq_front] at hbareDef
  constructor
  · rintro ⟨column', hcolumn', -, hcarried⟩
    cases hbare.symm.trans hcolumn'
    by_contra hinline
    rw [if_neg hinline] at hdef
    have htext := congrArg String.length (Except.ok.inj (hdef.symm.trans hcarried))
    simp [SqlColumn.front, SqlColumn.back] at htext
  · intro hinline
    rw [if_pos hinline] at hdef
    refine ⟨_, hbare, ?_, hdef⟩
    rw [hbareDef]
    simp

/-- A column carries the constraints that begin by the grammar, and other constraints have no effect
on its declaration. -/
theorem constraint_carried_iff (hd : d.isSql = true) (henum : d ≠ .pgEnum) :
    (f.CarriesConstraint d ↔
        f.spec.type ≠ none ∧ BeginsInline (Text.lower f.spec.constraint).toList) ∧
      (¬ f.CarriesConstraint d → f.definition d = f.unconstrained.definition d) := by
  by_cases htyped : f.spec.type = none
  · have hdef := definition_of_untyped hd htyped
    have hbare : f.unconstrained.definition d = .error (.missingType f.qualifiedName) :=
      definition_of_untyped (f := f.unconstrained) hd htyped
    have hnot : ¬ f.CarriesConstraint d := by
      rintro ⟨_, _, _, hcarried⟩
      rw [definition_of_untyped (f := f.uncommented) hd htyped] at hcarried
      cases hcarried
    exact ⟨iff_of_false hnot fun h => h.1 htyped, fun _ => hdef.trans hbare.symm⟩
  · obtain ⟨_, hcolumn, _⟩ := exists_sqlColumn htyped hd
    have hcarries := carriesConstraint_iff_isInline hd henum hcolumn
    refine ⟨?_, fun hnot => ?_⟩
    · rw [hcarries, isInline_iff, and_iff_right htyped]
    · rw [hcarries, Bool.not_eq_true] at hnot
      exact (definition_unconstrained hd henum hnot).symm

/-- The age of a grown-up, with a constraint. -/
def adultAge (constraint : String) : Field where
  spec := {
    name := "age", type := some .int, required := some 1, default := .int 18, constraint }
  options := { commentOffset := 40 }

theorem constraint_carried_iff_age :
    (adultAge "CHECK\t(age > 17)\nno inherit").CarriesConstraint .sqlite ∧
      (adultAge "CHECK\t(age > 17)\nno inherit").uncommented.definition .sqlite =
        .ok "age integer default 18 CHECK\t(age > 17)\nno inherit not null," ∧
      (adultAge "check (age\n> 17)").definition .sqlite = (adultAge "").definition .sqlite := by
  have hbegins : BeginsInline (Text.lower "CHECK\t(age > 17)\nno inherit").toList :=
    isInline_iff.1 (by decide +kernel)
  have hnot : ¬ (adultAge "check (age\n> 17)").CarriesConstraint .sqlite := by
    intro hcarries
    have hopen := ((constraint_carried_iff rfl (by decide)).1.1 hcarries).2
    exact absurd (isInline_iff.2 hopen) (by decide +kernel)
  exact ⟨(constraint_carried_iff rfl (by decide)).1.2 ⟨by decide, hbegins⟩, by decide +kernel,
    (constraint_carried_iff rfl (by decide)).2 hnot⟩

end Field

end RelSchema
