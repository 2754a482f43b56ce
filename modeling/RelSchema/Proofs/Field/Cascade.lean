import Mathlib.Data.Nat.Init
import RelSchema.Document.Reader
import RelSchema.Proofs.Field.ForeignKey
import RelSchema.Proofs.Text.Casing
import RelSchema.Proofs.Text.Split

namespace RelSchema

/-- What happens to a row that others refer to. -/
inductive Cascade
  | delete | update
  deriving DecidableEq

namespace Cascade

def word : Cascade → String
  | .delete => "delete"
  | .update => "update"

/-- The argument by which SQLAlchemy is told of a cascade. -/
def keyword (e : Cascade) : String :=
  "on" ++ e.word

/-- A clause of a constraint, with the blanks between its words. -/
def clause (e : Cascade) (gap gap' : Char) : List Char :=
  'o' :: 'n' :: gap :: (e.word.toList ++ gap' :: "cascade".toList)

/-- The clause in the form that SQLAlchemy looks for. -/
def plainClause (e : Cascade) : String :=
  "on " ++ e.word ++ " cascade"

variable {e e' : Cascade} {gap gap' : Char}

theorem length_clause : (e.clause gap gap').length = 17 := by
  cases e <;> rfl

theorem toList_plainClause : e.plainClause.toList = e.clause ' ' ' ' := by
  cases e <;> rfl

theorem eq_of_clause {other other' : Char} (h : e.clause gap gap' = e'.clause other other') :
    e = e' := by
  cases e <;> cases e' <;> simp [clause, word] at h ⊢

theorem plain_of_mem_clause {c : Char} (h : c ∈ e.clause ' ' ' ') :
    c.toNat < 0x80 ∧ c.isUpper = false := by
  have hall : (e.clause ' ' ' ').all (fun c => c.toNat < 0x80 && !c.isUpper) = true := by
    cases e <;> decide
  have hc := List.all_eq_true.1 hall c h
  rwa [Bool.and_eq_true, decide_eq_true_eq, Bool.not_eq_true'] at hc

end Cascade

/-- Clauses in lower case one behind the other, with one blank between words. -/
inductive IsCascade : List Char → List Cascade → Prop
  | last (e : Cascade) {gap gap' : Char} (hgap : Text.isBlank gap = true)
      (hgap' : Text.isBlank gap' = true) : IsCascade (e.clause gap gap') [e]
  | next (e : Cascade) {gap gap' sep : Char} {cs : List Char} {events : List Cascade}
      (hgap : Text.isBlank gap = true) (hgap' : Text.isBlank gap' = true)
      (hsep : Text.isBlank sep = true) (hrest : IsCascade cs events) :
      IsCascade (e.clause gap gap' ++ sep :: cs) (e :: events)

/-- One of the clauses is about the event, and stands in the constraint in small letters with plain
blanks. Each clause has seventeen characters, and there is one between two. -/
def Cascade.IsPlainIn (e : Cascade) (events : List Cascade) (cs : List Char) : Prop :=
  ∃ i, events[i]? = some e ∧ (cs.drop (18 * i)).take 17 = e.clause ' ' ' '

theorem Text.ne_of_isBlank {c d : Char} (hc : isBlank c = true) (hd : isBlank d = false) :
    c ≠ d := by
  rintro rfl
  rw [hc] at hd
  cases hd

open Text

variable {e e' : Cascade} {events : List Cascade} {gap gap' : Char} {cs low : List Char}

/-- Behind its head, a clause with other blanks has no other letters. -/
theorem Cascade.notMem_tail_clause {c : Char} (hgap : isBlank gap = true)
    (hgap' : isBlank gap' = true) (hc : isBlank c = false) (h : c ∉ (e.clause ' ' ' ').tail) :
    c ∉ (e.clause gap gap').tail := by
  have hne : c ≠ gap := (ne_of_isBlank hgap hc).symm
  have hne' : c ≠ gap' := (ne_of_isBlank hgap' hc).symm
  cases e <;> simp_all [clause, word]

namespace Constraint

theorem afterWord?_append (word : String) (cs : List Char) :
    afterWord? word (word.toList ++ cs) = some cs := by
  rw [afterWord?, if_pos (List.isPrefixOf_iff_prefix.2 (List.prefix_append _ _)),
    List.drop_left]

/-- A second clause changes nothing, since it need not be there. -/
theorem isCascade_eq (cs : List Char) : isCascade cs = (afterClause? cs).isSome :=
  Option.isSome_map

theorem afterClause?_append (hgap : isBlank gap = true) (hgap' : isBlank gap' = true)
    (cs : List Char) : afterClause? (e.clause gap gap' ++ cs) = some cs := by
  have hon : e.clause gap gap' ++ cs =
      "on".toList ++ gap :: (e.word.toList ++ gap' :: ("cascade".toList ++ cs)) := by
    rw [Cascade.clause, List.cons_append, List.cons_append, List.cons_append, List.append_assoc,
      List.cons_append]
    rfl
  have hword : (afterWord? "delete" (e.word.toList ++ gap' :: ("cascade".toList ++ cs))).or
      (afterWord? "update" (e.word.toList ++ gap' :: ("cascade".toList ++ cs))) =
        some (gap' :: ("cascade".toList ++ cs)) := by
    cases e with
    | delete =>
      rw [show Cascade.delete.word = "delete" from rfl, afterWord?_append, Option.some_or]
    | update =>
      rw [show Cascade.update.word = "update" from rfl, afterWord?_append]
      rfl
  simp only [afterClause?, hon, afterWord?_append, Option.bind_some, afterBlank?, hgap, hgap',
    hword, ↓reduceIte]

theorem isCascade_append (hgap : isBlank gap = true) (hgap' : isBlank gap' = true)
    (cs : List Char) : isCascade (e.clause gap gap' ++ cs) = true := by
  rw [isCascade_eq, afterClause?_append hgap hgap', Option.isSome_some]

end Constraint

theorem Constraint.isInline_of_isCascade {constraint : String}
    (h : IsCascade (lower constraint).toList events) : isInline constraint = true := by
  have hcascade : isCascade (lower constraint).toList = true := by
    generalize (lower constraint).toList = cs at h
    cases h with
    | last e hgap hgap' =>
      have happend := isCascade_append (e := e) hgap hgap' []
      rwa [List.append_nil] at happend
    | next e hgap hgap' => exact isCascade_append hgap hgap' _
  rw [isInline, hcascade, Bool.or_true]

theorem IsCascade.notMem_dot (h : IsCascade cs events) : '\u0307' ∉ cs := by
  have hclause : ∀ (e : Cascade) {gap gap' : Char}, isBlank gap = true → isBlank gap' = true →
      '\u0307' ∉ e.clause gap gap' := by
    intro e gap gap' hgap hgap'
    have htail : '\u0307' ∉ (e.clause gap gap').tail :=
      Cascade.notMem_tail_clause hgap hgap' (by decide) (by cases e <;> decide)
    exact List.not_mem_cons_of_ne_of_not_mem (by decide) htail
  induction h with
  | last e hgap hgap' => exact hclause e hgap hgap'
  | next e hgap hgap' hsep _ ih =>
    rw [List.mem_append, List.mem_cons, not_or, not_or]
    exact ⟨hclause e hgap hgap', (ne_of_isBlank hsep (by decide)).symm, ih⟩

/-- Behind its first letter, a clause has no other `o` at which a clause could begin. -/
theorem occursIn_clause_append (hgap : isBlank gap = true) (hgap' : isBlank gap' = true)
    (h : List.Forall₂ LowersTo cs (e'.clause gap gap')) (rest : List Char) :
    occursIn (e.clause ' ' ' ') (cs ++ rest) = true ↔
      (e' = e ∧ cs = e.clause ' ' ' ') ∨ occursIn (e.clause ' ' ' ') rest = true := by
  have hlength : cs.length = 17 := h.length_eq.trans Cascade.length_clause
  have hhead : e.clause ' ' ' ' <+: cs ++ rest ↔ e' = e ∧ cs = e.clause ' ' ' ' := by
    constructor
    · rintro ⟨tail, htail⟩
      obtain ⟨hcs, _⟩ := List.append_inj htail (Cascade.length_clause.trans hlength.symm)
      rw [← hcs] at h
      exact ⟨Cascade.eq_of_clause (eq_of_forall₂_lowersTo h fun _ => Cascade.plain_of_mem_clause),
        hcs.symm⟩
    · rintro ⟨_, rfl⟩
      exact List.prefix_append _ _
  have htail : 'o' ∉ (e'.clause gap gap').tail :=
    Cascade.notMem_tail_clause hgap hgap' (by decide) (by cases e' <;> decide)
  cases h with
  | cons hc hcs =>
    have hnot := notMem_of_forall₂_lowersTo hcs htail (by decide) (by decide)
    rw [← hhead, ← List.isPrefixOf_iff_prefix, ← Bool.or_eq_true, List.cons_append, occursIn,
      Cascade.clause, occursIn_append_of_notMem hnot]

theorem isPlainIn_nil : ¬ e.IsPlainIn [] cs := by
  rintro ⟨i, hi, _⟩
  cases hi

theorem isPlainIn_cons (hlength : cs.length = 17) (rest : List Char) :
    e.IsPlainIn (e' :: events) (cs ++ rest) ↔
      (e' = e ∧ cs = e.clause ' ' ' ') ∨ e.IsPlainIn events (rest.drop 1) := by
  have hfirst : (cs ++ rest).take 17 = cs := List.take_left' hlength
  have hnext : ∀ i, (cs ++ rest).drop (18 * (i + 1)) = (rest.drop 1).drop (18 * i) := by
    intro i
    rw [show 18 * (i + 1) = cs.length + (1 + 18 * i) by omega, List.drop_length_add_append,
      List.drop_drop]
  unfold Cascade.IsPlainIn
  rw [← Nat.or_exists_add_one]
  simp only [Nat.mul_zero, List.drop_zero, hfirst, hnext, List.getElem?_cons_zero,
    List.getElem?_cons_succ, Option.some.injEq]

/-- The search of a text finds a clause only where the lowercase of the text has one. -/
theorem IsCascade.occursIn_iff (h : IsCascade low events) (hcs : List.Forall₂ LowersTo cs low) :
    occursIn (e.clause ' ' ' ') cs = true ↔ e.IsPlainIn events cs := by
  induction h generalizing cs with
  | last e' hgap hgap' =>
    have hlength : cs.length = 17 := hcs.length_eq.trans Cascade.length_clause
    have hend : occursIn (e.clause ' ' ' ') [] = false := rfl
    rw [← List.append_nil cs, occursIn_clause_append hgap hgap' hcs, isPlainIn_cons hlength, hend,
      List.drop_nil]
    exact or_congr_right (iff_of_false Bool.false_ne_true isPlainIn_nil)
  | @next e' gap gap' sep low events hgap hgap' hsep _ ih =>
    have hfirst := List.forall₂_take_append _ _ _ hcs
    have hbehind := List.forall₂_drop_append _ _ _ hcs
    rw [Cascade.length_clause] at hfirst hbehind
    have hlength := hfirst.length_eq.trans Cascade.length_clause
    rw [← List.take_append_drop 17 cs, occursIn_clause_append hgap hgap' hfirst,
      isPlainIn_cons hlength]
    refine or_congr_right ?_
    cases hdrop : cs.drop 17 with
    | nil =>
      rw [hdrop] at hbehind
      cases hbehind
    | cons c rest =>
      rw [hdrop] at hbehind
      obtain ⟨hc, hrest⟩ := List.forall₂_cons.1 hbehind
      have hsep : c ≠ 'o' := hc.ne (ne_of_isBlank hsep (by decide)) (by decide) (by decide)
      have hnot : 'o' ∉ [c] := fun h => hsep (List.mem_singleton.1 h).symm
      have hskip := occursIn_append_of_notMem hnot (e.clause ' ' ' ').tail rest
      exact (Bool.eq_iff_iff.1 hskip).trans (ih hrest)

namespace Field

open Python

/-- The column has the constraint behind its reference as it stands. -/
def SqlCarries (d : Dialect) (f : Field) : Prop :=
  ∃ column, f.sqlColumn d = .ok column ∧
    f.definition d = .ok (withComment column.text f.options.commentOffset f.spec.description) ∧
    column.constraint = some f.spec.constraint

/-- The reference of the column has the argument of a cascade. -/
def SqlAlchemyCascades (f : Field) (e : Cascade) : Prop :=
  ∃ column relationship args,
    f.sqlAlchemyAssignments = .ok [⟨f.spec.name, column⟩, relationship] ∧
    f.definition .sqlAlchemy =
      .ok ((Assignment.mk f.spec.name column).text ++ "\n    " ++ relationship.text) ∧
    .call "ForeignKey" args ∈ column.args ∧ .keyword e.keyword (.literal "'CASCADE'") ∈ args

variable {f : Field} {d : Dialect}

theorem sqlCarries (hinline : Constraint.isInline f.spec.constraint = true) (hd : d.isSql = true)
    (h : ∃ line, f.definition d = .ok line) : f.SqlCarries d := by
  obtain ⟨column, hcolumn, hdef⟩ := exists_eq_ok_of_eq_map (definition_eq_map_sqlColumn hd) h
  refine ⟨column, hcolumn, hdef, ?_⟩
  obtain ⟨type, _, hcolumn⟩ := bind_eq_ok_iff.1 hcolumn
  cases hcolumn
  simp only [hinline, ↓reduceIte]

theorem call_mem_columnArguments (hkey : f.isFk = true ∨ f.isPfk = true) {table : String}
    {args : List Expr} :
    .call "ForeignKey" args ∈ f.columnArguments table ↔
      .call "ForeignKey" args = f.foreignKeyCall table := by
  have hpk := isPk_of_refers hkey
  rcases hkey with hfk | hpfk
  · simp [columnArguments, hpk, hfk, nullableKeyword]
  · by_cases hfk : f.isFk = true <;>
      simp [columnArguments, hpk, hfk, hpfk, nullableKeyword, keyKeywords]

theorem keyword_mem_foreignKeyCall {table : String} {e : Cascade} :
    .keyword e.keyword (.literal "'CASCADE'") ∈ (f.foreignKeyCall table).args ↔
      Text.contains f.spec.constraint e.plainClause = true := by
  rw [foreignKeyCall, Expr.args]
  cases e <;> simp [Cascade.keyword, Cascade.plainClause, Cascade.word, Expr.string]

theorem sqlAlchemyCascades_iff (hkey : f.isFk = true ∨ f.isPfk = true)
    (h : ∃ line, f.definition .sqlAlchemy = .ok line) {e : Cascade} :
    f.SqlAlchemyCascades e ↔ Text.contains f.spec.constraint e.plainClause = true := by
  obtain ⟨type, _, _, htype, rfl, rfl, has, hdef⟩ :=
    exists_sqlAlchemyAssignments (Bool.or_eq_true _ _ ▸ hkey) h
  rw [← keyword_mem_foreignKeyCall]
  constructor
  · rintro ⟨column, relationship, args, has', _, hcall, hmem⟩
    have hlist := Except.ok.inj (has.symm.trans has')
    simp only [List.cons.injEq, Assignment.mk.injEq, true_and, and_true] at hlist
    obtain ⟨rfl, rfl⟩ := hlist
    rw [Expr.args, List.mem_cons, call_mem_columnArguments hkey] at hcall
    rcases hcall with hcall | hcall
    · exact absurd hcall.symm (columnTypeExpr_ne_foreignKey htype _)
    · rw [← hcall]
      exact hmem
  · intro hmem
    refine ⟨_, _, _, has, hdef, ?_, hmem⟩
    rw [Expr.args, List.mem_cons]
    exact .inr ((call_mem_columnArguments hkey).2 rfl)

/-- A constraint of cascades is part of every SQL column, and SQLAlchemy agrees with it on an event
unless the clauses about the event are all written otherwise than in small letters with plain
blanks. -/
theorem cascades_agree_iff (hkey : f.isFk = true ∨ f.isPfk = true)
    (h : ∃ line, f.definition .sqlAlchemy = .ok line) {events : List Cascade}
    (hcascade : IsCascade (Text.lower f.spec.constraint).toList events) :
    (∀ d : Dialect, d.isSql = true → (∃ line, f.definition d = .ok line) → f.SqlCarries d) ∧
      ∀ e, (f.SqlAlchemyCascades e ↔ e ∈ events) ↔
        (e ∈ events → e.IsPlainIn events f.spec.constraint.toList) := by
  refine ⟨fun d hd => sqlCarries (Constraint.isInline_of_isCascade hcascade) hd, fun e => ?_⟩
  have hfound : f.SqlAlchemyCascades e ↔ e.IsPlainIn events f.spec.constraint.toList := by
    rw [sqlAlchemyCascades_iff hkey h, Text.contains, Cascade.toList_plainClause,
      hcascade.occursIn_iff (forall₂_lower hcascade.notMem_dot)]
  have hmem : e.IsPlainIn events f.spec.constraint.toList → e ∈ events :=
    fun ⟨_, hi, _⟩ => List.mem_of_getElem? hi
  rw [hfound]
  exact ⟨fun hiff => hiff.2, fun hplain => ⟨hmem, hplain⟩⟩

/-- A pet's reference to the person it belongs to. -/
def petOwner : Field where
  spec := {
    name := "person_id", type := some .int, index := .pfk
    constraint := "on delete cascade on update\tCASCADE" }
  owner := some { name := "pet" }

theorem cascades_agree_iff_pet :
    petOwner.SqlCarries .postgres ∧ petOwner.SqlAlchemyCascades .delete ∧
      ¬ petOwner.SqlAlchemyCascades .update := by
  have hlower : (Text.lower petOwner.spec.constraint).toList =
      Cascade.delete.clause ' ' ' ' ++ ' ' :: Cascade.update.clause ' ' '\t' := by decide +kernel
  have hcascade : IsCascade (Text.lower petOwner.spec.constraint).toList [.delete, .update] := by
    rw [hlower]
    exact .next .delete rfl rfl rfl (.last .update rfl rfl)
  have hagree := cascades_agree_iff (.inr rfl) (fault?_eq_none_iff.1 (by decide)) hcascade
  refine ⟨hagree.1 .postgres rfl (fault?_eq_none_iff.1 (by decide)), ?_, fun hupdate => ?_⟩
  · exact ((hagree.2 .delete).2 fun _ => ⟨0, rfl, by decide⟩).2 (by decide)
  · obtain ⟨i, hi, hplain⟩ :=
      (hagree.2 .update).1 ⟨fun _ => by decide, fun _ => hupdate⟩ (by decide)
    match i with
    | 0 => cases hi
    | 1 => exact absurd hplain (by decide)
    | i + 2 => cases hi

end Field

/-- Pets with their owners, on whom they depend. -/
def Document.pets : Document where
  models := [
    { name := "person"
      fields := [[("name", .text "id"), ("type", .text "serial"), ("index", .text "pk")]] },
    { name := "pet"
      fields := [[("name", .text "person_id"), ("type", .text "int"), ("index", .text "fk"),
        ("constraint", .text "ON DELETE CASCADE")]] }]

/-- Of a clause in capitals SQLAlchemy knows nothing, while it is part of the table. -/
theorem Field.cascades_differ_pet :
    ∃ s, Document.pets.toSchema {} "schema" = .ok s ∧
      ∃ m ∈ s.models, ∃ f ∈ m.fields, f.isFk = true ∧
        IsCascade (Text.lower f.spec.constraint).toList [.delete] ∧
        f.definition .sql = .ok "person_id integer references person (id) ON DELETE CASCADE" ∧
        f.definition .sqlAlchemy =
          .ok ("person_id = Column(Integer, ForeignKey(\"person.id\"), nullable=True)\n" ++
            "    person = relationship(\"Person\", backref=\"pets\")") ∧
        ¬ f.SqlAlchemyCascades .delete := by
  obtain ⟨s, hs, m, hm, f, hf, hfk, hlower, hsql, hdef, hcontains⟩ :=
    exists_eq_ok_of_any (x := Document.pets.toSchema {} "schema")
    (p := fun s => ∃ m ∈ s.models, ∃ f ∈ m.fields, f.isFk = true ∧
      (Text.lower f.spec.constraint).toList = Cascade.delete.clause ' ' ' ' ∧
      f.definition .sql = .ok "person_id integer references person (id) ON DELETE CASCADE" ∧
      f.definition .sqlAlchemy =
        .ok ("person_id = Column(Integer, ForeignKey(\"person.id\"), nullable=True)\n" ++
          "    person = relationship(\"Person\", backref=\"pets\")") ∧
      Text.contains f.spec.constraint Cascade.delete.plainClause = false)
    (by decide +kernel)
  have hcascade : IsCascade (Text.lower f.spec.constraint).toList [.delete] := by
    rw [hlower]
    exact .last .delete rfl rfl
  refine ⟨s, hs, m, hm, f, hf, hfk, hcascade, hsql, hdef, fun h => ?_⟩
  have hfound := (sqlAlchemyCascades_iff (.inl hfk) ⟨_, hdef⟩).1 h
  rw [hcontains] at hfound
  cases hfound

end RelSchema
