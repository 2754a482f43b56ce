import RelSchema.Proofs.Declaration.SqlAlchemy
import RelSchema.Proofs.Output.Rendering
import RelSchema.Proofs.Text.Casing

namespace RelSchema

theorem mem_insertSorted {x name : String} {names : List String} :
    x ∈ insertSorted name names ↔ x = name ∨ x ∈ names := by
  induction names with
  | nil => simp [insertSorted]
  | cons n rest ih =>
    rw [insertSorted]
    split
    · rename_i h
      simp [h]
    · split
      · exact List.mem_cons
      · rw [List.mem_cons, ih, List.mem_cons]
        exact or_left_comm

theorem mem_sortedNames {x : String} {names : List String} :
    x ∈ sortedNames names ↔ x ∈ names := by
  induction names with
  | nil => rfl
  | cons name rest ih =>
    rw [sortedNames, List.foldr_cons, mem_insertSorted, List.mem_cons]
    exact or_congr_right ih

theorem mem_of_mapM_eq_some {α β : Type} {f : α → Option β} {l : List α} {r : List β}
    (h : l.mapM f = some r) (b : β) : b ∈ r ↔ ∃ a ∈ l, f a = some b := by
  induction l generalizing r with
  | nil =>
    cases h
    simp
  | cons a l ih =>
    rw [List.mapM_cons] at h
    obtain ⟨b', hb, h⟩ := Option.bind_eq_some_iff.1 h
    obtain ⟨rest, hrest, h⟩ := Option.bind_eq_some_iff.1 h
    cases h
    simp [ih hrest, hb, eq_comm]

namespace Field

open Python

def attributeNames (f : Field) : List String :=
  f.spec.name :: if f.isFk || f.isPfk then [Text.stripId f.spec.name] else []

/-- The column uses no name but those in scope. -/
def IsScoped (scope : List String) (f : Field) : Prop :=
  ∀ call ∈ f.columnCall.toOption, ∀ name ∈ call.names, name ∈ scope

instance (scope : List String) (f : Field) : Decidable (f.IsScoped scope) :=
  inferInstanceAs (Decidable (∀ call ∈ f.columnCall.toOption, ∀ name ∈ call.names, name ∈ scope))

variable {f : Field}

theorem map_target_of_sqlAlchemyAssignments {as : List Assignment}
    (h : f.sqlAlchemyAssignments = .ok as) : as.map (·.target) = f.attributeNames := by
  obtain ⟨column, _, h⟩ := bind_eq_ok_iff.1 h
  cases h
  rw [attributeNames, List.map_cons]
  split <;> rfl

theorem names_of_columnCall {call : Expr} (h : f.columnCall = .ok call) :
    ∃ t type, f.spec.type = some t ∧ Dialect.sqlAlchemy.typeName? t = some type ∧
      call.names = "Column" :: (if f.hasEnumType then Text.upper f.spec.name else type) ::
        if f.isFk || f.isPfk then ["ForeignKey"] else [] := by
  obtain ⟨typeExpr, hexpr, h⟩ := bind_eq_ok_iff.1 h
  obtain ⟨t, type, ht, htype, hnames⟩ := columnTypeExpr_eq_ok hexpr
  cases h
  refine ⟨t, type, ht, htype, ?_⟩
  rw [Expr.names_call, List.flatMap_cons, hnames, names_columnArguments]
  rfl

end Field

namespace Script.SqlAlchemy

/-- The names that are defined by the head of a module, its imports from `sqlalchemy` aside. -/
def headNames : List String :=
  ["declarative_base", "relationship", "Base"]

/-- `p` holds of every field of a class, with the names that are defined above it. -/
def ForallAttributes (p : List String → Field → Prop) : List String → List Field → Prop
  | _, [] => True
  | defined, f :: rest => p defined f ∧ ForallAttributes p (defined ++ f.attributeNames) rest

/-- Of a class that is complete, only its own name can be used. -/
def ForallFields (p : List String → Field → Prop) : List String → List Model → Prop
  | _, [] => True
  | defined, m :: rest =>
    ForallAttributes p (defined ++ ["__tablename__"]) m.fields ∧
      ForallFields p (defined ++ [m.className]) rest

section

variable {p q : List String → Field → Prop}

instance decidableForallAttributes [∀ defined f, Decidable (p defined f)] :
    ∀ defined fields, Decidable (ForallAttributes p defined fields)
  | _, [] => inferInstanceAs (Decidable True)
  | defined, f :: rest =>
    have := decidableForallAttributes (defined ++ f.attributeNames) rest
    inferInstanceAs (Decidable (_ ∧ _))

instance decidableForallFields [∀ defined f, Decidable (p defined f)] :
    ∀ defined models, Decidable (ForallFields p defined models)
  | _, [] => inferInstanceAs (Decidable True)
  | defined, m :: rest =>
    have := decidableForallFields (defined ++ [m.className]) rest
    inferInstanceAs (Decidable (_ ∧ _))

theorem forallAttributes_congr {defined : List String} {fields : List Field}
    (h : ∀ f ∈ fields, ∀ defined, p defined f ↔ q defined f) :
    ForallAttributes p defined fields ↔ ForallAttributes q defined fields := by
  induction fields generalizing defined with
  | nil => rfl
  | cons f rest ih =>
    exact and_congr (h f List.mem_cons_self defined)
      (ih fun g hg => h g (List.mem_cons_of_mem f hg))

theorem forallFields_congr {defined : List String} {models : List Model}
    (h : ∀ m ∈ models, ∀ f ∈ m.fields, ∀ defined, p defined f ↔ q defined f) :
    ForallFields p defined models ↔ ForallFields q defined models := by
  induction models generalizing defined with
  | nil => rfl
  | cons m rest ih =>
    exact and_congr (forallAttributes_congr (h m List.mem_cons_self))
      (ih fun n hn => h n (List.mem_cons_of_mem m hn))

end

variable {s : Schema} {imported : List String}

theorem mem_imports (h : imports s = .ok imported) (x : String) :
    x ∈ imported ↔ (∃ t ∈ s.baseTypes, Dialect.sqlAlchemy.typeName? t = some x) ∨ x = "Column" ∨
      (x = "ForeignKey" ∧ s.models.any (·.hasFk) = true) := by
  unfold imports at h
  cases hnames : s.baseTypes.mapM (Dialect.typeName? .sqlAlchemy) with
  | none =>
    rw [hnames] at h
    cases h
  | some names =>
    rw [hnames] at h
    cases h
    rw [mem_sortedNames, List.mem_append, mem_of_mapM_eq_some hnames]
    refine or_congr_right ?_
    split
    · rename_i hfk
      simp [hfk]
    · rename_i hfk
      simp [hfk]

/-- All that a field needs beside the names of types is there: a foreign key among the models or a
definition of that name, if the field is part of a key and refers to another row, and a definition
for its enumeration. -/
def Resolves (models : List Model) (defined : List String) (f : Field) : Prop :=
  (f.isPfk = true → models.any (·.hasFk) = true ∨ "ForeignKey" ∈ defined) ∧
    (f.hasEnumType = true → Text.upper f.spec.name ∈ defined)

instance (models : List Model) (defined : List String) (f : Field) :
    Decidable (Resolves models defined f) :=
  inferInstanceAs (Decidable (_ ∧ _))

theorem typeName?_sqlAlchemy {t : BaseType} {name : String}
    (h : Dialect.sqlAlchemy.typeName? t = some name) :
    name ≠ "ForeignKey" ∧ name.toList.any Char.isLower = true := by
  revert name
  cases t <;> decide

theorem upper_notMem_imports (h : imports s = .ok imported) (name : String) :
    Text.upper name ∉ imported := by
  intro hmem
  rcases (mem_imports h _).1 hmem with ⟨t, _, ht⟩ | hcolumn | ⟨hkey, _⟩
  · exact Text.ne_upper (typeName?_sqlAlchemy ht).2 rfl
  · exact Text.ne_upper (by decide) hcolumn.symm
  · exact Text.ne_upper (by decide) hkey.symm

theorem foreignKey_mem_imports_iff (h : imports s = .ok imported) :
    "ForeignKey" ∈ imported ↔ s.models.any (·.hasFk) = true := by
  rw [mem_imports h]
  constructor
  · rintro (⟨t, _, ht⟩ | hcolumn | ⟨_, hfk⟩)
    · exact absurd rfl (typeName?_sqlAlchemy ht).1
    · exact absurd hcolumn (by decide)
    · exact hfk
  · exact fun hfk => .inr (.inr ⟨rfl, hfk⟩)

theorem type_scoped_iff (h : imports s = .ok imported) {type : String} (htype : type ∈ imported)
    (f : Field) (defined : List String) :
    (if f.hasEnumType then Text.upper f.spec.name else type) ∈ imported ++ defined ↔
      (f.hasEnumType = true → Text.upper f.spec.name ∈ defined) := by
  split
  · rename_i henum
    simp [henum, upper_notMem_imports h]
  · rename_i henum
    simp [henum, htype]

theorem foreignKey_scoped_iff (h : imports s = .ok imported) {f : Field} (hf : f ∈ s.fields)
    (defined : List String) :
    (∀ name ∈ if f.isFk || f.isPfk then ["ForeignKey"] else [], name ∈ imported ++ defined) ↔
      (f.isPfk = true → s.models.any (·.hasFk) = true ∨ "ForeignKey" ∈ defined) := by
  have hfk : f.isFk = true → "ForeignKey" ∈ imported := by
    intro hrole
    obtain ⟨m, hm, hfm⟩ := List.mem_flatMap.1 hf
    rw [foreignKey_mem_imports_iff h]
    exact List.any_eq_true.2 ⟨m, hm, List.any_eq_true.2 ⟨f, hfm, hrole⟩⟩
  rw [← foreignKey_mem_imports_iff h, ← List.mem_append]
  split
  · rename_i hrole
    rw [Bool.or_eq_true] at hrole
    rw [List.forall_mem_singleton]
    constructor
    · exact fun hmem _ => hmem
    · intro hmem
      rcases hrole with hrole | hrole
      · exact List.mem_append_left _ (hfk hrole)
      · exact hmem hrole
  · rename_i hrole
    rw [Bool.or_eq_true, not_or] at hrole
    simp [hrole.2]

theorem isScoped_iff_resolves (h : imports s = .ok imported) {f : Field} (hf : f ∈ s.fields)
    {call : Python.Expr} (hcall : f.columnCall = .ok call) (defined : List String) :
    f.IsScoped (imported ++ defined) ↔ Resolves s.models defined f := by
  obtain ⟨t, type, ht, htype, hnames⟩ := Field.names_of_columnCall hcall
  have htypes : t ∈ s.baseTypes :=
    List.mem_filter.2 ⟨BaseType.mem_all t, List.any_eq_true.2 ⟨f, hf, decide_eq_true ht⟩⟩
  have hcolumn : "Column" ∈ imported := (mem_imports h _).2 (.inr (.inl rfl))
  have himported : type ∈ imported := (mem_imports h type).2 (.inl ⟨t, htypes, htype⟩)
  rw [Field.IsScoped, hcall, Resolves, ← foreignKey_scoped_iff h hf, ← type_scoped_iff h himported]
  simp [Except.toOption, hnames, hcolumn, and_comm]

/-- What the fields of a class become, field by field. -/
def attributes (m : Model) : Except FieldError (List (List Python.Assignment)) :=
  m.fields.mapM (·.sqlAlchemyAssignments)

def classOf (m : Model) (lines : List (List Python.Assignment)) : String :=
  "\n\nclass " ++ m.className ++ "(Base):\n    __tablename__ = \"" ++ m.name ++ "\"\n\n" ++
    block "    " (lines.map fun as => "\n    ".intercalate (as.map (·.text)))

theorem map_target_attributes {m : Model} {lines : List (List Python.Assignment)}
    (h : attributes m = .ok lines) :
    lines.map (·.map (·.target)) = m.fields.map (·.attributeNames) :=
  map_eq_of_mapM h fun _ _ => Field.map_target_of_sqlAlchemyAssignments

theorem fieldDefinitions_eq (m : Model) : m.fieldDefinitions .sqlAlchemy =
    (attributes m).map (·.map fun as => "\n    ".intercalate (as.map (·.text))) :=
  mapM_eq_map (fun f => f.sqlAlchemyDefinition_eq) m.fields

theorem classText_eq (m : Model) : classText m = (attributes m).map (classOf m) := by
  rw [classText, fieldDefinitions_eq]
  cases attributes m <;> rfl

theorem classText_eq_ok {m : Model} {text : String} (h : classText m = .ok text) :
    ∃ lines, attributes m = .ok lines ∧ classOf m lines = text :=
  map_eq_ok_iff.1 (classText_eq m ▸ h)

/-- In a module that has been written, every name that a column uses is imported or defined above
the column if and only if every field resolves. -/
theorem columns_scoped_iff {o : Output} {s : Schema} {text : String}
    (hformat : o.format = .sqlAlchemy) (h : o.render s = .ok text) :
    let v := s.view o.target
    ∃ imported classes, imports v = .ok imported ∧
      text = header v imported ++ .join classes ++ seeds v ∧
      List.Forall₂ (fun m cls => ∃ lines, attributes m = .ok lines ∧
        lines.map (·.map (·.target)) = m.fields.map (·.attributeNames) ∧ classOf m lines = cls)
        v.models classes ∧
      (ForallFields (fun defined f => f.IsScoped (imported ++ defined)) headNames v.models ↔
        ForallFields (Resolves v.models) headNames v.models) := by
  intro v
  have hscript := Output.render_eq_ok (by rw [hformat]; decide) h
  rw [hformat] at hscript
  obtain ⟨imported, himports, htext⟩ := bind_eq_ok_iff.1 (mapError_eq_ok_iff.1 hscript)
  obtain ⟨classes, hclasses, htext⟩ := bind_eq_ok_iff.1 htext
  refine ⟨imported, classes, himports, (Except.ok.inj htext).symm, ?_, ?_⟩
  · refine (mapM_eq_ok_iff.1 hclasses).imp fun m cls hcls => ?_
    obtain ⟨lines, hlines, htext⟩ := classText_eq_ok hcls
    exact ⟨lines, hlines, map_target_attributes hlines, htext⟩
  · apply forallFields_congr
    intro m hm f hf defined
    obtain ⟨cls, hcls⟩ := exists_eq_ok_of_mapM hclasses hm
    obtain ⟨lines, hlines, _⟩ := classText_eq_ok hcls
    obtain ⟨as, has⟩ := exists_eq_ok_of_mapM hlines hf
    obtain ⟨call, hcall, _⟩ := bind_eq_ok_iff.1 has
    exact isScoped_iff_resolves himports (List.mem_flatMap.2 ⟨m, hm, hf⟩) hcall defined

/-- Persons and what they book. -/
def bookings (references : List (Keyed Value)) : Document where
  models := [
    { name := "person"
      fields := [[("name", .text "id"), ("type", .text "serial"), ("index", .text "pk")]] },
    { name := "booking"
      fields := [("name", .text "person_id"), ("type", .text "int"), ("index", .text "pfk")] ::
        references }]

def replacedBooking : Keyed Value :=
  [("name", .text "booking_id"), ("type", .text "int"), ("index", .text "fk")]

theorem columns_scoped_iff_bookings :
    ∃ s text imported, (bookings [replacedBooking]).toSchema {} "schema" = .ok s ∧
      Output.render { format := .sqlAlchemy } s = .ok text ∧
      imports (s.view { dialect := .sqlAlchemy }) = .ok imported ∧
      ForallFields (fun defined f => f.IsScoped (imported ++ defined)) headNames
        (s.view { dialect := .sqlAlchemy }).models := by
  obtain ⟨s, hs, hresolves, htext⟩ := exists_eq_ok_of_any
    (x := (bookings [replacedBooking]).toSchema {} "schema")
    (p := fun s => ForallFields (Resolves (s.view { dialect := .sqlAlchemy }).models) headNames
        (s.view { dialect := .sqlAlchemy }).models ∧
      fault? (Output.render { format := .sqlAlchemy } s) = none) (by decide +kernel)
  obtain ⟨text, htext⟩ := fault?_eq_none_iff.1 htext
  obtain ⟨imported, _, himports, _, _, hiff⟩ := columns_scoped_iff rfl htext
  exact ⟨s, text, imported, hs, htext, himports, hiff.2 hresolves⟩

/-- Without a foreign key beside it, the key of a booking calls `ForeignKey`, which is not
imported. -/
theorem columns_not_scoped_bookings :
    ∃ s text imported, (bookings []).toSchema {} "schema" = .ok s ∧
      Output.render { format := .sqlAlchemy } s = .ok text ∧
      imports (s.view { dialect := .sqlAlchemy }) = .ok imported ∧
      ¬ ForallFields (fun defined f => f.IsScoped (imported ++ defined)) headNames
        (s.view { dialect := .sqlAlchemy }).models := by
  obtain ⟨s, hs, htext, himports⟩ := exists_eq_ok_of_any
    (x := (bookings []).toSchema {} "schema")
    (p := fun s => fault? (Output.render { format := .sqlAlchemy } s) = none ∧
      (imports (s.view { dialect := .sqlAlchemy })).toOption.any (fun imported =>
        decide (¬ ForallFields (fun defined f => f.IsScoped (imported ++ defined)) headNames
          (s.view { dialect := .sqlAlchemy }).models)) = true) (by decide +kernel)
  obtain ⟨text, htext⟩ := fault?_eq_none_iff.1 htext
  obtain ⟨imported, himports, hnot⟩ := exists_eq_ok_of_any himports
  exact ⟨s, text, imported, hs, htext, himports, hnot⟩

end Script.SqlAlchemy

end RelSchema
