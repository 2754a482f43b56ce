import RelSchema.Proofs.Declaration.Sql
import RelSchema.Proofs.Model.Linking
import RelSchema.Schema

namespace RelSchema

namespace Model

variable (info : ModelInfo) (keyLine : Bool)

@[simp] theorem length_linkFields (fields : List Field) :
    (linkFields info keyLine fields).length = fields.length := by
  have hspecs := congrArg List.length (map_spec_linkFields info keyLine fields)
  rwa [List.length_map, List.length_map] at hspecs

theorem getElem_linkFields (fields : List Field) (i : Nat) (hi : i < fields.length)
    (h : i < (linkFields info keyLine fields).length) :
    (linkFields info keyLine fields)[i] =
      { fields[i] with
        owner := some info
        isLast := decide (i + 1 = fields.length) && !keyLine } := by
  induction fields generalizing i with
  | nil => cases h
  | cons f rest ih =>
    cases rest with
    | nil =>
      have hi : i = 0 := by
        rw [List.length_singleton] at hi
        omega
      subst hi
      simp [linkFields]
    | cons g rest =>
      cases i with
      | zero => simp [linkFields]
      | succ i =>
        have hrest := ih i (Nat.lt_of_succ_lt_succ hi) (Nat.lt_of_succ_lt_succ h)
        simpa [linkFields] using hrest

/-- Every field knows its model, and the last one whether a key line follows. -/
structure IsLinked (m : Model) : Prop where
  owner : ∀ f ∈ m.fields, f.owner = some m.info
  isLast : ∀ (i : Nat) (h : i < m.fields.length),
    m.fields[i].isLast = (decide (i + 1 = m.fields.length) && !m.isJunction)

theorem isLinked_ofParts (fields : List Field) (data : List Row) (kind : Option NamespaceKind) :
    (ofParts info fields data kind).IsLinked := by
  have hlength : (ofParts info fields data kind).fields.length = fields.length :=
    length_linkFields _ _ _
  have hjunction : (ofParts info fields data kind).isJunction = isJunctionOf info fields :=
    isJunctionOf_congr rfl (map_spec_ofParts _ _ _ _)
  constructor
  · intro f hf
    obtain ⟨i, hi, rfl⟩ := List.getElem_of_mem hf
    exact congrArg Field.owner (getElem_linkFields _ _ fields i (hlength ▸ hi) hi)
  · intro i hi
    rw [hlength, hjunction]
    exact congrArg Field.isLast (getElem_linkFields _ _ fields i (hlength ▸ hi) hi)

theorem isLinked_retarget (m : Model) (kind : Option NamespaceKind) (options : Options) :
    (m.retarget kind options).IsLinked :=
  isLinked_ofParts _ _ _ _

theorem isJunction_retarget (m : Model) (kind : Option NamespaceKind) (options : Options) :
    (m.retarget kind options).isJunction = m.isJunction :=
  isJunctionOf_congr rfl (m.map_spec_retarget kind options)

/-- The model as one target after the other sees it. -/
def retargetAll (m : Model) (targets : List Target) : Model :=
  targets.foldl (fun m target => m.retarget target.namespaceKind target.options) m

/-- What one retargeting keeps, all of them keep. -/
theorem retargetAll_induction {p : Model → Prop} {m : Model} (hm : p m)
    (hstep : ∀ n kind options, p n → p (n.retarget kind options)) (targets : List Target) :
    p (m.retargetAll targets) := by
  induction targets generalizing m with
  | nil => exact hm
  | cons target targets ih => exact ih (hstep m _ _ hm)

variable {m : Model} (targets : List Target)

theorem IsLinked.retargetAll (h : m.IsLinked) : (m.retargetAll targets).IsLinked :=
  retargetAll_induction h (fun _ _ _ _ => isLinked_ofParts _ _ _ _) targets

theorem map_spec_retargetAll :
    (m.retargetAll targets).fields.map (·.spec) = m.fields.map (·.spec) := by
  refine retargetAll_induction (p := fun n => n.fields.map (·.spec) = m.fields.map (·.spec))
    rfl ?_ targets
  intro n kind options h
  rw [map_spec_retarget, h]

theorem name_retargetAll : (m.retargetAll targets).name = m.name :=
  retargetAll_induction (p := fun n => n.name = m.name) rfl (fun _ _ _ h => h) targets

theorem isJunction_retargetAll : (m.retargetAll targets).isJunction = m.isJunction := by
  have hcandidate : (m.retargetAll targets).info.isCandidate = m.info.isCandidate :=
    retargetAll_induction (p := fun n => n.info.isCandidate = m.info.isCandidate) rfl
      (fun _ _ _ h => h) targets
  exact isJunctionOf_congr hcandidate (map_spec_retargetAll targets)

theorem definitions_eq_ok_iff {d : Dialect} {m : Model} {lines : List String} :
    m.definitions d = .ok lines ↔ ∃ fieldLines, m.fieldDefinitions d = .ok fieldLines ∧
      (if m.isJunction then fieldLines ++ [m.compositeKeyLine d] else fieldLines) = lines := by
  rw [definitions, bind_eq_ok_iff]
  simp only [pure, Except.pure, Except.ok.injEq]

theorem compositeKeyLine_of_isSql {d : Dialect} (hd : d.isSql = true) (m : Model) :
    m.compositeKeyLine d = "primary key(" ++ ", ".intercalate
      (((m.fields.map (·.spec)).filter (·.index = .pfk)).map (·.name)) ++ ")" := by
  have hnames : m.pfkFields.map (·.name d) =
      ((m.fields.map (·.spec)).filter (·.index = .pfk)).map (·.name) := by
    rw [List.filter_map, List.map_map]
    exact List.map_congr_left fun f _ => f.name_of_isSql hd
  rw [compositeKeyLine, hnames]

theorem IsLinked.getElem_definitions {d : Dialect} {m : Model} (hm : m.IsLinked)
    (hd : d.isSql = true) {lines : List String} (h : m.definitions d = .ok lines) (i : Nat)
    (hi : i < m.fields.length) :
    ∃ column, m.fields[i].sqlColumn d = .ok column ∧ lines[i]? = some (withComment
      (column.declaration ++ if i + 1 = lines.length then "" else ",")
      m.fields[i].options.commentOffset m.fields[i].spec.description) := by
  obtain ⟨fieldLines, hfields, rfl⟩ := definitions_eq_ok_iff.1 h
  obtain ⟨hlength, hall⟩ := List.forall₂_iff_get.1 (mapM_eq_ok_iff.1 hfields)
  have hline := hall i hi (hlength ▸ hi)
  rw [List.get_eq_getElem, Field.definition_eq_map_sqlColumn hd] at hline
  obtain ⟨column, hcolumn, hline⟩ := map_eq_ok_iff.1 hline
  rw [List.get_eq_getElem] at hline
  have hseparator : column.separator = if i + 1 = m.fields.length ∧ m.isJunction = false
      then "" else "," := by
    obtain ⟨_, _, hcolumn⟩ := Field.sqlColumn_eq_ok hcolumn
    rw [hcolumn, Field.separator_of_isSql _ hd, hm.isLast]
    simp
  refine ⟨column, hcolumn, ?_⟩
  rw [SqlColumn.text_eq, hseparator] at hline
  cases hjunction : m.isJunction with
  | true =>
    -- The key line comes after all fields, so none of them is last.
    have hlast : ¬ i + 1 = (fieldLines ++ [m.compositeKeyLine d]).length := by
      rw [List.length_append, List.length_singleton]
      omega
    simp only [↓reduceIte, if_neg hlast]
    rw [List.getElem?_append_left (hlength ▸ hi), List.getElem?_eq_getElem (hlength ▸ hi), ← hline,
      hjunction]
    simp
  | false =>
    simp only [Bool.false_eq_true, ↓reduceIte]
    rw [List.getElem?_eq_getElem (hlength ▸ hi), ← hline, ← hlength, hjunction]
    simp

theorem length_definitions {d : Dialect} {m : Model} {lines : List String}
    (h : m.definitions d = .ok lines) :
    lines.length = if m.isJunction then m.fields.length + 1 else m.fields.length := by
  obtain ⟨fieldLines, hfields, rfl⟩ := definitions_eq_ok_iff.1 h
  have hlength := (mapM_eq_ok_iff.1 hfields).length_eq
  split
  · rw [List.length_append, List.length_singleton, hlength]
  · exact hlength.symm

theorem getLast?_definitions {d : Dialect} {m : Model} {lines : List String}
    (h : m.definitions d = .ok lines) (hm : m.isJunction = true) :
    lines.getLast? = some (m.compositeKeyLine d) := by
  obtain ⟨fieldLines, _, rfl⟩ := definitions_eq_ok_iff.1 h
  rw [if_pos hm, List.getLast?_concat]

theorem isJunctionOf_eq_true_iff {info : ModelInfo} {fields : List Field} :
    isJunctionOf info fields = true ↔
      info.isCandidate = true ∧ ∃ f ∈ fields, f.spec.index = .pfk := by
  simp [isJunctionOf, hasRole]

/-- However a model was put together and retargeted, its last field alone is marked as last, and
not even that one if a key line follows. So in SQL a comma ends every line but the last. -/
theorem definitions_separated (info : ModelInfo) (fields : List Field) (data : List Row)
    (kind : Option NamespaceKind) (targets : List Target) :
    let m := (ofParts info fields data kind).retargetAll targets
    let junction := info.isCandidate = true ∧ ∃ f ∈ fields, f.spec.index = .pfk
    m.fields.map (·.spec) = fields.map (·.spec) ∧
      (∀ (i : Nat) (h : i < m.fields.length),
        m.fields[i].isLast = true ↔ i + 1 = m.fields.length ∧ ¬ junction) ∧
      (∀ f ∈ m.fields, f.modelName = info.name) ∧
      ∀ d lines, d.isSql = true → m.definitions d = .ok lines →
        (∀ (i : Nat) (h : i < m.fields.length), ∃ column, m.fields[i].sqlColumn d = .ok column ∧
          lines[i]? = some (withComment
            (column.declaration ++ if i + 1 = lines.length then "" else ",")
            m.fields[i].options.commentOffset m.fields[i].spec.description)) ∧
        (¬ junction → lines.length = m.fields.length) ∧
        (junction → lines.length = m.fields.length + 1 ∧
          lines.getLast? = some ("primary key(" ++ ", ".intercalate
            ((fields.filter (·.spec.index = .pfk)).map (·.spec.name)) ++ ")")) := by
  intro m junction
  have hlinked : m.IsLinked := (isLinked_ofParts info fields data kind).retargetAll targets
  have hspecs : m.fields.map (·.spec) = fields.map (·.spec) :=
    (map_spec_retargetAll targets).trans (map_spec_ofParts _ _ _ _)
  have hname : m.name = info.name := name_retargetAll targets
  have hjunction : m.isJunction = true ↔ junction := by
    have hparts : (ofParts info fields data kind).isJunction = isJunctionOf info fields :=
      isJunctionOf_congr rfl (map_spec_ofParts _ _ _ _)
    rw [isJunction_retargetAll, hparts, isJunctionOf_eq_true_iff]
  refine ⟨hspecs, ?_, ?_, ?_⟩
  · intro i hi
    rw [hlinked.isLast, Bool.and_eq_true, decide_eq_true_eq, Bool.not_eq_true', ← hjunction,
      Bool.not_eq_true]
  · intro f hf
    rw [Field.modelName, hlinked.owner f hf]
    exact hname
  · intro d lines hd h
    refine ⟨hlinked.getElem_definitions hd h, ?_, ?_⟩
    · intro hnot
      rw [length_definitions h, if_neg fun hm => hnot (hjunction.1 hm)]
    · intro hyes
      have hm := hjunction.2 hyes
      rw [length_definitions h, if_pos hm, getLast?_definitions h hm, compositeKeyLine_of_isSql hd,
        hspecs, List.filter_map, List.map_map]
      exact ⟨rfl, rfl⟩

/-- The keys of a junction table, of which the first was the last field of another model. -/
def tripFields : List Field :=
  [{ spec := { name := "person_id", type := some .int, index := .pfk }, isLast := true },
   { spec := { name := "car_id", type := some .int, index := .pfk, description := "a car" } }]

theorem definitions_separated_trip :
    let m := (ofParts { name := "person_car", isCandidate := true } tripFields [] none).retargetAll
      [{ dialect := .java }, { dialect := .sqlite, options := { commentOffset := 50 } }]
    ∃ lines, m.definitions .sqlite = .ok lines ∧ lines.length = m.fields.length + 1 ∧
      lines.getLast? = some "primary key(person_id, car_id)" ∧
      ∃ column, m.fields[1].sqlColumn .sqlite = .ok column ∧ lines[1]? =
        some (withComment (column.declaration ++ ",") 50 "a car") := by
  intro m
  obtain ⟨_, _, _, hlines⟩ := definitions_separated { name := "person_car", isCandidate := true }
    tripFields [] none
    [{ dialect := .java }, { dialect := .sqlite, options := { commentOffset := 50 } }]
  obtain ⟨lines, hdef⟩ := fault?_eq_none_iff.1
    (show fault? (m.definitions .sqlite) = none by decide +kernel)
  obtain ⟨hline, _, hkey⟩ := hlines .sqlite lines rfl hdef
  obtain ⟨hlength, hlast⟩ := hkey ⟨rfl, _, List.mem_cons_self, rfl⟩
  obtain ⟨column, hcolumn, hsecond⟩ := hline 1 (by decide)
  rw [if_neg (by rw [hlength]; decide)] at hsecond
  exact ⟨lines, hdef, hlength, hlast, column, hcolumn, hsecond⟩

end Model

end RelSchema
