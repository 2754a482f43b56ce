import RelSchema.Proofs.Declaration.Abap
import RelSchema.Proofs.Model.Trailing
import RelSchema.Proofs.Output.Rendering
import RelSchema.Proofs.Text.Lines

namespace RelSchema

namespace Field

/-- The character that a component ends in, before the blanks that pad it and its comment. -/
def endMark? (description line : String) : Option Char :=
  (Text.dropSuffix? line ("\"" ++ " " ++ description)).bind fun component =>
    (component.toList.reverse.dropWhile (· = ' ')).head?

def endMark (f : Field) : Char :=
  if f.isLast then '.' else ','

variable {f : Field}

theorem abapComponent_eq_ok {component : String} (h : f.abapComponent = .ok component) :
    ∃ declaration, component = declaration ++ f.endMark.toString := by
  obtain ⟨type, _, h⟩ := bind_eq_ok_iff.1 h
  cases h
  have hmark : f.separator .abap = f.endMark.toString := by
    unfold separator endMark
    split <;> rfl
  exact ⟨_, by rw [hmark]⟩

theorem endMark?_of_definition {line : String} (h : f.definition .abap = .ok line) :
    endMark? f.spec.description line = some f.endMark := by
  obtain ⟨component, hcomponent, rfl⟩ := map_eq_ok_iff.1 (abapDefinition_eq.symm.trans h)
  obtain ⟨declaration, rfl⟩ := abapComponent_eq_ok hcomponent
  have hmark : f.endMark ≠ ' ' := by
    unfold endMark
    split <;> decide
  rw [endMark?, Text.dropSuffix?_append, Option.bind_some, Text.padRight_eq, Text.blanks]
  simp [Char.toString, hmark]

end Field

namespace Model

theorem IsLinked.map_isLast {m : Model} (h : m.IsLinked) (hne : m.fields ≠ []) :
    m.fields.map (·.isLast) = List.replicate (m.fields.length - 1) false ++ [!m.isJunction] := by
  have hpos : 0 < m.fields.length := List.length_pos_iff.2 hne
  refine List.ext_getElem ?_ fun i hi _ => ?_
  · simp only [List.length_map, List.length_append, List.length_replicate, List.length_singleton]
    omega
  · rw [List.length_map] at hi
    rw [List.getElem_map, h.isLast i hi, List.getElem_append]
    split
    · rename_i hlast
      rw [List.length_replicate] at hlast
      have hnot : ¬ i + 1 = m.fields.length := by omega
      simp [hnot]
    · rename_i hlast
      rw [List.length_replicate] at hlast
      have heq : i + 1 = m.fields.length := by omega
      simp [heq]

end Model

namespace Script.Abap

/-- What the lines of a structure end in, one for each field of the model. -/
def endMarks (m : Model) (lines : List String) : List (Option Char) :=
  List.zipWith Field.endMark? (m.fields.map (·.spec.description)) lines

/-- A comma ends every component but the last one, and a full stop the last one. -/
def IsTerminated (m : Model) (lines : List String) : Prop :=
  endMarks m lines = List.replicate (m.fields.length - 1) (some ',') ++ [some '.']

instance (m : Model) (lines : List String) : Decidable (IsTerminated m lines) :=
  inferInstanceAs (Decidable (_ = _))

def structureOf (m : Model) (lines : List String) : String :=
  "\nTYPES: BEGIN OF ty_" ++ m.name ++ ",\n" ++ block "  " lines ++
    "TYPES: END OF ty_" ++ m.name ++ ".\n"

variable {m : Model}

theorem endMarks_of_definitions {lines : List String} (h : m.fieldDefinitions .abap = .ok lines) :
    endMarks m lines =
      (m.fields.map (·.isLast)).map fun last => some (if last then '.' else ',') := by
  have hall := mapM_eq_ok_iff.1 h
  clear h
  rw [endMarks]
  generalize m.fields = fields at hall
  induction hall with
  | nil => rfl
  | cons hline _ ih =>
    rw [List.map_cons, List.zipWith_cons_cons, Field.endMark?_of_definition hline, ih]
    rfl

/-- Without a key line, the last component of a junction table is followed by nothing. -/
theorem isTerminated_iff (hm : m.IsLinked) (hne : m.fields ≠ []) {lines : List String}
    (h : m.fieldDefinitions .abap = .ok lines) : IsTerminated m lines ↔ m.isJunction = false := by
  rw [IsTerminated, endMarks_of_definitions h, hm.map_isLast hne, List.map_append,
    List.map_replicate]
  cases m.isJunction <;> simp

theorem isTerminated_retarget (kind : Option NamespaceKind) (options : Options)
    {lines : List String} :
    IsTerminated (m.retarget kind options) lines ↔ IsTerminated m lines := by
  have hspecs := m.map_spec_retarget kind options
  have hdescriptions := congrArg (List.map FieldSpec.description) hspecs
  have hlength := congrArg List.length hspecs
  rw [List.map_map, List.map_map] at hdescriptions
  rw [List.length_map, List.length_map] at hlength
  rw [IsTerminated, IsTerminated, endMarks, endMarks, hlength]
  exact Eq.congr_left (congrArg (List.zipWith Field.endMark? · lines) hdescriptions)

theorem structureText_eq_ok {text : String} (h : structureText m = .ok text) :
    ∃ lines, m.fieldDefinitions .abap = .ok lines ∧ structureOf m lines = text := by
  obtain ⟨lines, hlines, h⟩ := bind_eq_ok_iff.1 h
  cases h
  exact ⟨lines, hlines, rfl⟩

theorem structures_of_render {o : Output} {s : Schema} {text : String}
    (hformat : o.format = .abap) (h : o.render s = .ok text) :
    ∃ structures, text = "* " ++ s.name ++ " structures\n" ++ .join structures ∧
      List.Forall₂ (fun m body => ∃ lines,
          (m.retarget o.namespaceKind o.options).fieldDefinitions .abap = .ok lines ∧
          body = structureOf m lines)
        s.models structures := by
  have hscript := Output.render_eq_ok (by rw [hformat]; decide) h
  rw [hformat] at hscript
  obtain ⟨structures, hstructures, htext⟩ := bind_eq_ok_iff.1 (mapError_eq_ok_iff.1 hscript)
  refine ⟨structures, (Except.ok.inj htext).symm, ?_⟩
  rw [mapM_eq_ok_iff, Schema.view, List.forall₂_map_left_iff] at hstructures
  refine hstructures.imp fun m body hbody => ?_
  obtain ⟨lines, hlines, rfl⟩ := structureText_eq_ok hbody
  exact ⟨lines, hlines, rfl⟩

/-- The separators of a structure's components end it properly unless the model is a junction
table. -/
theorem structures_terminated_iff {o : Output} {s : Schema} {text : String}
    (hformat : o.format = .abap) (h : o.render s = .ok text) :
    ∃ structures, text = "* " ++ s.name ++ " structures\n" ++ .join structures ∧
      List.Forall₂ (fun m body => ∃ lines,
          (m.retarget o.namespaceKind o.options).fieldDefinitions .abap = .ok lines ∧
          body = structureOf m lines ∧ (m.fields ≠ [] → (IsTerminated m lines ↔
            ¬ (m.info.isCandidate = true ∧ ∃ f ∈ m.fields, f.spec.index = .pfk))))
        s.models structures := by
  obtain ⟨structures, htext, hstructures⟩ := structures_of_render hformat h
  refine ⟨structures, htext, hstructures.imp fun m body ⟨lines, hlines, hbody⟩ => ?_⟩
  refine ⟨lines, hlines, hbody, fun hne => ?_⟩
  have hne' : (m.retarget o.namespaceKind o.options).fields ≠ [] := by
    have hlength := congrArg List.length (m.map_spec_retarget o.namespaceKind o.options)
    rw [List.length_map, List.length_map] at hlength
    rwa [← List.length_pos_iff, hlength, List.length_pos_iff]
  have hterminated := isTerminated_iff (m.isLinked_retarget _ _) hne' hlines
  rw [isTerminated_retarget, Model.isJunction_retarget] at hterminated
  rwa [← Model.isJunctionOf_eq_true_iff, Bool.not_eq_true]

/-- Persons, cars, and trips of persons with cars, whose reference to a car plays a role. -/
def trips (role : String) : Document where
  models := [
    { name := "person"
      fields := [[("name", .text "id"), ("type", .text "serial"), ("index", .text "pk")]] },
    { name := "car"
      fields := [[("name", .text "id"), ("type", .text "serial"), ("index", .text "pk")]] },
    { name := "person_car"
      fields := [[("name", .text "person_id"), ("type", .text "int"), ("index", .text role)],
        [("name", .text "car_id"), ("type", .text "int"), ("index", .text role)]] }]

theorem structures_terminated_iff_trips :
    ∃ s text structures, (trips "fk").toSchema {} "schema" = .ok s ∧
      Output.render { format := .abap } s = .ok text ∧
      text = "* " ++ s.name ++ " structures\n" ++ .join structures ∧
      List.Forall₂ (fun m body => ∃ lines, body = structureOf m lines ∧ IsTerminated m lines)
        s.models structures := by
  obtain ⟨s, hs, hroles, htext⟩ := exists_eq_ok_of_any (x := (trips "fk").toSchema {} "schema")
    (p := fun s => (∀ m ∈ s.models, m.fields ≠ [] ∧
        ¬ (m.info.isCandidate = true ∧ ∃ f ∈ m.fields, f.spec.index = .pfk)) ∧
      fault? (Output.render { format := .abap } s) = none) (by decide +kernel)
  obtain ⟨text, htext⟩ := fault?_eq_none_iff.1 htext
  obtain ⟨structures, hjoined, hall⟩ := structures_terminated_iff rfl htext
  refine ⟨s, text, structures, hs, htext, hjoined,
    ((List.forall₂_and_left _ _).2 ⟨hroles, hall⟩).imp ?_⟩
  rintro m body ⟨⟨hne, hrole⟩, lines, _, hbody, hiff⟩
  exact ⟨lines, hbody, (hiff hne).2 hrole⟩

/-- The structure of a junction table ends in a component with a comma. -/
theorem structures_not_terminated_trips :
    ∃ s text structures, (trips "pfk").toSchema {} "schema" = .ok s ∧
      Output.render { format := .abap } s = .ok text ∧
      text = "* " ++ s.name ++ " structures\n" ++ .join structures ∧
      ∃ m ∈ s.models, m.fields ≠ [] ∧ ∃ lines, structureOf m lines ∈ structures ∧
        endMarks m lines = [some ',', some ','] ∧ ¬ IsTerminated m lines := by
  obtain ⟨s, hs, htext, m, hm, hne, hlines⟩ :=
    exists_eq_ok_of_any (x := (trips "pfk").toSchema {} "schema")
    (p := fun s => fault? (Output.render { format := .abap } s) = none ∧
      ∃ m ∈ s.models, m.fields ≠ [] ∧
        ((m.retarget none {}).fieldDefinitions .abap).toOption.any (fun lines =>
          decide (endMarks m lines = [some ',', some ','] ∧ ¬ IsTerminated m lines)) = true)
    (by decide +kernel)
  obtain ⟨text, htext⟩ := fault?_eq_none_iff.1 htext
  obtain ⟨lines, hlines, hmarks⟩ := exists_eq_ok_of_any hlines
  obtain ⟨structures, hjoined, hstructures⟩ := structures_of_render rfl htext
  obtain ⟨body, hbody, lines', hlines', rfl⟩ := exists_of_mem_forall₂ hstructures.flip hm
  cases hlines.symm.trans hlines'
  exact ⟨s, text, structures, hs, htext, hjoined, m, hm, hne, lines, hbody, hmarks⟩

end Script.Abap

end RelSchema
