import RelSchema.Model

namespace RelSchema

/-- The field as it is before it belongs to a model. -/
def Field.release (f : Field) : Field :=
  { f with owner := none, isLast := false }

namespace Model

variable (info info' : ModelInfo) (keyLine keyLine' : Bool)

theorem linkFields_cons (f : Field) {rest : List Field} (h : rest ≠ []) :
    linkFields info keyLine (f :: rest) =
      { f with owner := some info, isLast := false } :: linkFields info keyLine rest := by
  cases rest with
  | nil => exact absurd rfl h
  | cons => rfl

@[simp] theorem map_spec_linkFields (fields : List Field) :
    (linkFields info keyLine fields).map (·.spec) = fields.map (·.spec) := by
  fun_induction linkFields with simp_all

theorem findSome?_linkFields {α : Type} (p : String → FieldSpec → Option α) (fields : List Field) :
    (linkFields info keyLine fields).findSome? (fun f => p f.modelName f.spec) =
      (fields.map (·.spec)).findSome? (p info.name) := by
  fun_induction linkFields with simp_all [List.findSome?_cons, Field.modelName]

theorem map_release_linkFields (fields : List Field) :
    (linkFields info keyLine fields).map (·.release) = fields.map (·.release) := by
  fun_induction linkFields with simp_all [Field.release]

theorem linkFields_map_release (fields : List Field) :
    linkFields info keyLine (fields.map (·.release)) = linkFields info keyLine fields := by
  induction fields with
  | nil => rfl
  | cons f rest ih =>
    cases rest with
    | nil => rfl
    | cons g rest =>
      rw [List.map_cons, linkFields_cons _ _ _ (by simp), ih]
      rfl

theorem hasRole_eq_any (fields : List Field) (role : IndexRole) :
    hasRole fields role = (fields.map (·.spec)).any (·.index = role) := by
  rw [List.any_map]
  rfl

theorem isJunctionOf_congr {info info' : ModelInfo} {fields fields' : List Field}
    (hinfo : info.isCandidate = info'.isCandidate)
    (hfields : fields.map (·.spec) = fields'.map (·.spec)) :
    isJunctionOf info fields = isJunctionOf info' fields' := by
  simp only [isJunctionOf, hasRole_eq_any, hinfo, hfields]

/-- Whatever the fields belonged to before, the model is put together alike. -/
theorem ofParts_congr_release {fields fields' : List Field} (data : List Row)
    (kind : Option NamespaceKind) (h : fields.map (·.release) = fields'.map (·.release)) :
    ofParts info fields data kind = ofParts info fields' data kind := by
  have hspecs := congrArg (List.map Field.spec) h
  rw [List.map_map, List.map_map] at hspecs
  have hjunction : isJunctionOf info fields = isJunctionOf info fields' :=
    isJunctionOf_congr rfl hspecs
  simp only [ofParts, hjunction]
  rw [← linkFields_map_release, h, linkFields_map_release]

@[simp] theorem map_spec_ofParts (fields : List Field) (data : List Row)
    (kind : Option NamespaceKind) :
    (ofParts info fields data kind).fields.map (·.spec) = fields.map (·.spec) :=
  map_spec_linkFields _ _ _

@[simp] theorem name_retarget (m : Model) (kind : Option NamespaceKind) (options : Options) :
    (m.retarget kind options).name = m.name := rfl

@[simp] theorem map_spec_retarget (m : Model) (kind : Option NamespaceKind) (options : Options) :
    (m.retarget kind options).fields.map (·.spec) = m.fields.map (·.spec) := by
  rw [retarget, map_spec_ofParts, List.map_map]
  rfl

theorem exists_field_of_map_spec_eq {fields fields' : List Field}
    (h : fields.map (·.spec) = fields'.map (·.spec)) {f : Field} (hf : f ∈ fields) :
    ∃ g ∈ fields', g.spec = f.spec := by
  have hspec := List.mem_map_of_mem (f := fun f : Field => f.spec) hf
  rw [h] at hspec
  exact List.mem_map.1 hspec

theorem exists_field_retarget_iff (m : Model) (kind : Option NamespaceKind) (options : Options)
    (p : FieldSpec → Prop) :
    (∃ f ∈ (m.retarget kind options).fields, p f.spec) ↔ ∃ f ∈ m.fields, p f.spec := by
  have hspecs := m.map_spec_retarget kind options
  constructor
  · rintro ⟨f, hf, hp⟩
    obtain ⟨g, hg, hgf⟩ := exists_field_of_map_spec_eq hspecs hf
    exact ⟨g, hg, hgf ▸ hp⟩
  · rintro ⟨f, hf, hp⟩
    obtain ⟨g, hg, hgf⟩ := exists_field_of_map_spec_eq hspecs.symm hf
    exact ⟨g, hg, hgf ▸ hp⟩

theorem retarget_ofParts (fields : List Field) (data : List Row) (kind kind' : Option NamespaceKind)
    (options : Options) :
    (ofParts info fields data kind).retarget kind' options =
      ofParts { info with options } (fields.map (·.withOptions options)) data kind' := by
  have hcomm : (·.release) ∘ (·.withOptions options) =
      (·.withOptions options) ∘ Field.release := rfl
  refine ofParts_congr_release _ _ _ ?_
  rw [ofParts, List.map_map, List.map_map, hcomm, ← List.map_map, ← List.map_map,
    map_release_linkFields]

/-- Only the last of two targets counts. -/
@[simp] theorem retarget_retarget (m : Model) (kind kind' : Option NamespaceKind)
    (options options' : Options) :
    (m.retarget kind options).retarget kind' options' = m.retarget kind' options' := by
  refine (retarget_ofParts _ _ _ _ _ _).trans ?_
  rw [List.map_map]
  rfl

end Model

end RelSchema
