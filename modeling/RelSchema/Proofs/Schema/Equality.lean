import RelSchema.Schema

namespace RelSchema

theorem beq_self_of_mem {α : Type} [BEq α] {l : List α} (h : ∀ a ∈ l, (a == a) = true) :
    (l == l) = true := by
  induction l with
  | nil => rfl
  | cons a l ih =>
    have hrest := ih fun b hb => h b (List.mem_cons_of_mem a hb)
    rw [List.cons_beq_cons, h a List.mem_cons_self, hrest]
    rfl

instance : ReflBEq Options where
  rfl {options} := by
    change (decide _ && options.commentOffset == options.commentOffset) = true
    rw [decide_eq_true rfl, beq_self_eq_true]
    rfl

instance : ReflBEq ModelInfo where
  rfl {info} := by
    change (info.name == info.name && (info.properties == info.properties &&
      (info.isCandidate == info.isCandidate && info.options == info.options))) = true
    simp only [beq_self_eq_true, Bool.and_true]

def Value.isNaN : Value → Bool
  | .float x => x.isNaN
  | _ => false

theorem Value.beq_self {v : Value} (h : v.isNaN = false) : (v == v) = true := by
  cases v with
  | null => rfl
  | bool b => exact beq_self_eq_true b
  | int n => exact beq_self_eq_true n
  | float x =>
    change (!x.isNaN && !x.isNaN && (decide (x.bits = x.bits) || (x.isZero && x.isZero))) = true
    rw [show x.isNaN = false from h, decide_eq_true rfl]
    rfl
  | text s => exact beq_self_eq_true s

theorem FieldSpec.beq_self {spec : FieldSpec} (h : spec.default.isNaN = false) :
    (spec == spec) = true := by
  change (spec.name == spec.name && (spec.type == spec.type && (spec.length == spec.length &&
    (spec.index == spec.index && (spec.required == spec.required &&
    (spec.default == spec.default && (spec.constraint == spec.constraint &&
    (spec.category == spec.category && (spec.action == spec.action &&
    spec.description == spec.description))))))))) = true
  simp only [beq_self_eq_true, Value.beq_self h, Bool.and_true]

theorem Field.beq_self {f : Field} (h : f.spec.default.isNaN = false) : (f == f) = true := by
  change (f.spec == f.spec && f.isLast == f.isLast && f.options == f.options &&
    f.modelName == f.modelName) = true
  simp only [beq_self_eq_true, FieldSpec.beq_self h, Bool.and_true]

theorem Enumeration.beq_self {e : Enumeration}
    (h : ∀ entry ∈ e.entries, entry.1.isNaN = false ∧ entry.2.isNaN = false) :
    (e == e) = true := by
  have hentries : (e.entries == e.entries) = true := by
    apply beq_self_of_mem
    intro entry hentry
    obtain ⟨hkey, hvalue⟩ := h entry hentry
    change (entry.1 == entry.1 && entry.2 == entry.2) = true
    rw [Value.beq_self hkey, Value.beq_self hvalue]
    rfl
  change (e.name == e.name && e.entries == e.entries) = true
  rw [hentries, beq_self_eq_true]
  rfl

theorem Model.beq_self {m : Model} (hfields : ∀ f ∈ m.fields, f.spec.default.isNaN = false)
    (hdata : ∀ row ∈ m.data, ∀ v ∈ row, v.isNaN = false) : (m == m) = true := by
  have hf : (m.fields == m.fields) = true :=
    beq_self_of_mem fun f hf => Field.beq_self (hfields f hf)
  have hd : (m.data == m.data) = true := by
    apply beq_self_of_mem
    intro row hrow
    exact beq_self_of_mem fun v hv => Value.beq_self (hdata row hrow v hv)
  change (m.info == m.info && (m.fields == m.fields && (m.data == m.data &&
    m.namespaceKind == m.namespaceKind))) = true
  simp only [beq_self_eq_true, hf, hd, Bool.and_true]

/-- The values of a schema: those of its enumerations, the defaults of its fields and its cells. -/
def Schema.values (s : Schema) : List Value :=
  s.enumerations.flatMap (fun e => e.keys ++ e.values) ++
    s.models.flatMap fun m => m.fields.map (·.spec.default) ++ m.data.flatten

theorem Schema.beq_self {s : Schema} (h : ∀ v ∈ s.values, v.isNaN = false) : (s == s) = true := by
  have henums : (s.enums == s.enums) = true := by
    apply beq_self_of_mem
    intro entry hentry
    have hentries : ∀ pair ∈ entry.2.entries, pair.1.isNaN = false ∧ pair.2.isNaN = false := by
      intro pair hpair
      have hmem : entry.2 ∈ s.enumerations := List.mem_map_of_mem hentry
      constructor
      · apply h
        refine List.mem_append_left _ (List.mem_flatMap.2 ⟨_, hmem, ?_⟩)
        exact List.mem_append_left _ (List.mem_map_of_mem hpair)
      · apply h
        refine List.mem_append_left _ (List.mem_flatMap.2 ⟨_, hmem, ?_⟩)
        exact List.mem_append_right _ (List.mem_map_of_mem hpair)
    change (entry.1 == entry.1 && entry.2 == entry.2) = true
    rw [Enumeration.beq_self hentries, beq_self_eq_true]
    rfl
  have hmodels : (s.models == s.models) = true := by
    apply beq_self_of_mem
    intro m hm
    have hvalue : ∀ v ∈ m.fields.map (·.spec.default) ++ m.data.flatten, v.isNaN = false :=
      fun v hv => h v (List.mem_append_right _ (List.mem_flatMap.2 ⟨m, hm, hv⟩))
    refine Model.beq_self ?_ ?_
    · intro f hf
      exact hvalue _ (List.mem_append_left _ (List.mem_map_of_mem hf))
    · intro row hrow v hv
      exact hvalue v (List.mem_append_right _ (List.mem_flatten_of_mem hrow hv))
  change (s.name == s.name && (s.dialect == s.dialect && (s.models == s.models &&
    (s.enums == s.enums && (s.types == s.types && s.options == s.options))))) = true
  simp only [beq_self_eq_true, hmodels, henums, Bool.and_true]

end RelSchema
