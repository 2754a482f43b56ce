import RelSchema.FieldSpec
import RelSchema.Proofs.Fault

namespace RelSchema

def typeNames : List String :=
  BaseType.all.map BaseType.name

/-- The spellings that leave a type open. -/
def openTypes : List String :=
  ["", "None"]

/-- The spellings of roles in lower case. -/
def roleNames : List String :=
  ["", "none", "pk", "fk", "pfk", "sk"]

theorem BaseType.ofName?_eq_none_iff {s : String} : ofName? s = none ↔ s ∉ typeNames := by
  simp [ofName?, typeNames]

theorem IndexRole.ofText?_eq_none_iff {s : String} :
    ofText? s = Option.none ↔ Text.lower (Text.trim s) ∉ roleNames := by
  unfold ofText?
  split <;> simp_all [roleNames]

namespace FieldSpec

theorem fault?_readType (field cell : String) :
    fault? (readType field cell) =
      if Text.trim cell ∈ openTypes ++ typeNames then none
      else some (.unknownType field (Text.trim cell)) := by
  have hiff := BaseType.ofName?_eq_none_iff (s := Text.trim cell)
  by_cases hopen : Text.trim cell ∈ openTypes
  · rw [if_pos (List.mem_append_left typeNames hopen)]
    simp_all [readType, openTypes]
  · cases h : BaseType.ofName? (Text.trim cell) <;> simp_all [readType, openTypes]

theorem fault?_readIndex (field cell : String) :
    fault? (readIndex field cell) =
      if Text.lower (Text.trim cell) ∈ roleNames then none
      else some (.unknownIndex field cell) := by
  have hiff := IndexRole.ofText?_eq_none_iff (s := cell)
  unfold readIndex
  cases h : IndexRole.ofText? cell <;> simp_all

theorem readType_eq_ok_none_iff (field cell : String) :
    readType field cell = .ok none ↔ Text.trim cell ∈ openTypes := by
  by_cases hopen : Text.trim cell ∈ openTypes
  · simp_all [readType, openTypes]
  · cases h : BaseType.ofName? (Text.trim cell) <;> simp_all [readType, openTypes]

theorem ofRow_eq_ok_iff {row : AttributeRow} {spec : FieldSpec} :
    ofRow row = .ok spec ↔ ∃ type index,
      readType row.name.cellText row.type.cellText = .ok type ∧
      readIndex row.name.cellText row.index.cellText = .ok index ∧
      { name := row.name.cellText, type, index
        length := row.length.int?.bind lengthOfInt?
        required := row.required.int?
        default := row.default
        constraint := row.constraint.cellText
        category := row.category.cellText
        action := row.action.cellText
        description := row.description.cellText } = spec := by
  constructor
  · intro h
    obtain ⟨type, htype, h⟩ := bind_eq_ok_iff.1 h
    obtain ⟨index, hindex, h⟩ := bind_eq_ok_iff.1 h
    exact ⟨type, index, htype, hindex, Except.ok.inj h⟩
  · rintro ⟨type, index, htype, hindex, rfl⟩
    exact bind_eq_ok_iff.2 ⟨type, htype, bind_eq_ok_iff.2 ⟨index, hindex, rfl⟩⟩

end FieldSpec

end RelSchema
