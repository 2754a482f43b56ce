import RelSchema.Proofs.Document.Faults
import RelSchema.Proofs.Keyed
import RelSchema.Proofs.Schema.Equality

namespace RelSchema

def DocumentRow.values : DocumentRow → List Value
  | .list cells => cells
  | .map cells => cells.map (·.2)

def DocumentModel.values (m : DocumentModel) : List Value :=
  m.fields.flatMap (·.map (·.2)) ++ m.data.flatMap (·.values)

/-- The values that stand anywhere in a document. -/
def Document.values (doc : Document) : List Value :=
  doc.enums.flatMap (fun e => e.keys ++ e.values) ++ doc.models.flatMap (·.values)

def Document.IsNaNFree (doc : Document) : Prop :=
  ∀ v ∈ doc.values, v.isNaN = false

instance (doc : Document) : Decidable doc.IsNaNFree :=
  inferInstanceAs (Decidable (∀ v ∈ doc.values, v.isNaN = false))

namespace DocumentRow

theorem mem_values_of_pick {names : List String} {cells : Keyed Value} {row : Row}
    (h : pick names cells = .ok row) {v : Value} (hv : v ∈ row) : v ∈ cells.map (·.2) := by
  induction names generalizing cells row with
  | nil =>
    cases h
    cases hv
  | cons name names ih =>
    obtain ⟨value, rest, hvalue, hrest, rfl⟩ := pick_cons_eq_ok_iff.1 h
    rcases List.mem_cons.1 hv with rfl | hv
    · exact List.mem_map_of_mem (Keyed.mem_of_get? hvalue)
    · obtain ⟨entry, hentry, rfl⟩ := List.mem_map.1 (ih hrest hv)
      exact List.mem_map_of_mem (List.mem_of_mem_filter hentry)

theorem mem_values_of_order {names : List String} {row : DocumentRow} {cells : Row}
    (h : row.order names = .ok cells) {v : Value} (hv : v ∈ cells) : v ∈ row.values := by
  cases row with
  | list found =>
    rw [order] at h
    split at h
    · cases h
      exact hv
    · cases h
  | map found => exact mem_values_of_pick h hv

end DocumentRow

namespace DocumentModel

theorem mem_values_of_orderRows {model : String} {names : List String} {index : Nat}
    {rows : List DocumentRow} {data : List Row} (h : orderRows model names index rows = .ok data)
    {row : Row} (hrow : row ∈ data) {v : Value} (hv : v ∈ row) : v ∈ rows.flatMap (·.values) := by
  obtain ⟨written, hwritten, horder⟩ := exists_of_mem_forall₂ (orderRows_eq_ok_iff.1 h) hrow
  exact List.mem_flatMap.2 ⟨written, hwritten, DocumentRow.mem_values_of_order horder hv⟩

/-- The default of a field is one of its cells, or null if there is no such cell. -/
theorem isNaN_default {field : Keyed Value} {spec : FieldSpec}
    (h : FieldSpec.ofKeyed field = .ok spec) (hnan : ∀ v ∈ field.map (·.2), v.isNaN = false) :
    spec.default.isNaN = false := by
  obtain ⟨_, _, _, _, rfl⟩ := FieldSpec.ofRow_eq_ok_iff.1 h
  change ((field.get? "default").getD .null).isNaN = false
  cases hget : field.get? "default" with
  | none => rfl
  | some v => exact hnan v (List.mem_map_of_mem (Keyed.mem_of_get? hget))

theorem isNaN_of_toTypedModel {options : Options} {junctions : List String} {dm : DocumentModel}
    {m : Model} (h : dm.toTypedModel options junctions = .ok m)
    (hnan : ∀ v ∈ dm.values, v.isNaN = false) :
    ∀ v ∈ m.fields.map (·.spec.default) ++ m.data.flatten, v.isNaN = false := by
  intro v hv
  obtain ⟨specs, data, hspecs, hdata, _, rfl⟩ := (dm.toTypedModel_eq_ok_iff _ _).1 h
  rcases List.mem_append.1 hv with hv | hv
  · obtain ⟨f, hf, rfl⟩ := List.mem_map.1 hv
    have hspec := List.mem_map_of_mem (f := fun f : Field => f.spec) hf
    rw [map_spec_assemble] at hspec
    obtain ⟨field, hfield, hread⟩ := exists_of_mem_mapM (mapError_eq_ok_iff.1 hspecs) hspec
    refine isNaN_default hread fun v hv => hnan v ?_
    exact List.mem_append_left _ (List.mem_flatMap.2 ⟨field, hfield, hv⟩)
  · obtain ⟨row, hrow, hv⟩ := List.mem_flatten.1 hv
    exact hnan v (List.mem_append_right _ (mem_values_of_orderRows hdata hrow hv))

end DocumentModel

theorem Document.IsNaNFree.isNaN_values {doc : Document} (hdoc : doc.IsNaNFree)
    {options : Options} {name : String} {s : Schema} (h : doc.toSchema options name = .ok s) :
    ∀ v ∈ s.values, v.isNaN = false := by
  intro v hv
  obtain ⟨models, hmodels, _, rfl⟩ := toSchema_eq_ok_iff.1 h
  rcases List.mem_append.1 hv with hv | hv
  · obtain ⟨merged, hmerged, hv⟩ := List.mem_flatMap.1 hv
    obtain ⟨entry, hentry, rfl⟩ := List.mem_map.1 hmerged
    obtain ⟨e, he, rfl⟩ := List.mem_map.1 (Keyed.mem_of_mem_ofEntries hentry)
    exact hdoc v (List.mem_append_left _ (List.mem_flatMap.2 ⟨e, he, hv⟩))
  · obtain ⟨m, hm, hv⟩ := List.mem_flatMap.1 hv
    obtain ⟨dm, hdm, hread⟩ := exists_of_mem_mapM hmodels hm
    refine DocumentModel.isNaN_of_toTypedModel hread (fun v hv => hdoc v ?_) v hv
    exact List.mem_append_right _ (List.mem_flatMap.2 ⟨dm, hdm, hv⟩)

end RelSchema
