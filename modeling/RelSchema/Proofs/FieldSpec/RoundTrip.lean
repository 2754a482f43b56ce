import RelSchema.Proofs.FieldSpec.Reading
import RelSchema.Proofs.Keyed

namespace RelSchema

theorem Keyed.getD_get?_filter {table : Keyed Value} (h : table.keys.Nodup) (key : String) :
    (Keyed.get? key (table.filter fun cell => !cell.2.isNull)).getD .null =
      (table.get? key).getD .null := by
  induction table with
  | nil => rfl
  | cons cell rest ih =>
    obtain ⟨k, value⟩ := cell
    obtain ⟨hfresh, hrest⟩ := List.nodup_cons.1 h
    have ih := ih hrest
    have habsent : k = key → get? key rest = none := by
      rintro rfl
      cases hget : get? k rest with
      | none => rfl
      | some value' =>
        have hhas : has rest k = true := by rw [has, hget, Option.isSome_some]
        exact absurd (has_iff_mem_keys.1 hhas) hfresh
    cases value with
    | null =>
      rw [List.filter_cons_of_neg (by simp [Value.isNull]), ih, get?]
      split
      · rename_i hk
        rw [habsent hk]
        rfl
      · rfl
    | _ =>
      rw [List.filter_cons_of_pos (by simp [Value.isNull]), get?, get?]
      split
      · rfl
      · exact ih

namespace AttributeRow

theorem nodup_keys_zip (row : AttributeRow) : (Keyed.keys (attributes.zip row.toList)).Nodup := by
  change attributes.Nodup
  decide

theorem nodup_keys_toKeyed (row : AttributeRow) : row.toKeyed.keys.Nodup :=
  row.nodup_keys_zip.sublist (List.filter_sublist.map _)

theorem ofKeyed_toKeyed (row : AttributeRow) : ofKeyed row.toKeyed = row := by
  have hcell := Keyed.getD_get?_filter row.nodup_keys_zip
  simp only [ofKeyed, toKeyed, hcell]
  simp [attributes, toList, Keyed.get?]

theorem ofKeyed_of_perm {row : AttributeRow} {cells : Keyed Value}
    (h : row.toKeyed.Perm cells) : ofKeyed cells = row := by
  have hget := Keyed.get?_eq_of_perm row.nodup_keys_toKeyed h
  rw [← row.ofKeyed_toKeyed]
  simp only [ofKeyed, hget]

end AttributeRow

theorem Value.cellText_ofCellText (s : String) : (ofCellText s).cellText = s := by
  unfold ofCellText
  split
  · rename_i h
    exact (String.isEmpty_iff.1 h).symm
  · rfl

namespace FieldSpec

theorem lengthOfInt?_ne_zero (n : Int64) : lengthOfInt? n ≠ some 0 := by
  unfold lengthOfInt?
  split
  · rename_i h
    rw [Bool.and_eq_true, decide_eq_true_iff, decide_eq_true_iff] at h
    intro hzero
    have hnat := congrArg UInt32.toNat (Option.some.inj hzero)
    have hlt : n.toInt.toNat < UInt32.size := by
      have hsize : UInt32.size = 2 ^ 32 := rfl
      omega
    rw [UInt32.toNat_ofNat_of_lt' hlt, UInt32.toNat_zero] at hnat
    omega
  · simp

theorem lengthOfInt?_ofNat {n : UInt32} (h : n ≠ 0) :
    lengthOfInt? (.ofNat n.toNat) = some n := by
  have hlt := n.toNat_lt
  have hpos : n.toNat ≠ 0 := fun hzero => h (UInt32.toNat_inj.1 hzero)
  have hint : (Int64.ofNat n.toNat).toInt = n.toNat := Int64.toInt_ofNat_of_lt (by omega)
  rw [lengthOfInt?, hint, if_pos (by simp; omega), Int.toNat_natCast, UInt32.ofNat_toNat]

theorem length_of_ofRow {row : AttributeRow} {spec : FieldSpec} (h : ofRow row = .ok spec) :
    spec.length ≠ some 0 := by
  obtain ⟨_, _, _, _, rfl⟩ := ofRow_eq_ok_iff.1 h
  intro hzero
  obtain ⟨n, _, hn⟩ := Option.bind_eq_some_iff.1 hzero
  exact lengthOfInt?_ne_zero n hn

theorem readType_name (field : String) (t : BaseType) : readType field t.name = .ok (some t) := by
  have htrim : Text.trim t.name = t.name := by cases t <;> decide
  have hnamed : ¬ (t.name = "" || t.name = "None") := by cases t <;> decide
  simp only [readType, htrim, if_neg hnamed, BaseType.ofName?_name]

theorem readType_toRow (spec : FieldSpec) (field : String) :
    readType field spec.toRow.type.cellText = .ok spec.type := by
  unfold toRow
  cases spec.type with
  | none => rfl
  | some t => exact readType_name field t

theorem readIndex_toRow (spec : FieldSpec) (field : String) :
    readIndex field spec.toRow.index.cellText = .ok spec.index := by
  have htext : ∀ role : IndexRole,
      IndexRole.ofText? ((role.name?.map Value.text).getD .null).cellText = some role := by
    intro role
    cases role <;> decide
  rw [readIndex, toRow, htext]

/-- Zero is the only length that is lost. -/
theorem ofRow_toRow {spec : FieldSpec} (h : spec.length ≠ some 0) :
    ofRow spec.toRow = .ok spec := by
  have hlength : spec.toRow.length.int?.bind lengthOfInt? = spec.length := by
    unfold toRow
    cases hn : spec.length with
    | none => rfl
    | some n => exact lengthOfInt?_ofNat fun hzero => h (by rw [hn, hzero])
  have hrequired : spec.toRow.required.int? = spec.required := by
    unfold toRow
    cases spec.required <;> rfl
  refine ofRow_eq_ok_iff.2 ⟨_, _, spec.readType_toRow _, spec.readIndex_toRow _, ?_⟩
  rw [hlength, hrequired]
  simp only [toRow, Value.cellText_ofCellText]
  rfl

theorem ofKeyed_toKeyed {spec : FieldSpec} (h : spec.length ≠ some 0) :
    ofKeyed spec.toRow.toKeyed = .ok spec := by
  rw [ofKeyed, AttributeRow.ofKeyed_toKeyed, ofRow_toRow h]

end FieldSpec

end RelSchema
