import Mathlib.Data.List.TakeDrop
import RelSchema.Proofs.Field.ForeignKey
import RelSchema.Proofs.Model.Linking

namespace RelSchema

namespace Text

theorem take_eq_stripId_iff (s : String) :
    String.ofList (s.toList.take (s.toList.length - 3)) = stripId s ↔
      endsWith s "_id" = true ∨ s = "" := by
  cases hid : endsWith s "_id" with
  | true =>
    have hstrip : dropSuffix? s "_id" = some (.ofList (s.toList.take (s.toList.length - 3))) :=
      if_pos hid
    rw [stripId, hstrip]
    simp
  | false =>
    have hstrip : dropSuffix? s "_id" = none := if_neg (by rw [← endsWith, hid]; decide)
    rw [stripId, hstrip, Option.getD_none, ← String.toList_inj, String.toList_ofList,
      List.take_eq_self_iff]
    have hempty : s = "" ↔ s.toList.length = 0 := by
      rw [List.length_eq_zero_iff, String.toList_eq_nil_iff]
    rw [hempty]
    simp only [Bool.false_eq_true, false_or]
    omega

end Text

namespace Field

variable {f : Field} {d : Dialect}

theorem sqlRefers_iff (hfk : f.isFk = true) (hd : d.isSql = true)
    (hparent : f.spec.name ≠ "parent_id") (h : ∃ line, f.definition d = .ok line)
    {table : String} : f.SqlRefers d table ↔ table = Text.stripId f.spec.name := by
  have hreference : f.referencedTable = Text.stripId f.spec.name := by
    simp [referencedTable, isSelfReference, hparent]
  obtain ⟨column, hcolumn, hdef, hrole⟩ := hreference ▸ sqlRefers hfk hd h
  constructor
  · rintro ⟨column', hcolumn', _, hrole'⟩
    cases hcolumn.symm.trans hcolumn'
    exact ColumnRole.reference.inj (hrole'.symm.trans hrole)
  · rintro rfl
    exact ⟨column, hcolumn, hdef, hrole⟩

end Field

namespace Model

variable {d : Dialect}

/-- The line of a key that is not the parent's names the table that the key's column refers to
exactly if the key's name ends in `_id` or is empty. -/
theorem dependencies_refer_iff (hd : d.isSql = true) (m : Model) :
    ∃ tables, m.dependencies d = tables.map ("--REQ tables/" ++ ·) ∧
      List.Forall₂ (fun f table => f.spec.name ≠ "parent_id" →
          (∃ line, f.definition d = .ok line) →
          (f.SqlRefers d table ↔ Text.endsWith f.spec.name "_id" = true ∨ f.spec.name = ""))
        (m.fields.filter (·.isFk)) tables := by
  refine ⟨m.fkFields.map fun f =>
    .ofList (f.spec.name.toList.take (f.spec.name.toList.length - 3)), ?_, ?_⟩
  · rw [dependencies, List.map_map]
    refine List.map_congr_left fun f _ => ?_
    simp only [f.name_of_isSql hd, Function.comp_apply]
  · rw [List.forall₂_map_right_iff]
    refine List.forall₂_same.2 fun f hf hparent hdef => ?_
    rw [Field.sqlRefers_iff (List.mem_filter.1 hf).2 hd hparent hdef, Text.take_eq_stripId_iff]

/-- A model of which one key is named like the table it refers to and the other one is not. -/
def ride : Model :=
  ofParts { name := "ride" }
    [{ spec := { name := "car_id", type := some .int, index := .fk } },
     { spec := { name := "owner", type := some .int, index := .fk } }] [] none

theorem dependencies_refer_iff_ride :
    ∃ car owner,
      ride.dependencies .sqlite = ["--REQ tables/" ++ car, "--REQ tables/" ++ owner] ∧
      ride.fields[0].SqlRefers .sqlite car ∧ ¬ ride.fields[1].SqlRefers .sqlite owner := by
  obtain ⟨tables, hlines, hrefers⟩ := dependencies_refer_iff (d := .sqlite) rfl ride
  have hkeys : ride.fields.filter (·.isFk) = [ride.fields[0], ride.fields[1]] := rfl
  have hdef : ∀ f ∈ ride.fields, ∃ line, f.definition .sqlite = .ok line := by
    intro f hf
    have htyped : ∀ f ∈ ride.fields, f.spec.type ≠ none := by decide
    exact Field.exists_definition (htyped f hf) (by decide) fun h => absurd h (by decide)
  rw [hkeys] at hrefers
  cases hrefers with
  | @cons _ car _ _ hcar hrest =>
    cases hrest with
    | @cons _ owner _ _ howner hrest =>
      cases hrest
      refine ⟨car, owner, hlines, ?_, ?_⟩
      · exact (hcar (by decide) (hdef _ (List.getElem_mem _))).2 (.inl (by decide))
      · rw [howner (by decide) (hdef _ (List.getElem_mem _))]
        decide

/-- The line of a key `owner` is about a table `ow`, but its column refers to the table `owner`. -/
theorem dependencies_misnamed_ride :
    ride.dependencies .sqlite = ["--REQ tables/car", "--REQ tables/ow"] ∧
      ∃ f ∈ ride.fields, f.spec.name = "owner" ∧ f.isFk = true ∧ f.SqlRefers .sqlite "owner" ∧
        ¬ f.SqlRefers .sqlite "ow" := by
  have hf : ride.fields[1] ∈ ride.fields := List.getElem_mem _
  have hdef : ∃ line, ride.fields[1].definition .sqlite = .ok line :=
    Field.exists_definition (by decide) (by decide) (by decide)
  have hrefers := @Field.sqlRefers_iff ride.fields[1] .sqlite rfl rfl (by decide) hdef
  refine ⟨by decide, _, hf, rfl, rfl, hrefers.2 (by decide), ?_⟩
  rw [hrefers]
  decide

end Model

end RelSchema
