import RelSchema.Proofs.FieldSpec.RoundTrip
import RelSchema.Proofs.Schema.Equality

namespace RelSchema.FieldSpec

/-- What may be set once attributes have been read. -/
inductive Change
  | length (n : UInt32)
  | index (role : IndexRole)
  | require
  | default (value : Value)
  | constraint (s : String)
  | category (s : String)
  | action (s : String)
  | description (s : String)

def Change.apply (spec : FieldSpec) : Change → FieldSpec
  | .length n => spec.withLength n
  | .index role => spec.withIndex role
  | .require => spec.require
  | .default value => spec.withDefault value
  | .constraint s => spec.withConstraint s
  | .category s => spec.withCategory s
  | .action s => spec.withAction s
  | .description s => spec.withDescription s

def changed (spec : FieldSpec) (changes : List Change) : FieldSpec :=
  changes.foldl Change.apply spec

/-- Some row of cells is read to these attributes. -/
def IsReadable (spec : FieldSpec) : Prop :=
  ∃ row, ofRow row = .ok spec

variable {spec : FieldSpec}

theorem isReadable_iff : spec.IsReadable ↔ spec.length ≠ some 0 := by
  constructor
  · intro ⟨row, h⟩
    exact length_of_ofRow h
  · intro h
    exact ⟨spec.toRow, ofRow_toRow h⟩

theorem isReadable_of_ofKeyed {cells : Keyed Value} (h : ofKeyed cells = .ok spec) :
    spec.IsReadable :=
  ⟨.ofKeyed cells, h⟩

theorem IsReadable.ofRow_toRow (h : spec.IsReadable) : ofRow spec.toRow = .ok spec :=
  FieldSpec.ofRow_toRow (isReadable_iff.1 h)

theorem IsReadable.ofKeyed_of_perm (h : spec.IsReadable) {cells : Keyed Value}
    (hperm : spec.toRow.toKeyed.Perm cells) : ofKeyed cells = .ok spec := by
  rw [ofKeyed, AttributeRow.ofKeyed_of_perm hperm, h.ofRow_toRow]

theorem length_withLength (n : UInt32) : (spec.withLength n).length ≠ some 0 := by
  intro h
  change (if n = 0 then none else some n) = some 0 at h
  split at h
  · cases h
  · rename_i hn
    exact hn (Option.some.inj h)

theorem IsReadable.apply (h : spec.IsReadable) (c : Change) : (c.apply spec).IsReadable := by
  rw [isReadable_iff] at h ⊢
  cases c with
  | length n => exact length_withLength n
  | index role => exact h
  | require => exact h
  | default value => exact h
  | constraint s => exact h
  | category s => exact h
  | action s => exact h
  | description s => exact h

theorem IsReadable.changed (h : spec.IsReadable) (changes : List Change) :
    (spec.changed changes).IsReadable := by
  induction changes generalizing spec with
  | nil => exact h
  | cons c changes ih => exact ih (h.apply c)

/-- Attributes that were read, and changed in whatever way, are read back from their row, and from
their cells that are not null in whatever order. -/
theorem changed_round_trip
    (h : (∃ row, ofRow row = .ok spec) ∨ ∃ cells, ofKeyed cells = .ok spec)
    (changes : List Change) :
    ofRow (spec.changed changes).toRow = .ok (spec.changed changes) ∧
      (∀ cells : Keyed Value, (spec.changed changes).toRow.toKeyed.Perm cells →
        ofKeyed cells = .ok (spec.changed changes)) ∧
      ((spec.changed changes).default.isNaN = false →
        (spec.changed changes == spec.changed changes) = true) := by
  have hread : spec.IsReadable := by
    rcases h with h | ⟨cells, h⟩
    · exact h
    · exact isReadable_of_ofKeyed h
  have hchanged := hread.changed changes
  exact ⟨hchanged.ofRow_toRow, fun cells => hchanged.ofKeyed_of_perm, FieldSpec.beq_self⟩

/-- A count whose cells are of other kinds than what they stand for. -/
def countRow : AttributeRow where
  name := .int 7
  type := .text " int "
  length := .text "8"
  index := .text "PK"
  required := .bool true
  default := .text "none"

theorem changed_round_trip_count :
    ∃ spec, ofRow countRow = .ok spec ∧
      let spec := spec.changed [.length 0, .default (.float ⟨0x8000000000000000⟩), .category "x"]
      spec.length = none ∧ ofRow spec.toRow = .ok spec ∧
        ofKeyed spec.toRow.toKeyed.reverse = .ok spec ∧ (spec == spec) = true := by
  obtain ⟨spec, hspec⟩ := fault?_eq_none_iff.1 (show fault? (ofRow countRow) = none by decide)
  obtain ⟨hrow, hcells, hself⟩ := changed_round_trip (.inl ⟨countRow, hspec⟩)
    [.length 0, .default (.float ⟨0x8000000000000000⟩), .category "x"]
  exact ⟨spec, hspec, rfl, hrow, hcells _ (List.reverse_perm _).symm, hself rfl⟩

end RelSchema.FieldSpec
