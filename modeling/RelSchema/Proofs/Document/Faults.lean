import RelSchema.Proofs.Document.Reading
import RelSchema.Proofs.FieldSpec.Reading

namespace RelSchema

theorem head?_unless {α : Type} (p : Prop) [Decidable p] (a : α) :
    (if p then [] else [a]).head? = if p then none else some a := by
  split <;> rfl

namespace DocumentField

variable (field : Keyed Value)

/-- The text of the cell of an attribute. -/
def text (key : String) : String :=
  ((field.get? key).getD .null).cellText

def name : String := text field "name"

def typeName : String := Text.trim (text field "type")

def roleName : String := Text.lower (Text.trim (text field "index"))

def isUntyped : Bool :=
  typeName field ∈ openTypes

def isEnum : Bool :=
  Text.startsWith (text field "constraint") "enum"

/-- An unknown type comes before an unknown role. -/
def faults : List FieldError :=
  (if typeName field ∈ openTypes ++ typeNames then []
    else [.unknownType (name field) (typeName field)]) ++
  (if roleName field ∈ roleNames then [] else [.unknownIndex (name field) (text field "index")])

end DocumentField

namespace DocumentRow

/-- The names that are no keys of a map, or that repeat a name before them. -/
def missing (cells : Keyed Value) (earlier : List String) : List String → List String
  | [] => []
  | name :: rest =>
    (if name ∈ earlier || !cells.has name then [name] else []) ++
      missing cells (name :: earlier) rest

def faults (names : List String) : DocumentRow → List RowFault
  | .list cells =>
    if cells.length = names.length then [] else [.wrongLength names.length cells.length]
  | .map cells => (missing cells [] names).map .missingValue

end DocumentRow

namespace DocumentModel

def fieldNames (m : DocumentModel) : List String :=
  m.fields.map DocumentField.name

def rowFaults (model : String) (names : List String) (index : Nat) (rows : List DocumentRow) :
    List ReadError :=
  (rows.zipIdx index).flatMap fun (row, i) => (row.faults names).map (.row model i)

/-- Attributes that cannot be read come first, then rows that do not fit, then types left open. -/
def faults (m : DocumentModel) : List ReadError :=
  (m.fields.flatMap DocumentField.faults).map (.field m.name) ++
    rowFaults m.name m.fieldNames 0 m.data ++
    (m.fields.filter DocumentField.isUntyped).map fun field =>
      .field m.name (.missingType (m.name ++ "." ++ DocumentField.name field))

/-- The fields whose enumeration is not among those of the document. -/
def enumFaults (enums : List Enumeration) (m : DocumentModel) : List ReadError :=
  (m.fields.filter fun field =>
    DocumentField.isEnum field && !(enums.map (·.name)).contains (DocumentField.name field)).map
    fun field => .schema (.missingEnum m.name (DocumentField.name field))

end DocumentModel

/-- Enumerations are looked for when all models have been read. -/
def Document.faults (doc : Document) : List ReadError :=
  doc.models.flatMap (·.faults) ++ doc.models.flatMap (·.enumFaults doc.enums)

namespace FieldSpec

theorem fault?_ofKeyed (field : Keyed Value) :
    fault? (ofKeyed field) = (DocumentField.faults field).head? := by
  have hbind : fault? (ofKeyed field) =
      (fault? (readType (DocumentField.name field) (DocumentField.text field "type"))).or
        (fault? (readIndex (DocumentField.name field) (DocumentField.text field "index"))) :=
    fault?_bind fun _ _ => fault?_bind_pure _ _
  rw [hbind, fault?_readType, fault?_readIndex, DocumentField.faults, List.head?_append,
    head?_unless, head?_unless]
  rfl

theorem ofKeyed_eq_ok {field : Keyed Value} {spec : FieldSpec} (h : ofKeyed field = .ok spec) :
    spec.name = DocumentField.name field ∧
      spec.constraint = DocumentField.text field "constraint" ∧
      (spec.type = none ↔ DocumentField.isUntyped field = true) := by
  obtain ⟨type, index, htype, _, rfl⟩ := ofRow_eq_ok_iff.1 h
  refine ⟨rfl, rfl, ?_⟩
  rw [DocumentField.isUntyped, decide_eq_true_iff]
  constructor
  · rintro rfl
    exact (readType_eq_ok_none_iff _ _).1 htype
  · intro hopen
    have hnone := (readType_eq_ok_none_iff (DocumentField.name field) _).2 hopen
    exact Except.ok.inj (htype.symm.trans hnone)

end FieldSpec

namespace DocumentRow

theorem fault?_pick {cells rest : Keyed Value} {earlier : List String}
    (h : ∀ name, rest.get? name = if name ∈ earlier then none else cells.get? name)
    (names : List String) :
    fault? (pick names rest) = (missing cells earlier names).head?.map .missingValue := by
  induction names generalizing rest earlier with
  | nil => rfl
  | cons name names ih =>
    have hname := h name
    cases hget : rest.get? name with
    | none =>
      have hmissing : name ∈ earlier ∨ cells.has name = false := by
        by_cases he : name ∈ earlier
        · exact .inl he
        · rw [if_neg he, hget] at hname
          exact .inr (by rw [Keyed.has, ← hname, Option.isSome_none])
      simp [pick, missing, hget, hmissing]
    | some value =>
      have hpresent : name ∉ earlier ∧ cells.has name = true := by
        by_cases he : name ∈ earlier
        · rw [if_pos he, hget] at hname
          cases hname
        · rw [if_neg he, hget] at hname
          exact ⟨he, by rw [Keyed.has, ← hname, Option.isSome_some]⟩
      have herase : ∀ other, (rest.erase name).get? other =
          if other ∈ name :: earlier then none else cells.get? other := by
        intro other
        rw [Keyed.get?_erase, h other]
        by_cases hother : other = name <;> simp [hother]
      have hrest := ih herase
      simp only [pick, hget, missing, hpresent.1, hpresent.2]
      cases hpick : pick names (rest.erase name) <;> simp_all [Except.map]

theorem fault?_order (names : List String) (row : DocumentRow) :
    fault? (row.order names) = (row.faults names).head? := by
  cases row with
  | list cells =>
    rw [order, faults, head?_unless]
    split <;> rfl
  | map cells =>
    rw [order, faults, List.head?_map]
    exact fault?_pick (fun _ => by simp) names

theorem pick_cons_eq_ok_iff {name : String} {names : List String} {cells : Keyed Value}
    {row : Row} :
    pick (name :: names) cells = .ok row ↔ ∃ value rest, cells.get? name = some value ∧
      pick names (cells.erase name) = .ok rest ∧ value :: rest = row := by
  rw [pick]
  cases cells.get? name with
  | none => simp
  | some value => cases pick names (cells.erase name) <;> simp [Except.map]

theorem length_pick {names : List String} {cells : Keyed Value} {row : Row}
    (h : pick names cells = .ok row) : row.length = names.length := by
  induction names generalizing cells row with
  | nil =>
    cases h
    rfl
  | cons name names ih =>
    obtain ⟨value, rest, _, hrest, rfl⟩ := pick_cons_eq_ok_iff.1 h
    rw [List.length_cons, List.length_cons, ih hrest]

theorem length_order {names : List String} {row : DocumentRow} {cells : Row}
    (h : row.order names = .ok cells) : cells.length = names.length := by
  cases row with
  | list found =>
    rw [order] at h
    split at h
    · cases h
      assumption
    · cases h
  | map found => exact length_pick h

end DocumentRow

end RelSchema
