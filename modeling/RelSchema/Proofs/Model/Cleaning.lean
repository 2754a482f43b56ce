import RelSchema.Model
import RelSchema.Proofs.Text.Replacement

namespace RelSchema

/-- What follows the date in the text of a date with the time of midnight. -/
def midnight : String := " 00:00:00"

namespace Value

/-- A midnight is left when every midnight has been taken out of the value's text. -/
def LeavesMidnight (v : Value) : Prop :=
  midnight.toList <:+: (Text.replace v.display midnight "").toList

theorem toList_replace_midnight (s : String) :
    (Text.replace s midnight "").toList = Text.replaceList midnight.toList [] s.toList :=
  String.toList_ofList

theorem not_leavesMidnight_of_not_infix {v : Value}
    (h : ¬ midnight.toList <:+: v.display.toList) : ¬ v.LeavesMidnight := by
  rw [LeavesMidnight, toList_replace_midnight, Text.replaceList_of_not_infix h]
  exact h

theorem not_leavesMidnight_append {day : String} (h : ¬ midnight.toList <:+: day.toList) :
    ¬ (Value.text (day ++ midnight)).LeavesMidnight := by
  have hremoved : Text.replaceList midnight.toList [] (day.toList ++ midnight.toList) =
      day.toList ++ [] :=
    Text.replaceList_append_self (show ' ' ∉ "00:00:00".toList by decide) h
  rw [LeavesMidnight, toList_replace_midnight, display, String.toList_append, hremoved,
    List.append_nil]
  exact h

end Value

namespace Model

theorem cleanRow_congr {m n : Model} (h : m.fields.map (·.spec) = n.fields.map (·.spec))
    (row : Row) : m.cleanRow row = n.cleanRow row := by
  have hspecs : ∀ m : Model, m.cleanRow row =
      List.zipWith (fun spec => cleanCell spec.type) (m.fields.map (·.spec)) row := by
    intro m
    rw [List.zipWith_map_left]
    rfl
  rw [hspecs, hspecs, h]

theorem cleanCell_date {v : Value} (h : v.isNull = false) :
    cleanCell (some .date) v = .text (Text.replace v.display midnight "") := by
  simp only [cleanCell, h]
  rfl

theorem cleanCell_date_idempotent_iff (v : Value) :
    cleanCell (some .date) (cleanCell (some .date) v) = cleanCell (some .date) v ↔
      ¬ v.LeavesMidnight := by
  cases hnull : v.isNull with
  | true =>
    cases v with
    | null => exact iff_of_true rfl (Value.not_leavesMidnight_of_not_infix (by decide))
    | _ => cases hnull
  | false =>
    rw [cleanCell_date hnull, cleanCell_date rfl, Value.text.injEq, ← String.toList_inj,
      Value.toList_replace_midnight, Value.LeavesMidnight]
    exact Text.replaceList_nil_eq_self_iff (by decide)

theorem cleanCell_idempotent_iff (type : Option BaseType) (v : Value) :
    cleanCell type (cleanCell type v) = cleanCell type v ↔
      (type = some .date → ¬ v.LeavesMidnight) := by
  cases type with
  | none => simp [cleanCell]
  | some t =>
    cases t with
    | date => simpa using cleanCell_date_idempotent_iff v
    | time | interval => cases v <;> simp [cleanCell, Value.isNull, Value.display]
    | bool => simp [cleanCell, Value.isTruthy]
    | _ => simp [cleanCell]

/-- Cleaning a row a second time changes nothing exactly if no cell of a date field leaves a
midnight when it is cleaned. -/
theorem cleanRow_idempotent_iff (m : Model) (row : Row) :
    (m.cleanRow (m.cleanRow row) = m.cleanRow row ↔
      ∀ cell ∈ m.fields.zip row, cell.1.spec.type = some .date → ¬ cell.2.LeavesMidnight) ∧
    ∀ day : String, ¬ midnight.toList <:+: day.toList →
      ¬ (Value.text day).LeavesMidnight ∧ ¬ (Value.text (day ++ midnight)).LeavesMidnight := by
  constructor
  · unfold cleanRow
    induction m.fields generalizing row with
    | nil => simp
    | cons f fields ih =>
      cases row with
      | nil => simp
      | cons v row =>
        simp only [List.zipWith_cons_cons, List.cons.injEq, List.zip_cons_cons,
          List.forall_mem_cons, cleanCell_idempotent_iff, ih]
  · intro day h
    exact ⟨Value.not_leavesMidnight_of_not_infix h, Value.not_leavesMidnight_append h⟩

/-- An event on a day. -/
def event : Model :=
  ofParts { name := "event" } [{ spec := { name := "day", type := some .date } }] [] none

theorem cleanRow_idempotent_iff_event :
    event.cleanRow (event.cleanRow [.text ("2020-01-02" ++ midnight)]) =
      event.cleanRow [.text ("2020-01-02" ++ midnight)] := by
  obtain ⟨hidempotent, hdays⟩ :=
    cleanRow_idempotent_iff event [.text ("2020-01-02" ++ midnight)]
  have hday : ¬ midnight.toList <:+: "2020-01-02".toList := by decide +kernel
  refine hidempotent.2 fun cell hcell _ => ?_
  rw [List.mem_singleton.1 (List.of_mem_zip hcell).2]
  exact (hdays "2020-01-02" hday).2

/-- A midnight with another one inside it is put together by the first cleaning and taken out by the
second. -/
theorem cleanRow_not_idempotent_event :
    let row := [Value.text "2020-01-02 00:00 00:00:00:00 UTC"]
    event.cleanRow row = [.text "2020-01-02 00:00:00 UTC"] ∧
      event.cleanRow (event.cleanRow row) = [.text "2020-01-02 UTC"] ∧
      event.cleanRow (event.cleanRow row) ≠ event.cleanRow row := by
  decide +kernel

end Model

end RelSchema
