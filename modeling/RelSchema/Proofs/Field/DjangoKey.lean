import RelSchema.Proofs.Declaration
import RelSchema.Proofs.Declaration.Django
import RelSchema.Proofs.Document.Reading
import RelSchema.Proofs.Field.ForeignKey

namespace RelSchema

open Python

/-- What the type of a foreign key's field makes of its declaration. -/
inductive KeyForm
  | reference
  | longText
  | sized (length : UInt32)
  deriving DecidableEq

namespace KeyForm

def className : KeyForm → String
  | .reference | .sized _ => "ForeignKey"
  | .longText => "TextField"

def lengthOption : KeyForm → String
  | .reference | .longText => ""
  | .sized length => ", max_length=" ++ toString length.toNat

def ofType (type : Option BaseType) (length : Option UInt32) : KeyForm :=
  if type = some .str then length.elim .longText .sized else .reference

theorem ofType_eq_reference_iff {type : Option BaseType} {length : Option UInt32} :
    ofType type length = .reference ↔ type ≠ some .str := by
  by_cases h : type = some .str
  · cases length <;> simp [ofType, h]
  · simp [ofType, h]

/-- The two classes differ in their first letter. -/
theorem className_eq_of_append {form form' : KeyForm} {s t : String}
    (h : form.className ++ s = form'.className ++ t) : form.className = form'.className := by
  have hne : ∀ s t : String, "ForeignKey" ++ s ≠ "TextField" ++ t := by
    intro s t heq
    have hfirst := congrArg (·.toList.head?) heq
    simp at hfirst
  have hne' : ∀ s t : String, "TextField" ++ s ≠ "ForeignKey" ++ t := fun s t => (hne t s).symm
  cases form <;> cases form' <;> simp_all [className]

theorem toString_toNat_inj {n m : UInt32} : toString n.toNat = toString m.toNat ↔ n = m := by
  constructor
  · intro h
    rw [Nat.toString_eq_ofList_toDigits, Nat.toString_eq_ofList_toDigits, String.ofList_inj] at h
    have hvalue := congrArg (Nat.ofDigitChars 10 · 0) h
    simp only [Nat.ofDigitChars_ten_toDigits] at hvalue
    exact UInt32.toNat_inj.1 hvalue
  · exact congrArg fun n : UInt32 => toString n.toNat

theorem eq_of_texts_eq {form form' : KeyForm} (hclass : form.className = form'.className)
    (hlength : form.lengthOption = form'.lengthOption) : form = form' := by
  have hfirst := congrArg (·.toList.head?) hlength
  cases form with
  | reference => cases form' <;> simp_all [className, lengthOption]
  | longText => cases form' <;> simp_all [className]
  | sized n =>
    cases form' with
    | sized m =>
      rw [lengthOption, lengthOption, String.append_right_inj, toString_toNat_inj] at hlength
      rw [hlength]
    | _ => simp_all [className, lengthOption]

end KeyForm

namespace Field

/-- All that a foreign key is declared with but its length: the class it refers to, whether it may
be left out, and what becomes of it when the row it refers to is removed. -/
def foreignKeyOptions (f : Field) : String :=
  let optional := boolName (!f.isRequired)
  quote f.djangoTarget ++ ", blank=" ++ optional ++ ", null=" ++ optional ++
    (if f.isSelfReference then ", related_name=\"children\"" else "") ++
    ", on_delete=models.CASCADE"

def keyLine (f : Field) (form : KeyForm) : String :=
  Text.stripId f.spec.name ++ " = models." ++ form.className ++ "(" ++ f.foreignKeyOptions ++
    form.lengthOption ++ ")"

def foreignKeyLine (f : Field) : String :=
  Text.stripId f.spec.name ++ " = models.ForeignKey(" ++ f.foreignKeyOptions ++ ")"

/-- The field with another type and another length. -/
def retyped (f : Field) (type : Option BaseType) (length : Option UInt32) : Field :=
  { f with spec := { f.spec with type, length } }

def keyForm (f : Field) : KeyForm :=
  .ofType f.spec.type f.spec.length

variable {f : Field}

theorem keyLine_reference : f.keyLine .reference = f.foreignKeyLine := by
  rw [keyLine, foreignKeyLine, KeyForm.className, KeyForm.lengthOption, String.append_empty,
    show " = models.ForeignKey(" = " = models." ++ ("ForeignKey" ++ "(") from rfl]
  simp only [String.append_assoc]

theorem keyLine_inj {form form' : KeyForm} : f.keyLine form = f.keyLine form' ↔ form = form' := by
  constructor
  · intro h
    simp only [keyLine, String.append_assoc, String.append_right_inj] at h
    have hclass := KeyForm.className_eq_of_append h
    rw [hclass] at h
    simp only [String.append_right_inj, String.append_left_inj] at h
    exact KeyForm.eq_of_texts_eq hclass h
  · exact congrArg f.keyLine

theorem djangoArguments_of_isFk (hfk : f.isFk = true) :
    f.djangoArguments = [quote f.djangoTarget, "blank=" ++ boolName (!f.isRequired),
      "null=" ++ boolName (!f.isRequired)] ++
        (if f.isSelfReference then ["related_name=" ++ quote "children"] else []) ++
        ["on_delete=models.CASCADE"] := by
  rw [djangoArguments, isPk_of_isFk hfk, hfk]
  rfl

theorem arguments_djangoArguments (hfk : f.isFk = true) :
    arguments f.djangoArguments = f.foreignKeyOptions := by
  rw [djangoArguments_of_isFk hfk, foreignKeyOptions, arguments,
    show ", blank=" = ", " ++ "blank=" from rfl, show ", null=" = ", " ++ "null=" from rfl,
    show ", on_delete=models.CASCADE" = ", " ++ "on_delete=models.CASCADE" from rfl]
  split
  · rw [show ", related_name=\"children\"" = ", " ++ ("related_name=" ++ quote "children") from rfl]
    simp only [List.cons_append, List.nil_append, String.intercalate_cons_cons,
      String.intercalate_singleton, String.append_assoc]
  · simp only [List.cons_append, List.nil_append, String.intercalate_cons_cons,
      String.intercalate_singleton, String.append_assoc, String.empty_append]

theorem arguments_append_lengthKeywords {args : List String} (h : args ≠ []) {type : BaseType}
    (htype : f.spec.type = some type) :
    arguments (args ++ (f.lengthKeywords type).map (·.text)) =
      arguments args ++ f.keyForm.lengthOption := by
  rw [keyForm, htype]
  cases type with
  | str =>
    cases hlength : f.spec.length with
    | some n =>
      have hkeywords : (f.lengthKeywords .str).map (·.text) =
          ["max_length=" ++ toString n.toNat] := by
        simp [lengthKeywords, hlength, Expr.text]
      rw [hkeywords, arguments, String.intercalate_append_of_ne_nil h (List.cons_ne_nil _ _),
        String.intercalate_singleton,
        show KeyForm.ofType (some .str) (some n) = .sized n from rfl, KeyForm.lengthOption,
        show ", max_length=" = ", " ++ "max_length=" from rfl]
      simp only [String.append_assoc, arguments]
    | none => simp [lengthKeywords, hlength, KeyForm.ofType, KeyForm.lengthOption]
  | _ => simp [lengthKeywords, KeyForm.ofType, KeyForm.lengthOption]

theorem djangoKind_of_isFk (hfk : f.isFk = true) {type : BaseType}
    (htype : f.spec.type = some type) (name : String) :
    f.djangoKind type name = f.keyForm.className := by
  rw [djangoKind, keyForm, htype, hfk]
  cases type with
  | str => cases f.spec.length <;> rfl
  | _ => rfl

theorem definition_django_of_isFk (hfk : f.isFk = true) {line : String}
    (h : f.definition .django = .ok line) : line = f.keyLine f.keyForm := by
  obtain ⟨call, hcall, hline⟩ :=
    exists_eq_ok_of_eq_map (y := f.definition .django) f.djangoDefinition_eq ⟨line, h⟩
  obtain ⟨type, htype, hcall⟩ := bind_eq_ok_iff.1 hcall
  obtain ⟨name, _, hcall⟩ := bind_eq_ok_iff.1 hcall
  cases hcall
  cases h.symm.trans hline
  rw [baseType_eq_ok_iff] at htype
  have hname : f.djangoAttribute = Text.stripId f.spec.name := if_pos hfk
  have hne : f.djangoArguments ≠ [] := by
    rw [djangoArguments_of_isFk hfk]
    exact List.cons_ne_nil _ _
  rw [text_djangoCall, hname, arguments_append_lengthKeywords hne htype,
    arguments_djangoArguments hfk, djangoKind_of_isFk hfk htype, keyLine]
  simp only [String.append_assoc]

/-- The declaration of a foreign key is that of a key, and depends on neither the type nor the
length of the field, unless the field has the type of a short text. -/
theorem django_foreign_key_iff (hfk : f.isFk = true) {line : String}
    (h : f.definition .django = .ok line) :
    (line = f.foreignKeyLine ↔ f.spec.type ≠ some .str) ∧
      ∀ type length other, (f.retyped type length).definition .django = .ok other →
        (other = line ↔ KeyForm.ofType type length = f.keyForm) := by
  have hline := definition_django_of_isFk hfk h
  constructor
  · rw [hline, ← keyLine_reference, keyLine_inj]
    exact KeyForm.ofType_eq_reference_iff
  · intro type length other hother
    have hretyped : other = f.keyLine (.ofType type length) :=
      definition_django_of_isFk (f := f.retyped type length) hfk hother
    rw [hretyped, hline, keyLine_inj]

/-- The key of a person in a note. -/
def personKey : Field where
  spec := {
    name := "person_id", type := some .int, index := .fk, default := .int 7,
    constraint := "on delete cascade", description := "who wrote it" }

theorem django_foreign_key_iff_person :
    personKey.definition .django = .ok personKey.foreignKeyLine ∧
      ∃ other, (personKey.retyped (some .dec) (some 3)).definition .django = .ok other ∧
        other = personKey.foreignKeyLine := by
  have hdef : ∀ type length, type ≠ none → type ≠ some .numeric →
      ∃ line, (personKey.retyped type length).definition .django = .ok line :=
    fun _ _ htyped hnumeric => exists_definition htyped (by decide) fun _ => hnumeric
  obtain ⟨line, hline⟩ := hdef (some .int) none (by decide) (by decide)
  obtain ⟨other, hother⟩ := hdef (some .dec) (some 3) (by decide) (by decide)
  obtain ⟨hiff, hretyped⟩ := django_foreign_key_iff (f := personKey) rfl hline
  have hkey : line = personKey.foreignKeyLine := hiff.2 (by decide)
  refine ⟨hkey ▸ hline, other, hother, ?_⟩
  rw [← hkey, hretyped _ _ _ hother]
  rfl

end Field

/-- Cars with a key of their owner that is a text. -/
def Document.owners : Document where
  models := [
    { name := "car"
      fields := [[("name", .text "owner_id"), ("type", .text "str"), ("index", .text "fk")]] }]

/-- The owner of a car is declared to be a long text, with the arguments of a key. -/
theorem Field.django_foreign_key_misdeclared_owner :
    ∃ s, Document.owners.toSchema {} "schema" = .ok s ∧
      ∃ m ∈ s.models, ∃ f ∈ (m.retarget none {}).fields, f.isFk = true ∧
        f.definition .django = .ok
          "owner = models.TextField(\"Owner\", blank=True, null=True, on_delete=models.CASCADE)" ∧
        f.definition .django ≠ .ok f.foreignKeyLine ∧
        f.definition .django ≠ (f.retyped (some .int) none).definition .django := by
  exact exists_eq_ok_of_any (by decide +kernel)

end RelSchema
