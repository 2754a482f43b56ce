import Mathlib.Data.List.Nodup
import Mathlib.Data.List.Perm.Basic
import RelSchema.Proofs.Declaration.Django
import RelSchema.Proofs.Script.SqlAlchemy
import RelSchema.Proofs.Text.Words
import RelSchema.Script.Django

namespace RelSchema

open Python

namespace Field

variable {f : Field}

/-- The attribute of a foreign key is called like the key without its ending. -/
def losesEnding (f : Field) : Bool :=
  f.isFk && Text.endsWith f.spec.name "_id"

theorem name_of_losesEnding (h : f.losesEnding = true) :
    f.spec.name = f.djangoAttribute ++ "_id" := by
  obtain ⟨hfk, hend⟩ := Bool.and_eq_true_iff.1 h
  rw [djangoAttribute, if_pos hfk]
  exact (Text.stripId_of_endsWith hend).symm

theorem name_of_not_losesEnding (h : f.losesEnding = false) : f.spec.name = f.djangoAttribute := by
  rw [djangoAttribute]
  cases hfk : f.isFk with
  | false => rfl
  | true =>
    rw [losesEnding, hfk, Bool.true_and] at h
    exact (Text.stripId_of_not_endsWith h).symm

/-- The attribute of a Django class that a field becomes. -/
def djangoAssignment (f : Field) : Except FieldError Assignment :=
  f.djangoCall.map fun call => ⟨f.djangoAttribute, call⟩

theorem definition_django_eq (f : Field) :
    f.definition .django = f.djangoAssignment.map (·.text) := by
  rw [definition, djangoDefinition_eq, djangoAssignment]
  cases f.djangoCall <;> rfl

theorem target_of_djangoAssignment {a : Assignment} (h : f.djangoAssignment = .ok a) :
    a.target = f.djangoAttribute := by
  obtain ⟨call, _, rfl⟩ := map_eq_ok_iff.1 h
  rfl

end Field

namespace Script.SqlAlchemy

theorem attributeNames_perm (fields : List Field) :
    (fields.flatMap Field.attributeNames).Perm (fields.map (·.spec.name) ++
      (fields.filter fun f => f.isFk || f.isPfk).map fun f => Text.stripId f.spec.name) := by
  have hkeys : fields.flatMap (fun f =>
        if f.isFk || f.isPfk then [Text.stripId f.spec.name] else []) =
      (fields.filter fun f => f.isFk || f.isPfk).map fun f => Text.stripId f.spec.name := by
    induction fields with
    | nil => rfl
    | cons f fields ih =>
      rw [List.flatMap_cons, ih, List.filter_cons]
      split <;> rfl
  rw [← hkeys]
  exact (List.map_append_flatMap_perm fields _ _).symm

theorem nodup_attributeNames_iff {fields : List Field} (h : (fields.map (·.spec.name)).Nodup) :
    (fields.flatMap Field.attributeNames).Nodup ↔
      ∀ f ∈ fields, (f.isFk || f.isPfk) = true → Text.endsWith f.spec.name "_id" = true ∧
        ∀ g ∈ fields, g.spec.name ≠ Text.stripId f.spec.name := by
  rw [(attributeNames_perm fields).nodup_iff, List.nodup_append]
  constructor
  · rintro ⟨_, _, hdisjoint⟩ f hf hkey
    have hapart : ∀ g ∈ fields, g.spec.name ≠ Text.stripId f.spec.name := fun g hg =>
      hdisjoint _ (List.mem_map_of_mem hg) _ (List.mem_map_of_mem (List.mem_filter.2 ⟨hf, hkey⟩))
    refine ⟨?_, hapart⟩
    by_contra hend
    exact hapart f hf (Text.stripId_of_not_endsWith (Bool.eq_false_iff.2 hend)).symm
  · intro hapart
    refine ⟨h, ?_, ?_⟩
    · refine List.Nodup.map_on ?_ (h.of_map.filter _)
      intro f hf g hg heq
      obtain ⟨hf, hfkey⟩ := List.mem_filter.1 hf
      obtain ⟨hg, hgkey⟩ := List.mem_filter.1 hg
      refine List.inj_on_of_nodup_map h hf hg ?_
      rw [← Text.stripId_of_endsWith (hapart f hf hfkey).1, heq,
        Text.stripId_of_endsWith (hapart g hg hgkey).1]
    · intro name hname stem hstem
      obtain ⟨g, hg, rfl⟩ := List.mem_map.1 hname
      obtain ⟨f, hf, rfl⟩ := List.mem_map.1 hstem
      obtain ⟨hf, hkey⟩ := List.mem_filter.1 hf
      exact (hapart f hf hkey).2 g hg

end Script.SqlAlchemy

namespace Script.Django

def classOf (m : Model) (attributes : List Assignment) (names : String) : String :=
  "\n\nclass " ++ m.className ++ "(models.Model):\n" ++ block "    " (attributes.map (·.text)) ++
    "\n    class Meta:\n        db_table = \"" ++ m.name ++ "\"\n" ++ names ++ display m

theorem fieldDefinitions_eq (m : Model) : m.fieldDefinitions .django =
    (m.fields.mapM Field.djangoAssignment).map (·.map (·.text)) :=
  mapM_eq_map Field.definition_django_eq m.fields

theorem modelClass_eq {m : Model} {attributes : List Assignment}
    (h : m.fields.mapM Field.djangoAssignment = .ok attributes) :
    modelClass m = ((verboseNames m).mapError .package).map (classOf m attributes) := by
  rw [modelClass, fieldDefinitions_eq, h]
  cases verboseNames m <;> rfl

theorem nodup_djangoAttributes_iff {fields : List Field} (h : (fields.map (·.spec.name)).Nodup) :
    (fields.map (·.djangoAttribute)).Nodup ↔
      ∀ f ∈ fields, f.isFk = true → ∀ g ∈ fields, f.spec.name = g.spec.name ++ "_id" →
        g.losesEnding = true := by
  rw [List.nodup_map_iff_inj_on (h.of_map)]
  constructor
  · intro hinj f hf hfk g hg hname
    by_contra hkeeps
    have hloses : f.losesEnding = true := by
      rw [Field.losesEnding, hfk, hname]
      simp [Text.endsWith]
    have hattribute : f.djangoAttribute = g.djangoAttribute := by
      rw [Field.name_of_losesEnding hloses,
        Field.name_of_not_losesEnding (Bool.eq_false_iff.2 hkeeps)] at hname
      exact String.append_left_inj _ |>.1 hname
    obtain rfl := hinj f hf g hg hattribute
    exact hkeeps hloses
  · intro hapart f hf g hg hattribute
    -- Of two keys with one attribute, not only one loses its ending.
    have hboth : ∀ f ∈ fields, ∀ g ∈ fields, f.djangoAttribute = g.djangoAttribute →
        f.losesEnding = true → g.losesEnding = true := by
      intro f hf g hg hattribute hloses
      by_contra hkeeps
      refine hkeeps (hapart f hf (Bool.and_eq_true_iff.1 hloses).1 g hg ?_)
      rw [Field.name_of_losesEnding hloses, hattribute,
        ← Field.name_of_not_losesEnding (Bool.eq_false_iff.2 hkeeps)]
    refine List.inj_on_of_nodup_map h hf hg ?_
    cases hloses : f.losesEnding with
    | true =>
      have hloses' := hboth f hf g hg hattribute hloses
      rw [Field.name_of_losesEnding hloses, Field.name_of_losesEnding hloses', hattribute]
    | false =>
      have hkeeps : g.losesEnding = false := Bool.eq_false_iff.2 fun hloses' => by
        rw [hboth g hg f hf hattribute.symm hloses'] at hloses
        cases hloses
      rw [Field.name_of_not_losesEnding hloses, Field.name_of_not_losesEnding hkeeps, hattribute]

end Script.Django

namespace Model

/-- In the class of a model no attribute is assigned twice if and only if every key has a name of
its own to give to the row that it refers to. -/
theorem attributes_distinct_iff {m : Model} (hnames : (m.fields.map (·.spec.name)).Nodup) :
    (∀ lines, m.fieldDefinitions .sqlAlchemy = .ok lines →
      ∃ body, Script.SqlAlchemy.attributes m = .ok body ∧
        Script.SqlAlchemy.classText m = .ok (Script.SqlAlchemy.classOf m body) ∧
        ((body.flatten.map (·.target)).Nodup ↔
          ∀ f ∈ m.fields, (f.isFk || f.isPfk) = true → Text.endsWith f.spec.name "_id" = true ∧
            ∀ g ∈ m.fields, g.spec.name ≠ Text.stripId f.spec.name)) ∧
    (∀ lines, m.fieldDefinitions .django = .ok lines →
      ∃ body, m.fields.mapM Field.djangoAssignment = .ok body ∧
        Script.Django.modelClass m = ((Script.Django.verboseNames m).mapError .package).map
          (Script.Django.classOf m body) ∧
        ((body.map (·.target)).Nodup ↔
          ∀ f ∈ m.fields, f.isFk = true → ∀ g ∈ m.fields, f.spec.name = g.spec.name ++ "_id" →
            g.losesEnding = true)) := by
  constructor
  · intro lines hlines
    rw [Script.SqlAlchemy.fieldDefinitions_eq] at hlines
    obtain ⟨body, hbody, _⟩ := map_eq_ok_iff.1 hlines
    refine ⟨body, hbody, by rw [Script.SqlAlchemy.classText_eq, hbody]; rfl, ?_⟩
    have htargets : body.flatten.map (·.target) = m.fields.flatMap Field.attributeNames := by
      rw [List.map_flatten, Script.SqlAlchemy.map_target_attributes hbody, List.flatMap_def]
    rw [htargets, Script.SqlAlchemy.nodup_attributeNames_iff hnames]
  · intro lines hlines
    rw [Script.Django.fieldDefinitions_eq] at hlines
    obtain ⟨body, hbody, _⟩ := map_eq_ok_iff.1 hlines
    refine ⟨body, hbody, Script.Django.modelClass_eq hbody, ?_⟩
    rw [map_eq_of_mapM hbody fun _ _ => Field.target_of_djangoAssignment,
      Script.Django.nodup_djangoAttributes_iff hnames]

/-- Cars with columns of these names and roles. -/
def cars (columns : List (String × String)) : Document where
  models := [
    { name := "car"
      fields := columns.map fun (name, role) =>
        [("name", .text name), ("type", .text "int"), ("index", .text role)] }]

theorem attributes_distinct_iff_cars :
    ∃ s, (cars [("person_id", "fk"), ("price", "sk")]).toSchema {} "schema" = .ok s ∧
      ∃ m ∈ s.models, (∃ body, Script.SqlAlchemy.attributes m = .ok body ∧
          (body.flatten.map (·.target)).Nodup) ∧
        ∃ body, m.fields.mapM Field.djangoAssignment = .ok body ∧
          (body.map (·.target)).Nodup := by
  obtain ⟨s, hs, m, hm, hnames, hsql, hdjango, hkeys, hstems⟩ := exists_eq_ok_of_any
    (x := (cars [("person_id", "fk"), ("price", "sk")]).toSchema {} "schema")
    (p := fun s => ∃ m ∈ s.models, (m.fields.map (·.spec.name)).Nodup ∧
      fault? (m.fieldDefinitions .sqlAlchemy) = none ∧
      fault? (m.fieldDefinitions .django) = none ∧
      (∀ f ∈ m.fields, (f.isFk || f.isPfk) = true → Text.endsWith f.spec.name "_id" = true ∧
        ∀ g ∈ m.fields, g.spec.name ≠ Text.stripId f.spec.name) ∧
      ∀ f ∈ m.fields, f.isFk = true → ∀ g ∈ m.fields, f.spec.name = g.spec.name ++ "_id" →
        g.losesEnding = true) (by decide +kernel)
  obtain ⟨lines, hlines⟩ := fault?_eq_none_iff.1 hsql
  obtain ⟨lines', hlines'⟩ := fault?_eq_none_iff.1 hdjango
  obtain ⟨body, hbody, _, hiff⟩ := (attributes_distinct_iff hnames).1 lines hlines
  obtain ⟨body', hbody', _, hiff'⟩ := (attributes_distinct_iff hnames).2 lines' hlines'
  exact ⟨s, hs, m, hm, ⟨body, hbody, hiff.2 hkeys⟩, body', hbody', hiff'.2 hstems⟩

/-- A key without the ending takes its own column's name, and one with it that of a column that is
called like the rest. -/
theorem attributes_repeated_cars :
    ∃ s, (cars [("owner", "fk"), ("person_id", "fk"), ("person", "sk")]).toSchema {} "schema" =
        .ok s ∧
      ∃ m ∈ s.models, (m.fields.map (·.spec.name)).Nodup ∧
        (∃ text, Script.SqlAlchemy.classText m = .ok text) ∧
        (∃ body, Script.SqlAlchemy.attributes m = .ok body ∧
          body.flatten.map (·.target) = ["owner", "owner", "person_id", "person", "person"] ∧
          ¬ (body.flatten.map (·.target)).Nodup) ∧
        (∃ text, Script.Django.modelClass m = .ok text) ∧
        ∃ body, m.fields.mapM Field.djangoAssignment = .ok body ∧
          body.map (·.target) = ["owner", "person", "person"] ∧
          ¬ (body.map (·.target)).Nodup := by
  obtain ⟨s, hs, m, hm, hnames, htext, hbody, htext', hbody'⟩ := exists_eq_ok_of_any
    (x := (cars [("owner", "fk"), ("person_id", "fk"), ("person", "sk")]).toSchema {} "schema")
    (p := fun s => ∃ m ∈ s.models, (m.fields.map (·.spec.name)).Nodup ∧
      fault? (Script.SqlAlchemy.classText m) = none ∧
      (Script.SqlAlchemy.attributes m).toOption.any (fun body => decide
        (body.flatten.map (·.target) = ["owner", "owner", "person_id", "person", "person"] ∧
          ¬ (body.flatten.map (·.target)).Nodup)) = true ∧
      fault? (Script.Django.modelClass m) = none ∧
      (m.fields.mapM Field.djangoAssignment).toOption.any (fun body => decide
        (body.map (·.target) = ["owner", "person", "person"] ∧
          ¬ (body.map (·.target)).Nodup)) = true) (by decide +kernel)
  exact ⟨s, hs, m, hm, hnames, fault?_eq_none_iff.1 htext, exists_eq_ok_of_any hbody,
    fault?_eq_none_iff.1 htext', exists_eq_ok_of_any hbody'⟩

end Model

end RelSchema
