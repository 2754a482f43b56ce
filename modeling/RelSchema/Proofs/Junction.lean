import RelSchema.Proofs.Model.Trailing
import RelSchema.Proofs.Schema.Specialization
import RelSchema.Proofs.Text.Split

namespace RelSchema

namespace Junction

open Text

variable {names : List String} {name left right : String}

/-- The name joins two of the names, which have equally many underscores. -/
def Joins (names : List String) (name : String) : Prop :=
  ∃ left ∈ names, ∃ right ∈ names,
    name = left ++ "_" ++ right ∧ left.toList.count '_' = right.toList.count '_'

instance (names : List String) : DecidablePred (Joins names) := fun name =>
  inferInstanceAs (Decidable (∃ left ∈ names, ∃ right ∈ names,
    name = left ++ "_" ++ right ∧ left.toList.count '_' = right.toList.count '_'))

/-- Words of a name, joined again, have an underscore less than there are words. -/
theorem count_intercalate {words : List String} (hne : words ≠ [])
    (h : ∀ word ∈ words, word ∈ split '_' name) :
    ("_".intercalate words).toList.count '_' + 1 = words.length := by
  have hsplit : split '_' ("_".intercalate words) = words :=
    split_intercalate hne fun word hword => notMem_of_mem_split (h word hword)
  rw [← length_split, hsplit]

theorem joined_of_halves? (h : halves? name = some (left, right)) :
    name = left ++ "_" ++ right ∧ left.toList.count '_' = right.toList.count '_' := by
  obtain ⟨heven, hparts⟩ := Option.ite_none_right_eq_some.1 h
  obtain ⟨hleft, hright⟩ := Prod.mk.inj (Option.some.inj hparts)
  have hlength : 0 < (split '_' name).length := List.length_pos_of_ne_nil (split_ne_nil name)
  have htake : (split '_' name).take ((split '_' name).length / 2) ≠ [] := by
    rw [← List.length_pos_iff_ne_nil, List.length_take]
    omega
  have hdrop : (split '_' name).drop ((split '_' name).length / 2) ≠ [] := by
    rw [← List.length_pos_iff_ne_nil, List.length_drop]
    omega
  have hcountLeft := count_intercalate htake fun _ hword => List.mem_of_mem_take hword
  have hcountRight := count_intercalate hdrop fun _ hword => List.mem_of_mem_drop hword
  rw [hleft, List.length_take] at hcountLeft
  rw [hright, List.length_drop] at hcountRight
  constructor
  · calc name = "_".intercalate (split '_' name) := (@intercalate_split '_' name).symm
      _ = left ++ "_" ++ right := by
        rw [← List.take_append_drop ((split '_' name).length / 2) (split '_' name),
          String.intercalate_append_of_ne_nil htake hdrop, hleft, hright]
  · omega

theorem halves?_of_joined (h : left.toList.count '_' = right.toList.count '_') :
    halves? (left ++ "_" ++ right) = some (left, right) := by
  have hsplit : split '_' (left ++ "_" ++ right) = split '_' left ++ split '_' right :=
    split_append_separator left right
  have hlength : (split '_' left).length = (split '_' right).length := by
    rw [length_split, length_split, h]
  have hhalf : (split '_' left ++ split '_' right).length / 2 = (split '_' left).length := by
    rw [List.length_append]
    omega
  have heven : (split '_' left ++ split '_' right).length % 2 = 0 := by
    rw [List.length_append]
    omega
  have hleft : "_".intercalate (split '_' left) = left := @intercalate_split '_' left
  have hright : "_".intercalate (split '_' right) = right := @intercalate_split '_' right
  simp only [halves?, hsplit, hhalf, heven, ↓reduceIte, List.take_left, List.drop_left, hleft,
    hright]

/-- A name is cut into halves where it joins two names with equally many underscores. -/
theorem halves?_eq_some_iff : halves? name = some (left, right) ↔
    name = left ++ "_" ++ right ∧ left.toList.count '_' = right.toList.count '_' := by
  constructor
  · exact joined_of_halves?
  · rintro ⟨rfl, h⟩
    exact halves?_of_joined h

theorem joins_iff :
    Joins names name ↔ ∃ left right, halves? name = some (left, right) ∧ left ∈ names ∧
      right ∈ names := by
  constructor
  · rintro ⟨left, hleft, right, hright, hname⟩
    exact ⟨left, right, halves?_eq_some_iff.2 hname, hleft, hright⟩
  · rintro ⟨left, right, hhalves, hleft, hright⟩
    exact ⟨left, hleft, right, hright, halves?_eq_some_iff.1 hhalves⟩

theorem candidates_eq_filter (names : List String) :
    candidates names = names.filter fun name => decide (Joins names name) := by
  apply List.filter_congr
  intro name _
  rw [Bool.eq_iff_iff, decide_eq_true_iff, joins_iff]
  cases halves? name with
  | none => simp
  | some halves =>
    obtain ⟨left, right⟩ := halves
    simp only [Option.some.injEq, Prod.mk.injEq, Bool.and_eq_true, List.contains_iff_mem]
    constructor
    · intro ⟨hleft, hright⟩
      exact ⟨left, right, ⟨rfl, rfl⟩, hleft, hright⟩
    · rintro ⟨_, _, ⟨rfl, rfl⟩, hleft, hright⟩
      exact ⟨hleft, hright⟩

theorem mem_candidates_iff : name ∈ candidates names ↔ name ∈ names ∧ Joins names name := by
  rw [candidates_eq_filter, List.mem_filter, decide_eq_true_iff]

theorem Joins.of_subset {names' : List String} (h : Joins names name) (hsub : names ⊆ names') :
    Joins names' name := by
  obtain ⟨left, hleft, right, hright, hname⟩ := h
  exact ⟨left, hsub hleft, right, hsub hright, hname⟩

end Junction

namespace DocumentModel

theorem toTypedModel_congr_junctions {junctions junctions' : List String} {dm : DocumentModel}
    (h : junctions.contains dm.name = junctions'.contains dm.name) (options : Options) :
    dm.toTypedModel options junctions = dm.toTypedModel options junctions' := by
  simp only [toTypedModel, toModel, h]

end DocumentModel

namespace Document

variable {doc : Document} {options : Options} {defaultName : String} {s : Schema}

/-- The document with its models in another order, or with other models. -/
def withModels (doc : Document) (models : List DocumentModel) : Document :=
  { doc with models }

theorem contains_junctions_iff {dm : DocumentModel} (hdm : dm ∈ doc.models) :
    doc.junctions.contains dm.name = true ↔
      Junction.Joins (doc.models.map (·.name)) dm.name := by
  rw [List.contains_iff_mem, junctions, Junction.mem_candidates_iff,
    and_iff_right (List.mem_map_of_mem hdm)]

theorem contains_junctions_of_perm {models : List DocumentModel} (hperm : doc.models.Perm models)
    {dm : DocumentModel} (hdm : dm ∈ models) :
    (doc.withModels models).junctions.contains dm.name = doc.junctions.contains dm.name := by
  have hnames := hperm.map (·.name)
  rw [Bool.eq_iff_iff, @contains_junctions_iff (doc.withModels models) dm hdm,
    contains_junctions_iff (hperm.mem_iff.2 hdm)]
  constructor
  · exact fun h => h.of_subset hnames.symm.subset
  · exact fun h => h.of_subset hnames.subset

theorem toModels_of_perm {models : List DocumentModel} (hperm : doc.models.Perm models)
    {read : List Model} (h : doc.toModels options = .ok read) :
    ∃ read', (doc.withModels models).toModels options = .ok read' ∧
      (doc.models.zip read).Perm (models.zip read') := by
  obtain ⟨read', hread', hzip⟩ := exists_mapM_of_perm hperm h
  have hcongr : (models.map id).mapM
      (·.toTypedModel options (doc.withModels models).junctions) =
        models.mapM (·.toTypedModel options doc.junctions) :=
    mapM_map_congr fun dm hdm =>
      dm.toTypedModel_congr_junctions (contains_junctions_of_perm hperm hdm) options
  rw [List.map_id] at hcongr
  exact ⟨read', hcongr.trans hread', hzip⟩

/-- A document with its models in another order is read to the same models, in that order. -/
theorem toSchema_of_perm (h : doc.toSchema options defaultName = .ok s)
    {models : List DocumentModel} (hperm : doc.models.Perm models) :
    ∃ s', (doc.withModels models).toSchema options defaultName = .ok s' ∧
      (doc.models.zip s.models).Perm (models.zip s'.models) := by
  obtain ⟨read, hread, hclosed, rfl⟩ := toSchema_eq_ok_iff.1 h
  obtain ⟨read', hread', hzip⟩ := toModels_of_perm hperm hread
  have hlength : doc.models.length = read.length := (mapM_eq_ok_iff.1 hread).length_eq
  have hlength' : models.length = read'.length := (mapM_eq_ok_iff.1 hread').length_eq
  have hmodels : read.Perm read' := by
    have hsnd := hzip.map Prod.snd
    rwa [List.map_snd_zip (Nat.le_of_eq hlength.symm),
      List.map_snd_zip (Nat.le_of_eq hlength'.symm)] at hsnd
  have hclosed' : Schema.missingEnum? read'
      (.ofEntries ((doc.withModels models).enums.map fun e => (e.name, e))) = none := by
    rw [Schema.missingEnum?, List.findSome?_eq_none_iff] at hclosed ⊢
    intro m hm
    exact hclosed m (hmodels.mem_iff.2 hm)
  exact ⟨_, toSchema_eq_ok_iff.2 ⟨read', hread', hclosed', rfl⟩, hzip⟩

/-- The junction candidates of a list join two names of it with equally many underscores, whatever
its order, and a junction table is a candidate with a field that is both kinds of key. -/
theorem junctions_detected (doc : Document) (options : Options) (defaultName : String) :
    (∀ names, Junction.candidates names =
      names.filter fun name => decide (Junction.Joins names name)) ∧
    ∀ s, doc.toSchema options defaultName = .ok s →
      (∀ m ∈ s.models,
        (m.info.isCandidate = true ↔ Junction.Joins (doc.models.map (·.name)) m.name) ∧
        (m.isJunction = true ↔ Junction.Joins (doc.models.map (·.name)) m.name ∧
          ∃ f ∈ m.fields, f.spec.index = .pfk)) ∧
      ∀ models, doc.models.Perm models →
        ∃ s', (doc.withModels models).toSchema options defaultName = .ok s' ∧
          (doc.models.zip s.models).Perm (models.zip s'.models) := by
  refine ⟨Junction.candidates_eq_filter, fun s h => ⟨?_, fun models => toSchema_of_perm h⟩⟩
  intro m hm
  have hcandidate : m.info.isCandidate = true ↔
      Junction.Joins (doc.models.map (·.name)) m.name := by
    obtain ⟨models, hmodels, _, rfl⟩ := toSchema_eq_ok_iff.1 h
    obtain ⟨dm, hdm, hread⟩ := exists_of_mem_mapM hmodels hm
    rw [DocumentModel.isCandidate_of_toTypedModel hread, DocumentModel.name_of_toTypedModel hread]
    exact contains_junctions_iff hdm
  refine ⟨hcandidate, ?_⟩
  rw [Model.isJunction, Model.isJunctionOf_eq_true_iff, hcandidate]

/-- Big cats, the dogs and the big cats they met. Meetings with dogs have a key of two references.
-/
def meetings : Document where
  models := [
    { name := "big_cat_top_dog"
      fields := [[("name", .text "big_cat_id"), ("type", .text "int"), ("index", .text "pfk")]] },
    { name := "top_dog"
      fields := [[("name", .text "id"), ("type", .text "serial"), ("index", .text "pk")]] },
    { name := "big_cat_big_cat"
      fields := [[("name", .text "big_cat_id"), ("type", .text "int"), ("index", .text "fk")]] },
    { name := "big_cat"
      fields := [[("name", .text "id"), ("type", .text "serial"), ("index", .text "pk")]] }]

theorem junctions_detected_meetings :
    ∃ s s', meetings.toSchema {} "meetings" = .ok s ∧
      (meetings.withModels meetings.models.reverse).toSchema {} "meetings" = .ok s' ∧
      (meetings.models.zip s.models).Perm (meetings.models.reverse.zip s'.models) ∧
      (∃ m ∈ s.models, m.name = "big_cat_top_dog" ∧ m.isJunction = true) ∧
      ∃ m ∈ s.models, m.name = "big_cat_big_cat" ∧ m.info.isCandidate = true ∧
        m.isJunction = false := by
  obtain ⟨s, hs, ⟨meeting, hmeeting, hname, hkey⟩, other, hother, hname', hnokey⟩ :=
    exists_eq_ok_of_any (x := meetings.toSchema {} "meetings")
      (p := fun s =>
        (∃ m ∈ s.models, m.name = "big_cat_top_dog" ∧ ∃ f ∈ m.fields, f.spec.index = .pfk) ∧
        ∃ m ∈ s.models, m.name = "big_cat_big_cat" ∧ ¬ ∃ f ∈ m.fields, f.spec.index = .pfk)
      (by decide +kernel)
  obtain ⟨hmodels, horder⟩ := (junctions_detected meetings {} "meetings").2 s hs
  obtain ⟨s', hs', hperm⟩ := horder _ (List.reverse_perm _).symm
  have hjoins : ∀ name ∈ ["big_cat_top_dog", "big_cat_big_cat"],
      Junction.Joins (meetings.models.map (·.name)) name := by decide +kernel
  refine ⟨s, s', hs, hs', hperm, ⟨meeting, hmeeting, hname, ?_⟩, other, hother, hname', ?_, ?_⟩
  · exact (hmodels meeting hmeeting).2.2 ⟨hname ▸ hjoins _ (by decide), hkey⟩
  · exact (hmodels other hother).1.2 (hname' ▸ hjoins _ (by decide))
  · rw [← Bool.not_eq_true, (hmodels other hother).2]
    exact fun h => hnokey h.2

end Document

end RelSchema
