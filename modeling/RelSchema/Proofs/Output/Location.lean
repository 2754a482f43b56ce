import RelSchema.Output
import RelSchema.Proofs.FileTree.Writing

namespace RelSchema

namespace Format

/-- What is put behind the name of a schema to name its file. -/
def suffix (f : Format) : String :=
  "_" ++ f.method ++ "." ++ f.ending

theorem slash_notMem_suffix (f : Format) : '/' ∉ f.suffix.toList := by
  cases f <;> decide

theorem underscore_mem_suffix (f : Format) : '_' ∈ f.suffix.toList := by
  cases f <;> decide

theorem suffix_ne_nil (f : Format) : f.suffix.toList ≠ [] :=
  List.ne_nil_of_mem f.underscore_mem_suffix

theorem getLast?_suffix (f : Format) :
    f.suffix.toList.getLast? ∉ [some '/', some '.'] := by
  cases f <;> decide

theorem mem_all (f : Format) : f ∈ all := by
  cases f <;> decide

theorem suffix_injective : Function.Injective suffix := by
  have hall : ∀ f ∈ all, ∀ g ∈ all, f.suffix = g.suffix → f = g := by decide +kernel
  exact fun f g => hall f f.mem_all g g.mem_all

end Format

namespace Output

open RelSchema.Path

variable {o : Output} {schema : String}

theorem path_eq (o : Output) (schema : String) :
    o.path schema = join o.options.output (schema ++ o.format.suffix) := by
  simp only [path, Format.suffix, String.append_assoc]

theorem components_path (o : Output) (schema : String) :
    components (o.path schema) =
      lead o.options.output schema ++ [.name (lastPart schema ++ o.format.suffix)] := by
  rw [path_eq]
  exact components_join_append o.format.slash_notMem_suffix o.format.underscore_mem_suffix
    (by decide) _ _

/-- The file of the schema is in the output directory, and in none below it. -/
def IsInside (o : Output) (schema : String) : Prop :=
  parent? (o.path schema) = some (components o.options.output)

instance (o : Output) (schema : String) : Decidable (o.IsInside schema) :=
  inferInstanceAs (Decidable (_ = _))

theorem isInside_iff_lead :
    o.IsInside schema ↔ lead o.options.output schema = components o.options.output := by
  rw [IsInside, parent?_of_components (o.components_path schema), Option.some.injEq]

theorem isInside_of_notMem (h : '/' ∉ schema.toList) : o.IsInside schema :=
  isInside_iff_lead.2 (lead_of_notMem h _)

theorem getLast?_path (o : Output) (schema : String) :
    (o.path schema).toList.getLast? = o.format.suffix.toList.getLast? := by
  obtain ⟨before, hpath⟩ := exists_join_append o.options.output schema o.format.suffix
  rw [path_eq, hpath, String.toList_append]
  exact List.getLast?_append_of_ne_nil _ o.format.suffix_ne_nil

/-- The path of a schema is that of a file: it ends in neither a slash nor a dot. -/
theorem isDirectoryPath_path (o : Output) (schema : String) :
    FileTree.isDirectoryPath (o.path schema) = false := by
  have hends : ∀ ending : String, ending.toList.getLast? ∈ [some '/', some '.'] →
      Text.endsWith (o.path schema) ending = false := by
    intro ending hmem
    rw [Bool.eq_false_iff]
    intro hpath
    obtain ⟨start, hstart⟩ := Text.exists_append_of_endsWith hpath
    have hne : ending.toList ≠ [] := by
      intro hnil
      rw [hnil] at hmem
      revert hmem
      decide
    have hlast := o.getLast?_path schema
    rw [hstart, String.toList_append, List.getLast?_append_of_ne_nil _ hne] at hlast
    rw [hlast] at hmem
    exact o.format.getLast?_suffix hmem
  rw [FileTree.isDirectoryPath, hends "/" (by decide), hends "/." (by decide)]
  rfl

theorem write_path {t after : FileTree} {text : String} (hhere : t.IsDirectory t.here)
    (h : t.write (o.path schema) text = .ok after) :
    ∃ directory, after.walk after.here (lead o.options.output schema) = .ok directory ∧
      let location := directory ++ [lastPart schema ++ o.format.suffix]
      after.find (o.path schema) = .ok location ∧ after.shape? location = some (.file (some text)) ∧
        FileTree.ChangesAt (· = location) t after := by
  obtain ⟨directory, hwalk, _, hfind, hshape, hchanges⟩ :=
    FileTree.write_spec hhere (o.components_path schema) h
  exact ⟨directory, hwalk, hfind, hshape, hchanges⟩

theorem format_eq_of_find {p : Output} {t : FileTree} {location : List String}
    (ho : t.find (o.path schema) = .ok location) (hp : t.find (p.path schema) = .ok location) :
    o.format = p.format := by
  have hlast : ∀ q : Output, t.find (q.path schema) = .ok location →
      location.getLast? = some (lastPart schema ++ q.format.suffix) := by
    intro q hq
    have hwalk := (FileTree.find_eq_ok_iff.1 hq).2.2
    rw [q.components_path] at hwalk
    obtain ⟨directory, _, _, _, rfl⟩ := FileTree.walk_append_name_eq_ok_iff.1 hwalk
    exact List.getLast?_concat
  have hsuffix := Option.some.inj ((hlast o ho).symm.trans (hlast p hp))
  exact Format.suffix_injective ((String.append_right_inj _).1 hsuffix)

/-- The path of one of the outputs leads to the location. -/
def IsFileOf (t : FileTree) (s : Schema) (outputs : List Output) (location : List String) : Prop :=
  ∃ o ∈ outputs, t.find (o.path s.name) = .ok location

/-- The outputs have been written: each file holds the text of its output, no other file has
changed, and directories have only been added. -/
structure Written (s : Schema) (outputs : List Output) (before after : FileTree) : Prop where
  texts : ∀ o ∈ outputs, ∃ text, o.render s = .ok text ∧ after.read (o.path s.name) = .ok text
  others : FileTree.ChangesAt (IsFileOf after s outputs) before after

section Written

variable {s : Schema} {outputs : List Output} {before between after : FileTree} {text : String}

theorem Written.nil (s : Schema) (t : FileTree) : Written s [] t t where
  texts := nofun
  others := .refl _ t

theorem Written.of_format (h : Written s outputs before after)
    (hformat : ∀ p ∈ outputs, p.format ≠ o.format) {location : List String}
    (hfind : after.find (o.path s.name) = .ok location) (content : Option String) :
    after.shape? location = some (.file content) ↔
      before.shape? location = some (.file content) := by
  apply h.others.files
  rintro ⟨p, hp, hlocation⟩
  exact hformat p hp (format_eq_of_find hlocation hfind)

theorem Written.cons (h : Written s outputs between after)
    (hrest : o ∈ outputs ∨ ∀ p ∈ outputs, p.format ≠ o.format)
    (hhere : before.IsDirectory before.here) (hrender : o.render s = .ok text)
    (hwrite : before.write (o.path s.name) text = .ok between) :
    Written s (o :: outputs) before after := by
  obtain ⟨directory, _, hfind, hshape, hchanges⟩ := write_path hhere hwrite
  have hafter := h.others.find hfind
  constructor
  · intro p hp
    rcases List.mem_cons.1 hp with rfl | hp
    · rcases hrest with hmem | hformat
      · exact h.texts p hmem
      · have hkept := (h.of_format hformat hafter _).2 hshape
        exact ⟨text, hrender,
          FileTree.read_eq_ok_iff.2 ⟨_, hafter, hkept, p.isDirectoryPath_path s.name⟩⟩
    · exact h.texts p hp
  · have hfirst : FileTree.ChangesAt (IsFileOf after s (o :: outputs)) before between := by
      apply hchanges.mono
      rintro location rfl
      exact ⟨o, List.mem_cons_self, hafter⟩
    have hothers : FileTree.ChangesAt (IsFileOf after s (o :: outputs)) between after := by
      apply h.others.mono
      rintro location ⟨p, hp, hlocation⟩
      exact ⟨p, List.mem_cons_of_mem o hp, hlocation⟩
    exact hfirst.trans hothers

end Written

/-- A schema's file is put directly into the output directory if the schema's name has no slash.
Otherwise the folders in the name may lead out of it. -/
theorem path_inside_iff (o : Output) (schema : String) :
    (o.IsInside schema ↔
        if isAbsolute schema ∨ o.options.output = "" then
          start schema ++ folders schema = components o.options.output
        else folders schema = []) ∧
      ('/' ∉ schema.toList → o.IsInside schema) ∧
      (∀ input, fileStem? input = some schema → o.IsInside schema) ∧
      ∀ t after text, FileTree.IsDirectory t t.here → t.write (o.path schema) text = .ok after →
        o.IsInside schema →
          ∃ directory name, after.walk after.here (components o.options.output) = .ok directory ∧
            after.shape? (directory ++ [name]) = some (.file (some text)) ∧
            FileTree.ChangesAt (· = directory ++ [name]) t after := by
  refine ⟨?_, isInside_of_notMem, fun _ h => isInside_of_notMem (notMem_of_fileStem? h), ?_⟩
  · rw [isInside_iff_lead, lead]
    split
    · rfl
    · exact List.append_right_eq_self
  · intro t after text hhere hwrite hinside
    obtain ⟨directory, hwalk, _, hshape, hchanges⟩ := write_path hhere hwrite
    rw [isInside_iff_lead.1 hinside] at hwalk
    exact ⟨directory, _, hwalk, hshape, hchanges⟩

/-- A machine with an empty directory for data. -/
def dataTree : FileTree where
  here := ["home"]
  root := .directory [("home", .directory []), ("data", .directory [])]

theorem path_inside_iff_shop :
    let o : Output := { format := .scala, options := { output := "../data/./scala" } }
    o.IsInside "shop" ∧ ∃ after, dataTree.write (o.path "shop") "" = .ok after ∧
      ∃ directory name, after.walk after.here (components "../data/./scala") = .ok directory ∧
        after.shape? (directory ++ [name]) = some (.file (some "")) ∧
        FileTree.ChangesAt (· = directory ++ [name]) dataTree after := by
  intro o
  obtain ⟨after, hwrite, _⟩ := exists_eq_ok_of_any (x := dataTree.write (o.path "shop") "")
    (p := fun _ => True) (by decide +kernel)
  obtain ⟨_, hinside, _, hwritten⟩ := path_inside_iff o "shop"
  have h := hinside (by decide)
  exact ⟨h, after, hwrite, hwritten dataTree after "" rfl hwrite h⟩

/-- A schema that is named like an absolute path is written outside of the output directory, and so
is one that is named like a path through the directory above. -/
theorem path_outside_shop :
    (∃ s, Document.toSchema { name := some "/srv/shop", models := [] } {} "schema" = .ok s ∧
      parent? (path { format := .sqlite } s.name) = some [.root, .name "srv"] ∧
      ¬ IsInside { format := .sqlite } s.name) ∧
    ∃ s, Document.toSchema { name := some "../shop", models := [] } {} "schema" = .ok s ∧
      ¬ IsInside { format := .sqlite } s.name := by
  refine ⟨⟨_, rfl, ?_⟩, _, rfl, ?_⟩
  · decide +kernel
  · decide +kernel

end Output

end RelSchema
