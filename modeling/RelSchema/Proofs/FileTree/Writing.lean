import RelSchema.Proofs.Fault
import RelSchema.Proofs.FileTree.Shape
import RelSchema.Proofs.Path

namespace RelSchema.FileTree

open RelSchema.Path

variable {t made after : FileTree} {location next final directory : List String}
  {path text name : String} {c : Component} {cs ds steps : List Component}

theorem step_cases (h : step location c = .ok next) :
    next <+: location ∨ ∃ s, c = .name s ∧ next = location ++ [s] := by
  cases c with
  | root =>
    cases h
    exact .inl List.nil_prefix
  | current =>
    cases h
    exact .inl List.prefix_rfl
  | parent =>
    cases h
    exact .inl <| List.dropLast_prefix location
  | name s =>
    rw [step] at h
    split at h
    · cases h
      exact .inr ⟨s, rfl, rfl⟩
    · cases h

theorem walk_cons_eq_ok_iff :
    t.walk location (c :: cs) = .ok final ↔
      t.IsDirectory location ∧ ∃ next, step location c = .ok next ∧ t.walk next cs = .ok final := by
  rw [walk, isDirectory_iff]
  cases t.get? location with
  | none => simp
  | some entry =>
    cases entry with
    | file => simp
    | directory entries => simp [bind_eq_ok_iff]

theorem walk_append_eq_ok_iff :
    t.walk location (cs ++ ds) = .ok final ↔
      ∃ between, t.walk location cs = .ok between ∧ t.walk between ds = .ok final := by
  induction cs generalizing location with
  | nil => simp [walk]
  | cons c cs ih =>
    simp only [List.cons_append, walk_cons_eq_ok_iff, ih]
    constructor
    · rintro ⟨hdir, next, hstep, between, hcs, hds⟩
      exact ⟨between, ⟨hdir, next, hstep, hcs⟩, hds⟩
    · rintro ⟨between, ⟨hdir, next, hstep, hcs⟩, hds⟩
      exact ⟨hdir, next, hstep, between, hcs, hds⟩

theorem ChangesAt.walk {changed : List String → Prop} (h : ChangesAt changed t after)
    (hwalk : t.walk location cs = .ok final) : after.walk location cs = .ok final := by
  induction cs generalizing location with
  | nil => exact hwalk
  | cons c cs ih =>
    obtain ⟨hdir, next, hstep, hwalk⟩ := walk_cons_eq_ok_iff.1 hwalk
    exact walk_cons_eq_ok_iff.2 ⟨h.directories hdir, next, hstep, ih hwalk⟩

theorem isDirectory_of_walk (hwalk : t.walk location cs = .ok final) (h : t.IsDirectory final) :
    t.IsDirectory location := by
  cases cs with
  | nil =>
    cases hwalk
    exact h
  | cons c cs => exact (walk_cons_eq_ok_iff.1 hwalk).1

theorem walk_append_name_eq_ok_iff :
    t.walk location (cs ++ [.name name]) = .ok final ↔
      ∃ directory, t.walk location cs = .ok directory ∧ t.IsDirectory directory ∧
        isShortName name = true ∧ final = directory ++ [name] := by
  have hstep : ∀ directory : List String, step directory (.name name) = .ok final ↔
      isShortName name = true ∧ final = directory ++ [name] := by
    intro directory
    rw [step]
    split
    · rename_i hshort
      rw [Except.ok.injEq, eq_comm]
      exact (and_iff_right hshort).symm
    · rename_i hshort
      exact iff_of_false nofun fun h => hshort h.1
  have hname : ∀ directory, t.walk directory [.name name] = .ok final ↔
      t.IsDirectory directory ∧ isShortName name = true ∧ final = directory ++ [name] := by
    intro directory
    rw [walk_cons_eq_ok_iff, ← hstep]
    simp [walk]
  rw [walk_append_eq_ok_iff]
  simp only [hname]

theorem makeDirectories_cons_eq_ok_iff {isMaking : Bool} :
    t.makeDirectories isMaking location (c :: cs) = .ok made ↔
      ∃ next, step location c = .ok next ∧
        (t.IsDirectory next ∧ t.makeDirectories isMaking next cs = .ok made ∨
          t.shape? next = none ∧
            (t.put next (.directory [])).makeDirectories true next cs = .ok made) := by
  rw [makeDirectories, bind_eq_ok_iff]
  refine exists_congr fun next => and_congr_right fun _ => ?_
  rw [isDirectory_iff, shape?, FileEntry.shape?, Option.map_eq_none_iff]
  change _ ↔ _ ∨ t.get? next = none ∧ _
  cases t.get? next with
  | none => simp
  | some entry => cases entry <;> simp

/-- Only directories are added, and they are then there on the whole way. -/
theorem makeDirectories_spec {isMaking : Bool} (hdir : t.IsDirectory location)
    (h : t.makeDirectories isMaking location cs = .ok made) :
    ChangesAt (fun _ => False) t made ∧
      ∃ final, made.walk location cs = .ok final ∧ made.IsDirectory final := by
  induction cs generalizing t isMaking location with
  | nil =>
    cases h
    exact ⟨.refl _ _, location, rfl, hdir⟩
  | cons c cs ih =>
    obtain ⟨next, hstep, ⟨hnext, h⟩ | ⟨hnext, h⟩⟩ := makeDirectories_cons_eq_ok_iff.1 h
    · obtain ⟨hchanges, final, hwalk, hfinal⟩ := ih hnext h
      exact ⟨hchanges, final,
        walk_cons_eq_ok_iff.2 ⟨hchanges.directories hdir, next, hstep, hwalk⟩, hfinal⟩
    · -- What is above a directory is never missing, so the step went down.
      rcases step_cases hstep with hshorter | ⟨s, rfl, rfl⟩
      · rw [hdir.of_isPrefix hshorter] at hnext
        cases hnext
      · have hput := changesAt_put_directory hdir hnext fun _ => False
        have hmade : (t.put (location ++ [s]) (.directory [])).IsDirectory (location ++ [s]) := by
          rw [IsDirectory, shape?_put_directory hdir hnext, if_pos rfl]
        obtain ⟨hchanges, final, hwalk, hfinal⟩ := ih hmade h
        exact ⟨hput.trans hchanges, final, walk_cons_eq_ok_iff.2
          ⟨(hput.trans hchanges).directories hdir, _, hstep, hwalk⟩, hfinal⟩

theorem makeDirectories_of_walk {isMaking : Bool} (hwalk : t.walk location cs = .ok final)
    (hfinal : t.IsDirectory final) : t.makeDirectories isMaking location cs = .ok t := by
  induction cs generalizing location with
  | nil => rfl
  | cons c cs ih =>
    obtain ⟨_, next, hstep, hwalk⟩ := walk_cons_eq_ok_iff.1 hwalk
    exact makeDirectories_cons_eq_ok_iff.2
      ⟨next, hstep, .inl ⟨isDirectory_of_walk hwalk hfinal, ih hwalk⟩⟩

theorem find_eq_ok_iff :
    t.find path = .ok final ↔
      checkPath path = .ok () ∧ path ≠ "" ∧ t.walk t.here (components path) = .ok final := by
  rw [find, bind_eq_ok_iff]
  constructor
  · rintro ⟨_, hcheck, h⟩
    split at h
    · cases h
    · rename_i hempty
      exact ⟨hcheck, fun he => hempty (he ▸ rfl), h⟩
  · rintro ⟨hcheck, hempty, h⟩
    have hfalse : ¬ path.isEmpty = true := fun he => hempty (String.isEmpty_iff.1 he)
    exact ⟨(), hcheck, (if_neg hfalse).trans h⟩

theorem ChangesAt.find {changed : List String → Prop} (h : ChangesAt changed t after)
    (hfind : t.find path = .ok final) : after.find path = .ok final := by
  rw [find_eq_ok_iff] at hfind ⊢
  rw [h.here]
  exact ⟨hfind.1, hfind.2.1, h.walk hfind.2.2⟩

theorem read_eq_ok_iff :
    t.read path = .ok text ↔
      ∃ final, t.find path = .ok final ∧ t.shape? final = some (.file (some text)) ∧
        isDirectoryPath path = false := by
  rw [read, bind_eq_ok_iff]
  refine exists_congr fun final => and_congr_right fun _ => ?_
  rw [shape?, FileEntry.shape?]
  change _ ↔ (t.get? final).map FileEntry.shape = _ ∧ _
  cases t.get? final with
  | none => simp
  | some entry =>
    cases entry with
    | directory => simp [FileEntry.shape]
    | file content =>
      cases hpath : isDirectoryPath path with
      | true => simp
      | false => cases content <;> simp [FileEntry.shape]

theorem isDirectory_here_of_read (h : t.read path = .ok text) : t.IsDirectory t.here := by
  obtain ⟨final, hfind, _⟩ := read_eq_ok_iff.1 h
  obtain ⟨_, hempty, hwalk⟩ := find_eq_ok_iff.1 hfind
  obtain ⟨c, cs, hpath⟩ := List.exists_cons_of_ne_nil (components_ne_nil hempty)
  rw [hpath] at hwalk
  exact (walk_cons_eq_ok_iff.1 hwalk).1

/-- What is made, and where the file goes, when a path is written to. -/
def place (t : FileTree) (path : String) : Except FileError (FileTree × List String) := do
  checkPath (Path.parentText path)
  let made ← t.makeDirectories false t.here ((Path.parent? path).getD [])
  let location ← made.find path
  if made.shape? location = some .directory then .error .isDirectory else return (made, location)

theorem write_eq (t : FileTree) (path text : String) :
    t.write path text =
      (t.place path).map fun (made, location) => made.put location (.file (some text)) := by
  change _ = (fun placed : FileTree × List String => _) <$> t.place path
  simp only [write, place, map_bind]
  refine bind_congr fun _ => bind_congr fun made => bind_congr fun location => ?_
  have hshape : made.shape? location = (made.get? location).map FileEntry.shape := rfl
  rw [hshape]
  cases made.get? location with
  | none => rfl
  | some entry => cases entry <;> rfl

/-- The tree `made` has the directory that steps lead to, and no directory called `name` in it. -/
structure HasPlace (t made : FileTree) (steps : List Component) (directory : List String)
    (name : String) : Prop where
  makes : t.makeDirectories false t.here steps = .ok made
  walk : made.walk made.here steps = .ok directory
  isDirectory : made.IsDirectory directory
  isShort : isShortName name = true
  isFree : made.shape? (directory ++ [name]) ≠ some .directory

theorem place_eq_ok_iff (hpath : components path = steps ++ [.name name]) :
    t.place path = .ok (made, final) ↔
      checkPath (parentText path) = .ok () ∧ checkPath path = .ok () ∧
        ∃ directory, HasPlace t made steps directory name ∧ final = directory ++ [name] := by
  have hempty := ne_empty_of_components hpath
  have hparent : (parent? path).getD [] = steps := by
    rw [parent?_of_components hpath]
    rfl
  simp only [place, hparent, bind_eq_ok_iff, find_eq_ok_iff, hpath, walk_append_name_eq_ok_iff]
  constructor
  · rintro ⟨_, hparents, _, hmakes, _, ⟨hcheck, _, directory, hwalk, hdir, hshort, rfl⟩, h⟩
    split at h
    · cases h
    · rename_i hfree
      cases h
      exact ⟨hparents, hcheck, directory, ⟨hmakes, hwalk, hdir, hshort, hfree⟩, rfl⟩
  · rintro ⟨hparents, hcheck, directory, hplace, rfl⟩
    exact ⟨(), hparents, made, hplace.makes, _, ⟨hcheck, hempty, directory, hplace.walk,
      hplace.isDirectory, hplace.isShort, rfl⟩, if_neg hplace.isFree⟩

theorem write_eq_ok_iff (hpath : components path = steps ++ [.name name]) :
    t.write path text = .ok after ↔
      checkPath (parentText path) = .ok () ∧ checkPath path = .ok () ∧
        ∃ made directory, HasPlace t made steps directory name ∧
          after = made.put (directory ++ [name]) (.file (some text)) := by
  rw [write_eq, map_eq_ok_iff]
  constructor
  · rintro ⟨⟨made, final⟩, hplaced, rfl⟩
    obtain ⟨hparents, hcheck, directory, hplace, rfl⟩ := (place_eq_ok_iff hpath).1 hplaced
    exact ⟨hparents, hcheck, made, directory, hplace, rfl⟩
  · rintro ⟨hparents, hcheck, made, directory, hplace, rfl⟩
    exact ⟨(made, directory ++ [name]),
      (place_eq_ok_iff hpath).2 ⟨hparents, hcheck, directory, hplace, rfl⟩, rfl⟩

/-- The file is where the path leads, and besides it only directories are new. -/
theorem write_spec (hhere : t.IsDirectory t.here) (hpath : components path = steps ++ [.name name])
    (h : t.write path text = .ok after) :
    ∃ directory, after.walk after.here steps = .ok directory ∧ after.IsDirectory directory ∧
      after.find path = .ok (directory ++ [name]) ∧
      after.shape? (directory ++ [name]) = some (.file (some text)) ∧
      ChangesAt (· = directory ++ [name]) t after := by
  obtain ⟨_, hcheck, made, directory, hplace, rfl⟩ := (write_eq_ok_iff hpath).1 h
  have hput := changesAt_put_file hplace.isDirectory hplace.isFree (some text)
  have hmade := (makeDirectories_spec hhere hplace.makes).1
  have hwalk := hput.walk hplace.walk
  have hdir := hput.directories hplace.isDirectory
  have hempty := ne_empty_of_components hpath
  refine ⟨directory, hwalk, hdir, ?_, ?_, (hmade.mono fun _ => False.elim).trans hput⟩
  · rw [find_eq_ok_iff, hpath]
    exact ⟨hcheck, hempty,
      walk_append_name_eq_ok_iff.2 ⟨directory, hwalk, hdir, hplace.isShort, rfl⟩⟩
  · rw [shape?_put (FileEntry.isFlat_file _) hplace.isDirectory hplace.isFree, if_pos rfl]
    rfl

/-- Any text can be written to the path. -/
def Accepts (t : FileTree) (path : String) : Prop :=
  ∀ text, ∃ after, t.write path text = .ok after

theorem accepts_iff : t.Accepts path ↔ ∃ placed, t.place path = .ok placed := by
  constructor
  · intro h
    obtain ⟨after, hwrite⟩ := h ""
    rw [write_eq, map_eq_ok_iff] at hwrite
    obtain ⟨placed, hplaced, _⟩ := hwrite
    exact ⟨placed, hplaced⟩
  · rintro ⟨placed, hplaced⟩ text
    rw [write_eq, hplaced]
    exact ⟨_, rfl⟩

theorem HasPlace.put {name' : String} (h : HasPlace t made steps directory name)
    (h' : HasPlace t made steps directory name') (text : Option String) :
    let after := made.put (directory ++ [name]) (.file text)
    HasPlace after after steps directory name' := by
  have hput := changesAt_put_file h.isDirectory h.isFree text
  have hwalk := hput.walk h.walk
  have hdir := hput.directories h.isDirectory
  refine ⟨makeDirectories_of_walk hwalk hdir, hwalk, hdir, h'.isShort, ?_⟩
  rw [shape?_put (FileEntry.isFlat_file _) h.isDirectory h.isFree]
  split
  · exact nofun
  · exact h'.isFree

theorem Accepts.of_write {other name' : String} (h : t.Accepts other)
    (hpath : components path = steps ++ [.name name])
    (hother : components other = steps ++ [.name name'])
    (hwrite : t.write path text = .ok after) : after.Accepts other := by
  obtain ⟨⟨made', final⟩, hplaced⟩ := accepts_iff.1 h
  obtain ⟨hparents, hcheck, directory', hplace', rfl⟩ := (place_eq_ok_iff hother).1 hplaced
  obtain ⟨_, _, made, directory, hplace, rfl⟩ := (write_eq_ok_iff hpath).1 hwrite
  -- Both paths have the same directory, so the same directories are made for them.
  have hmade : made = made' := Except.ok.inj (hplace.makes.symm.trans hplace'.makes)
  subst hmade
  have hdirectory : directory = directory' := Except.ok.inj (hplace.walk.symm.trans hplace'.walk)
  subst hdirectory
  have hafter := hplace.put hplace' (some text)
  exact accepts_iff.2
    ⟨_, (place_eq_ok_iff hother).2 ⟨hparents, hcheck, directory, hafter, rfl⟩⟩

end RelSchema.FileTree
