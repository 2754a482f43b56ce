import RelSchema.FileTree

namespace RelSchema

/-- What there is at a location, without what is below it. -/
inductive Shape
  | file (text : Option String)
  | directory
  deriving DecidableEq

namespace FileEntry

def shape : FileEntry → Shape
  | .file text => .file text
  | .directory _ => .directory

def shape? (entry : FileEntry) (location : List String) : Option Shape :=
  (entry.get? location).map shape

/-- Nothing is below the entry. -/
def IsFlat (entry : FileEntry) : Prop :=
  ∀ name rest, entry.get? (name :: rest) = none

theorem isFlat_file (text : Option String) : (FileEntry.file text).IsFlat :=
  fun _ _ => rfl

theorem isFlat_empty : (FileEntry.directory []).IsFlat :=
  fun _ _ => rfl

variable {entry new : FileEntry} {entries : List (String × FileEntry)} {name : String}
  {location rest : List String}

@[simp]
theorem get?_nil (entry : FileEntry) : entry.get? [] = some entry := by
  cases entry <;> rfl

@[simp]
theorem shape?_nil (entry : FileEntry) : entry.shape? [] = some entry.shape := by
  rw [shape?, get?_nil, Option.map_some]

theorem shape?_cons (entries : List (String × FileEntry)) (name : String) (rest : List String) :
    (directory entries).shape? (name :: rest) =
      (Keyed.get? name entries).bind (·.shape? rest) := by
  rw [shape?, get?]
  cases Keyed.get? name entries <;> rfl

theorem IsFlat.shape?_cons (h : entry.IsFlat) (name : String) (rest : List String) :
    entry.shape? (name :: rest) = none := by
  rw [shape?, h, Option.map_none]

theorem eq_directory_of_shape (h : entry.shape = .directory) :
    ∃ entries, entry = directory entries := by
  cases entry with
  | file => cases h
  | directory entries => exact ⟨entries, rfl⟩

theorem shape?_append_of_ne_directory (h : entry.shape? location ≠ some .directory)
    (name : String) (rest : List String) : entry.shape? (location ++ name :: rest) = none := by
  induction location generalizing entry with
  | nil =>
    cases entry with
    | file => rfl
    | directory => exact absurd rfl h
  | cons first location ih =>
    cases entry with
    | file => rfl
    | directory entries =>
      rw [shape?_cons] at h
      rw [List.cons_append, shape?_cons]
      cases hfirst : Keyed.get? first entries with
      | none => rfl
      | some entry =>
        rw [hfirst] at h
        exact ih h

theorem shape?_put_cons (new : FileEntry) (entries : List (String × FileEntry)) (first : String)
    (location : List String) (name : String) (rest : List String) :
    (put new (directory entries) (first :: location)).shape? (name :: rest) =
      if name = first then
        (put new ((Keyed.get? first entries).getD (directory [])) location).shape? rest
      else (directory entries).shape? (name :: rest) := by
  rw [put, shape?_cons, Keyed.get?_insert, shape?_cons]
  split <;> rfl

/-- A flat entry in a directory shows at its own location only, if nothing was below that. -/
theorem shape?_put (hnew : new.IsFlat) (hparent : entry.shape? location = some .directory)
    (hold : entry.shape? (location ++ [name]) ≠ some .directory) (other : List String) :
    (put new entry (location ++ [name])).shape? other =
      if other = location ++ [name] then some new.shape else entry.shape? other := by
  -- Both locations are followed down together, until they part or the directory is reached.
  induction location generalizing entry other with
  | nil =>
    rw [shape?_nil, Option.some.injEq] at hparent
    obtain ⟨entries, rfl⟩ := eq_directory_of_shape hparent
    cases other with
    | nil => rfl
    | cons first rest =>
      rw [List.nil_append, shape?_put_cons, put]
      by_cases hfirst : first = name
      · subst hfirst
        cases rest with
        | nil => simp
        | cons second rest =>
          have hbelow : (directory entries).shape? (first :: second :: rest) = none :=
            shape?_append_of_ne_directory hold second rest
          rw [if_pos rfl, hnew.shape?_cons, if_neg (by simp), hbelow]
      · rw [if_neg hfirst, if_neg (by simp [hfirst])]
  | cons first location ih =>
    cases entry with
    | file => cases hparent
    | directory entries =>
      cases other with
      | nil => rfl
      | cons second rest =>
        rw [List.cons_append, shape?_put_cons]
        by_cases hsecond : second = first
        · subst hsecond
          rw [shape?_cons] at hparent
          rw [List.cons_append, shape?_cons] at hold
          rw [if_pos rfl, shape?_cons]
          cases hfirst : Keyed.get? second entries with
          | none =>
            rw [hfirst] at hparent
            cases hparent
          | some entry =>
            rw [hfirst] at hparent hold
            rw [Option.getD_some, ih hparent hold, Option.bind_some]
            simp only [List.cons.injEq, true_and]
        · rw [if_neg hsecond, if_neg (by simp [hsecond])]

end FileEntry

namespace FileTree

def shape? (t : FileTree) (location : List String) : Option Shape :=
  t.root.shape? location

def IsDirectory (t : FileTree) (location : List String) : Prop :=
  t.shape? location = some .directory

variable {t before between after : FileTree} {location : List String} {name : String}
  {entry : FileEntry}

theorem isDirectory_iff :
    t.IsDirectory location ↔ ∃ entries, t.get? location = some (.directory entries) := by
  rw [IsDirectory, shape?, FileEntry.shape?, FileTree.get?]
  cases t.root.get? location with
  | none => simp
  | some entry => cases entry <;> simp [FileEntry.shape]

theorem IsDirectory.of_isPrefix {shorter : List String} (h : t.IsDirectory location)
    (hshorter : shorter <+: location) : t.IsDirectory shorter := by
  obtain ⟨rest, rfl⟩ := hshorter
  cases rest with
  | nil => rwa [List.append_nil] at h
  | cons name rest =>
    apply Classical.byContradiction
    intro hne
    have hnone := FileEntry.shape?_append_of_ne_directory hne name rest
    rw [IsDirectory, shape?, hnone] at h
    cases h

theorem shape?_put (hentry : entry.IsFlat) (hparent : t.IsDirectory location)
    (hold : t.shape? (location ++ [name]) ≠ some .directory) (other : List String) :
    (t.put (location ++ [name]) entry).shape? other =
      if other = location ++ [name] then some entry.shape else t.shape? other :=
  FileEntry.shape?_put hentry hparent hold other

/-- The files at some locations may have changed, and directories may have been added. -/
structure ChangesAt (changed : List String → Prop) (before after : FileTree) : Prop where
  here : after.here = before.here
  directories : ∀ {location}, before.IsDirectory location → after.IsDirectory location
  files : ∀ {location text}, ¬ changed location →
    (after.shape? location = some (.file text) ↔ before.shape? location = some (.file text))

theorem ChangesAt.refl (changed : List String → Prop) (t : FileTree) : ChangesAt changed t t where
  here := rfl
  directories := id
  files _ := Iff.rfl

theorem ChangesAt.trans {changed : List String → Prop} (h : ChangesAt changed before between)
    (h' : ChangesAt changed between after) : ChangesAt changed before after where
  here := h'.here.trans h.here
  directories hdir := h'.directories (h.directories hdir)
  files hlocation := (h'.files hlocation).trans (h.files hlocation)

theorem ChangesAt.mono {changed changed' : List String → Prop} (h : ChangesAt changed before after)
    (hchanged : ∀ location, changed location → changed' location) :
    ChangesAt changed' before after where
  here := h.here
  directories := h.directories
  files hlocation := h.files fun hmem => hlocation (hchanged _ hmem)

theorem shape?_put_directory (hparent : t.IsDirectory location)
    (hold : t.shape? (location ++ [name]) = none) (other : List String) :
    (t.put (location ++ [name]) (.directory [])).shape? other =
      if other = location ++ [name] then some .directory else t.shape? other := by
  have hne : t.shape? (location ++ [name]) ≠ some .directory := by
    rw [hold]
    exact nofun
  exact shape?_put FileEntry.isFlat_empty hparent hne other

theorem changesAt_put_directory (hparent : t.IsDirectory location)
    (hold : t.shape? (location ++ [name]) = none) (changed : List String → Prop) :
    ChangesAt changed t (t.put (location ++ [name]) (.directory [])) := by
  refine ⟨rfl, ?_, ?_⟩
  · intro other hother
    rw [IsDirectory, shape?_put_directory hparent hold]
    split
    · rfl
    · exact hother
  · intro other text _
    rw [shape?_put_directory hparent hold]
    split
    · rename_i hother
      rw [hother, hold]
      exact iff_of_false nofun nofun
    · rfl

theorem changesAt_put_file (hparent : t.IsDirectory location)
    (hold : t.shape? (location ++ [name]) ≠ some .directory) (text : Option String) :
    ChangesAt (· = location ++ [name]) t (t.put (location ++ [name]) (.file text)) := by
  have hshape := shape?_put (FileEntry.isFlat_file text) hparent hold
  refine ⟨rfl, ?_, ?_⟩
  · intro other hother
    rw [IsDirectory, hshape]
    split
    · rename_i heq
      exact absurd hother (heq ▸ hold)
    · exact hother
  · intro other text hother
    rw [hshape, if_neg hother]

end FileTree

end RelSchema
