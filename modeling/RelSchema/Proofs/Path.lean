import RelSchema.Path
import RelSchema.Proofs.Text.Split

namespace RelSchema.Path

/-- The first step of a path with slashes, if that is the root or a single dot. -/
def start (path : String) : List Component :=
  if isAbsolute path then [.root]
  else if (Text.split '/' path).dropLast.head? = some "." then [.current]
  else []

/-- The steps up to the last slash of a path. -/
def folders (path : String) : List Component :=
  (Text.split '/' path).dropLast.filterMap Component.ofPart?

/-- What comes after the last slash of a path. -/
def lastPart (path : String) : String :=
  (Text.split '/' path).getLastD ""

/-- The steps to the directory of a path that is joined from two. -/
def lead (base name : String) : List Component :=
  if isAbsolute name ∨ base = "" then start name ++ folders name
  else components base ++ folders name

variable {base name ending : String}

theorem isAbsolute_append (h : base ≠ "") (part : String) :
    isAbsolute (base ++ part) = isAbsolute base := by
  obtain ⟨c, cs, hbase⟩ := Text.exists_toList_eq_cons h
  rw [isAbsolute, isAbsolute, Text.startsWith, Text.startsWith, String.toList_append, hbase]
  rfl

theorem isAbsolute_of_notMem (h : '/' ∉ name.toList) : isAbsolute name = false := by
  rw [isAbsolute, Text.startsWith]
  cases hname : name.toList with
  | nil => rfl
  | cons c cs =>
    rw [hname, List.mem_cons, not_or] at h
    exact Bool.and_eq_false_iff.2 (.inl (beq_eq_false_iff_ne.2 h.1))

theorem isAbsolute_append_of_notMem (h : '/' ∉ ending.toList) (name : String) :
    isAbsolute (name ++ ending) = isAbsolute name := by
  by_cases hname : name = ""
  · rw [hname, String.empty_append]
    exact isAbsolute_of_notMem h
  · exact isAbsolute_append hname ending

theorem ofPart?_of_mem {part : String} {c : Char} (h : c ∈ part.toList) (hc : c ≠ '.') :
    Component.ofPart? part = some (.name part) := by
  have hne : ∀ dots : String, (∀ d ∈ dots.toList, d = '.') → part ≠ dots := by
    rintro dots hdots rfl
    exact hc (hdots c h)
  simp [Component.ofPart?, isSilent, hne "" (by simp), hne "." (by simp), hne ".." (by simp)]

theorem folders_of_notMem (h : '/' ∉ name.toList) : folders name = [] := by
  rw [folders, Text.split_of_notMem h]
  rfl

theorem start_of_notMem (h : '/' ∉ name.toList) : start name = [] := by
  rw [start, isAbsolute_of_notMem h, Text.split_of_notMem h]
  rfl

theorem lead_of_notMem (h : '/' ∉ name.toList) (base : String) :
    lead base name = components base := by
  rw [lead, start_of_notMem h, folders_of_notMem h, List.append_nil, List.append_nil,
    isAbsolute_of_notMem h]
  split
  · rename_i hbase
    simp only [Bool.false_eq_true, false_or] at hbase
    rw [hbase]
    rfl
  · rfl

theorem notMem_of_mem_components {path s : String} (h : .name s ∈ components path) :
    '/' ∉ s.toList := by
  have hpart : ∀ part, Component.ofPart? part = some (.name s) → part = s := by
    intro part hpart
    rw [Component.ofPart?] at hpart
    split at hpart
    · cases hpart
    · split at hpart <;> cases hpart
      rfl
  rw [components, List.mem_append, List.mem_filterMap] at h
  rcases h with h | ⟨part, hmem, hs⟩
  · split at h
    · simp at h
    · split at h <;> simp at h
  · exact hpart part hs ▸ Text.notMem_of_mem_split hmem

/-- A file's name has no slashes, and neither has what is left of it without its ending. -/
theorem notMem_of_fileStem? {path stem : String} (h : fileStem? path = some stem) :
    '/' ∉ stem.toList := by
  rw [fileStem?] at h
  split at h
  · rename_i s hlast
    have hs := notMem_of_mem_components (List.mem_of_getLast? hlast)
    cases h
    split
    · exact hs
    · rw [String.toList_ofList, List.mem_reverse]
      exact fun hmem => hs (List.mem_reverse.1 (List.mem_of_mem_drop hmem))
  · cases h

theorem exists_ofPart? {part : String} (h : isSilent part = false) :
    ∃ step, Component.ofPart? part = some step := by
  rw [Component.ofPart?, h]
  by_cases hparent : part = ".."
  · exact ⟨.parent, if_pos hparent⟩
  · exact ⟨.name part, if_neg hparent⟩

theorem components_ne_nil {path : String} (h : path ≠ "") : components path ≠ [] := by
  obtain ⟨c, cs, hpath⟩ := Text.exists_toList_eq_cons h
  by_cases hc : c = '/'
  · have habsolute : isAbsolute path = true := by
      rw [isAbsolute, Text.startsWith, hpath, hc]
      rfl
    rw [components, if_pos habsolute]
    exact List.cons_ne_nil _ _
  · obtain ⟨part, parts, hcs⟩ := List.exists_cons_of_ne_nil (@Text.splitList_ne_nil '/' cs)
    have hsplit : Text.split '/' path = .ofList (c :: part) :: parts.map .ofList := by
      rw [Text.split, hpath, Text.splitList_cons_of_ne hc hcs, List.map_cons]
    by_cases hdot : String.ofList (c :: part) = "."
    · rw [components, hsplit, hdot]
      split <;> exact List.cons_ne_nil _ _
    · have hempty : String.ofList (c :: part) ≠ "" := by simp
      have hsilent : isSilent (.ofList (c :: part)) = false :=
        Bool.or_eq_false_iff.2 ⟨decide_eq_false hempty, decide_eq_false hdot⟩
      obtain ⟨step, hstep⟩ := exists_ofPart? hsilent
      rw [components, hsplit, List.filterMap_cons_some hstep]
      exact List.append_ne_nil_of_right_ne_nil _ (List.cons_ne_nil _ _)

theorem ne_empty_of_components {path : String} {steps : List Component} {c : Component}
    (h : components path = steps ++ [c]) : path ≠ "" := by
  rintro rfl
  exact List.append_ne_nil_of_right_ne_nil steps (List.cons_ne_nil c []) h.symm

theorem parent?_of_components {path : String} {steps : List Component} {s : String}
    (h : components path = steps ++ [.name s]) : parent? path = some steps := by
  rw [parent?, h, List.reverse_append, List.reverse_singleton, List.singleton_append]
  exact congrArg some steps.reverse_reverse

theorem split_append (h : '/' ∉ ending.toList) (name : String) :
    Text.split '/' (name ++ ending) =
      (Text.split '/' name).dropLast ++ [lastPart name ++ ending] :=
  Text.split_append_of_notMem h name

section Ending

variable {c : Char} (h : '/' ∉ ending.toList) (hc : c ∈ ending.toList) (hdot : c ≠ '.')

include h hc hdot

theorem filterMap_split_append (name : String) :
    (Text.split '/' (name ++ ending)).filterMap Component.ofPart? =
      folders name ++ [.name (lastPart name ++ ending)] := by
  have hlast : Component.ofPart? (lastPart name ++ ending) =
      some (.name (lastPart name ++ ending)) :=
    ofPart?_of_mem (String.toList_append ▸ List.mem_append_right _ hc) hdot
  rw [split_append h, List.filterMap_append, List.filterMap_cons_some hlast]
  rfl

theorem components_append (name : String) :
    components (name ++ ending) =
      start name ++ (folders name ++ [.name (lastPart name ++ ending)]) := by
  have hends : lastPart name ++ ending ≠ "." := by
    intro hends
    have hmem : c ∈ (lastPart name ++ ending).toList :=
      String.toList_append ▸ List.mem_append_right _ hc
    rw [hends] at hmem
    exact hdot (List.mem_singleton.1 hmem)
  have hhead : (Text.split '/' (name ++ ending)).head? = some "." ↔
      (Text.split '/' name).dropLast.head? = some "." := by
    rw [split_append h]
    cases (Text.split '/' name).dropLast with
    | nil => simpa using hends
    | cons => rfl
  rw [components, isAbsolute_append_of_notMem h, filterMap_split_append h hc hdot]
  simp only [hhead]
  rfl

end Ending

theorem components_slash (h : base ≠ "") : components (base ++ "/") = components base := by
  have hslash : Text.split '/' (base ++ "/") = Text.split '/' base ++ [""] :=
    Text.split_append_self base
  rw [components, components, isAbsolute_append h, hslash, Text.head?_split_append,
    List.filterMap_append]
  exact congrArg _ (List.append_nil _)

theorem components_append_slash (left right : String) :
    components (left ++ "/" ++ right) =
      components (left ++ "/") ++ (Text.split '/' right).filterMap Component.ofPart? := by
  have hslash : Text.split '/' (left ++ "/") = Text.split '/' left ++ [""] :=
    Text.split_append_self left
  have hsplit : Text.split '/' (left ++ "/" ++ right) =
      Text.split '/' left ++ Text.split '/' right := Text.split_append_separator left right
  have hempty : [""].filterMap Component.ofPart? = [] := rfl
  have hne : left ++ "/" ≠ "" := by simp
  simp only [components, isAbsolute_append hne, hsplit, hslash, Text.head?_split_append,
    List.filterMap_append, hempty, List.append_nil, List.append_assoc]

theorem components_join (hbase : base ≠ "") {part : String} (hpart : isAbsolute part = false) :
    components (join base part) =
      components base ++ (Text.split '/' part).filterMap Component.ofPart? := by
  have hempty : base.isEmpty = false := by simpa using hbase
  rw [join, hpart, hempty, Bool.false_or]
  cases hslash : Text.endsWith base "/" with
  | true =>
    obtain ⟨left, rfl⟩ := Text.exists_append_of_endsWith hslash
    exact components_append_slash left part
  | false =>
    rw [← components_slash hbase]
    exact components_append_slash base part

theorem exists_join_append (base name ending : String) :
    ∃ before, join base (name ++ ending) = before ++ ending := by
  rw [join]
  split
  · exact ⟨name, rfl⟩
  · split
    · exact ⟨base ++ name, String.append_assoc.symm⟩
    · exact ⟨base ++ "/" ++ name, String.append_assoc.symm⟩

/-- The steps of a joined path that ends in more than dots: those to its directory, and the file. -/
theorem components_join_append {c : Char} (h : '/' ∉ ending.toList) (hc : c ∈ ending.toList)
    (hdot : c ≠ '.') (base name : String) :
    components (join base (name ++ ending)) =
      lead base name ++ [.name (lastPart name ++ ending)] := by
  have habsolute := isAbsolute_append_of_notMem h name
  by_cases hstart : isAbsolute name = true ∨ base = ""
  · have hjoin : join base (name ++ ending) = name ++ ending := by
      rw [join, habsolute]
      rcases hstart with hstart | rfl
      · exact if_pos hstart
      · simp
    rw [hjoin, components_append h hc hdot, lead, if_pos hstart, List.append_assoc]
  · rw [lead, if_neg hstart, List.append_assoc]
    rw [not_or, Bool.not_eq_true] at hstart
    rw [components_join hstart.2 (habsolute.trans hstart.1), filterMap_split_append h hc hdot]

end RelSchema.Path
