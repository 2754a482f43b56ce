import RelSchema.Text.Split

namespace RelSchema.Text

variable {sep : Char}

theorem toList_toString (c : Char) : c.toString.toList = [c] :=
  String.toList_singleton c

theorem toList_append_toString_append (c : Char) (left right : String) :
    (left ++ c.toString ++ right).toList = left.toList ++ c :: right.toList := by
  rw [String.toList_append, String.toList_append, toList_toString, List.append_assoc]
  rfl

theorem exists_toList_eq_cons {s : String} (h : s ≠ "") : ∃ c cs, s.toList = c :: cs :=
  List.exists_cons_of_ne_nil fun hnil => h (String.toList_eq_nil_iff.1 hnil)

theorem splitList_ne_nil (cs : List Char) : splitList sep cs ≠ [] := by
  induction cs with
  | nil => exact List.cons_ne_nil _ _
  | cons c cs ih =>
    rw [splitList]
    split
    · exact List.cons_ne_nil _ _
    · split <;> exact List.cons_ne_nil _ _

theorem splitList_cons_separator (cs : List Char) :
    splitList sep (sep :: cs) = [] :: splitList sep cs := by
  rw [splitList]
  cases h : splitList sep cs with
  | nil => exact absurd h (splitList_ne_nil cs)
  | cons part parts => exact if_pos rfl

theorem splitList_cons_of_ne {c : Char} (hc : c ≠ sep) {cs part : List Char}
    {parts : List (List Char)} (h : splitList sep cs = part :: parts) :
    splitList sep (c :: cs) = (c :: part) :: parts := by
  rw [splitList, h]
  exact if_neg hc

theorem splitList_append_separator (left right : List Char) :
    splitList sep (left ++ sep :: right) = splitList sep left ++ splitList sep right := by
  induction left with
  | nil => exact splitList_cons_separator right
  | cons c left ih =>
    by_cases hc : c = sep
    · subst hc
      rw [List.cons_append, splitList_cons_separator, splitList_cons_separator, ih]
      rfl
    · obtain ⟨part, parts, hleft⟩ := List.exists_cons_of_ne_nil (@splitList_ne_nil sep left)
      rw [hleft] at ih
      rw [List.cons_append, splitList_cons_of_ne hc ih, splitList_cons_of_ne hc hleft]
      rfl

theorem splitList_of_notMem {cs : List Char} (h : sep ∉ cs) : splitList sep cs = [cs] := by
  induction cs with
  | nil => rfl
  | cons c cs ih =>
    rw [List.mem_cons, not_or] at h
    exact splitList_cons_of_ne (Ne.symm h.1) (ih h.2)

theorem notMem_of_mem_splitList {cs part : List Char} (h : part ∈ splitList sep cs) :
    sep ∉ part := by
  induction cs generalizing part with
  | nil =>
    rw [List.mem_singleton.1 h]
    exact List.not_mem_nil
  | cons c cs ih =>
    by_cases hc : c = sep
    · subst hc
      rw [splitList_cons_separator] at h
      rcases List.mem_cons.1 h with rfl | h
      · exact List.not_mem_nil
      · exact ih h
    · obtain ⟨first, parts, hcs⟩ := List.exists_cons_of_ne_nil (@splitList_ne_nil sep cs)
      rw [splitList_cons_of_ne hc hcs] at h
      rw [hcs] at ih
      rcases List.mem_cons.1 h with rfl | h
      · rw [List.mem_cons, not_or]
        exact ⟨Ne.symm hc, ih List.mem_cons_self⟩
      · exact ih (List.mem_cons_of_mem first h)

theorem exists_mem_splitList {cs : List Char} {c : Char} (hc : c ∈ cs) (hne : c ≠ sep) :
    ∃ part ∈ splitList sep cs, c ∈ part := by
  induction cs with
  | nil => cases hc
  | cons d cs ih =>
    obtain ⟨first, parts, hcs⟩ := List.exists_cons_of_ne_nil (@splitList_ne_nil sep cs)
    rw [hcs] at ih
    by_cases hd : d = sep
    · subst hd
      rw [splitList_cons_separator, hcs]
      obtain ⟨part, hpart, hmem⟩ := ih ((List.mem_cons.1 hc).resolve_left hne)
      exact ⟨part, List.mem_cons_of_mem _ hpart, hmem⟩
    · rw [splitList_cons_of_ne hd hcs]
      rcases List.mem_cons.1 hc with rfl | hc
      · exact ⟨c :: first, List.mem_cons_self, List.mem_cons_self⟩
      · obtain ⟨part, hpart, hmem⟩ := ih hc
        rcases List.mem_cons.1 hpart with rfl | hpart
        · exact ⟨d :: part, List.mem_cons_self, List.mem_cons_of_mem d hmem⟩
        · exact ⟨part, List.mem_cons_of_mem _ hpart, hmem⟩

theorem intercalate_splitList (cs : List Char) :
    [sep].intercalate (splitList sep cs) = cs := by
  have hcons : ∀ (c : Char) (part : List Char) (parts : List (List Char)),
      [sep].intercalate ((c :: part) :: parts) = c :: [sep].intercalate (part :: parts) := by
    intro c part parts
    cases parts <;> rfl
  induction cs with
  | nil => rfl
  | cons c cs ih =>
    obtain ⟨part, parts, hcs⟩ := List.exists_cons_of_ne_nil (@splitList_ne_nil sep cs)
    rw [hcs] at ih
    by_cases hc : c = sep
    · subst hc
      rw [splitList_cons_separator, hcs, ← congrArg (c :: ·) ih]
      rfl
    · rw [splitList_cons_of_ne hc hcs, hcons, ih]

theorem splitList_injective : Function.Injective (splitList sep) := fun cs ds h => by
  rw [← @intercalate_splitList sep cs, h, intercalate_splitList]

theorem length_splitList (cs : List Char) : (splitList sep cs).length = cs.count sep + 1 := by
  induction cs with
  | nil => rfl
  | cons c cs ih =>
    by_cases hc : c = sep
    · subst hc
      rw [splitList_cons_separator, List.length_cons, ih, List.count_cons_self]
    · obtain ⟨part, parts, hcs⟩ := List.exists_cons_of_ne_nil (@splitList_ne_nil sep cs)
      rw [hcs] at ih
      rw [splitList_cons_of_ne hc hcs, List.count_cons_of_ne hc, ← ih]
      rfl

theorem splitList_intercalate {parts : List (List Char)} (hne : parts ≠ [])
    (h : ∀ part ∈ parts, sep ∉ part) : splitList sep ([sep].intercalate parts) = parts := by
  induction parts with
  | nil => exact absurd rfl hne
  | cons part parts ih =>
    rw [List.forall_mem_cons] at h
    cases parts with
    | nil =>
      rw [List.intercalate_singleton]
      exact splitList_of_notMem h.1
    | cons next parts =>
      rw [List.intercalate_cons_cons, List.append_assoc, List.singleton_append,
        splitList_append_separator, splitList_of_notMem h.1, ih (List.cons_ne_nil _ _) h.2]
      rfl

theorem splitList_append_of_notMem {ending : List Char} (h : sep ∉ ending) (cs : List Char) :
    ∃ before last, splitList sep cs = before ++ [last] ∧
      splitList sep (cs ++ ending) = before ++ [last ++ ending] := by
  induction cs with
  | nil => exact ⟨[], [], rfl, splitList_of_notMem h⟩
  | cons c cs ih =>
    obtain ⟨before, last, hcs, happend⟩ := ih
    by_cases hc : c = sep
    · subst hc
      rw [List.cons_append, splitList_cons_separator, splitList_cons_separator, hcs, happend]
      exact ⟨[] :: before, last, rfl, rfl⟩
    · cases before with
      | nil => exact ⟨[], c :: last, splitList_cons_of_ne hc hcs, splitList_cons_of_ne hc happend⟩
      | cons first before =>
        exact ⟨(c :: first) :: before, last, splitList_cons_of_ne hc hcs,
          splitList_cons_of_ne hc happend⟩

theorem split_ne_nil (s : String) : split sep s ≠ [] :=
  fun h => splitList_ne_nil _ (List.map_eq_nil_iff.1 h)

theorem split_append_separator (left right : String) :
    split sep (left ++ sep.toString ++ right) = split sep left ++ split sep right := by
  rw [split, toList_append_toString_append, splitList_append_separator, List.map_append]
  rfl

theorem split_append_self (s : String) :
    split sep (s ++ sep.toString) = split sep s ++ [""] := by
  rw [← String.append_empty (s := s ++ sep.toString), split_append_separator]
  rfl

theorem head?_split_append (s : String) (parts : List String) :
    (split sep s ++ parts).head? = (split sep s).head? := by
  cases h : split sep s with
  | nil => exact absurd h (split_ne_nil s)
  | cons => rfl

theorem length_split (s : String) : (split sep s).length = s.toList.count sep + 1 := by
  rw [split, List.length_map, length_splitList]

theorem intercalate_split (s : String) : sep.toString.intercalate (split sep s) = s := by
  have hparts : String.toList ∘ String.ofList = id := funext fun _ => String.toList_ofList
  apply String.toList_injective
  rw [String.toList_intercalate, toList_toString, split, List.map_map, hparts, List.map_id,
    intercalate_splitList]

theorem split_of_notMem {s : String} (h : sep ∉ s.toList) : split sep s = [s] := by
  rw [split, splitList_of_notMem h, List.map_singleton, String.ofList_toList]

theorem notMem_of_mem_split {s part : String} (h : part ∈ split sep s) : sep ∉ part.toList := by
  obtain ⟨cs, hcs, rfl⟩ := List.mem_map.1 h
  rw [String.toList_ofList]
  exact notMem_of_mem_splitList hcs

theorem split_intercalate {parts : List String} (hne : parts ≠ [])
    (h : ∀ part ∈ parts, sep ∉ part.toList) :
    split sep (sep.toString.intercalate parts) = parts := by
  have hlists : ∀ cs ∈ parts.map String.toList, sep ∉ cs := by
    intro cs hcs
    obtain ⟨part, hpart, rfl⟩ := List.mem_map.1 hcs
    exact h part hpart
  have hsplit := splitList_intercalate (fun hnil => hne (List.map_eq_nil_iff.1 hnil)) hlists
  have hparts : String.ofList ∘ String.toList = id := funext fun _ => String.ofList_toList
  rw [split, String.toList_intercalate, toList_toString, hsplit, List.map_map, hparts, List.map_id]

theorem split_append_of_notMem {ending : String} (h : sep ∉ ending.toList) (s : String) :
    split sep (s ++ ending) = (split sep s).dropLast ++ [(split sep s).getLastD "" ++ ending] := by
  obtain ⟨before, last, hs, happend⟩ := splitList_append_of_notMem h s.toList
  rw [split, split, String.toList_append, happend, hs, List.map_append, List.map_append,
    List.map_singleton, List.map_singleton, List.dropLast_concat, List.getLastD_concat,
    String.ofList_append, String.ofList_toList]

theorem dropSuffix?_append (s ending : String) : dropSuffix? (s ++ ending) ending = some s := by
  have hsuffix : ending.toList.isSuffixOf (s ++ ending).toList = true := by simp
  rw [dropSuffix?, if_pos hsuffix]
  simp

theorem occursIn_append_of_notMem {c : Char} {before : List Char} (h : c ∉ before)
    (part rest : List Char) :
    occursIn (c :: part) (before ++ rest) = occursIn (c :: part) rest := by
  induction before with
  | nil => rfl
  | cons d before ih =>
    rw [List.mem_cons, not_or] at h
    rw [List.cons_append, occursIn, ih h.2, List.isPrefixOf_cons_cons, beq_false_of_ne h.1]
    rfl

theorem exists_append_of_endsWith {s ending : String} (h : endsWith s ending = true) :
    ∃ start, s = start ++ ending := by
  obtain ⟨start, hstart⟩ := List.isSuffixOf_iff_suffix.1 h
  refine ⟨.ofList start, String.toList_injective ?_⟩
  simp [hstart]

end RelSchema.Text
