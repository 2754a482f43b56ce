import RelSchema.Text.Naming
import RelSchema.Proofs.Text.Split

namespace RelSchema.Text

variable {before : Option ClusterContext} {c d : Char}

/-- What is known of the text before a position once `cs` has been read. -/
def ClusterContext.after (before : Option ClusterContext) (cs : List Char) :
    Option ClusterContext :=
  cs.foldl (fun before c => some (.next before c)) before

theorem clustersFrom_append (current cs rest : List Char)
    (h : (ClusterContext.after before cs).any (·.holds c) = false) :
    clustersFrom before current (cs ++ c :: rest) =
      clustersFrom before current cs ++
        clustersFrom (ClusterContext.after before (cs ++ [c])) [c] rest := by
  induction cs generalizing before current with
  | nil =>
    have hc : before.any (·.holds c) = false := h
    simp only [List.nil_append, clustersFrom, hc, Bool.false_eq_true, ↓reduceIte]
    cases current <;> rfl
  | cons first cs ih =>
    have hrest : ∀ current,
        clustersFrom (some (.next before first)) current (cs ++ c :: rest) = _ :=
      fun current => ih current h
    simp only [List.cons_append, clustersFrom, hrest, List.foldl_cons, ClusterContext.after]
    split
    · rfl
    · split <;> rfl

theorem ClusterClass.of_ascii (h : c.toNat < 0x80) :
    ClusterClass.of c ∈ [ClusterClass.carriageReturn, .lineFeed, .control, .other] := by
  unfold ClusterClass.of
  split
  · simp
  · split
    · simp
    · split <;> simp

theorem ClusterContext.holds_next_ascii (hd : d.toNat < 0x80) (hc : ClusterClass.of c = .other) :
    (ClusterContext.next before d).holds c = false := by
  have hconjunct : (ClusterContext.next before d).conjunct = .none := if_pos hd
  have hlast : (ClusterContext.next before d).last = ClusterClass.of d := rfl
  have hclass := ClusterClass.of_ascii hd
  simp only [List.mem_cons, List.not_mem_nil, or_false] at hclass
  rcases hclass with h | h | h | h <;> simp [holds, hlast, h, hc, hconjunct]

theorem ClusterContext.holds_after_ascii {cs : List Char} (hcs : ∀ d ∈ cs, d.toNat < 0x80)
    (hc : ClusterClass.of c = .other) :
    (ClusterContext.after none cs).any (·.holds c) = false := by
  rcases List.eq_nil_or_concat cs with rfl | ⟨init, d, rfl⟩
  · rfl
  · have hd : d.toNat < 0x80 := hcs d (by simp)
    rw [after, List.concat_eq_append, List.foldl_append]
    exact ClusterContext.holds_next_ascii hd hc

theorem clusters_append_id {cs : List Char} (hcs : ∀ c ∈ cs, c.toNat < 0x80) :
    clusters (cs ++ ['_', 'i', 'd']) = clusters cs ++ [['_'], ['i'], ['d']] := by
  have hfirst := ClusterContext.holds_after_ascii hcs (c := '_') (by decide)
  have hnext : ∀ before, (ClusterContext.next before '_').holds 'i' = false :=
    fun _ => ClusterContext.holds_next_ascii (by decide) (by decide)
  have hlast : ∀ before, (ClusterContext.next before 'i').holds 'd' = false :=
    fun _ => ClusterContext.holds_next_ascii (by decide) (by decide)
  rw [clusters, clustersFrom_append _ _ _ hfirst, ClusterContext.after, List.foldl_append]
  simp [clusters, clustersFrom, hnext, hlast]

theorem wordsFrom_append_separator {c : List Char} (hc : ClusterKind.of c = .separator)
    (last : ClusterKind) (word : List Char) (cs rest : List (List Char)) :
    wordsFrom last word (cs ++ c :: rest) =
      wordsFrom last word cs ++ wordsFrom .separator [] rest := by
  have hends : ∀ last here : ClusterKind,
      last.beginsWord here (some .separator) = last.beginsWord here none := by
    intro last here
    cases last <;> cases here <;> rfl
  induction cs generalizing last word with
  | nil => simp [wordsFrom, hc]
  | cons first cs ih =>
    have hnext : ∀ here : ClusterKind,
        last.beginsWord here ((cs ++ c :: rest).head?.map ClusterKind.of) =
          last.beginsWord here (cs.head?.map ClusterKind.of) := by
      intro here
      cases cs with
      | nil => simpa [hc] using hends last here
      | cons => rfl
    simp only [List.cons_append, wordsFrom, hnext, ih]
    split
    · rfl
    · split <;> rfl

theorem words_append_id {s : String} (hs : ∀ c ∈ s.toList, c.toNat < 0x80) :
    words (s ++ "_id") = words s ++ [['i', 'd']] := by
  have hid : wordsFrom .separator [] [['i'], ['d']] = [['i', 'd']] := by decide +kernel
  rw [words, words, String.toList_append, show "_id".toList = ['_', 'i', 'd'] from rfl,
    clusters_append_id hs, wordsFrom_append_separator (by decide), hid, List.filter_append]
  rfl

theorem pascalCase_append_id {s : String} (hs : ∀ c ∈ s.toList, c.toNat < 0x80) :
    pascalCase (s ++ "_id") = pascalCase s ++ "Id" := by
  have hid : [['i', 'd']].flatMap capitalize = ['I', 'd'] := by decide +kernel
  rw [pascalCase, words_append_id hs, List.flatMap_append, hid, String.ofList_append]
  rfl

theorem stripId_append_id (s : String) : stripId (s ++ "_id") = s := by
  rw [stripId, dropSuffix?_append]
  rfl

theorem stripId_of_endsWith {s : String} (h : endsWith s "_id" = true) :
    stripId s ++ "_id" = s := by
  obtain ⟨stem, rfl⟩ := exists_append_of_endsWith h
  rw [stripId_append_id]

theorem stripId_of_not_endsWith {s : String} (h : endsWith s "_id" = false) : stripId s = s := by
  have hsuffix : "_id".toList.isSuffixOf s.toList = false := h
  rw [stripId, dropSuffix?, hsuffix]
  rfl

end RelSchema.Text
