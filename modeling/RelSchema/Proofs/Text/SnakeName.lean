import RelSchema.Proofs.Text.Identifier

namespace RelSchema.Text

variable {s t : String} {cs w : List Char}

/-- Between the underscores of the name there are small letters, and at least one. -/
def IsSnakeName (s : String) : Prop :=
  ∀ part ∈ split '_' s, part ≠ "" ∧ part.toList.all Char.isLower = true

instance : DecidablePred IsSnakeName := fun s =>
  inferInstanceAs (Decidable (∀ part ∈ split '_' s, _))

theorem IsSnakeName.append (hs : IsSnakeName s) (ht : IsSnakeName t) :
    IsSnakeName (s ++ "_" ++ t) := by
  have hsplit : split '_' (s ++ "_" ++ t) = split '_' s ++ split '_' t :=
    split_append_separator s t
  rw [IsSnakeName, hsplit]
  exact List.forall_mem_append.2 ⟨hs, ht⟩

theorem isAlphanum_of_isLower {c : Char} (h : c.isLower = true) : c.isAlphanum = true := by
  change (c.isUpper || c.isLower || c.isDigit) = true
  rw [h, Bool.or_true, Bool.true_or]

theorem kindOf_of_isLower {c : Char} (h : c.isLower = true) : kindOf c = .lower :=
  of_isAlphanum (p := fun c => c.isLower = true → kindOf c = .lower) (by decide)
    (isAlphanum_of_isLower h) h

theorem wordsFrom_of_isLower {last : ClusterKind} (hlast : last = .lower ∨ last = .separator)
    (hcs : ∀ c ∈ cs, c = '_' ∨ c.isLower = true) :
    ∃ part parts, splitList '_' cs = part :: parts ∧
      wordsFrom last w (cs.map ([·])) = (w ++ part) :: parts := by
  induction cs generalizing last w with
  | nil => exact ⟨[], [], rfl, by rw [List.append_nil]; rfl⟩
  | cons c cs ih =>
    rw [List.forall_mem_cons] at hcs
    rcases hcs.1 with rfl | hc
    · obtain ⟨part, parts, hsplit, hfrom⟩ := ih (w := []) (.inr rfl) hcs.2
      have hunderscore : ClusterKind.of ['_'] = .separator := by decide +kernel
      refine ⟨[], part :: parts, by rw [splitList_cons_separator, hsplit], ?_⟩
      rw [List.map_cons, wordsFrom, hunderscore, if_pos rfl, hfrom, List.append_nil,
        List.nil_append]
    · obtain ⟨part, parts, hsplit, hfrom⟩ := ih (w := w ++ [c]) (.inl rfl) hcs.2
      have hne : c ≠ '_' := by
        rintro rfl
        exact absurd hc (by decide)
      have hgoes : ∀ next, last.beginsWord .lower next = false := by
        rintro next
        rcases hlast with rfl | rfl <;> rfl
      refine ⟨c :: part, parts, splitList_cons_of_ne hne hsplit, ?_⟩
      rw [List.append_assoc] at hfrom
      rw [List.map_cons, wordsFrom]
      simp only [kind_of_isAlphanum (isAlphanum_of_isLower hc), kindOf_of_isLower hc, hgoes,
        reduceCtorEq, Bool.false_eq_true, ↓reduceIte]
      exact hfrom

namespace IsSnakeName

theorem parts (h : IsSnakeName s) :
    ∀ part ∈ splitList '_' s.toList, part ≠ [] ∧ ∀ c ∈ part, c.isLower = true := by
  intro part hpart
  obtain ⟨hne, hlower⟩ := h (.ofList part) (List.mem_map_of_mem hpart)
  rw [String.toList_ofList, List.all_eq_true] at hlower
  refine ⟨?_, hlower⟩
  rintro rfl
  exact hne rfl

theorem words_eq (h : IsSnakeName s) : words s = splitList '_' s.toList := by
  have hchars : ∀ c ∈ s.toList, c = '_' ∨ c.isLower = true := by
    intro c hc
    refine or_iff_not_imp_left.2 fun hne => ?_
    obtain ⟨part, hpart, hmem⟩ := exists_mem_splitList hc hne
    exact (h.parts part hpart).2 c hmem
  have hclusters : clusters s.toList = s.toList.map ([·]) := clusters_of_ascii fun c hc => by
    rcases hchars c hc with rfl | hlower
    · decide
    · have halnum := isAlphanum_of_isLower hlower
      exact ⟨ascii_of_isAlphanum halnum, clusterClass_of_isAlphanum halnum⟩
  obtain ⟨part, parts, hsplit, hfrom⟩ := wordsFrom_of_isLower (w := []) (.inr rfl) hchars
  rw [words, hclusters, hfrom, List.nil_append, ← hsplit, List.filter_eq_self]
  intro part hpart
  simp [(h.parts part hpart).1]

theorem areWords (h : IsSnakeName s) : AreWords (words s) := by
  rw [h.words_eq]
  have hparts := h.parts
  generalize splitList '_' s.toList = parts at hparts
  induction parts with
  | nil => exact .nil
  | cons part parts ih =>
    rw [List.forall_mem_cons] at hparts
    obtain ⟨⟨hne, hlower⟩, hparts⟩ := hparts
    obtain ⟨c, w, rfl⟩ := List.exists_cons_of_ne_nil hne
    have hclass : ∀ d ∈ c :: w, d.isAlphanum = true ∧ d.isDigit = false := fun d hd =>
      ⟨isAlphanum_of_isLower (hlower d hd), of_isAlphanum
        (p := fun d => d.isLower = true → d.isDigit = false) (by decide)
        (isAlphanum_of_isLower (hlower d hd)) (hlower d hd)⟩
    rw [List.forall_mem_cons] at hclass
    obtain ⟨⟨hc, hdigit⟩, hw⟩ := hclass
    refine .cons ⟨hc, fun d hd => ⟨(hw d hd).1, (hw d hd).2.trans hdigit.symm⟩⟩ ?_ (ih hparts)
    rw [hdigit]
    exact nofun

theorem map_toLower_words (h : IsSnakeName s) : (words s).map (·.map Char.toLower) = words s := by
  have hlower : ∀ {c : Char}, c.isLower = true → c.toLower = c := fun hc =>
    of_isAlphanum (p := fun c => c.isLower = true → c.toLower = c) (by decide)
      (isAlphanum_of_isLower hc) hc
  rw [h.words_eq]
  refine (List.map_congr_left fun part hpart => ?_).trans (List.map_id _)
  exact (List.map_congr_left fun c hc => hlower ((h.parts part hpart).2 c hc)).trans
    (List.map_id _)

theorem eq_of_words_eq (hs : IsSnakeName s) (ht : IsSnakeName t) (h : words s = words t) :
    s = t := by
  rw [hs.words_eq, ht.words_eq] at h
  exact String.toList_injective (splitList_injective h)

theorem camelCase_inj (hs : IsSnakeName s) (ht : IsSnakeName t) :
    camelCase s = camelCase t ↔ s = t := by
  refine ⟨fun h => ?_, congrArg camelCase⟩
  rw [camelCase_eq_iff hs.areWords ht.areWords, hs.map_toLower_words, ht.map_toLower_words] at h
  exact hs.eq_of_words_eq ht h

end IsSnakeName

/-- Where two pairs of names are joined to one, the first ones are equal, or one of them is the
other one with a part behind it that the second name of the other begins with. -/
theorem append_underscore_eq_iff {a b c d : String} :
    a ++ "_" ++ b = c ++ "_" ++ d ↔ (a = c ∧ b = d) ∨
      (∃ part, c = a ++ "_" ++ part ∧ b = part ++ "_" ++ d) ∨
      ∃ part, a = c ++ "_" ++ part ∧ d = part ++ "_" ++ b := by
  -- Where the underscore of the second pair stands behind that of the first one.
  have hlist : ∀ {a b c d : String} {rest : List Char}, c.toList = a.toList ++ rest →
      '_' :: b.toList = rest ++ '_' :: d.toList →
      (a = c ∧ b = d) ∨ ∃ part, c = a ++ "_" ++ part ∧ b = part ++ "_" ++ d := by
    intro a b c d rest hc hb
    cases rest with
    | nil =>
      rw [List.append_nil] at hc
      exact .inl ⟨String.toList_injective hc.symm, String.toList_injective (List.cons.inj hb).2⟩
    | cons x rest =>
      obtain ⟨rfl, hrest⟩ := List.cons.inj hb
      refine .inr ⟨.ofList rest, String.toList_injective ?_, String.toList_injective ?_⟩
      · simp [hc]
      · simpa using hrest
  constructor
  · intro h
    have htexts : a.toList ++ '_' :: b.toList = c.toList ++ '_' :: d.toList := by
      have := congrArg String.toList h
      simpa using this
    rcases List.append_eq_append_iff.1 htexts with ⟨rest, hc, hb⟩ | ⟨rest, ha, hd⟩
    · exact (hlist hc hb).imp_right .inl
    · exact (hlist ha hd).imp (fun h => ⟨h.1.symm, h.2.symm⟩) .inr
  · rintro (⟨rfl, rfl⟩ | ⟨part, rfl, rfl⟩ | ⟨part, rfl, rfl⟩)
    · rfl
    · simp only [String.append_assoc]
    · simp only [String.append_assoc]

end RelSchema.Text
