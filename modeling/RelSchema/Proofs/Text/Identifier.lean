import RelSchema.Proofs.Text.Casing
import RelSchema.Proofs.Text.Words

namespace RelSchema.Text

variable {c d : Char} {s t : String} {cs w : List Char} {ws vs : List (List Char)}

theorem ascii_of_isAlphanum (h : c.isAlphanum = true) : c.toNat < 0x80 := by
  change (c.isUpper || c.isLower || c.isDigit) = true at h
  simp only [Bool.or_eq_true, isUpper_iff, isLower_iff, Char.isDigit_iff_toNat,
    Char.reduceToNat] at h
  omega

/-- What holds of letters and digits is checked one by one. -/
theorem of_isAlphanum {p : Char → Prop}
    (h : ∀ n < 0x80, (Char.ofNat n).isAlphanum = true → p (Char.ofNat n))
    (hc : c.isAlphanum = true) : p c := by
  have hp := h c.toNat (ascii_of_isAlphanum hc)
  rw [Char.ofNat_toNat] at hp
  exact hp hc

theorem clusterClass_of_isAlphanum (h : c.isAlphanum = true) : ClusterClass.of c = .other :=
  of_isAlphanum (p := fun c => ClusterClass.of c = .other) (by decide +kernel) h

theorem lowerChar_of_isAlphanum (h : c.isAlphanum = true) : lowerChar c = [c.toLower] := by
  cases hupper : c.isUpper with
  | true =>
    exact of_isAlphanum (p := fun c => c.isUpper = true → lowerChar c = [c.toLower])
      (by decide +kernel) h hupper
  | false =>
    have hlower : c.toLower = c :=
      of_isAlphanum (p := fun c => c.isUpper = false → c.toLower = c) (by decide) h hupper
    rw [lowerChar_of_ascii (ascii_of_isAlphanum h) hupper, hlower]

theorem upperChar_of_isAlphanum (h : c.isAlphanum = true) : upperChar c = [c.toUpper] := by
  cases hlower : c.isLower with
  | true =>
    exact of_isAlphanum (p := fun c => c.isLower = true → upperChar c = [c.toUpper])
      (by decide +kernel) h hlower
  | false =>
    have hupper : c.toUpper = c :=
      of_isAlphanum (p := fun c => c.isLower = false → c.toUpper = c) (by decide) h hlower
    rw [upperChar_of_ascii (ascii_of_isAlphanum h) hlower, hupper]

theorem lowerAfter_of_isAlphanum (h : ∀ c ∈ cs, c.isAlphanum = true) (before : List Char) :
    lowerAfter before cs = cs.map Char.toLower := by
  induction cs generalizing before with
  | nil => rfl
  | cons c cs ih =>
    rw [List.forall_mem_cons] at h
    have hsigma : c ≠ 'Σ' := of_isAlphanum (p := fun c => c ≠ 'Σ') (by decide) h.1
    rw [lowerAfter, if_neg hsigma, lowerChar_of_isAlphanum h.1, ih h.2]
    rfl

theorem capitalize_of_isAlphanum (h : ∀ d ∈ c :: cs, d.isAlphanum = true) :
    capitalize (c :: cs) = c.toUpper :: cs.map Char.toLower := by
  rw [List.forall_mem_cons] at h
  rw [capitalize, upperChar_of_isAlphanum h.1, lowerAfter_of_isAlphanum h.2]
  rfl

/-- What a letter or digit is, as a cluster of its own. -/
def kindOf (c : Char) : ClusterKind :=
  if c.isDigit then .digit else if c.isUpper then .upper else .lower

theorem kindOf_ne_separator : kindOf c ≠ .separator := by
  unfold kindOf
  split
  · exact nofun
  · split <;> exact nofun

theorem kind_of_isAlphanum (h : c.isAlphanum = true) : ClusterKind.of [c] = kindOf c := by
  have hupper : [c].flatMap upperChar = [c.toUpper] := by
    rw [List.flatMap_singleton, upperChar_of_isAlphanum h]
  have hlower : lowerAfter [] [c] = [c.toLower] :=
    lowerAfter_of_isAlphanum (fun _ hd => List.mem_singleton.1 hd ▸ h) []
  rw [ClusterKind.of, hupper, hlower]
  exact of_isAlphanum (p := fun c =>
    (if [c] = ['_'] || [c] = ['-'] || [c] = [' '] then ClusterKind.separator
      else if [c].all Char.isDigit then .digit
      else if [c.toUpper] ≠ [c.toLower] && [c] = [c.toUpper] then .upper
      else if [c.toUpper] ≠ [c.toLower] && [c] = [c.toLower] then .lower
      else .other) = kindOf c) (by decide) h

theorem clustersFrom_of_ascii {before : Option ClusterContext} (hd : d.toNat < 0x80)
    (hcs : ∀ c ∈ cs, c.toNat < 0x80 ∧ ClusterClass.of c = .other) :
    clustersFrom (some (.next before d)) [d] cs = (d :: cs).map ([·]) := by
  induction cs generalizing before d with
  | nil => rfl
  | cons c cs ih =>
    rw [List.forall_mem_cons] at hcs
    have hnot : (ClusterContext.next before d).holds c = false :=
      ClusterContext.holds_next_ascii hd hcs.1.2
    simp only [clustersFrom, Option.any_some, hnot, Bool.false_eq_true, ↓reduceIte,
      List.isEmpty_cons, ih hcs.1.1 hcs.2, List.map_cons]

theorem clusters_of_ascii (h : ∀ c ∈ cs, c.toNat < 0x80 ∧ ClusterClass.of c = .other) :
    clusters cs = cs.map ([·]) := by
  cases cs with
  | nil => rfl
  | cons c cs =>
    rw [List.forall_mem_cons] at h
    exact clustersFrom_of_ascii h.1.1 h.2

theorem clusters_of_isAlphanum (h : ∀ c ∈ cs, c.isAlphanum = true) :
    clusters cs = cs.map ([·]) :=
  clusters_of_ascii fun c hc => ⟨ascii_of_isAlphanum (h c hc), clusterClass_of_isAlphanum (h c hc)⟩

/-- A letter with letters behind it, or a digit with digits. -/
structure IsRun (c : Char) (w : List Char) : Prop where
  head : c.isAlphanum = true
  tail : ∀ d ∈ w, d.isAlphanum = true ∧ d.isDigit = c.isDigit

namespace IsRun

theorem append (h : IsRun c w) (hd : d.isAlphanum = true) (hclass : d.isDigit = c.isDigit) :
    IsRun c (w ++ [d]) :=
  ⟨h.head, List.forall_mem_append.2 ⟨h.tail, List.forall_mem_singleton.2 ⟨hd, hclass⟩⟩⟩

theorem isAlphanum (h : IsRun c w) : ∀ d ∈ c :: w, d.isAlphanum = true :=
  List.forall_mem_cons.2 ⟨h.head, fun d hd => (h.tail d hd).1⟩

theorem capitalize_eq (h : IsRun c w) : capitalize (c :: w) = c.toUpper :: w.map Char.toLower :=
  capitalize_of_isAlphanum h.isAlphanum

theorem lowerAfter_eq (h : IsRun c w) :
    lowerAfter [] (c :: w) = c.toLower :: w.map Char.toLower :=
  lowerAfter_of_isAlphanum h.isAlphanum []

end IsRun

/-- The words of an identifier: letters, or digits that no digit follows. -/
inductive AreWords : List (List Char) → Prop
  | nil : AreWords []
  | cons {c : Char} {w : List Char} {ws : List (List Char)} (hrun : IsRun c w)
      (hnext : c.isDigit = true → ∀ d ∈ ws.flatten.head?, d.isDigit = false) (hws : AreWords ws) :
      AreWords ((c :: w) :: ws)

theorem beginsWord_kindOf (h : c.isDigit ≠ d.isDigit) (next : Option ClusterKind) :
    (kindOf d).beginsWord (kindOf c) next = true := by
  unfold kindOf
  cases hc : c.isDigit <;> cases hd : d.isDigit
  · exact absurd (hc.trans hd.symm) h
  · cases c.isUpper <;> rfl
  · cases d.isUpper <;> rfl
  · exact absurd (hc.trans hd.symm) h

theorem not_beginsWord_of_isDigit (hc : c.isDigit = true) (hd : d.isDigit = true)
    (next : Option ClusterKind) : (kindOf d).beginsWord (kindOf c) next = false := by
  unfold kindOf
  rw [hc, hd]
  rfl

/-- The word that is being read holds characters of one class, that of the last of them. -/
theorem areWords_wordsFrom {first last : Char} (hrun : IsRun first w)
    (hlast : last.isDigit = first.isDigit) (hcs : ∀ c ∈ cs, c.isAlphanum = true) :
    ∃ more ws, wordsFrom (kindOf last) (first :: w) (cs.map ([·])) = (first :: (w ++ more)) :: ws ∧
      AreWords ((first :: (w ++ more)) :: ws) := by
  induction cs generalizing first last w with
  | nil =>
    refine ⟨[], [], by rw [List.append_nil]; rfl, ?_⟩
    rw [List.append_nil]
    exact .cons hrun (fun _ _ hd => nomatch hd) .nil
  | cons c cs ih =>
    rw [List.forall_mem_cons] at hcs
    rw [List.map_cons, wordsFrom]
    simp only [kind_of_isAlphanum hcs.1, kindOf_ne_separator, ↓reduceIte]
    split
    · rename_i hbegins
      obtain ⟨more, ws, hfrom, hwords⟩ := ih ⟨hcs.1, List.forall_mem_nil _⟩ rfl hcs.2
      refine ⟨[], (c :: more) :: ws, by rw [hfrom, List.append_nil]; rfl, ?_⟩
      rw [List.append_nil]
      refine .cons hrun (fun hdigit d hd => ?_) hwords
      obtain rfl : c = d := Option.some.inj hd
      refine Bool.eq_false_iff.2 fun hc => ?_
      rw [not_beginsWord_of_isDigit hc (hlast.trans hdigit)] at hbegins
      cases hbegins
    · rename_i hgoes
      have hclass : c.isDigit = first.isDigit := by
        rw [← hlast]
        by_contra hne
        exact hgoes (beginsWord_kindOf hne _)
      obtain ⟨more, ws, hfrom, hwords⟩ := ih (hrun.append hcs.1 hclass) hclass hcs.2
      rw [List.append_assoc] at hfrom hwords
      exact ⟨[c] ++ more, ws, hfrom, hwords⟩

theorem wordsFrom_of_isAlphanum (h : ∀ d ∈ c :: cs, d.isAlphanum = true) :
    ∃ w ws, wordsFrom .separator [] ((c :: cs).map ([·])) = (c :: w) :: ws ∧
      AreWords ((c :: w) :: ws) := by
  rw [List.forall_mem_cons] at h
  rw [List.map_cons, wordsFrom]
  simp only [kind_of_isAlphanum h.1, kindOf_ne_separator, ↓reduceIte]
  exact areWords_wordsFrom ⟨h.1, List.forall_mem_nil _⟩ rfl h.2

theorem AreWords.filter_isEmpty (h : AreWords ws) : ws.filter (!·.isEmpty) = ws := by
  induction h with
  | nil => rfl
  | cons _ _ _ ih => exact congrArg (_ :: ·) ih

theorem words_of_isAlphanum (hs : s.toList = c :: cs) (h : ∀ d ∈ c :: cs, d.isAlphanum = true) :
    ∃ w ws, words s = (c :: w) :: ws ∧ AreWords ((c :: w) :: ws) := by
  obtain ⟨w, ws, hfrom, hwords⟩ := wordsFrom_of_isAlphanum h
  refine ⟨w, ws, ?_, hwords⟩
  rw [words, hs, clusters_of_isAlphanum h, hfrom, hwords.filter_isEmpty]

theorem words_of_minus (hs : s.toList = '-' :: c :: cs) (h : ∀ d ∈ c :: cs, d.isAlphanum = true) :
    ∃ w ws, words s = (c :: w) :: ws ∧ AreWords ((c :: w) :: ws) := by
  obtain ⟨w, ws, hfrom, hwords⟩ := wordsFrom_of_isAlphanum h
  have hclusters : clusters ('-' :: c :: cs) = [] ++ ['-'] :: (c :: cs).map ([·]) :=
    clusters_of_ascii (List.forall_mem_cons.2 ⟨by decide, fun d hd =>
      ⟨ascii_of_isAlphanum (h d hd), clusterClass_of_isAlphanum (h d hd)⟩⟩)
  have hsign : ClusterKind.of ['-'] = .separator := by decide +kernel
  refine ⟨w, ws, ?_, hwords⟩
  rw [words, hs, hclusters, wordsFrom_append_separator hsign, hfrom, List.filter_append,
    hwords.filter_isEmpty]
  rfl

/-- Whether a character goes on with the word in Pascal case that `first` begins. -/
def continuesWord (first c : Char) : Bool :=
  if first.isDigit then c.isDigit else c.isLower

theorem isDigit_toUpper (h : c.isAlphanum = true) : c.toUpper.isDigit = c.isDigit :=
  of_isAlphanum (p := fun c => c.toUpper.isDigit = c.isDigit) (by decide) h

theorem continuesWord_toLower (hc : c.isAlphanum = true) (hd : d.isAlphanum = true)
    (h : d.isDigit = c.isDigit) : continuesWord c.toUpper d.toLower = true := by
  rw [continuesWord, isDigit_toUpper hc, ← h]
  exact of_isAlphanum
    (p := fun d => (if d.isDigit then d.toLower.isDigit else d.toLower.isLower) = true)
    (by decide) hd

theorem continuesWord_toUpper (hc : c.isAlphanum = true) (hd : d.isAlphanum = true)
    (h : c.isDigit = true → d.isDigit = false) : continuesWord c.toUpper d.toUpper = false := by
  rw [continuesWord, isDigit_toUpper hc]
  split
  · rename_i hdigit
    rw [isDigit_toUpper hd, h hdigit]
  · exact of_isAlphanum (p := fun d => d.toUpper.isLower = false) (by decide) hd

theorem AreWords.head?_flatMap_capitalize (h : AreWords ws) {x : Char}
    (hx : x ∈ (ws.flatMap capitalize).head?) :
    ∃ c ∈ ws.flatten.head?, c.isAlphanum = true ∧ x = c.toUpper := by
  cases h with
  | nil => cases hx
  | cons hrun hnext hws =>
    rw [List.flatMap_cons, hrun.capitalize_eq] at hx
    exact ⟨_, rfl, hrun.head, (Option.some.inj hx).symm⟩

theorem takeWhile_append_of_head? {p : Char → Bool} {start rest : List Char}
    (hstart : ∀ c ∈ start, p c = true) (hrest : ∀ c ∈ rest.head?, p c = false) :
    (start ++ rest).takeWhile p = start := by
  have hnil : rest.takeWhile p = [] := by
    cases rest with
    | nil => rfl
    | cons c rest => exact List.takeWhile_cons_of_neg (Bool.eq_false_iff.1 (hrest c rfl))
  rw [List.takeWhile_append_of_pos hstart, hnil, List.append_nil]

/-- Behind its first character, a word in Pascal case goes as far as that one says. -/
theorem IsRun.takeWhile_continuesWord (h : IsRun c w)
    (hnext : c.isDigit = true → ∀ d ∈ ws.flatten.head?, d.isDigit = false) (hws : AreWords ws) :
    (w.map Char.toLower ++ ws.flatMap capitalize).takeWhile (continuesWord c.toUpper) =
      w.map Char.toLower := by
  refine takeWhile_append_of_head? (List.forall_mem_map.2 fun d hd => ?_) fun x hx => ?_
  · exact continuesWord_toLower h.head (h.tail d hd).1 (h.tail d hd).2
  · obtain ⟨d, hd, hdalnum, rfl⟩ := hws.head?_flatMap_capitalize hx
    exact continuesWord_toUpper h.head hdalnum fun hdigit => hnext hdigit d hd

theorem toUpper_eq_iff (hc : c.isAlphanum = true) (hd : d.isAlphanum = true) :
    c.toUpper = d.toUpper ↔ c.toLower = d.toLower := by
  have hlower : ∀ {c : Char}, c.isAlphanum = true → c.toUpper.toLower = c.toLower := fun hc =>
    of_isAlphanum (p := fun c => c.toUpper.toLower = c.toLower) (by decide) hc
  have hupper : ∀ {c : Char}, c.isAlphanum = true → c.toLower.toUpper = c.toUpper := fun hc =>
    of_isAlphanum (p := fun c => c.toLower.toUpper = c.toUpper) (by decide) hc
  constructor <;> intro h
  · rw [← hlower hc, ← hlower hd, h]
  · rw [← hupper hc, ← hupper hd, h]

/-- What Pascal case forgets of the words is the case of their letters. -/
theorem AreWords.flatMap_capitalize_inj (hws : AreWords ws) (hvs : AreWords vs) :
    ws.flatMap capitalize = vs.flatMap capitalize ↔
      ws.map (·.map Char.toLower) = vs.map (·.map Char.toLower) := by
  induction hws generalizing vs with
  | nil =>
    cases hvs with
    | nil => exact iff_of_true rfl rfl
    | cons hrun' _ _ =>
      rw [List.flatMap_cons, hrun'.capitalize_eq]
      exact iff_of_false nofun nofun
  | @cons c w ws hrun hnext hws ih =>
    cases hvs with
    | nil =>
      rw [List.flatMap_cons, hrun.capitalize_eq]
      exact iff_of_false nofun nofun
    | @cons d v vs hrun' hnext' hvs =>
      have hfirst := toUpper_eq_iff hrun.head hrun'.head
      rw [List.flatMap_cons, List.flatMap_cons, hrun.capitalize_eq, hrun'.capitalize_eq,
        List.cons_append, List.cons_append, List.cons.injEq, hfirst]
      simp only [List.map_cons, List.cons.injEq]
      constructor
      · rintro ⟨hcd, htext⟩
        have hword : w.map Char.toLower = v.map Char.toLower := by
          have htake := congrArg (List.takeWhile (continuesWord c.toUpper)) htext
          rw [hrun.takeWhile_continuesWord hnext hws, hfirst.2 hcd,
            hrun'.takeWhile_continuesWord hnext' hvs] at htake
          exact htake
        rw [hword, List.append_cancel_left_eq, ih hvs] at htext
        exact ⟨⟨hcd, hword⟩, htext⟩
      · rintro ⟨⟨hcd, hword⟩, hrest⟩
        exact ⟨hcd, by rw [hword, (ih hvs).2 hrest]⟩

theorem pascalCase_eq_iff (hs : AreWords (words s)) (ht : AreWords (words t)) :
    pascalCase s = pascalCase t ↔
      (words s).map (·.map Char.toLower) = (words t).map (·.map Char.toLower) := by
  rw [pascalCase, pascalCase, String.ofList_inj, hs.flatMap_capitalize_inj ht]

/-- The characters that words have in camel case. -/
def camelChars : List (List Char) → List Char
  | [] => []
  | w :: rest => lowerAfter [] w ++ rest.flatMap capitalize

theorem camelCase_eq_ofList (s : String) : camelCase s = .ofList (camelChars (words s)) := by
  rw [camelCase]
  cases words s <;> rfl

/-- The first letter aside, camel case is Pascal case. -/
theorem AreWords.camelChars_eq_iff (hws : AreWords ws) (hvs : AreWords vs) :
    camelChars ws = camelChars vs ↔ ws.flatMap capitalize = vs.flatMap capitalize := by
  cases hws with
  | nil =>
    cases hvs with
    | nil => exact iff_of_true rfl rfl
    | cons hrun' _ _ =>
      rw [camelChars, camelChars, hrun'.lowerAfter_eq, List.flatMap_cons, hrun'.capitalize_eq]
      exact iff_of_false nofun nofun
  | cons hrun _ _ =>
    cases hvs with
    | nil =>
      rw [camelChars, camelChars, hrun.lowerAfter_eq, List.flatMap_cons, hrun.capitalize_eq]
      exact iff_of_false nofun nofun
    | cons hrun' _ _ =>
      simp only [camelChars, List.flatMap_cons, hrun.lowerAfter_eq, hrun'.lowerAfter_eq,
        hrun.capitalize_eq, hrun'.capitalize_eq, List.cons_append, List.cons.injEq,
        toUpper_eq_iff hrun.head hrun'.head]

theorem camelCase_eq_iff (hs : AreWords (words s)) (ht : AreWords (words t)) :
    camelCase s = camelCase t ↔
      (words s).map (·.map Char.toLower) = (words t).map (·.map Char.toLower) := by
  rw [camelCase_eq_ofList, camelCase_eq_ofList, String.ofList_inj, hs.camelChars_eq_iff ht,
    hs.flatMap_capitalize_inj ht]

end RelSchema.Text
