import Mathlib.Data.List.Forall2
import RelSchema.Text.Casing

namespace RelSchema.Text

theorem isLower_iff {c : Char} : c.isLower = true ↔ 0x61 ≤ c.toNat ∧ c.toNat ≤ 0x7A := by
  change (decide ('a'.val ≤ c.val) && decide (c.val ≤ 'z'.val)) = true ↔ _
  rw [Bool.and_eq_true, decide_eq_true_eq, decide_eq_true_eq, UInt32.le_iff_toNat_le,
    UInt32.le_iff_toNat_le]
  rfl

theorem isUpper_iff {c : Char} : c.isUpper = true ↔ 0x41 ≤ c.toNat ∧ c.toNat ≤ 0x5A := by
  change decide ('A'.val ≤ c.val ∧ c.val ≤ 'Z'.val) = true ↔ _
  rw [decide_eq_true_eq, UInt32.le_iff_toNat_le, UInt32.le_iff_toNat_le]
  rfl

theorem isLower_ofNat {n : Nat} (h : n < 0x61 ∨ 0x7A < n) : (Char.ofNat n).isLower = false := by
  rw [← Bool.not_eq_true, isLower_iff]
  by_cases hn : n.isValidChar
  · have hvalue : (Char.ofNat n).toNat = n := by
      rw [Char.ofNat, dif_pos hn]
      rfl
    omega
  · have hvalue : (Char.ofNat n).toNat = 0 := by simp [Char.ofNat, hn]
    omega

/-- The first run holds the small letters, and no run has one among its images. -/
theorem image_upperRuns (n : Nat) : upperRuns.image n < 0x61 ∨ 0x7A < upperRuns.image n := by
  have himages : ∀ run ∈ upperRuns,
      run.2.2.2 + (run.2.1 - run.1) < 0x61 ∨ 0x7A < run.2.2.2 := by decide +kernel
  have hfirst : (0x61, 0x7A, 1, 0x41) ∈ upperRuns := by decide
  simp only [CaseRuns.image]
  split
  · rename_i first last step image hrun
    have hmem : image + (last - first) < 0x61 ∨ 0x7A < image :=
      himages _ (List.mem_of_find?_eq_some hrun)
    have hholds := List.find?_some hrun
    simp only [Bool.and_eq_true, decide_eq_true_eq] at hholds
    omega
  · rename_i hnone
    have hnot := List.find?_eq_none.1 hnone _ hfirst
    simp only [Nat.mod_one, beq_self_eq_true, Bool.and_true, Bool.and_eq_true,
      decide_eq_true_eq] at hnot
    omega

theorem isLower_of_mem_upperChar {c d : Char} (h : d ∈ upperChar c) : d.isLower = false := by
  have hexpansions : ∀ expansion ∈ upperExpansions, ∀ n ∈ expansion.2, n < 0x61 ∨ 0x7A < n := by
    decide +kernel
  unfold upperChar at h
  split at h
  · rename_i image hlookup
    obtain ⟨n, hn, rfl⟩ := List.mem_map.1 h
    obtain ⟨before, after, hsplit, _⟩ := List.lookup_eq_some_iff.1 hlookup
    have hmem : (c.toNat, image) ∈ upperExpansions := by
      rw [hsplit]
      exact List.mem_append_right _ List.mem_cons_self
    exact isLower_ofNat (hexpansions _ hmem n hn)
  · rw [List.mem_singleton.1 h]
    exact isLower_ofNat (image_upperRuns _)

theorem isLower_of_mem_upper {s : String} {c : Char} (h : c ∈ (upper s).toList) :
    c.isLower = false := by
  rw [upper, String.toList_ofList] at h
  obtain ⟨d, _, hc⟩ := List.mem_flatMap.1 h
  exact isLower_of_mem_upperChar hc

theorem ne_upper {s t : String} (h : t.toList.any Char.isLower = true) : t ≠ upper s := by
  rintro rfl
  obtain ⟨c, hc, hlower⟩ := List.any_eq_true.1 h
  rw [isLower_of_mem_upper hc] at hlower
  cases hlower

theorem CaseRuns.image_of_ascii {runs : CaseRuns} {first last image n : Nat}
    (hruns : ∀ run ∈ runs, run = (first, last, 1, image) ∨ 0x80 ≤ run.1) (hascii : n < 0x80)
    (h : ¬ (first ≤ n ∧ n ≤ last)) : runs.image n = n := by
  simp only [CaseRuns.image]
  split
  · rename_i first' last' step image' hrun
    have hholds := List.find?_some hrun
    simp only [Bool.and_eq_true, decide_eq_true_eq] at hholds
    rcases hruns _ (List.mem_of_find?_eq_some hrun) with heq | hfirst
    · cases heq
      omega
    · have hfirst : 0x80 ≤ first' := hfirst
      omega
  · rfl

theorem image_lowerRuns {n : Nat} (hascii : n < 0x80) (h : ¬ (0x41 ≤ n ∧ n ≤ 0x5A)) :
    lowerRuns.image n = n := by
  have hruns : ∀ run ∈ lowerRuns, run = (0x41, 0x5A, 1, 0x61) ∨ 0x80 ≤ run.1 := by decide +kernel
  exact CaseRuns.image_of_ascii hruns hascii h

theorem image_upperRuns_of_ascii {n : Nat} (hascii : n < 0x80) (h : ¬ (0x61 ≤ n ∧ n ≤ 0x7A)) :
    upperRuns.image n = n := by
  have hruns : ∀ run ∈ upperRuns, run = (0x61, 0x7A, 1, 0x41) ∨ 0x80 ≤ run.1 := by decide +kernel
  exact CaseRuns.image_of_ascii hruns hascii h

theorem lowerChar_of_ascii {c : Char} (hascii : c.toNat < 0x80) (h : c.isUpper = false) :
    lowerChar c = [c] := by
  have hlookup : lowerExpansions.lookup c.toNat = none := by
    have hne : (c.toNat == 0x130) = false := beq_false_of_ne (by omega)
    rw [lowerExpansions, List.lookup_cons, hne]
    rfl
  have himage : lowerRuns.image c.toNat = c.toNat := by
    refine image_lowerRuns hascii fun hcapital => ?_
    rw [isUpper_iff.2 hcapital] at h
    cases h
  rw [lowerChar, hlookup]
  simp only [himage, Char.ofNat_toNat]

theorem upperChar_of_ascii {c : Char} (hascii : c.toNat < 0x80) (h : c.isLower = false) :
    upperChar c = [c] := by
  have hexpansions : ∀ expansion ∈ upperExpansions, 0x80 ≤ expansion.1 := by decide +kernel
  have hlookup : upperExpansions.lookup c.toNat = none := by
    rw [List.lookup_eq_none_iff]
    intro expansion hmem
    have hle := hexpansions expansion hmem
    exact bne_iff_ne.2 (by omega)
  have himage : upperRuns.image c.toNat = c.toNat := by
    refine image_upperRuns_of_ascii hascii fun hsmall => ?_
    rw [isLower_iff.2 hsmall] at h
    cases h
  rw [upperChar, hlookup]
  simp only [himage, Char.ofNat_toNat]

/-- Only a capital I with a dot becomes two characters, of which the second is the dot. -/
theorem lowerChar_eq_singleton {c : Char} (h : '\u0307' ∉ lowerChar c) :
    ∃ x, lowerChar c = [x] := by
  unfold lowerChar at *
  split at h
  · rename_i image hlookup
    have himage : image = [0x69, 0x307] := by
      rw [lowerExpansions, List.lookup_cons] at hlookup
      split at hlookup
      · exact (Option.some.inj hlookup).symm
      · cases hlookup
    subst himage
    exact absurd h (by decide)
  · exact ⟨_, rfl⟩

/-- `x` can stand for `c` in lower case: an ASCII character that is no capital stays as it is. -/
def LowersTo (c x : Char) : Prop :=
  c.toNat < 0x80 → c.isUpper = false → x = c

theorem LowersTo.ne {c x d : Char} (h : LowersTo c x) (hx : x ≠ d) (hascii : d.toNat < 0x80)
    (hupper : d.isUpper = false) : c ≠ d := by
  rintro rfl
  exact hx (h hascii hupper)

theorem notMem_of_forall₂_lowersTo {cs xs : List Char} {d : Char}
    (h : List.Forall₂ LowersTo cs xs) (hd : d ∉ xs) (hascii : d.toNat < 0x80)
    (hupper : d.isUpper = false) : d ∉ cs := by
  induction h with
  | nil => exact List.not_mem_nil
  | cons hc _ ih =>
    rw [List.mem_cons, not_or] at hd ⊢
    exact ⟨(hc.ne (Ne.symm hd.1) hascii hupper).symm, ih hd.2⟩

theorem forall₂_lowerAfter {before cs : List Char} (h : '\u0307' ∉ lowerAfter before cs) :
    List.Forall₂ LowersTo cs (lowerAfter before cs) := by
  induction cs generalizing before with
  | nil => exact .nil
  | cons c cs ih =>
    rw [lowerAfter, List.mem_append, not_or] at h
    have hrest := ih h.2
    by_cases hsigma : c = 'Σ'
    · rw [lowerAfter, if_pos hsigma]
      refine .cons (fun hascii _ => ?_) hrest
      subst hsigma
      exact absurd hascii (by decide)
    · rw [if_neg hsigma] at h
      obtain ⟨x, hx⟩ := lowerChar_eq_singleton h.1
      rw [lowerAfter, if_neg hsigma, hx]
      refine .cons (fun hascii hupper => ?_) hrest
      exact List.singleton_inj.1 (hx.symm.trans (lowerChar_of_ascii hascii hupper))

theorem forall₂_lower {s : String} (h : '\u0307' ∉ (lower s).toList) :
    List.Forall₂ LowersTo s.toList (lower s).toList := by
  rw [lower, String.toList_ofList] at *
  exact forall₂_lowerAfter h

theorem eq_of_forall₂_lowersTo {cs xs : List Char} (h : List.Forall₂ LowersTo cs xs)
    (hcs : ∀ c ∈ cs, c.toNat < 0x80 ∧ c.isUpper = false) : xs = cs := by
  induction h with
  | nil => rfl
  | cons hc _ ih =>
    rw [List.forall_mem_cons] at hcs
    rw [hc hcs.1.1 hcs.1.2, ih hcs.2]

end RelSchema.Text
