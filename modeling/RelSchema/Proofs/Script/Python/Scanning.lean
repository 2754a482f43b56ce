import RelSchema.Declaration.Python
import RelSchema.Text.Digits

namespace RelSchema.Python

/-- What a backslash makes of the characters behind it. -/
inductive Escape
  | lineEnd
  | char (code : Nat)
  | hex (digits : Nat)
  | octal
  | named
  deriving DecidableEq

namespace Escape

/-- The escape that a character begins. Before other characters a backslash stands for itself. -/
def ofChar? (c : Char) : Option Escape :=
  match c with
  | '\n' | '\r' => some .lineEnd
  | '\\' | '\'' | '"' => some (.char c.toNat)
  | 'a' => some (.char 7)
  | 'b' => some (.char 8)
  | 't' => some (.char 9)
  | 'n' => some (.char 10)
  | 'v' => some (.char 11)
  | 'f' => some (.char 12)
  | 'r' => some (.char 13)
  | 'x' => some (.hex 2)
  | 'u' => some (.hex 4)
  | 'U' => some (.hex 8)
  | 'N' => some .named
  | c => if (Text.digit? 8 c).isSome then some .octal else none

def continuesName (c : Char) : Bool :=
  c ≠ '}' && c ≠ '"' && c ≠ '\n' && c ≠ '\r'

/-- The character that a name between braces belongs to, and the length of the name with its
braces. -/
def scanName (names : String → Option Nat) : List Char → Option (Nat × Nat)
  | '{' :: rest =>
    let name := rest.takeWhile continuesName
    if (rest.drop name.length).head? = some '}' then
      (names (.ofList name)).map fun code => (code, name.length + 2)
    else none
  | _ => none

/-- The code points of an escape that begins with `c`, and how many characters behind the backslash
spell it. Halves of surrogate pairs are code points too. -/
def scan (names : String → Option Nat) (c : Char) (rest : List Char) :
    Escape → Option (List Nat × Nat)
  | .lineEnd => some ([], if c = '\r' ∧ rest.head? = some '\n' then 2 else 1)
  | .char code => some ([code], 1)
  | .hex n =>
    if n ≤ rest.length then
      ((Text.natural? 16 (rest.take n)).filter (· < 0x110000)).map fun code => ([code], n + 1)
    else none
  | .octal =>
    let digits := ((c :: rest).take 3).takeWhile fun c => (Text.digit? 8 c).isSome
    (Text.natural? 8 digits).map fun code => ([code], digits.length)
  | .named => (scanName names rest).map fun (code, n) => ([code], n + 1)

end Escape

/-- The code points of what stands behind a backslash, and how many characters it takes. -/
def scanEscape (names : String → Option Nat) : List Char → Option (List Nat × Nat)
  | [] => none
  | c :: rest =>
    match Escape.ofChar? c with
    | some escape => escape.scan names c rest
    | none => some (['\\'.toNat, c.toNat], 1)

def isLineEnd (c : Char) : Bool :=
  c = '\n' || c = '\r'

/-- Scans a literal behind its first quote. -/
def scanInside (names : String → Option Nat) : List Char → Option (List Nat × List Char)
  | [] => none
  | c :: rest =>
    if c = '"' then some ([], rest)
    else if isLineEnd c then none
    else if c = '\\' then
      match scanEscape names rest with
      | some (codes, n) =>
        (scanInside names (rest.drop n)).map fun (inside, rest) => (codes ++ inside, rest)
      | none => none
    else (scanInside names rest).map fun (inside, rest) => (c.toNat :: inside, rest)
termination_by cs => cs.length
decreasing_by
  all_goals
    simp only [List.length_cons, List.length_drop]
    omega

/-- Scans a literal between double quotes. It gives the code points of the literal and what is left
over; `names` tells which characters have names. -/
def scanString (names : String → Option Nat) : List Char → Option (List Nat × List Char)
  | '"' :: rest => scanInside names rest
  | _ => none

/-- Between quotes the characters stand for themselves: none of them ends the literal or the line,
and behind each backslash comes one that begins no escape. -/
def isVerbatim : List Char → Bool
  | [] => true
  | c :: rest =>
    c ≠ '"' && !isLineEnd c && (c ≠ '\\' || rest.head?.any fun d => (Escape.ofChar? d).isNone) &&
      isVerbatim rest

def IsVerbatim (s : String) : Prop :=
  isVerbatim s.toList = true

instance (s : String) : Decidable (IsVerbatim s) :=
  inferInstanceAs (Decidable (_ = true))

variable {names : String → Option Nat}

theorem Escape.length_of_scanName {cs : List Char} {code n : Nat}
    (h : scanName names cs = some (code, n)) : n ≤ cs.length := by
  unfold scanName at h
  split at h
  · rename_i rest
    obtain ⟨hbrace, h⟩ := Option.ite_none_right_eq_some.1 h
    obtain ⟨_, _, heq⟩ := Option.map_eq_some_iff.1 h
    cases heq
    rw [List.head?_drop] at hbrace
    have hlength := (List.getElem?_eq_some_iff.1 hbrace).1
    rw [List.length_cons]
    omega
  · cases h

/-- An escape takes up more characters than it stands for, the backslash counted. -/
theorem Escape.length_of_scan {escape : Escape} {c : Char} {rest : List Char} {codes : List Nat}
    {n : Nat} (h : escape.scan names c rest = some (codes, n)) :
    codes.length ≤ n ∧ n ≤ (c :: rest).length := by
  cases escape with
  | lineEnd =>
    cases h
    split
    · rename_i hline
      cases rest with
      | nil => cases hline.2
      | cons d rest => simp
    · simp
  | char code =>
    cases h
    simp
  | hex width =>
    obtain ⟨hlength, h⟩ := Option.ite_none_right_eq_some.1 h
    obtain ⟨code, _, heq⟩ := Option.map_eq_some_iff.1 h
    cases heq
    simpa
  | octal =>
    obtain ⟨code, hdigits, heq⟩ := Option.map_eq_some_iff.1 h
    cases heq
    have hne : ((c :: rest).take 3).takeWhile (fun c => (Text.digit? 8 c).isSome) ≠ [] := by
      intro hnil
      rw [hnil] at hdigits
      cases hdigits
    have htaken := (List.takeWhile_sublist (fun c => (Text.digit? 8 c).isSome)
      (l := (c :: rest).take 3)).length_le
    have hall := (List.take_sublist 3 (c :: rest)).length_le
    exact ⟨List.length_pos_iff.2 hne, Nat.le_trans htaken hall⟩
  | named =>
    obtain ⟨⟨code, length⟩, hname, heq⟩ := Option.map_eq_some_iff.1 h
    cases heq
    exact ⟨Nat.succ_pos _, Nat.succ_le_succ (length_of_scanName hname)⟩

theorem length_of_scanEscape {cs : List Char} {codes : List Nat} {n : Nat}
    (h : scanEscape names cs = some (codes, n)) :
    (∃ c rest, cs = c :: rest ∧ Escape.ofChar? c = none ∧ n = 1 ∧ codes.length = 2) ∨
      (codes.length ≤ n ∧ n ≤ cs.length) := by
  cases cs with
  | nil => cases h
  | cons c rest =>
    rw [scanEscape] at h
    cases hescape : Escape.ofChar? c with
    | some escape =>
      rw [hescape] at h
      exact .inr (Escape.length_of_scan h)
    | none =>
      rw [hescape] at h
      cases h
      exact .inl ⟨c, rest, rfl, hescape, rfl, rfl⟩

theorem plain_of_ofChar? {c : Char} (h : Escape.ofChar? c = none) :
    c ≠ '"' ∧ isLineEnd c = false ∧ c ≠ '\\' := by
  refine ⟨?_, ?_, ?_⟩
  · rintro rfl
    cases h
  · rw [isLineEnd, Bool.or_eq_false_iff, decide_eq_false_iff_not, decide_eq_false_iff_not]
    constructor <;> rintro rfl <;> cases h
  · rintro rfl
    cases h

theorem isVerbatim_cons_iff {c : Char} {cs : List Char} :
    isVerbatim (c :: cs) = true ↔
      c ≠ '"' ∧ isLineEnd c = false ∧
        (c = '\\' → ∃ d, cs.head? = some d ∧ Escape.ofChar? d = none) ∧ isVerbatim cs = true := by
  simp only [isVerbatim, Bool.and_eq_true, Bool.not_eq_true', decide_eq_true_eq, Bool.or_eq_true,
    Option.any_eq_true, Option.isNone_iff_eq_none, Decidable.imp_iff_not_or,
    and_assoc, ne_eq]

theorem isVerbatim_escaped {c : Char} {cs : List Char} (hc : Escape.ofChar? c = none)
    (hcs : isVerbatim cs = true) : isVerbatim ('\\' :: c :: cs) = true := by
  obtain ⟨hquote, hline, hbackslash⟩ := plain_of_ofChar? hc
  refine isVerbatim_cons_iff.2 ⟨by decide, by decide, fun _ => ⟨c, rfl, hc⟩, ?_⟩
  exact isVerbatim_cons_iff.2 ⟨hquote, hline, fun h => absurd h hbackslash, hcs⟩

theorem scanInside_cons {c : Char} {cs : List Char} (hquote : c ≠ '"') (hline : isLineEnd c = false)
    (hescape : c = '\\' → ∃ d, cs.head? = some d ∧ Escape.ofChar? d = none) :
    scanInside names (c :: cs) =
      (scanInside names cs).map fun (inside, rest) => (c.toNat :: inside, rest) := by
  rw [scanInside, if_neg hquote, if_neg (by rw [hline]; decide)]
  split
  · rename_i hc
    obtain ⟨d, hd, hplain⟩ := hescape hc
    obtain ⟨hquote, hline, hbackslash⟩ := plain_of_ofChar? hplain
    cases cs with
    | nil => cases hd
    | cons e cs =>
      cases hd
      rw [scanInside, if_neg hquote, if_neg (by rw [hline]; decide), if_neg hbackslash, hc,
        scanEscape, hplain]
      simp [Option.map_map, Function.comp_def]
  · rfl

theorem scanInside_of_isVerbatim {cs : List Char} (h : isVerbatim cs = true) (rest : List Char) :
    scanInside names (cs ++ '"' :: rest) = some (cs.map Char.toNat, rest) := by
  induction cs with
  | nil => simp [scanInside]
  | cons c cs ih =>
    obtain ⟨hquote, hline, hescape, hcs⟩ := isVerbatim_cons_iff.1 h
    rw [List.cons_append, scanInside_cons hquote hline, ih hcs]
    · rfl
    · intro hc
      obtain ⟨d, hd, hplain⟩ := hescape hc
      refine ⟨d, ?_, hplain⟩
      rw [List.head?_append, hd]
      rfl

/-- What is scanned to the end has at least as many characters as code points, and if it has no
more, all of them stand for themselves. -/
theorem exists_of_scanInside {cs rest : List Char} {inside : List Nat}
    (h : scanInside names cs = some (inside, rest)) :
    ∃ consumed, cs = consumed ++ '"' :: rest ∧ inside.length ≤ consumed.length ∧
      (consumed.length ≤ inside.length → isVerbatim consumed = true) := by
  fun_induction scanInside names cs generalizing inside with
  | case1 => cases h
  | case2 after =>
    cases h
    exact ⟨[], rfl, Nat.le_refl _, fun _ => rfl⟩
  | case3 => cases h
  | case4 after codes n hcodes _ _ ih =>
    obtain ⟨⟨inside', rest'⟩, hscan, heq⟩ := Option.map_eq_some_iff.1 h
    cases heq
    obtain ⟨consumed, hdrop, hlength, hverbatim⟩ := ih hscan
    refine ⟨'\\' :: (after.take n ++ consumed), ?_, ?_⟩
    · rw [List.cons_append, List.append_assoc, ← hdrop, List.take_append_drop]
    · simp only [List.length_cons, List.length_append, List.length_take]
      rcases length_of_scanEscape hcodes with ⟨c, later, rfl, hplain, rfl, htwo⟩ | ⟨hle, hn⟩
      · rw [htwo, List.length_cons]
        refine ⟨by omega, fun hle => ?_⟩
        exact isVerbatim_escaped hplain (hverbatim (by omega))
      · exact ⟨by omega, fun h => by omega⟩
  | case5 => cases h
  | case6 c after hquote hline hbackslash ih =>
    obtain ⟨⟨inside', rest'⟩, hscan, heq⟩ := Option.map_eq_some_iff.1 h
    cases heq
    obtain ⟨consumed, rfl, hlength, hverbatim⟩ := ih hscan
    refine ⟨c :: consumed, rfl, Nat.succ_le_succ hlength, fun hle => ?_⟩
    exact isVerbatim_cons_iff.2 ⟨hquote, eq_false_of_ne_true hline, fun h => absurd h hbackslash,
      hverbatim (Nat.le_of_succ_le_succ hle)⟩

/-- A text between quotes is scanned as itself, with nothing of what follows, exactly if it is
verbatim. -/
theorem scanString_quote_iff (s : String) (rest : List Char) :
    scanString names ((quote s).toList ++ rest) = some (s.toList.map Char.toNat, rest) ↔
      IsVerbatim s := by
  have htext : (quote s).toList ++ rest = '"' :: (s.toList ++ '"' :: rest) := by
    simp [quote]
  rw [htext, scanString, IsVerbatim]
  constructor
  · intro h
    obtain ⟨consumed, hconsumed, _, hverbatim⟩ := exists_of_scanInside h
    cases List.append_cancel_right hconsumed
    exact hverbatim (Nat.le_of_eq (List.length_map Char.toNat).symm)
  · exact fun h => scanInside_of_isVerbatim h rest

example : scanString (fun _ => none) (quote "\\x41\\tB\\d").toList =
    some ("A\tB\\d".toList.map Char.toNat, []) := by
  decide +kernel

end RelSchema.Python
