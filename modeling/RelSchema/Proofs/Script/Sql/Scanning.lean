import Mathlib.Data.List.Forall2
import RelSchema.Proofs.Value.Display
import RelSchema.Script.Sql

namespace RelSchema.Script.Sql

/-- A cell as it is scanned: the text that stood in quotes, or what stood there bare. -/
inductive Cell
  | quoted (s : String)
  | bare (s : String)
  deriving DecidableEq

/-- Scans a quoted text behind its first quote. -/
def scanQuoted : List Char → Option (List Char × List Char)
  | '\'' :: '\'' :: rest => (scanQuoted rest).map fun (inside, rest) => ('\'' :: inside, rest)
  | '\'' :: rest => some ([], rest)
  | c :: rest => (scanQuoted rest).map fun (inside, rest) => (c :: inside, rest)
  | [] => none

def continuesCell (c : Char) : Bool :=
  c ≠ ',' && c ≠ ')'

def scanCell : List Char → Option (Cell × List Char)
  | '\'' :: rest => (scanQuoted rest).map fun (inside, rest) => (.quoted (.ofList inside), rest)
  | cs => some (.bare (.ofList (cs.takeWhile continuesCell)), cs.dropWhile continuesCell)

/-- Scans items up to a closing mark, with commas between them and blanks behind the commas. The
length is compared for the sake of the recursion only, since no scanner returns more than it got. -/
def scanItems {α : Type} (scan : List Char → Option (α × List Char)) (mark : Char)
    (cs : List Char) : Option (List α × List Char) :=
  match scan cs with
  | some (item, c :: rest) =>
    if c = mark then some ([item], rest)
    else if c = ',' ∧ rest.length < cs.length then
      (scanItems scan mark (rest.dropWhile Text.isBlank)).map fun (items, rest) =>
        (item :: items, rest)
    else none
  | _ => none
termination_by cs.length
decreasing_by
  rename_i h
  have := (List.dropWhile_sublist Text.isBlank (l := rest)).length_le
  omega

def scanTuple : List Char → Option (List Cell × List Char)
  | '(' :: ')' :: rest => some ([], rest)
  | '(' :: rest => scanItems scanCell ')' rest
  | _ => none

/-- Scans the tuples behind the word `values`, up to the end of the statement. -/
def scanValues (cs : List Char) : Option (List (List Cell) × List Char) :=
  scanItems scanTuple ';' (cs.dropWhile Text.isBlank)

/-- What a value is inserted as. -/
def Cell.ofValue : Value → Cell
  | .null => .bare "null"
  | .text s => if s = "" ∨ s = "n/a" then .bare "null" else .quoted s
  | v => .bare v.display

theorem scanQuoted_doubleQuotes (cs : List Char) {rest : List Char} (h : rest.head? ≠ some '\'') :
    scanQuoted (doubleQuotes cs ++ '\'' :: rest) = some (cs, rest) := by
  induction cs with
  | nil =>
    cases rest with
    | nil => rfl
    | cons c rest =>
      have hc : c ≠ '\'' := fun hc => h (congrArg some hc)
      simp [doubleQuotes, scanQuoted, hc]
  | cons c cs ih =>
    by_cases hc : c = '\''
    · subst hc
      simp [doubleQuotes, scanQuoted, ih]
    · simp [doubleQuotes, scanQuoted, hc, ih]

theorem eq_of_scanQuoted {cs inside rest : List Char} (h : scanQuoted cs = some (inside, rest)) :
    cs = doubleQuotes inside ++ '\'' :: rest := by
  fun_induction scanQuoted cs generalizing inside with
  | case1 after ih =>
    obtain ⟨⟨inside', rest'⟩, hscan, heq⟩ := Option.map_eq_some_iff.1 h
    cases heq
    simp [doubleQuotes, ih hscan]
  | case2 after =>
    cases h
    rfl
  | case3 c after _ hc ih =>
    obtain ⟨⟨inside', rest'⟩, hscan, heq⟩ := Option.map_eq_some_iff.1 h
    cases heq
    rw [ih hscan, doubleQuotes, if_neg hc]
    rfl
  | case4 => cases h

theorem length_le_length_doubleQuotes (cs : List Char) : cs.length ≤ (doubleQuotes cs).length := by
  induction cs with
  | nil => exact Nat.le_refl 0
  | cons c cs ih =>
    by_cases hc : c = '\''
    · simp only [doubleQuotes, hc, ↓reduceIte, List.length_cons]
      omega
    · simpa [doubleQuotes, hc] using ih

theorem doubleQuotes_eq_self_iff {cs : List Char} : doubleQuotes cs = cs ↔ '\'' ∉ cs := by
  induction cs with
  | nil => simp [doubleQuotes]
  | cons c cs ih =>
    by_cases hc : c = '\''
    · refine iff_of_false (fun h => ?_) (by simp [hc])
      have hlength := congrArg List.length h
      have hle := length_le_length_doubleQuotes cs
      simp only [doubleQuotes, hc, ↓reduceIte, List.length_cons] at hlength
      omega
    · have hne : '\'' ≠ c := Ne.symm hc
      simp [doubleQuotes, hc, hne, ih]

theorem scanQuoted_append_iff {cs rest : List Char} (h : rest.head? ≠ some '\'') :
    scanQuoted (cs ++ '\'' :: rest) = some (cs, rest) ↔ '\'' ∉ cs := by
  rw [← doubleQuotes_eq_self_iff]
  constructor
  · intro hscan
    exact (List.append_cancel_right (eq_of_scanQuoted hscan)).symm
  · intro hself
    have hscan := scanQuoted_doubleQuotes cs h
    rwa [hself] at hscan

variable {α : Type} {scan : List Char → Option (α × List Char)} {mark : Char}

/-- The scanner takes the whole text for the item if a comma or the mark follows. It begins with
neither a blank nor the mark. -/
structure Reads (scan : List Char → Option (α × List Char)) (mark : Char) (text : List Char)
    (item : α) : Prop where
  scan_append : ∀ c rest, c = ',' ∨ c = mark → scan (text ++ c :: rest) = some (item, c :: rest)
  head : ∃ c, text.head? = some c ∧ Text.isBlank c = false ∧ c ≠ mark

theorem dropWhile_blanks_append {blanks cs : List Char} {c : Char}
    (hblanks : blanks.all Text.isBlank = true) (hc : cs.head? = some c)
    (h : Text.isBlank c = false) : (blanks ++ cs).dropWhile Text.isBlank = cs := by
  rw [List.dropWhile_append_of_pos (List.all_eq_true.1 hblanks)]
  cases cs with
  | nil => rfl
  | cons d cs =>
    cases hc
    exact List.dropWhile_cons_of_neg (by rw [h]; decide)

theorem Reads.head_intercalate {text : List Char} {item : α} (h : Reads scan mark text item)
    (sep : List Char) (texts : List (List Char)) (rest : List Char) :
    ∃ c, (sep.intercalate (text :: texts) ++ rest).head? = some c ∧ Text.isBlank c = false ∧
      c ≠ mark := by
  obtain ⟨c, hc, hbegins⟩ := h.head
  refine ⟨c, ?_, hbegins⟩
  have hhead : ∀ after, (text ++ after).head? = some c := by
    intro after
    rw [List.head?_append, hc]
    rfl
  cases texts with
  | nil =>
    rw [List.intercalate_singleton]
    exact hhead _
  | cons next texts =>
    rw [List.intercalate_cons_cons, List.append_assoc, List.append_assoc]
    exact hhead _

theorem scanItems_intercalate (hmark : mark ≠ ',') {blanks : List Char}
    (hblanks : blanks.all Text.isBlank = true) {texts : List (List Char)} {items : List α}
    (h : List.Forall₂ (Reads scan mark) texts items) (hne : texts ≠ []) (rest : List Char) :
    scanItems scan mark ((',' :: blanks).intercalate texts ++ mark :: rest) =
      some (items, rest) := by
  induction h with
  | nil => exact absurd rfl hne
  | @cons text item texts items hread htail ih =>
    cases htail with
    | nil =>
      rw [List.intercalate_singleton, scanItems, hread.scan_append mark rest (.inr rfl)]
      exact if_pos rfl
    | @cons next _ texts _ hnext _ =>
      have hrest := ih (List.cons_ne_nil _ _)
      -- The next text begins with no blank, so the blanks behind the comma are all that is dropped.
      obtain ⟨c, hc, hblank, -⟩ := hnext.head_intercalate (',' :: blanks) texts (mark :: rest)
      rw [List.intercalate_cons_cons, List.append_assoc, List.append_assoc, List.cons_append,
        scanItems, hread.scan_append ',' _ (.inl rfl)]
      have hlength : ∀ after : List Char, after.length < (text ++ ',' :: after).length := by
        intro after
        rw [List.length_append, List.length_cons]
        omega
      simp only [Ne.symm hmark, ↓reduceIte, true_and, hlength,
        dropWhile_blanks_append hblanks hc hblank, hrest, Option.map_some]

theorem reads_quote {s : String} : Reads scanCell ')' (quote s).toList (.quoted s) where
  scan_append c rest hc := by
    have hhead : (c :: rest).head? ≠ some '\'' := by
      rcases hc with rfl | rfl <;> simp
    have htext : (quote s).toList ++ c :: rest =
        '\'' :: (doubleQuotes s.toList ++ '\'' :: c :: rest) := by
      simp [quote]
    simp only [htext, scanCell, scanQuoted_doubleQuotes _ hhead, Option.map_some,
      String.ofList_toList]
  head := ⟨'\'', by simp [quote], by decide, by decide⟩

theorem continuesCell_of_isPlainChar {c : Char} (h : isPlainChar c = true) :
    continuesCell c = true := by
  rw [continuesCell, Bool.and_eq_true, decide_eq_true_eq, decide_eq_true_eq]
  constructor <;> rintro rfl <;> revert h <;> decide

theorem scanCell_of_ne {c : Char} (hc : c ≠ '\'') (cs : List Char) :
    scanCell (c :: cs) = some (.bare (.ofList ((c :: cs).takeWhile continuesCell)),
      (c :: cs).dropWhile continuesCell) :=
  scanCell.eq_2 _ fun _ h => hc (List.cons.inj h).1

theorem reads_bare {s : String} (h : IsPlain s.toList) :
    Reads scanCell ')' s.toList (.bare s) := by
  obtain ⟨first, cs, hs⟩ := List.exists_cons_of_ne_nil h.ne_nil
  have hplain := List.all_eq_true.1 h.all
  have hfirst : isPlainChar first = true := hplain first (hs ▸ List.mem_cons_self)
  have hquote : first ≠ '\'' := by
    rintro rfl
    revert hfirst
    decide
  have hinside : ∀ c ∈ first :: cs, continuesCell c = true :=
    fun c hc => continuesCell_of_isPlainChar (hplain c (hs ▸ hc))
  constructor
  · intro c rest hc
    have hends : ¬ continuesCell c = true := by
      rcases hc with rfl | rfl <;> decide
    rw [hs, List.cons_append, scanCell_of_ne hquote, ← List.cons_append,
      List.takeWhile_append_of_pos hinside, List.dropWhile_append_of_pos hinside,
      List.takeWhile_cons_of_neg hends, List.dropWhile_cons_of_neg hends, List.append_nil, ← hs,
      String.ofList_toList]
  · refine ⟨first, by rw [hs]; rfl, isBlank_of_isPlainChar hfirst, ?_⟩
    rintro rfl
    revert hfirst
    decide

theorem reads_cell (v : Value) : Reads scanCell ')' (cell v).toList (.ofValue v) := by
  cases v with
  | text s =>
    by_cases hs : s = "" ∨ s = "n/a"
    · have hcell : cell (.text s) = "null" := by
        rcases hs with rfl | rfl <;> rfl
      rw [hcell, Cell.ofValue, if_pos hs]
      exact reads_bare ⟨by decide, by decide⟩
    · have hcell : cell (.text s) = quote s := by
        rw [not_or] at hs
        simp [cell, hs]
      rw [hcell, Cell.ofValue, if_neg hs]
      exact reads_quote
  | null => exact reads_bare (Value.isPlain_display rfl)
  | bool b => exact reads_bare (Value.isPlain_display (v := .bool b) rfl)
  | int n => exact reads_bare (Value.isPlain_display (v := .int n) rfl)
  | float x => exact reads_bare (Value.isPlain_display (v := .float x) rfl)

theorem scanTuple_of_head {c : Char} {cs : List Char} (h : cs.head? = some c) (hc : c ≠ ')') :
    scanTuple ('(' :: cs) = scanItems scanCell ')' cs := by
  refine scanTuple.eq_2 _ fun rest hrest => ?_
  rw [hrest] at h
  exact hc (Option.some.inj h).symm

/-- A tuple is scanned cell by cell, whatever the texts in it hold. -/
theorem reads_tuple (m : Model) (row : Row) :
    Reads scanTuple ';' (tuple m row).toList ((m.cleanRow row).map .ofValue) where
  scan_append c rest _ := by
    have htuple : (tuple m row).toList ++ c :: rest =
        '(' :: ([',', ' '].intercalate ((m.cleanRow row).map fun v => (cell v).toList) ++
          ')' :: c :: rest) := by
      simp [tuple, String.toList_intercalate, Function.comp_def]
    have hreads : List.Forall₂ (Reads scanCell ')')
        ((m.cleanRow row).map fun v => (cell v).toList) ((m.cleanRow row).map .ofValue) := by
      rw [List.forall₂_map_left_iff, List.forall₂_map_right_iff]
      exact List.forall₂_same.2 fun v _ => reads_cell v
    rw [htuple]
    cases hcells : m.cleanRow row with
    | nil => rfl
    | cons v values =>
      rw [hcells] at hreads
      have hblanks : [' '].all Text.isBlank = true := by decide
      have hscan := scanItems_intercalate (by decide) hblanks hreads (List.cons_ne_nil _ _)
        (c :: rest)
      obtain ⟨first, hfirst, -, hmark⟩ := (reads_cell v).head_intercalate [',', ' ']
        (values.map fun v => (cell v).toList) (')' :: c :: rest)
      exact (scanTuple_of_head hfirst hmark).trans hscan
  head := ⟨'(', by simp [tuple], by decide, by decide⟩

end RelSchema.Script.Sql
