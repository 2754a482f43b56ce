import RelSchema.Proofs.Output.Rendering
import RelSchema.Proofs.Text.Identifier
import RelSchema.Proofs.Value.Display

namespace RelSchema

open Text

namespace Value

/-- Numbers, and texts of ASCII letters and digits. Letters of other scripts are left out, where a
capital may stand for several letters or for none. -/
def IsNameKey : Value → Prop
  | .int _ => True
  | .text s => s ≠ "" ∧ s.toList.all Char.isAlphanum = true
  | _ => False

instance : DecidablePred IsNameKey
  | .null => inferInstanceAs (Decidable False)
  | .bool _ => inferInstanceAs (Decidable False)
  | .int _ => inferInstanceAs (Decidable True)
  | .float _ => inferInstanceAs (Decidable False)
  | .text s => inferInstanceAs (Decidable (s ≠ "" ∧ s.toList.all Char.isAlphanum = true))

def leadsWithLetter : Value → Bool
  | .text s => s.toList.head?.any Char.isAlpha
  | _ => false

/-- The words of a value's text, in lower case. -/
def words (key : Value) : List (List Char) :=
  (Text.words key.display).map (·.map Char.toLower)

theorem IsNameKey.words_eq {key : Value} (h : key.IsNameKey) :
    ∃ c w ws, Text.words key.display = (c :: w) :: ws ∧ AreWords ((c :: w) :: ws) ∧
      c.isAlphanum = true ∧ c.isAlpha = key.leadsWithLetter := by
  cases key with
  | null | bool | float => exact h.elim
  | int n =>
    obtain ⟨c, cs, htext, hdigits⟩ := exists_intDigits n.toInt
    have halnum : ∀ d ∈ c :: cs, d.isAlphanum = true := fun d hd => by
      rw [Char.isAlphanum, hdigits d hd, Bool.or_true]
    have hfirst : c.isAlphanum = true ∧ c.isAlpha = false :=
      ⟨halnum c List.mem_cons_self,
        of_isAlphanum (p := fun c => c.isDigit = true → c.isAlpha = false) (by decide)
          (halnum c List.mem_cons_self) (hdigits c List.mem_cons_self)⟩
    rcases htext with htext | htext
    · obtain ⟨w, ws, hwords, hare⟩ := words_of_isAlphanum htext halnum
      exact ⟨c, w, ws, hwords, hare, hfirst⟩
    · obtain ⟨w, ws, hwords, hare⟩ := words_of_minus htext halnum
      exact ⟨c, w, ws, hwords, hare, hfirst⟩
  | text s =>
    obtain ⟨hne, halnum⟩ := h
    obtain ⟨c, cs, htext⟩ := exists_toList_eq_cons hne
    rw [htext, List.all_eq_true] at halnum
    obtain ⟨w, ws, hwords, hare⟩ := words_of_isAlphanum htext halnum
    refine ⟨c, w, ws, hwords, hare, halnum c List.mem_cons_self, ?_⟩
    rw [leadsWithLetter, htext]
    rfl

end Value

namespace Script.Haskell

def isConstructor (name : String) : Bool :=
  name.toList.head?.any Char.isUpper

variable {key key' : Value}

theorem constructor_eq_iff (h : key.IsNameKey) (h' : key'.IsNameKey) :
    constructor key = constructor key' ↔ key.words = key'.words := by
  obtain ⟨c, w, ws, hwords, hare, -, -⟩ := h.words_eq
  obtain ⟨c', w', ws', hwords', hare', -, -⟩ := h'.words_eq
  exact pascalCase_eq_iff (hwords ▸ hare) (hwords' ▸ hare')

/-- The name of a constructor begins with a capital letter if there is a letter to write so. -/
theorem isConstructor_constructor (h : key.IsNameKey) :
    isConstructor (constructor key) = key.leadsWithLetter := by
  obtain ⟨c, w, ws, hwords, hare, halnum, hletter⟩ := h.words_eq
  have hupper : c.toUpper.isUpper = c.isAlpha :=
    of_isAlphanum (p := fun c => c.toUpper.isUpper = c.isAlpha) (by decide) halnum
  cases hare with
  | cons hrun hnext hws =>
    rw [isConstructor, constructor, pascalCase, hwords, List.flatMap_cons, hrun.capitalize_eq,
      String.toList_ofList, ← hletter, ← hupper]
    rfl

theorem text_of_render {o : Output} {s : Schema} {text : String} (hformat : o.format = .haskell)
    (h : o.render s = .ok text) :
    ∃ records, (s.models.map (·.retarget o.namespaceKind o.options)).mapM record = .ok records ∧
      text = header s ++ .join (s.enumerations.map enumeration) ++ .join records := by
  have hscript := Output.render_eq_ok (by rw [hformat]; decide) h
  rw [hformat] at hscript
  obtain ⟨records, hrecords, htext⟩ := bind_eq_ok_iff.1 (mapError_eq_ok_iff.1 hscript)
  exact ⟨records, hrecords, (Except.ok.inj htext).symm⟩

/-- The constructors of a data type are distinct and begin with capital letters if and only if the
keys do not differ in case only, and are texts that begin with a letter. -/
theorem constructors_distinct_iff {o : Output} {s : Schema} {text : String}
    (hformat : o.format = .haskell) (hrender : o.render s = .ok text) :
    ∃ records, text = header s ++ .join (s.enumerations.map enumeration) ++ records ∧
      ∀ e ∈ s.enumerations, (∀ key ∈ e.keys, key.IsNameKey) →
        ((e.keys.map constructor).Nodup ↔ (e.keys.map Value.words).Nodup) ∧
        ((∀ name ∈ e.keys.map constructor, isConstructor name = true) ↔
          ∀ key ∈ e.keys, key.leadsWithLetter = true) := by
  obtain ⟨records, _, htext⟩ := text_of_render hformat hrender
  refine ⟨.join records, htext, fun e _ hkeys => ⟨?_, ?_⟩⟩
  · rw [List.Nodup, List.Nodup, List.pairwise_map, List.pairwise_map]
    refine List.Pairwise.iff_of_mem fun {key key'} hkey hkey' => ?_
    rw [ne_eq, ne_eq, constructor_eq_iff (hkeys key hkey) (hkeys key' hkey')]
  · rw [List.forall_mem_map]
    exact forall₂_congr fun key hkey => by rw [isConstructor_constructor (hkeys key hkey)]

/-- Two enumerations, of ranks and of sizes. -/
def labels (ranks sizes : List Value) : Document where
  enums := [{ name := "rank", entries := ranks.map (·, .text "label") },
    { name := "size", entries := sizes.map (·, .text "label") }]

theorem constructors_distinct_iff_labels :
    ∃ s text records,
      (labels [.text "r1", .text "r2"] [.text "s", .text "L"]).toSchema {} "schema" = .ok s ∧
      Output.render { format := .haskell } s = .ok text ∧
      text = header s ++ .join (s.enumerations.map enumeration) ++ records ∧
      s.enumerations.length = 2 ∧ ∀ e ∈ s.enumerations, (e.keys.map constructor).Nodup ∧
        ∀ name ∈ e.keys.map constructor, isConstructor name = true := by
  obtain ⟨s, hs, htext, hlength, hkeys, hwords, hletters⟩ := exists_eq_ok_of_any
    (x := (labels [.text "r1", .text "r2"] [.text "s", .text "L"]).toSchema {} "schema")
    (p := fun s => fault? (Output.render { format := .haskell } s) = none ∧
      s.enumerations.length = 2 ∧ (∀ e ∈ s.enumerations, ∀ key ∈ e.keys, key.IsNameKey) ∧
      (∀ e ∈ s.enumerations, (e.keys.map Value.words).Nodup) ∧
      ∀ e ∈ s.enumerations, ∀ key ∈ e.keys, key.leadsWithLetter = true) (by decide +kernel)
  obtain ⟨text, htext⟩ := fault?_eq_none_iff.1 htext
  obtain ⟨records, hparts, hall⟩ := constructors_distinct_iff rfl htext
  refine ⟨s, text, records, hs, htext, hparts, hlength, fun e he => ?_⟩
  obtain ⟨hdistinct, hnames⟩ := hall e he (hkeys e he)
  exact ⟨hdistinct.2 (hwords e he), hnames.2 (hletters e he)⟩

/-- Numbers give names that are none, and a letter and its capital give one name. -/
theorem constructors_clash_labels :
    ∃ s text, (labels [.int 1, .int 2] [.text "s", .text "S"]).toSchema {} "schema" = .ok s ∧
      Output.render { format := .haskell } s = .ok text ∧
      text = header s ++ "\ndata Rank = 1 | 2 deriving (Show, Eq, Generic)\n" ++
        "\ndata Size = S | S deriving (Show, Eq, Generic)\n" ∧
      (∀ e ∈ s.enumerations, (∀ key ∈ e.keys, key.IsNameKey) ∧ (e.keys.map Value.display).Nodup) ∧
      (∃ e ∈ s.enumerations, ∃ name ∈ e.keys.map constructor, isConstructor name = false) ∧
      ∃ e ∈ s.enumerations, ¬ (e.keys.map constructor).Nodup := by
  obtain ⟨s, hs, hlines, hrest⟩ := exists_eq_ok_of_any
    (x := (labels [.int 1, .int 2] [.text "s", .text "S"]).toSchema {} "schema")
    (p := fun s =>
      (Output.render { format := .haskell } s).toOption.any (fun text => decide (text =
        header s ++ "\ndata Rank = 1 | 2 deriving (Show, Eq, Generic)\n" ++
          "\ndata Size = S | S deriving (Show, Eq, Generic)\n")) = true ∧
      (∀ e ∈ s.enumerations, (∀ key ∈ e.keys, key.IsNameKey) ∧
        (e.keys.map Value.display).Nodup) ∧
      (∃ e ∈ s.enumerations, ∃ name ∈ e.keys.map constructor, isConstructor name = false) ∧
      ∃ e ∈ s.enumerations, ¬ (e.keys.map constructor).Nodup) (by decide +kernel)
  obtain ⟨text, htext, hlines⟩ := exists_eq_ok_of_any hlines
  exact ⟨s, text, hs, htext, hlines, hrest⟩

end Script.Haskell

end RelSchema
