import RelSchema.Declaration.Python

namespace RelSchema.Python

/-- A literal stands for its own text. -/
inductive Expr
  | name (id : String)
  | literal (text : String)
  | keyword (key : String) (value : Expr)
  | call (function : String) (arguments : List Expr)

namespace Expr

mutual

def text : Expr → String
  | .name id => id
  | .literal text => text
  | .keyword key value => key ++ "=" ++ value.text
  | .call function args => function ++ "(" ++ Python.arguments (texts args) ++ ")"

def texts : List Expr → List String
  | [] => []
  | e :: rest => e.text :: texts rest

end

mutual

/-- The names that have to be defined where the expression stands. -/
def names : Expr → List String
  | .name id => [id]
  | .literal _ => []
  | .keyword _ value => value.names
  | .call function args => function :: namesOfList args

def namesOfList : List Expr → List String
  | [] => []
  | e :: rest => e.names ++ namesOfList rest

end

theorem texts_eq_map (es : List Expr) : texts es = es.map text := by
  induction es with
  | nil => rfl
  | cons e es ih => rw [texts, ih, List.map_cons]

theorem namesOfList_eq_flatMap (es : List Expr) : namesOfList es = es.flatMap names := by
  induction es with
  | nil => rfl
  | cons e es ih => rw [namesOfList, ih, List.flatMap_cons]

theorem text_call (function : String) (args : List Expr) :
    (call function args).text = function ++ "(" ++ arguments (args.map text) ++ ")" := by
  rw [text, texts_eq_map]

theorem text_call_singleton (function : String) (arg : Expr) :
    (call function [arg]).text = function ++ "(" ++ arg.text ++ ")" := by
  rw [text_call, List.map_singleton, arguments, String.intercalate_singleton]

theorem names_call (function : String) (args : List Expr) :
    (call function args).names = function :: args.flatMap names := by
  rw [names, namesOfList_eq_flatMap]

def bool (b : Bool) : Expr :=
  .literal (boolName b)

theorem bool_inj {b c : Bool} : bool b = bool c ↔ b = c := by
  cases b <;> cases c <;> simp [bool, boolName]

def string (s : String) : Expr :=
  .literal (quote s)

theorem string_inj {s t : String} : string s = string t ↔ s = t := by
  simp [string, quote]

/-- A keyword that is left out if it has no value. -/
def keywordOfOption (key : String) : Option String → List Expr
  | some value => [.keyword key (.string value)]
  | none => []

def keywordUnlessEmpty (key value : String) : List Expr :=
  if value.isEmpty then [] else [.keyword key (.string value)]

theorem map_text_keywordOfOption (key : String) (value : Option String) :
    (keywordOfOption key value).map text =
      match value with
      | some value => [key ++ "=" ++ quote value]
      | none => [] := by
  cases value <;> rfl

theorem map_text_keywordUnlessEmpty (key value : String) :
    (keywordUnlessEmpty key value).map text =
      if value.isEmpty then [] else [key ++ "=" ++ quote value] := by
  unfold keywordUnlessEmpty
  split <;> rfl

def args : Expr → List Expr
  | .call _ args => args
  | _ => []

theorem keyword_mem_keywordOfOption {k key : String} {v : Expr} {value : Option String} :
    .keyword k v ∈ keywordOfOption key value ↔ k = key ∧ ∃ s, value = some s ∧ v = .string s := by
  cases value <;> simp [keywordOfOption]

theorem keyword_mem_keywordUnlessEmpty {k key value : String} {v : Expr} :
    .keyword k v ∈ keywordUnlessEmpty key value ↔
      value.isEmpty = false ∧ k = key ∧ v = .string value := by
  unfold keywordUnlessEmpty
  split <;> simp_all

end Expr

structure Assignment where
  target : String
  value : Expr

def Assignment.text (a : Assignment) : String :=
  a.target ++ " = " ++ a.value.text

theorem arguments_cons {arg : String} {args : List String} (h : args ≠ []) :
    arguments (arg :: args) = arg ++ ", " ++ arguments args :=
  String.intercalate_cons_of_ne_nil h

end RelSchema.Python
