import RelSchema.Namespace
import RelSchema.Proofs.Text.Split

namespace RelSchema

theorem Path.joinAll_concat (base : String) (parts : List String) (part : String) :
    joinAll base (parts ++ [part]) = join (joinAll base parts) part :=
  List.foldl_append

namespace DottedName

variable (n : DottedName)

theorem intercalate_parts : ".".intercalate n.parts = n.text :=
  Text.intercalate_split n.text

theorem parts_ne_nil : n.parts ≠ [] :=
  Text.split_ne_nil n.text

theorem dropLast_parts_concat : n.parts.dropLast ++ [n.leaf] = n.parts := by
  rw [leaf, List.getLast?_eq_some_getLast n.parts_ne_nil, Option.getD_some]
  exact List.dropLast_concat_getLast _

theorem length_parts_eq_one_iff : n.parts.length = 1 ↔ '.' ∉ n.text.toList := by
  rw [parts, Text.length_split, Nat.add_eq_right, List.count_eq_zero]

variable {n}

theorem dropLast_parts_ne_nil (h : 2 ≤ n.parts.length) : n.parts.dropLast ≠ [] := by
  rw [← List.length_pos_iff, List.length_dropLast]
  omega

theorem dropLast_parts_eq_nil (h : n.parts.length = 1) : n.parts.dropLast = [] := by
  rw [← List.length_eq_zero_iff, List.length_dropLast, h]

theorem text_eq_leaf (h : n.parts.length = 1) : n.text = n.leaf := by
  rw [← intercalate_parts, ← dropLast_parts_concat, dropLast_parts_eq_nil h]
  exact String.intercalate_singleton

theorem text_eq_parent_append (h : 2 ≤ n.parts.length) : n.text = n.parent ++ "." ++ n.leaf := by
  rw [← intercalate_parts, ← dropLast_parts_concat,
    String.intercalate_append_of_ne_nil (dropLast_parts_ne_nil h) (List.cons_ne_nil _ _),
    String.intercalate_singleton]
  rfl

variable (n) in
theorem text_eq_ite :
    n.text = if '.' ∈ n.text.toList then n.parent ++ "." ++ n.leaf else n.leaf := by
  split
  · rename_i hdot
    have hparts := n.parts_ne_nil
    rw [← List.length_pos_iff] at hparts
    have hne := mt n.length_parts_eq_one_iff.1 (not_not_intro hdot)
    exact text_eq_parent_append (by omega)
  · rename_i hdot
    exact text_eq_leaf (n.length_parts_eq_one_iff.2 hdot)

theorem parts_parent (h : 2 ≤ n.parts.length) : (mk n.parent).parts = n.parts.dropLast :=
  Text.split_intercalate (dropLast_parts_ne_nil h) fun _ hpart =>
    Text.notMem_of_mem_split ((List.dropLast_sublist _).mem hpart)

theorem inner_eq_nil (h : n.parts.length = 1) : n.inner = [] :=
  List.drop_eq_nil_of_le (Nat.le_of_eq h)

theorem between_eq_nil (h : n.parts.length ≤ 2) : n.between = [] := by
  apply List.drop_eq_nil_of_le
  rw [List.length_dropLast]
  omega

theorem between_ne_nil (h : 3 ≤ n.parts.length) : n.between ≠ [] := by
  rw [← List.length_pos_iff, between, List.length_drop, List.length_dropLast]
  omega

theorem between_concat (h : 2 ≤ n.parts.length) : n.between ++ [n.leaf] = n.inner := by
  have hlength : 1 ≤ n.parts.dropLast.length := List.length_pos_iff.2 (dropLast_parts_ne_nil h)
  rw [inner, ← dropLast_parts_concat, List.drop_append_of_le_length hlength]
  rfl

end DottedName

/-- The values that a namespace has by the name of its package. -/
structure PackageValues where
  parts : List String
  level : Nat
  name : String
  parent : String
  parentName : String
  path : String
  parentPath : String
  output : String
  url : String
  parentUrl : String

/-- How the values of a package go together: each but the first level adds one name to what the
level above it has. -/
structure PackageValues.Coherent (v : PackageValues) (package : String) : Prop where
  parts_eq : v.parts = Text.split '.' package
  join_parts : ".".intercalate v.parts = package
  level_eq : v.level = v.parts.length
  level_pos : 1 ≤ v.level
  first : v.level = 1 → package = v.name ∧ v.parentName = "" ∧ v.path = v.output ∧
    v.parentPath = v.output ∧ v.url = ""
  next : 2 ≤ v.level → package = v.parent ++ "." ++ v.name ∧
    v.parts.dropLast.getLast? = some v.parentName ∧ v.path = Path.join v.parentPath v.name
  url_second : v.level = 2 → v.url = v.name
  url_next : 3 ≤ v.level → v.url = v.parentUrl ++ "-" ++ v.name

namespace Namespace

/-- What is found under the key is the value. -/
def Has (ns : Namespace) (key : String) (value : NamespaceValue) : Prop :=
  ns.get? key = some (.ok value)

structure HasPackage (ns : Namespace) (v : PackageValues) : Prop where
  parts : ns.Has "app_structure" (.list v.parts)
  level : ns.Has "app_level" (.int v.level)
  name : ns.Has "app_name" (.text v.name)
  parent : ns.Has "app_parent" (.text v.parent)
  parentName : ns.Has "app_parent_name" (.text v.parentName)
  path : ns.Has "path" (.text v.path)
  parentPath : ns.Has "path_parent" (.text v.parentPath)
  output : ns.Has "path_output" (.text v.output)
  url : ns.Has "url" (.text v.url)
  parentUrl : ns.Has "url_parent" (.text v.parentUrl)

def packageValues (ns : Namespace) (n : DottedName) : PackageValues where
  parts := n.parts
  level := n.parts.length
  name := n.leaf
  parent := n.parent
  parentName := appParentName n
  path := ns.path n
  parentPath := ns.parentPath n
  output := ns.output
  url := url n
  parentUrl := parentUrl n

variable {ns : Namespace} {n : DottedName}

theorem some_map_appName {package : String}
    (h : ns.model.info.properties.get? "app" = some package) (f : DottedName → NamespaceValue) :
    some (ns.appName.map f) = some (.ok (f ⟨package⟩)) := by
  rw [appName, app, property, h]
  rfl

theorem some_map_className {path : String}
    (h : ns.model.info.properties.get? "model" = some path) (f : DottedName → NamespaceValue) :
    some (ns.className.map f) = some (.ok (f ⟨path⟩)) := by
  rw [className, classPath, property, h]
  rfl

theorem hasPackage_packageValues {package : String}
    (h : ns.model.info.properties.get? "app" = some package) :
    ns.HasPackage (ns.packageValues ⟨package⟩) := by
  have happ := some_map_appName h
  -- The values are unfolded first, so that no name is cut into parts to compare them.
  constructor <;> dsimp only [packageValues]
  case parts => exact happ fun n => .list n.parts
  case level => exact happ fun n => .int n.parts.length
  case name => exact happ fun n => .text n.leaf
  case parent => exact happ fun n => .text n.parent
  case parentName => exact happ fun n => .text (appParentName n)
  case path => exact happ fun n => .text (ns.path n)
  case parentPath => exact happ fun n => .text (ns.parentPath n)
  case output => rfl
  case url => exact happ fun n => .text (url n)
  case parentUrl => exact happ fun n => .text (parentUrl n)

theorem appParentName_of_single (h : n.parts.length = 1) : appParentName n = "" := by
  rw [appParentName, DottedName.parent, DottedName.dropLast_parts_eq_nil h]
  rfl

theorem getLast?_dropLast_parts (h : 2 ≤ n.parts.length) :
    n.parts.dropLast.getLast? = some (appParentName n) := by
  rw [appParentName, DottedName.leaf, DottedName.parts_parent h,
    List.getLast?_eq_some_getLast (DottedName.dropLast_parts_ne_nil h), Option.getD_some]

theorem path_eq_join (ns : Namespace) (h : 2 ≤ n.parts.length) :
    ns.path n = Path.join (ns.parentPath n) n.leaf := by
  rw [path, parentPath, ← DottedName.between_concat h, Path.joinAll_concat]

theorem url_eq_append (h : 3 ≤ n.parts.length) : url n = parentUrl n ++ "-" ++ n.leaf := by
  rw [url, parentUrl, ← DottedName.between_concat (Nat.le_of_succ_le h),
    String.intercalate_append_of_ne_nil (DottedName.between_ne_nil h) (List.cons_ne_nil _ _),
    String.intercalate_singleton]

theorem coherent_packageValues (ns : Namespace) (n : DottedName) :
    (ns.packageValues n).Coherent n.text := by
  constructor <;> dsimp only [packageValues]
  case parts_eq => rfl
  case join_parts => exact n.intercalate_parts
  case level_pos => exact List.length_pos_iff.2 n.parts_ne_nil
  case first =>
    intro h
    have hinner := DottedName.inner_eq_nil h
    have hbetween := DottedName.between_eq_nil (show n.parts.length ≤ 2 by omega)
    refine ⟨DottedName.text_eq_leaf h, appParentName_of_single h, ?_, ?_, ?_⟩
    · exact congrArg (Path.joinAll ns.output) hinner
    · exact congrArg (Path.joinAll ns.output) hbetween
    · exact congrArg "-".intercalate hinner
  case next =>
    intro h
    exact ⟨DottedName.text_eq_parent_append h, getLast?_dropLast_parts h, ns.path_eq_join h⟩
  case url_second =>
    intro h
    rw [url, ← DottedName.between_concat (Nat.le_of_eq h.symm),
      DottedName.between_eq_nil (Nat.le_of_eq h)]
    exact String.intercalate_singleton
  case url_next => exact url_eq_append

/-- The values of a package are coherent, whatever its name, and its paths begin at the output of
the options. The name of a class is its last part, behind its parent if there is a dot in it. -/
theorem names_coherent (ns : Namespace) :
    (∀ package, ns.model.info.properties.get? "app" = some package →
      ∃ v, ns.HasPackage v ∧ v.output = ns.model.info.options.output ∧ v.Coherent package) ∧
    ∀ path, ns.model.info.properties.get? "model" = some path →
      ∃ parent name, ns.Has "model_parent" (.text parent) ∧
        ns.Has "model_classname" (.text name) ∧
        path = if '.' ∈ path.toList then parent ++ "." ++ name else name := by
  constructor
  · intro package hpackage
    exact ⟨_, hasPackage_packageValues hpackage, rfl, ns.coherent_packageValues ⟨package⟩⟩
  · intro path hpath
    have hclass := some_map_className hpath
    exact ⟨_, _, hclass fun n => .text n.parent, hclass fun n => .text n.leaf,
      DottedName.text_eq_ite ⟨path⟩⟩

/-- Nodes of a package two levels below the first. -/
def core (kind : NamespaceKind) : Namespace where
  model := {
    info := {
      name := "node"
      properties := [("app", "app.core.tree"), ("model", "app.core.models.Node")]
      options := { output := "out/data" } }
    fields := [] }
  kind
  dialect := .plain

theorem names_coherent_core :
    (∃ v, (core .package).HasPackage v ∧ v.output = "out/data" ∧ v.Coherent "app.core.tree") ∧
      ∃ parent name, (core .package).Has "model_parent" (.text parent) ∧
        (core .package).Has "model_classname" (.text name) ∧
        "app.core.models.Node" = parent ++ "." ++ name := by
  obtain ⟨hpackage, hclass⟩ := names_coherent (core .package)
  obtain ⟨parent, name, hparent, hname, heq⟩ := hclass "app.core.models.Node" rfl
  rw [if_pos (by decide)] at heq
  exact ⟨hpackage "app.core.tree" rfl, parent, name, hparent, hname, heq⟩

end Namespace

end RelSchema
