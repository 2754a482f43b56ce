import RelSchema.Model

namespace RelSchema

inductive NamespaceError
  | missingProperty (model : String) (property : String)
  deriving DecidableEq

def NamespaceError.message : NamespaceError → String
  | .missingProperty model property =>
    "Model '" ++ model ++ "' has no '" ++ property ++ "' property required for namespaces"

namespace NamespaceKind

def ofName? : String → Option NamespaceKind
  | "package" | "core" => some .package
  | "djapp" | "django" => some .djangoApp
  | _ => none

def name : NamespaceKind → String
  | .package => "package"
  | .djangoApp => "djapp"

end NamespaceKind

/-- A name made of parts between dots. -/
structure DottedName where
  text : String

namespace DottedName

def parts (n : DottedName) : List String :=
  Text.split '.' n.text

def leaf (n : DottedName) : String :=
  n.parts.getLast?.getD ""

def parent (n : DottedName) : String :=
  ".".intercalate n.parts.dropLast

def inner (n : DottedName) : List String :=
  n.parts.drop 1

def between (n : DottedName) : List String :=
  n.parts.dropLast.drop 1

end DottedName

inductive NamespaceValue
  | text (s : String)
  | list (items : List String)
  | int (n : Nat)
  deriving DecidableEq

/-- A model seen as part of a package. -/
structure Namespace where
  model : Model
  kind : NamespaceKind
  dialect : Dialect

namespace Namespace

def ofModel? (d : Dialect) (m : Model) : Option Namespace :=
  m.namespaceKind.map fun kind => ⟨m, kind, d⟩

def property (ns : Namespace) (key : String) : Except NamespaceError String :=
  match ns.model.info.properties.get? key with
  | some value => .ok value
  | none => .error (.missingProperty ns.model.name key)

def app (ns : Namespace) : Except NamespaceError String :=
  ns.property "app"

def classPath (ns : Namespace) : Except NamespaceError String :=
  ns.property "model"

def appName (ns : Namespace) : Except NamespaceError DottedName :=
  ns.app.map .mk

def className (ns : Namespace) : Except NamespaceError DottedName :=
  ns.classPath.map .mk

def appParentName (n : DottedName) : String :=
  (DottedName.mk n.parent).leaf

def classTitle (n : DottedName) : String :=
  Text.titleWords n.leaf

def output (ns : Namespace) : String :=
  ns.model.info.options.output

def basePath (n : DottedName) : String :=
  Path.joinAll "" n.inner

def path (ns : Namespace) (n : DottedName) : String :=
  Path.joinAll ns.output n.inner

def parentPath (ns : Namespace) (n : DottedName) : String :=
  Path.joinAll ns.output n.between

def url (n : DottedName) : String :=
  "-".intercalate n.inner

def parentUrl (n : DottedName) : String :=
  "-".intercalate n.between

def actionUrl (n : DottedName) (action : String) : String :=
  action ++ "-" ++ url n

def rootTemplates (ns : Namespace) (n : DottedName) : String :=
  Path.join (Path.join ns.output "templates") (basePath n)

def appTemplates (ns : Namespace) (n : DottedName) : String :=
  Path.joinAll (ns.path n) ["templates", n.leaf]

def appStatic (ns : Namespace) (n : DottedName) : String :=
  Path.joinAll (ns.path n) ["static", n.leaf]

def appWidgets (ns : Namespace) (n : DottedName) : String :=
  Path.joinAll (ns.path n) ["templates", "widgets"]

def rootWidgets (ns : Namespace) : String :=
  Path.joinAll ns.output ["templates", "widgets"]

def fixtures (ns : Namespace) (n : DottedName) : String :=
  Path.join (ns.path n) "fixtures"

def templateTags (ns : Namespace) (n : DottedName) : String :=
  Path.join (ns.path n) "templatetags"

def listDisplay (ns : Namespace) : List String :=
  ns.model.fieldNames ns.dialect

def searchFields (ns : Namespace) : List String :=
  ns.model.skFields.map (·.name ns.dialect)

def actions : List String :=
  ["index", "list", "create", "detail", "update", "delete"]

def packageEntries (ns : Namespace) (app model : DottedName) : Keyed NamespaceValue :=
  [("app", .text app.text),
   ("app_name", .text app.leaf),
   ("app_name_plural", .text (Text.plural app.leaf)),
   ("app_parent", .text app.parent),
   ("app_parent_name", .text (appParentName app)),
   ("app_structure", .list app.parts),
   ("app_level", .int app.parts.length),
   ("model", .text model.text),
   ("model_parent", .text model.parent),
   ("model_classname", .text model.leaf),
   ("model_classname_title", .text (classTitle model)),
   ("model_classname_plural", .text (Text.plural model.leaf)),
   ("model_classname_plural_title", .text (Text.plural (classTitle model))),
   ("model_structure", .list model.parts),
   ("path", .text (ns.path app)),
   ("path_base", .text (basePath app)),
   ("path_parent", .text (ns.parentPath app)),
   ("path_output", .text ns.output)]

def djangoEntries (ns : Namespace) (app : DottedName) : Keyed NamespaceValue :=
  [("url", .text (url app)), ("url_parent", .text (parentUrl app))] ++
  actions.map (fun action => ("url_" ++ action, NamespaceValue.text (actionUrl app action))) ++
  [("templates_app", .text (ns.appTemplates app)),
   ("templates_root", .text (ns.rootTemplates app)),
   ("static_app_css", .text (Path.join (ns.appStatic app) "css")),
   ("static_app_js", .text (Path.join (ns.appStatic app) "js")),
   ("static_app_img", .text (Path.join (ns.appStatic app) "img")),
   ("static_app", .text (ns.appStatic app)),
   ("widgets_app", .text (ns.appWidgets app)),
   ("widgets_root", .text ns.rootWidgets),
   ("fixtures", .text (ns.fixtures app)),
   ("templatetags", .text (ns.templateTags app)),
   ("list_display", .list ns.listDisplay),
   ("search_fields", .list ns.searchFields)]

def entries (ns : Namespace) : Except NamespaceError (Keyed NamespaceValue) := do
  let app ← ns.appName
  let model ← ns.className
  return ns.packageEntries app model ++ match ns.kind with
    | .package => []
    | .djangoApp => ns.djangoEntries app

def display (ns : Namespace) : String :=
  "<Namespace model:'" ++ ns.classPath.toOption.getD "" ++
    "' app:'" ++ ns.app.toOption.getD "" ++ "'>"

/-- A value by its name; the ones made from a property need that property. -/
def get? (ns : Namespace) (key : String) : Option (Except NamespaceError NamespaceValue) :=
  let ofApp (f : DottedName → NamespaceValue) := some (ns.appName.map f)
  let ofModel (f : DottedName → NamespaceValue) := some (ns.className.map f)
  match key with
  | "app" => some (ns.app.map .text)
  | "app_structure" => ofApp fun n => .list n.parts
  | "app_name" => ofApp fun n => .text n.leaf
  | "app_name_plural" => ofApp fun n => .text (Text.plural n.leaf)
  | "app_level" => ofApp fun n => .int n.parts.length
  | "app_parent" => ofApp fun n => .text n.parent
  | "app_parent_name" => ofApp fun n => .text (appParentName n)
  | "model" => some (ns.classPath.map .text)
  | "model_structure" => ofModel fun n => .list n.parts
  | "model_classname" => ofModel fun n => .text n.leaf
  | "model_parent" => ofModel fun n => .text n.parent
  | "model_classname_title" => ofModel fun n => .text (classTitle n)
  | "model_classname_plural" => ofModel fun n => .text (Text.plural n.leaf)
  | "model_classname_plural_title" => ofModel fun n => .text (Text.plural (classTitle n))
  | "path_output" => some (.ok (.text ns.output))
  | "path_base" => ofApp fun n => .text (basePath n)
  | "path" => ofApp fun n => .text (ns.path n)
  | "path_parent" => ofApp fun n => .text (ns.parentPath n)
  | "url" => ofApp fun n => .text (url n)
  | "url_parent" => ofApp fun n => .text (parentUrl n)
  | "list_display" => some (.ok (.list ns.listDisplay))
  | "search_fields" => some (.ok (.list ns.searchFields))
  | "templates_root" => ofApp fun n => .text (ns.rootTemplates n)
  | "templates_app" => ofApp fun n => .text (ns.appTemplates n)
  | "static_app" => ofApp fun n => .text (ns.appStatic n)
  | "widgets_app" => ofApp fun n => .text (ns.appWidgets n)
  | "widgets_root" => some (.ok (.text ns.rootWidgets))
  | "fixtures" => ofApp fun n => .text (ns.fixtures n)
  | "templatetags" => ofApp fun n => .text (ns.templateTags n)
  | _ => none

end Namespace

end RelSchema
