import RelSchema.Proofs.Keyed
import RelSchema.Proofs.Namespace.Names
import RelSchema.Proofs.Script

namespace RelSchema.Namespace

def packageKeys : List String :=
  ["app", "app_name", "app_name_plural", "app_parent", "app_parent_name", "app_structure",
   "app_level", "model", "model_parent", "model_classname", "model_classname_title",
   "model_classname_plural", "model_classname_plural_title", "model_structure", "path",
   "path_base", "path_parent", "path_output"]

/-- The keys of the entries that nothing is found under. -/
def composedKeys : List String :=
  ["url_index", "url_list", "url_create", "url_detail", "url_update", "url_delete",
   "static_app_css", "static_app_js", "static_app_img"]

def djangoKeys : List String :=
  ["url", "url_parent", "url_index", "url_list", "url_create", "url_detail", "url_update",
   "url_delete", "templates_app", "templates_root", "static_app_css", "static_app_js",
   "static_app_img", "static_app", "widgets_app", "widgets_root", "fixtures", "templatetags",
   "list_display", "search_fields"]

def entryKeys : NamespaceKind → List String
  | .package => packageKeys
  | .djangoApp => packageKeys ++ djangoKeys

theorem nodup_entryKeys (kind : NamespaceKind) : (entryKeys kind).Nodup := by
  cases kind <;> decide +kernel

variable {ns : Namespace} {package path : String}

theorem get?_packageEntries (happ : ns.model.info.properties.get? "app" = some package)
    (hmodel : ns.model.info.properties.get? "model" = some path) :
    ∀ entry ∈ ns.packageEntries ⟨package⟩ ⟨path⟩, ns.get? entry.1 = some (.ok entry.2) := by
  have hpackage : ns.get? "app" = some (.ok (.text package)) := by
    change some (ns.app.map NamespaceValue.text) = _
    rw [app, property, happ]
    rfl
  have hpath : ns.get? "model" = some (.ok (.text path)) := by
    change some (ns.classPath.map NamespaceValue.text) = _
    rw [classPath, property, hmodel]
    rfl
  have ofApp := some_map_appName happ
  have ofModel := some_map_className hmodel
  simp only [packageEntries, List.forall_mem_cons]
  exact ⟨hpackage, ofApp fun n => .text n.leaf, ofApp fun n => .text (Text.plural n.leaf),
    ofApp fun n => .text n.parent, ofApp fun n => .text (appParentName n),
    ofApp fun n => .list n.parts, ofApp fun n => .int n.parts.length,
    hpath, ofModel fun n => .text n.parent, ofModel fun n => .text n.leaf,
    ofModel fun n => .text (classTitle n), ofModel fun n => .text (Text.plural n.leaf),
    ofModel fun n => .text (Text.plural (classTitle n)), ofModel fun n => .list n.parts,
    ofApp fun n => .text (ns.path n), ofApp fun n => .text (basePath n),
    ofApp fun n => .text (ns.parentPath n), rfl, List.forall_mem_nil _⟩

theorem get?_actionUrl (ns : Namespace) : ∀ action ∈ actions,
    ns.get? ("url_" ++ action) = none ∧ "url_" ++ action ∈ composedKeys := by
  simp only [actions, List.forall_mem_cons]
  refine ⟨?_, ?_, ?_, ?_, ?_, ?_, List.forall_mem_nil _⟩ <;> exact ⟨rfl, by decide⟩

theorem get?_djangoEntries (happ : ns.model.info.properties.get? "app" = some package) :
    ∀ entry ∈ ns.djangoEntries ⟨package⟩, ns.get? entry.1 = some (.ok entry.2) ∨
      ns.get? entry.1 = none ∧ entry.1 ∈ composedKeys := by
  have ofApp := some_map_appName happ
  simp only [djangoEntries, List.forall_mem_append, List.forall_mem_map, List.forall_mem_cons]
  refine ⟨⟨⟨?_, ?_, List.forall_mem_nil _⟩, ?_⟩, ?_⟩
  · exact .inl (ofApp fun n => .text (url n))
  · exact .inl (ofApp fun n => .text (parentUrl n))
  · exact fun action haction => .inr (ns.get?_actionUrl action haction)
  · exact ⟨.inl (ofApp fun n => .text (ns.appTemplates n)),
      .inl (ofApp fun n => .text (ns.rootTemplates n)), .inr ⟨rfl, by decide⟩,
      .inr ⟨rfl, by decide⟩, .inr ⟨rfl, by decide⟩, .inl (ofApp fun n => .text (ns.appStatic n)),
      .inl (ofApp fun n => .text (ns.appWidgets n)), .inl rfl,
      .inl (ofApp fun n => .text (ns.fixtures n)), .inl (ofApp fun n => .text (ns.templateTags n)),
      .inl rfl, .inl rfl, List.forall_mem_nil _⟩

theorem entries_eq_ok (happ : ns.model.info.properties.get? "app" = some package)
    (hmodel : ns.model.info.properties.get? "model" = some path) :
    ns.entries = .ok (ns.packageEntries ⟨package⟩ ⟨path⟩ ++ match ns.kind with
      | .package => []
      | .djangoApp => ns.djangoEntries ⟨package⟩) := by
  simp only [entries, appName, className, app, classPath, property, happ, hmodel]
  rfl

theorem fault?_entries (ns : Namespace) :
    fault? ns.entries = if ns.model.hasNamespaceProperties = true then none
      else some (.missingProperty ns.model.name
        (if ns.model.info.properties.has "app" = true then "model" else "app")) := by
  rw [entries, fault?_bind fun app _ => fault?_bind_pure _ _, appName, app, fault?_map, className,
    classPath, fault?_map, Script.Django.fault?_property, Script.Django.fault?_property,
    Model.hasNamespaceProperties, ModelInfo.hasNamespaceProperties]
  cases ns.model.info.properties.has "app" <;> cases ns.model.info.properties.has "model" <;> rfl

theorem entries_eq_error (h : ns.model.hasNamespaceProperties = false) :
    ns.entries = .error (.missingProperty ns.model.name
      (if ns.model.info.properties.has "app" = true then "model" else "app")) := by
  rw [← fault?_eq_some_iff, fault?_entries, h]
  rfl

theorem exists_entries_iff :
    (∃ es, ns.entries = .ok es) ↔ ns.model.hasNamespaceProperties = true := by
  rw [← fault?_eq_none_iff, fault?_entries]
  cases ns.model.hasNamespaceProperties <;> simp

theorem properties_of_entries {es : Keyed NamespaceValue} (h : ns.entries = .ok es) :
    ∃ package path, ns.model.info.properties.get? "app" = some package ∧
      ns.model.info.properties.get? "model" = some path := by
  have hproperties := exists_entries_iff.1 ⟨es, h⟩
  rw [Model.hasNamespaceProperties, ModelInfo.hasNamespaceProperties, Bool.and_eq_true]
    at hproperties
  obtain ⟨path, hmodel⟩ := Option.isSome_iff_exists.1 hproperties.1
  obtain ⟨package, happ⟩ := Option.isSome_iff_exists.1 hproperties.2
  exact ⟨package, path, happ, hmodel⟩

theorem get?_of_mem_entries {es : Keyed NamespaceValue} (h : ns.entries = .ok es)
    {key : String} {value : NamespaceValue} (hmem : (key, value) ∈ es) :
    ns.get? key = some (.ok value) ∨ ns.get? key = none ∧ key ∈ composedKeys := by
  obtain ⟨package, path, happ, hmodel⟩ := properties_of_entries h
  cases (entries_eq_ok happ hmodel).symm.trans h
  rcases List.mem_append.1 hmem with hmem | hmem
  · exact .inl (get?_packageEntries happ hmodel _ hmem)
  · cases hkind : ns.kind with
    | package =>
      rw [hkind] at hmem
      cases hmem
    | djangoApp =>
      rw [hkind] at hmem
      exact get?_djangoEntries happ _ hmem

theorem keys_entries {es : Keyed NamespaceValue} (h : ns.entries = .ok es) :
    es.keys = entryKeys ns.kind := by
  obtain ⟨package, path, happ, hmodel⟩ := properties_of_entries h
  cases (entries_eq_ok happ hmodel).symm.trans h
  cases ns.kind with
  | package => rfl
  | djangoApp => rfl

/-- The entries of a model are there if it has both properties, under the keys of their kind, and
each is what is found under its key. Otherwise the first property that it lacks is named. -/
theorem entries_available (ns : Namespace) :
    ((∃ es, ns.entries = .ok es) ↔ ns.model.hasNamespaceProperties = true) ∧
    (ns.model.hasNamespaceProperties = false → ns.entries = .error
      (.missingProperty ns.model.name
        (if ns.model.info.properties.has "app" then "model" else "app"))) ∧
    (∀ es, ns.entries = .ok es → es.keys = entryKeys ns.kind ∧ es.keys.Nodup ∧
      ∀ key value, (key, value) ∈ es →
        ns.get? key = some (.ok value) ∨ ns.get? key = none ∧ key ∈ composedKeys) ∧
    ∀ es, entries { ns with kind := .djangoApp } = .ok es →
      ∃ shorter, entries { ns with kind := .package } = .ok shorter ∧ shorter <+: es := by
  refine ⟨exists_entries_iff, entries_eq_error, fun es h => ?_, fun es h => ?_⟩
  · have hkeys := keys_entries h
    refine ⟨hkeys, ?_, fun key value => get?_of_mem_entries h⟩
    rw [hkeys]
    exact nodup_entryKeys ns.kind
  · obtain ⟨package, path, happ, hmodel⟩ := properties_of_entries h
    cases (entries_eq_ok happ hmodel).symm.trans h
    refine ⟨_, entries_eq_ok happ hmodel, ?_⟩
    rw [List.append_nil]
    exact List.prefix_append _ _

/-- Nodes of a package that have no class in it. -/
def classless : Namespace where
  model := { info := { name := "node", properties := [("app", "app.core")] }, fields := [] }
  kind := .package
  dialect := .plain

theorem entries_available_core :
    (∃ es shorter, (core .djangoApp).entries = .ok es ∧ es.keys.Nodup ∧
      es.keys = packageKeys ++ djangoKeys ∧
      (∀ value, ("url", value) ∈ es → (core .djangoApp).get? "url" = some (.ok value)) ∧
      (core .package).entries = .ok shorter ∧ shorter <+: es) ∧
    classless.entries = .error (.missingProperty "node" "model") := by
  obtain ⟨hiff, -, hentries, hprefix⟩ := entries_available (core .djangoApp)
  obtain ⟨es, hes⟩ := hiff.2 (by decide)
  obtain ⟨hkeys, hnodup, hget⟩ := hentries es hes
  obtain ⟨shorter, hshorter, hpre⟩ := hprefix es hes
  refine ⟨⟨es, shorter, hes, hnodup, hkeys, fun value hmem => ?_, hshorter, hpre⟩,
    (entries_available classless).2.1 (by decide)⟩
  exact (hget "url" value hmem).resolve_right fun h => absurd h.2 (by decide)

end RelSchema.Namespace
