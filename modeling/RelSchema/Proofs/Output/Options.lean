import RelSchema.Document.Reader
import RelSchema.Output
import RelSchema.Proofs.Schema.Options

namespace RelSchema

namespace Script

section

variable {d : Dialect} {m : Model} {s : Schema} {options : Options}

theorem Sql.tuple_under (options : Options) (m : Model) : tuple (m.under options) = tuple m := by
  funext row
  rw [tuple, tuple, Model.cleanRow_under]

theorem Sql.inserts_under (d : Dialect) (options : Options) (m : Model) :
    inserts d (m.under options) = inserts d m := by
  rw [inserts, inserts, tuple_under, Model.fieldNames_under]
  rfl

theorem Sql.table_under (h : m.SameComments d options) :
    table d (m.under options) = table d m := by
  rw [table, table, Model.definitions_under h, Model.dependencies_under, inserts_under]
  rfl

theorem Sql.text_under (h : ∀ m ∈ s.models, m.SameComments s.dialect options) :
    text (s.under options) = text s := by
  have htables := Schema.mapM_models_under fun m hm => table_under (h m hm)
  have hdialect : (s.under options).dialect = s.dialect := rfl
  rw [text, text, hdialect, htables]
  rfl

end

variable (options : Options) (m : Model) (s : Schema)

theorem Abap.structureText_under : structureText (m.under options) = structureText m := by
  rw [structureText, structureText, Model.fieldDefinitions_under_of_not_isSql rfl]
  rfl

theorem Abap.text_under : text (s.under options) = text s := by
  rw [text, text, Schema.mapM_models_under fun m _ => structureText_under options m]
  rfl

theorem Haskell.record_under : record (m.under options) = record m := by
  rw [record, record, Model.fieldDefinitions_under_of_not_isSql rfl]
  rfl

theorem Haskell.text_under : text (s.under options) = text s := by
  rw [text, text, Schema.mapM_models_under fun m _ => record_under options m]
  rfl

theorem Jvm.javaClass_under : javaClass (m.under options) = javaClass m := by
  rw [javaClass, javaClass, Model.fieldDefinitions_under_of_not_isSql rfl, Model.methods_under]
  rfl

theorem Jvm.java_under : java (s.under options) = java s := by
  rw [java, java, Schema.mapM_models_under fun m _ => javaClass_under options m]
  rfl

theorem Jvm.scalaClass_under : scalaClass (m.under options) = scalaClass m := by
  rw [scalaClass, scalaClass, Model.fieldDefinitions_under_of_not_isSql rfl]
  rfl

theorem Jvm.scala_under : scala (s.under options) = scala s := by
  rw [scala, scala, Schema.mapM_models_under fun m _ => scalaClass_under options m]
  rfl

namespace SqlAlchemy

theorem untypedField?_under : untypedField? (s.under options) = untypedField? s := by
  rw [untypedField?, untypedField?, Schema.fields_under, List.findSome?_map]
  simp only [Function.comp_def, Field.typeName_under]

theorem imports_under : imports (s.under options) = imports s := by
  have hkeys : (s.under options).models.any (·.hasFk) = s.models.any (·.hasFk) := by
    simp only [Schema.under, List.any_map, Function.comp_def, Model.hasFk_under]
  rw [imports, imports, Schema.baseTypes_under, untypedField?_under, hkeys]

theorem classText_under : classText (m.under options) = classText m := by
  rw [classText, classText, Model.fieldDefinitions_under_of_not_isSql rfl]
  rfl

theorem seedLine_under : seedLine (m.under options) = seedLine m := by
  funext row
  unfold seedLine Model.namedRow
  rw [Model.cleanRow_under, Model.fieldNames_under, Model.className_under]

theorem seeds_under : seeds (s.under options) = seeds s := by
  simp only [seeds, Schema.under, List.all_map, List.flatMap_map, Function.comp_def,
    Model.data_under, seedLine_under]

theorem text_under : text (s.under options) = text s := by
  have hclasses := Schema.mapM_models_under fun m (_ : m ∈ s.models) => classText_under options m
  rw [text, text, imports_under, hclasses, seeds_under]
  rfl

end SqlAlchemy

namespace Django

theorem verboseNames_under : verboseNames (m.under options) = verboseNames m := by
  obtain ⟨info, fields, data, kind⟩ := m
  cases kind <;> rfl

theorem factoryTarget_under : factoryTarget (m.under options) = factoryTarget m := by
  obtain ⟨info, fields, data, kind⟩ := m
  cases kind <;> rfl

theorem display_under : display (m.under options) = display m := by
  have hshown : (m.under options).skField?.or (m.under options).pkField? =
      (m.skField?.or m.pkField?).map (·.under options) := by
    rw [Option.map_or, Model.skField?, Model.pkField?, Model.under, List.find?_map, List.find?_map]
    rfl
  rw [display, display, hshown]
  cases m.skField?.or m.pkField? with
  | none => rfl
  | some f => simp only [Option.map_some, Field.name_under]

theorem modelClass_under : modelClass (m.under options) = modelClass m := by
  rw [modelClass, modelClass, Model.fieldDefinitions_under_of_not_isSql rfl, verboseNames_under,
    display_under]
  rfl

theorem models_under : models (s.under options) = models s := by
  rw [models, models, Schema.mapM_models_under fun m _ => modelClass_under options m]
  rfl

theorem factoryClass_under : factoryClass (m.under options) = factoryClass m := by
  rw [factoryClass, factoryClass, factoryTarget_under,
    Model.fieldDefinitions_under_of_not_isSql rfl]
  rfl

theorem factories_under : factories (s.under options) = factories s := by
  rw [factories, factories, Schema.mapM_models_under fun m _ => factoryClass_under options m]
  rfl

end Django

end Script

namespace Output

open Script

theorem script_under {s : Schema} {options : Options} (format : Format)
    (h : ∀ m ∈ s.models, m.SameComments s.dialect options) :
    script format (s.under options) = script format s := by
  cases format with
  | sql | sqlite | postgres | pgEnum => rw [script, script, Sql.text_under h]
  | yaml => rw [script, script, Document.ofSchema_under]
  | haskell => rw [script, script, Haskell.text_under]
  | hibernate => rw [script, script, Jvm.java_under]
  | scala => rw [script, script, Jvm.scala_under]
  | sqlAlchemy => rw [script, script, SqlAlchemy.text_under]
  | djangoModels => rw [script, script, Django.models_under]
  | djangoFactories => rw [script, script, Django.factories_under]
  | abap => rw [script, script, Abap.text_under]

theorem render_under (o : Output) (options : Options) (s : Schema) :
    o.render (s.under options) = o.render s := by
  rw [render, render, Schema.specialize_under]
  split
  · rw [script, script, Document.ofSchema_under]
  · rfl

theorem render_options (o : Output) (options : Options)
    (h : o.format.dialect.isSql = true → o.options.commentOffset = options.commentOffset)
    (s : Schema) : Output.render { o with options } s = o.render s := by
  by_cases hformat : o.format = .yaml
  · rw [render, render, if_pos hformat, if_pos hformat]
  · have hspecialize : s.specialize (target { o with options }) =
        (s.specialize o.target).map (·.under options) := s.specialize_options options o.target
    rw [render, render, if_neg hformat, if_neg hformat, hspecialize]
    cases hview : s.specialize o.target with
    | error e => rfl
    | ok t =>
      obtain ⟨-, rfl⟩ := Schema.check_eq_ok_iff.1 hview
      refine script_under o.format fun m hm => ?_
      obtain ⟨n, -, rfl⟩ := List.mem_map.1 hm
      exact fun f hf hsql => Model.sameComments_retarget (h hsql) f hf hsql

/-- Two readings of a text under different options fail with the same error, or what they read is
written as the same text. Of the options for the output, the directory never shows in the text, and
the place of comments shows in SQL only. -/
theorem text_independent_of_options (o : Output) (name text : String) (options options' : Options) :
    ((∃ e, Schema.ofYaml options name text = .error e ∧
        Schema.ofYaml options' name text = .error e) ∨
      ∃ s t, Schema.ofYaml options name text = .ok s ∧ Schema.ofYaml options' name text = .ok t ∧
        o.render s = o.render t) ∧
    (∀ s output, render { o with options := { o.options with output } } s = o.render s) ∧
    (o.format ∉ [.sql, .sqlite, .postgres, .pgEnum] →
      ∀ s options, render { o with options } s = o.render s) := by
  refine ⟨?_, fun s output => o.render_options { o.options with output } (fun _ => rfl) s,
    fun hformat s options => ?_⟩
  · rw [Schema.ofYaml, Schema.ofYaml]
    cases Document.ofYaml? text with
    | none => exact .inl ⟨_, rfl, rfl⟩
    | some doc =>
      have hread := doc.toSchema_options options options' name
      cases hdoc : doc.toSchema options name with
      | error e =>
        rw [hdoc] at hread
        exact .inl ⟨e, hdoc, hread⟩
      | ok s =>
        rw [hdoc] at hread
        exact .inr ⟨s, _, hdoc, hread, (o.render_under options' s).symm⟩
  · refine o.render_options options (fun hsql => absurd hsql ?_) s
    revert hformat
    cases o.format <;> decide

theorem text_independent_of_options_django :
    Format.djangoModels ∉ [Format.sql, .sqlite, .postgres, .pgEnum] ∧
      ∀ s commentOffset, render { format := .djangoModels, options := { commentOffset } } s =
        render { format := .djangoModels } s := by
  have hformat : Format.djangoModels ∉ [Format.sql, .sqlite, .postgres, .pgEnum] := by decide
  obtain ⟨-, -, hoptions⟩ :=
    text_independent_of_options { format := .djangoModels } "shop" "models: []" {} {}
  exact ⟨hformat, fun s commentOffset => hoptions hformat s { commentOffset }⟩

end Output

end RelSchema
