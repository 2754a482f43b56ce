import RelSchema.CommandLine
import RelSchema.Proofs.Session

namespace RelSchema.CommandLine

section Resolving

variable {α : Type} {find? : String → Option α} {names : List String} {found : List α}

theorem resolve_eq_ok_iff : resolve find? names = .ok found ↔ names.map find? = found.map some := by
  induction names generalizing found with
  | nil =>
    rw [resolve, List.map_nil, eq_comm (a := []), List.map_eq_nil_iff, Except.ok.injEq, eq_comm]
  | cons name names ih =>
    rw [resolve, List.map_cons, eq_comm (a := _ :: _), List.map_eq_cons_iff]
    cases find? name with
    | none => simp
    | some x =>
      rw [map_eq_ok_iff]
      constructor
      · rintro ⟨rest, hrest, rfl⟩
        exact ⟨x, rest, rfl, rfl, (ih.1 hrest).symm⟩
      · rintro ⟨y, rest, rfl, hy, hrest⟩
        cases hy
        exact ⟨rest, ih.2 hrest.symm, rfl⟩

theorem exists_map_some (h : ∀ name ∈ names, find? name ≠ none) :
    ∃ found : List α, names.map find? = found.map some := by
  induction names with
  | nil => exact ⟨[], rfl⟩
  | cons name names ih =>
    obtain ⟨x, hx⟩ := Option.ne_none_iff_exists'.1 (h name List.mem_cons_self)
    obtain ⟨found, hfound⟩ := ih fun other hother => h other (List.mem_cons_of_mem name hother)
    exact ⟨x :: found, by rw [List.map_cons, List.map_cons, hx, hfound]⟩

theorem ne_none_of_map_eq (h : names.map find? = found.map some) {name : String}
    (hname : name ∈ names) : find? name ≠ none := by
  intro hnone
  have hmem : find? name ∈ names.map find? := List.mem_map_of_mem hname
  rw [h, hnone] at hmem
  obtain ⟨_, _, hsome⟩ := List.mem_map.1 hmem
  cases hsome

end Resolving

namespace Arguments

/-- What arguments ask for that make sense. -/
structure Asks (a : Arguments) (input : String) (formats : List Format)
    (kind : Option NamespaceKind) : Prop where
  reads : a.input = some input
  writes : a.formats.map Format.ofName? = formats.map some
  writesAny : formats ≠ []
  packages : a.namespaceName.map NamespaceKind.ofName? = kind.map some

/-- The arguments name no input or no format, or something unknown, or a schema that cannot be
read. -/
def IsRefused (a : Arguments) (t : FileTree) : Prop :=
  a.input = none ∨
    (∃ name, a.namespaceName = some name ∧ NamespaceKind.ofName? name = none) ∨
    (∃ name ∈ a.formats, Format.ofName? name = none) ∨ a.formats = [] ∨
    ∃ input e, a.input = some input ∧ t.readSchema a.options input = .error e

def outputIn (a : Arguments) (kind : Option NamespaceKind) (format : Format) : Output :=
  { format, options := a.options, namespaceKind := kind }

variable {a : Arguments} {job : Job} {t : FileTree}

theorem job_eq_ok_iff :
    a.job = .ok job ↔ ∃ input formats kind, a.Asks input formats kind ∧
      job = { input, outputs := formats.map (a.outputIn kind), options := a.options,
              toScreen := a.toScreen } := by
  constructor
  · intro h
    rw [Arguments.job] at h
    cases hinput : a.input with
    | none =>
      rw [hinput] at h
      cases h
    | some input =>
      rw [hinput] at h
      obtain ⟨_, hok, h⟩ := bind_eq_ok_iff.1 h
      cases hok
      obtain ⟨kinds, hkinds, h⟩ := bind_eq_ok_iff.1 h
      obtain ⟨formats, hformats, h⟩ := bind_eq_ok_iff.1 h
      rw [mapError_eq_ok_iff, resolve_eq_ok_iff] at hkinds hformats
      split at h
      · cases h
      · rename_i hany
        cases h
        have hkind : a.namespaceName.map NamespaceKind.ofName? = kinds.head?.map some := by
          simpa using congrArg List.head? hkinds
        exact ⟨input, formats, kinds.head?,
          ⟨hinput, hformats, fun hnil => hany (hnil ▸ rfl), hkind⟩, rfl⟩
  · rintro ⟨input, formats, kind, hasks, rfl⟩
    have hkinds : resolve NamespaceKind.ofName? a.namespaceName.toList = .ok kind.toList := by
      rw [resolve_eq_ok_iff, ← Option.toList_map, hasks.packages, Option.toList_map]
    have hformats : resolve Format.ofName? a.formats = .ok formats :=
      resolve_eq_ok_iff.2 hasks.writes
    have hany : ¬ formats.isEmpty = true := fun h => hasks.writesAny (List.isEmpty_iff.1 h)
    rw [Arguments.job, hasks.reads, hkinds, hformats]
    change ite _ _ _ = _
    rw [if_neg hany, Option.head?_toList]
    rfl

theorem isRefused_or_asks (a : Arguments) (t : FileTree) :
    a.IsRefused t ∨ ∃ input formats kind s, a.Asks input formats kind ∧
      t.readSchema a.options input = .ok s := by
  by_cases hrefused : a.IsRefused t
  · exact .inl hrefused
  · simp only [IsRefused, not_or, not_exists, not_and] at hrefused
    obtain ⟨hinput, hname, hformats, hany, hread⟩ := hrefused
    obtain ⟨input, hinput⟩ := Option.ne_none_iff_exists'.1 hinput
    obtain ⟨formats, hwrites⟩ := exists_map_some hformats
    obtain ⟨s, hs⟩ : ∃ s, t.readSchema a.options input = .ok s := by
      cases h : t.readSchema a.options input with
      | error e => exact absurd h (hread input e hinput)
      | ok s => exact ⟨s, rfl⟩
    refine .inr ⟨input, formats, a.namespaceName.bind NamespaceKind.ofName?, s,
      ⟨hinput, hwrites, ?_, ?_⟩, hs⟩
    · rintro rfl
      exact hany (List.map_eq_nil_iff.1 hwrites)
    · cases hpackage : a.namespaceName with
      | none => rfl
      | some name =>
        obtain ⟨kind, hkind⟩ := Option.ne_none_iff_exists'.1 (hname name hpackage)
        simp [hkind]

theorem Asks.exists_error {input : String} {formats : List Format} {kind : Option NamespaceKind}
    (h : a.Asks input formats kind) (hrefused : a.IsRefused t) :
    ∃ e, t.readSchema a.options input = .error e := by
  rcases hrefused with hinput | ⟨name, hname, hnone⟩ | ⟨name, hname, hnone⟩ | hnil |
    ⟨input', e, hinput, he⟩
  · rw [h.reads] at hinput
    cases hinput
  · have hpackages := h.packages
    rw [hname, Option.map_some, hnone] at hpackages
    cases kind <;> cases hpackages
  · exact absurd hnone (ne_none_of_map_eq h.writes hname)
  · have hwrites := h.writes
    rw [hnil, List.map_nil, eq_comm, List.map_eq_nil_iff] at hwrites
    exact absurd hwrites h.writesAny
  · cases h.reads.symm.trans hinput
    exact ⟨e, he⟩

end Arguments

open Session Output

variable {a : Arguments} {kind : Option NamespaceKind} {s : Schema} {o : Output}
  {outputs : List Output} {text : String} {e : WriteError} {outcome : Outcome}
  {t before between after : FileTree}

theorem yields_fail (message : String) (t : FileTree) :
    Yields (fail Session.machine message) t .failed t :=
  (yields_complain _ t).bind (yields_pure _ t)

theorem yields_produceAll_cons (hrender : o.render s = .ok text)
    (hwrite : before.write (o.path s.name) text = .ok between)
    (hrest : Yields (produceAll Session.machine false s outputs) between outcome after) :
    Yields (produceAll Session.machine false s (o :: outputs)) before outcome after := by
  have hproduce : Yields (produce Session.machine false o s) before (.ok ()) between :=
    (yields_write hrender hwrite).bind (yields_pure _ between)
  exact hproduce.bind hrest

theorem yields_produceAll_error (hrender : o.render s = .error e) (t : FileTree) :
    Yields (produceAll Session.machine false s (o :: outputs)) t .failed t := by
  have hproduce : Yields (produce Session.machine false o s) t (.error e) t :=
    (yields_write_error hrender t).bind (yields_pure _ t)
  exact hproduce.bind (yields_fail _ t)

theorem exists_written (hin : ∀ o ∈ outputs, o = a.outputIn kind o.format)
    (hhere : t.IsDirectory t.here) (haccepts : ∀ o ∈ outputs, t.Accepts (o.path s.name))
    (hrender : ∀ o ∈ outputs, ∃ text, o.render s = .ok text) :
    ∃ after, Written s outputs t after ∧ ∀ rest outcome final,
      Yields (produceAll Session.machine false s rest) after outcome final →
        Yields (produceAll Session.machine false s (outputs ++ rest)) t outcome final := by
  induction outputs generalizing t with
  | nil => exact ⟨t, .nil s t, fun _ _ _ => id⟩
  | cons o outputs ih =>
    rw [List.forall_mem_cons] at hin haccepts hrender
    obtain ⟨text, htext⟩ := hrender.1
    obtain ⟨next, hwrite⟩ := haccepts.1 text
    obtain ⟨directory, _, _, _, hchanges⟩ := write_path hhere hwrite
    have hnext : next.IsDirectory next.here := hchanges.here ▸ hchanges.directories hhere
    have hlead : ∀ p ∈ outputs, p.options = o.options := by
      intro p hp
      rw [hin.1, hin.2 p hp]
      rfl
    have haccepts' : ∀ p ∈ outputs, next.Accepts (p.path s.name) := by
      intro p hp
      have hpath := p.components_path s.name
      rw [hlead p hp] at hpath
      exact (haccepts.2 p hp).of_write (o.components_path s.name) hpath hwrite
    obtain ⟨after, hwritten, hruns⟩ := ih hin.2 hnext haccepts' hrender.2
    -- An output that comes again has the same text, and others of the run have other files.
    have hrest : o ∈ outputs ∨ ∀ p ∈ outputs, p.format ≠ o.format := by
      by_cases hformat : ∃ p ∈ outputs, p.format = o.format
      · obtain ⟨p, hp, hformat⟩ := hformat
        have heq : p = o := by
          rw [hin.2 p hp, hformat, ← hin.1]
        exact .inl (heq ▸ hp)
      · exact .inr fun p hp heq => hformat ⟨p, hp, heq⟩
    exact ⟨after, hwritten.cons hrest hhere htext hwrite,
      fun rest outcome final h => yields_produceAll_cons htext hwrite (hruns rest outcome final h)⟩

section Run

variable {args : List String} (hargs : Arguments.ofList args = .ok a)
  (hlist : a.listsFormats = false)

include hargs hlist

theorem run_eq :
    run Session.machine args =
      match a.job with
      | .error message => fail Session.machine message
      | .ok job => runJob Session.machine job := by
  rw [run, hargs]
  exact if_neg (Bool.eq_false_iff.1 hlist)

theorem yields_run_of_isRefused (h : a.IsRefused t) :
    Yields (run Session.machine args) t .failed t := by
  rw [run_eq hargs hlist]
  cases hjob : a.job with
  | error message => exact yields_fail message t
  | ok job =>
    obtain ⟨input, formats, kind, hasks, rfl⟩ := Arguments.job_eq_ok_iff.1 hjob
    obtain ⟨e, he⟩ := hasks.exists_error h
    refine (yields_readPath _ input t).bind ?_
    rw [he]
    exact yields_fail _ t

theorem yields_run_of_asks {input : String} {formats : List Format}
    (hasks : a.Asks input formats kind) (hread : t.readSchema a.options input = .ok s)
    (h : Yields (produceAll Session.machine a.toScreen s (formats.map (a.outputIn kind))) t outcome
      after) : Yields (run Session.machine args) t outcome after := by
  rw [run_eq hargs hlist, Arguments.job_eq_ok_iff.2 ⟨input, formats, kind, hasks, rfl⟩]
  refine (yields_readPath _ input t).bind ?_
  rw [hread]
  exact h

end Run

/-- With the files `before`, a run of the program ends with a code and leaves the files `after`. -/
def Exits (args : List String) (before : FileTree) (code : UInt8) (after : FileTree) : Prop :=
  ∃ outcome : Outcome, outcome.code = code ∧ Yields (run Session.machine args) before outcome after

theorem isDirectory_here_of_readSchema {options : Options} {input : String}
    (h : t.readSchema options input = .ok s) : t.IsDirectory t.here := by
  rw [FileTree.readSchema] at h
  cases hread : t.read input with
  | error e =>
    rw [hread] at h
    cases h
  | ok text => exact FileTree.isDirectory_here_of_read hread

/-- A run that writes files changes none if it is refused. Otherwise it writes the outputs up to the
first that cannot be rendered, all of them if there is none, and no other file. -/
theorem run_writes {args : List String} (hargs : Arguments.ofList args = .ok a)
    (hlist : a.listsFormats = false) (hscreen : a.toScreen = false) (t : FileTree) :
    (a.IsRefused t → Exits args t 1 t) ∧
    (¬ a.IsRefused t → ∃ input formats kind s, a.Asks input formats kind ∧
      t.readSchema a.options input = .ok s) ∧
    ∀ input formats kind s, a.Asks input formats kind → t.readSchema a.options input = .ok s →
      let outputs := formats.map (a.outputIn kind)
      (∀ o ∈ outputs, t.Accepts (o.path s.name)) →
        ((∀ o ∈ outputs, ∃ text, o.render s = .ok text) →
          ∃ after, Exits args t 0 after ∧ Written s outputs t after) ∧
        ∀ first o rest e, outputs = first ++ o :: rest →
          (∀ p ∈ first, ∃ text, p.render s = .ok text) → o.render s = .error e →
            ∃ after, Exits args t 1 after ∧ Written s first t after ∧ o ∉ first ∧
              ∀ location content, after.find (o.path s.name) = .ok location →
                (after.shape? location = some (.file content) ↔
                  t.shape? location = some (.file content)) := by
  refine ⟨fun h => ⟨.failed, rfl, yields_run_of_isRefused hargs hlist h⟩,
    (a.isRefused_or_asks t).resolve_left, ?_⟩
  intro input formats kind s hasks hread outputs haccepts
  have hhere := isDirectory_here_of_readSchema hread
  have hin : ∀ o ∈ outputs, o = a.outputIn kind o.format := by
    intro o ho
    obtain ⟨format, _, rfl⟩ := List.mem_map.1 ho
    rfl
  constructor
  · intro hrender
    obtain ⟨after, hwritten, hruns⟩ := exists_written hin hhere haccepts hrender
    have hdone := hruns [] .done after (yields_pure _ after)
    rw [List.append_nil, ← hscreen] at hdone
    exact ⟨after, ⟨.done, rfl, yields_run_of_asks hargs hlist hasks hread hdone⟩, hwritten⟩
  · intro first o rest e houtputs hrender herror
    rw [houtputs] at hin haccepts
    obtain ⟨after, hwritten, hruns⟩ := exists_written
      (fun p hp => hin p (List.mem_append_left _ hp)) hhere
      (fun p hp => haccepts p (List.mem_append_left _ hp)) hrender
    have hfailed := hruns (o :: rest) .failed after (yields_produceAll_error herror after)
    rw [← houtputs, ← hscreen] at hfailed
    have hnew : o ∉ first := by
      intro hmem
      obtain ⟨text, htext⟩ := hrender o hmem
      rw [herror] at htext
      cases htext
    refine ⟨after, ⟨.failed, rfl, yields_run_of_asks hargs hlist hasks hread hfailed⟩, hwritten,
      hnew, fun location content hfind => hwritten.of_format ?_ hfind content⟩
    intro p hp hformat
    have heq : p = o := by
      rw [hin p (List.mem_append_left _ hp), hformat, ← hin o (by simp)]
    exact hnew (heq ▸ hp)

/-- A directory with a schema that SQLAlchemy has no type for. -/
def shopTree : FileTree where
  here := ["home"]
  root := .directory [("home", .directory [("shop.yml", .file (some
    "models:\n- name: item\n  fields:\n  - \x7bname: price, type: numeric\x7d\n"))])]

def shopArguments : List String :=
  ["shop.yml", "-w", "sqlite", "-w", "py/sqlalchemy", "-w", "scala"]

theorem run_writes_shop :
    ∃ s after, shopTree.readSchema {} "shop.yml" = .ok s ∧ Exits shopArguments shopTree 1 after ∧
      Written s [{ format := .sqlite }] shopTree after := by
  obtain ⟨a, ha, hinput, hformats, houtput, hoffset, hname, hlist, hscreen⟩ := exists_eq_ok_of_any
    (x := Arguments.ofList shopArguments)
    (p := fun a => a.input = some "shop.yml" ∧ a.formats = ["sqlite", "py/sqlalchemy", "scala"] ∧
      a.output = none ∧ a.commentOffset = none ∧ a.namespaceName = none ∧
      a.listsFormats = false ∧ a.toScreen = false) (by decide +kernel)
  obtain ⟨s, hs, hsname, hrender, hfault⟩ := exists_eq_ok_of_any
    (x := shopTree.readSchema {} "shop.yml")
    (p := fun s => s.name = "shop" ∧ fault? (render { format := .sqlite } s) = none ∧
      fault? (render { format := .sqlAlchemy } s) ≠ none) (by decide +kernel)
  obtain ⟨e, he⟩ := Option.ne_none_iff_exists'.1 hfault
  have hplaces : ∀ format ∈ ([.sqlite, .sqlAlchemy, .scala] : List Format),
      fault? (shopTree.place (path { format } "shop")) = none := by decide +kernel
  have hoptions : a.options = {} := by
    rw [Arguments.options, houtput, hoffset]
    rfl
  have hasks : a.Asks "shop.yml" [.sqlite, .sqlAlchemy, .scala] none := by
    refine ⟨hinput, ?_, List.cons_ne_nil _ _, ?_⟩
    · rw [hformats]
      decide +kernel
    · rw [hname]
      rfl
  have hin : ∀ format, a.outputIn none format = { format } := by
    intro format
    rw [Arguments.outputIn, hoptions]
  have haccepts : ∀ o ∈ [Format.sqlite, .sqlAlchemy, .scala].map (a.outputIn none),
      shopTree.Accepts (o.path s.name) := by
    intro o ho
    obtain ⟨format, hformat, rfl⟩ := List.mem_map.1 ho
    rw [hin, hsname, FileTree.accepts_iff]
    exact fault?_eq_none_iff.1 (hplaces format hformat)
  have hfirst : ∀ p ∈ [a.outputIn none .sqlite], ∃ text, p.render s = .ok text := by
    intro p hp
    rw [List.mem_singleton.1 hp, hin]
    exact fault?_eq_none_iff.1 hrender
  have herror : (a.outputIn none .sqlAlchemy).render s = .error e :=
    hin .sqlAlchemy ▸ fault?_eq_some_iff.1 he
  obtain ⟨_, _, hruns⟩ := run_writes ha hlist hscreen shopTree
  obtain ⟨_, hprefix⟩ := hruns _ _ _ s hasks (hoptions ▸ hs) haccepts
  obtain ⟨after, hexits, hwritten, _⟩ :=
    hprefix [a.outputIn none .sqlite] _ [a.outputIn none .scala] e rfl hfirst herror
  rw [hin] at hwritten
  exact ⟨s, after, hs, hexits, hwritten⟩

end RelSchema.CommandLine
