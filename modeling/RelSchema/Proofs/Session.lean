import RelSchema.Proofs.Output.Location
import RelSchema.Session

namespace RelSchema

/-- Reads a schema from a file, which names the schema if it has no name of its own. -/
def FileTree.readSchema (t : FileTree) (options : Options) (path : String) :
    Except ReadError Schema :=
  match t.read path with
  | .error e => .error (.file e)
  | .ok text => Schema.ofYaml options ((Path.fileStem? path).getD unnamed) text

namespace Session

/-- With the files `before`, a run gives `a` and leaves the files `after`. -/
def Yields {α : Type} (x : StateM Session α) (before : FileTree) (a : α) (after : FileTree) :
    Prop :=
  ∀ s : Session, s.files = before → (x.run s).1 = a ∧ (x.run s).2.files = after

variable {α β : Type} {t before between after : FileTree}

theorem yields_pure (a : α) (t : FileTree) : Yields (pure a) t a t :=
  fun _ hs => ⟨rfl, hs⟩

theorem Yields.bind {x : StateM Session α} {f : α → StateM Session β} {a : α} {b : β}
    (hx : Yields x before a between) (hf : Yields (f a) between b after) :
    Yields (x >>= f) before b after := by
  intro s hs
  obtain ⟨ha, hbetween⟩ := hx s hs
  subst ha
  exact hf _ hbetween

theorem yields_report (notice : Notice) (t : FileTree) : Yields (machine.report notice) t () t :=
  fun _ hs => ⟨rfl, hs⟩

theorem yields_complain (text : String) (t : FileTree) : Yields (machine.complain text) t () t :=
  fun _ hs => ⟨rfl, hs⟩

theorem yields_forM_report (notices : List Notice) (t : FileTree) :
    Yields (notices.forM machine.report) t () t := by
  induction notices with
  | nil => exact yields_pure () t
  | cons notice notices ih => exact (yields_report notice t).bind ih

theorem yields_readFile (path : String) (t : FileTree) :
    Yields (machine.readFile path) t (t.read path) t := by
  rintro s rfl
  exact ⟨rfl, rfl⟩

theorem yields_writeFile {path text : String} (h : before.write path text = .ok after) :
    Yields (machine.writeFile path text) before (.ok ()) after := by
  rintro s rfl
  have hrun : (machine.writeFile path text).run s = (.ok (), { s with files := after }) := by
    change (writeFile path text).run s = _
    simp only [writeFile, StateT.run_bind, StateT.run_get, pure_bind, h]
    rfl
  rw [hrun]
  exact ⟨rfl, rfl⟩

theorem yields_readPath (options : Options) (path : String) (t : FileTree) :
    Yields (machine.readPath options path) t (t.readSchema options path) t := by
  refine (yields_report _ t).bind ((yields_readFile path t).bind ?_)
  rw [FileTree.readSchema]
  cases t.read path with
  | error => exact yields_pure _ t
  | ok text =>
    change Yields (machine.readText _ _ _) _ _ _
    rw [Machine.readText_eq]
    exact (yields_forM_report _ t).bind (yields_pure _ t)

theorem yields_render (o : Output) (s : Schema) (t : FileTree) :
    Yields (machine.render o s) t (o.render s) t :=
  (yields_forM_report _ t).bind (yields_pure _ t)

theorem yields_write {o : Output} {s : Schema} {text : String} (hrender : o.render s = .ok text)
    (hwrite : before.write (o.path s.name) text = .ok after) :
    Yields (machine.write o s) before (.ok (o.path s.name)) after := by
  refine (yields_render o s before).bind ?_
  rw [hrender]
  exact (yields_writeFile hwrite).bind ((yields_report _ after).bind (yields_pure _ after))

theorem yields_write_error {o : Output} {s : Schema} {e : WriteError} (h : o.render s = .error e)
    (t : FileTree) : Yields (machine.write o s) t (.error e) t := by
  refine (yields_render o s t).bind ?_
  rw [h]
  exact yields_pure _ t

end Session

end RelSchema
