import RelSchema.Declaration.Haskell
import RelSchema.Proofs.Fault

namespace RelSchema.Field

variable {f : Field}

def haskellLine (f : Field) (type : String) : String :=
  let name := f.name .haskell
  name ++ .ofList (List.replicate (30 - (name.utf8ByteSize + 1)) ' ') ++ ":: " ++ type

def wrapped (f : Field) (type : String) : String :=
  if f.isRequired then type else "Maybe " ++ type

theorem exists_wrapper (f : Field) (type : String) :
    ∃ wrapper, f.wrapped type = wrapper ++ type ∧ (wrapper = "" ∨ wrapper = "Maybe ") := by
  unfold wrapped
  split
  · exact ⟨"", String.empty_append.symm, .inl rfl⟩
  · exact ⟨_, rfl, .inr rfl⟩

theorem wrapped_eq_self_iff {type : String} : f.wrapped type = type ↔ f.isRequired = true := by
  unfold wrapped
  split
  · rename_i h
    exact iff_of_true rfl h
  · rename_i h
    refine iff_of_false (fun heq => ?_) h
    have hlength := congrArg String.length heq
    rw [String.length_append] at hlength
    have hmaybe : "Maybe ".length = 6 := by decide
    omega

theorem haskellDefinition_eq :
    f.haskellDefinition = f.haskellBaseType.map fun type => f.haskellLine (f.wrapped type) := by
  rw [haskellDefinition, haskellType]
  cases f.haskellBaseType <;> rfl

end RelSchema.Field
