import RelSchema.Path

namespace RelSchema

structure Options where
  /-- The directory that files are written to and that namespace paths begin with. -/
  output : String := ".xlschema/data/output"
  /-- The column that comments of definitions are aligned to, or zero for no comments. -/
  commentOffset : Nat := 55
  deriving Inhabited

/-- Output directories are compared step by step. -/
instance : BEq Options where
  beq a b := Path.same a.output b.output && a.commentOffset == b.commentOffset

end RelSchema
