import RelSchema.Field

namespace RelSchema.Python

def boolName (b : Bool) : String :=
  if b then "True" else "False"

def quote (s : String) : String :=
  "\"" ++ s ++ "\""

def arguments (args : List String) : String :=
  ", ".intercalate args

end RelSchema.Python
