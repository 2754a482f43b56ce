namespace RelSchema.Script

def block (indent : String) (lines : List String) : String :=
  .join (lines.map fun line => indent ++ line ++ "\n")

end RelSchema.Script
