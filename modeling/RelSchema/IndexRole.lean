import RelSchema.Text.Blank
import RelSchema.Text.Casing

namespace RelSchema

/-- A primary key, a foreign key, a foreign key that is part of the primary key, or a key that means
something to people and that they search by. -/
inductive IndexRole
  | none | pk | fk | pfk | sk
  deriving DecidableEq, Inhabited

namespace IndexRole

def name? : IndexRole → Option String
  | .none => Option.none
  | .pk => some "pk"
  | .fk => some "fk"
  | .pfk => some "pfk"
  | .sk => some "sk"

/-- Reads a role in any case and with blanks around it. -/
def ofText? (s : String) : Option IndexRole :=
  match Text.lower (Text.trim s) with
  | "" | "none" => some .none
  | "pk" => some .pk
  | "fk" => some .fk
  | "pfk" => some .pfk
  | "sk" => some .sk
  | _ => Option.none

end IndexRole

end RelSchema
