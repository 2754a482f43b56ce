import RelSchema.Document
import RelSchema.Notice

namespace RelSchema

namespace FieldSpec

def notices (spec : FieldSpec) : List Notice :=
  if isKnownAction spec.action then [] else [.unknownAction spec.name spec.action]

/-- The notices up to the first field that cannot be read. -/
def noticesOf : List (Except FieldError FieldSpec) → List Notice
  | .ok spec :: rest => spec.notices ++ noticesOf rest
  | _ => []

end FieldSpec

def Junction.notices (names : List String) : List Notice :=
  (Junction.candidates names).filterMap fun name =>
    (Junction.halves? name).map fun (left, right) => .foundJunction name left right

def SchemaError.notices : SchemaError → List Notice
  | .missingEnum model field => [.missingEnum model field]

def Schema.checkNotices (result : Except SchemaError Schema) : List Notice :=
  match result with
  | .error e => e.notices
  | .ok _ => []

def Schema.specializeNotices (s : Schema) (target : Target) : List Notice :=
  .specializes s.name target.dialect :: checkNotices (s.specialize target)

def DocumentModel.notices (m : DocumentModel) : List Notice :=
  .readsModel m.name :: FieldSpec.noticesOf (m.fields.map FieldSpec.ofKeyed)

namespace Document

/-- The notices up to the first model that cannot be read. -/
def modelNotices (options : Options) (junctions : List String) : List DocumentModel → List Notice
  | [] => []
  | m :: rest =>
    m.notices ++
      match m.toTypedModel options junctions with
      | .ok _ => modelNotices options junctions rest
      | .error _ => []

def notices (doc : Document) (options : Options) : List Notice :=
  Junction.notices (doc.models.map (·.name)) ++ modelNotices options doc.junctions doc.models ++
    match doc.toSchema options "" with
    | .error (.schema e) => e.notices
    | _ => []

end Document

end RelSchema
