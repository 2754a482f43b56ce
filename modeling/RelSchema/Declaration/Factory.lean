import RelSchema.Declaration.Python

namespace RelSchema

/-- Field names that have a generator of the same name. -/
def sampledNames : List String :=
  ["address", "boolean", "building_number", "catch_phrase", "city", "company", "company_email",
   "country", "country_code", "credit_card_number", "currency_code", "date", "date_time",
   "day_of_month", "day_of_week", "domain_name", "email", "file_name", "file_path", "first_name",
   "hex_color", "image_url", "ipv4", "ipv6", "isbn13", "job", "language_code", "last_name",
   "latitude", "license_plate", "locale", "longitude", "mac_address", "md5", "mime_type", "month",
   "month_name", "name", "paragraph", "password", "phone_number", "postcode", "prefix", "sentence",
   "sha256", "slug", "ssn", "state", "street_address", "street_name", "suffix", "text", "time",
   "timezone", "url", "user_agent", "user_name", "uuid4", "word", "year", "zipcode"]

/-- The generator that a field's name asks for. -/
def sampleNamed? (name : String) : Option String :=
  if name = "location" then some "city"
  else if name = "color" then some "color_name"
  else if sampledNames.contains name then some name
  else none

namespace Field

/-- The factory of the rows a foreign key refers to. A parent in a model with a package is named
with that package, since its factory is not defined yet. -/
def subFactory (f : Field) (table : String) : String :=
  match f.owner.filter fun m => table = "parent" && m.hasNamespaceProperties with
  | some model =>
    "factory.SubFactory('" ++ (model.properties.get? "app").getD "" ++ ".factories." ++
      Text.pascalCase model.name ++ "Factory')"
  | none => "factory.SubFactory(" ++ Text.pascalCase table ++ "Factory)"

def factoryAttribute (f : Field) : String :=
  let name := f.name .factoryBoy
  if f.isFk then Text.stripId name else name

def factoryDefinition (f : Field) : Except FieldError String := do
  let type ← f.baseType
  let sample ← f.physicalType .factoryBoy type
  let name := f.name .factoryBoy
  let value :=
    if f.isPk && (type = .int || type = .serial) then "factory.Sequence(lambda n: n)"
    else if f.isFk then f.subFactory (Text.stripId name)
    else if f.isEnum then "factory.Iterator(model." ++ Text.upper name ++ ")"
    else "factory.Faker('" ++ (sampleNamed? name).getD sample ++ "')"
  return f.factoryAttribute ++ " = " ++ value

end Field

end RelSchema
