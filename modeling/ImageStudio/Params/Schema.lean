import ImageStudio.Params.Key
import ImageStudio.Params.Error
import ImageStudio.Json.Decode

/-!
# Params · Schema: what a model declares about its parameters

A schema is an object whose `properties` member maps parameter names to specs. Each spec may
give a default, a minimum and a maximum, a step, the allowed values (`enum`) and a
description; all are optional. `ParamsSchema.ofJson` reads one:

* the document must be a record with an optional `properties` map;
* the properties are read in name order, and the first name that is not a standard
  parameter, or the first spec that cannot be read, refuses the schema;
* the prompt must be declared.

The schema keeps the declared parameters in the standard order of `ParamKey.all`.
-/

namespace ImageStudio

/-- Constraints declared for one parameter. -/
structure ParamSpec where
  default : Option Json := none
  minimum : Option Double := none
  maximum : Option Double := none
  step : Option Double := none
  allowed : Option (List String) := none
  description : Option String := none
  deriving Repr, Inhabited

namespace ParamSpec

/-- The record shape of a spec. -/
def shape : RecordShape :=
  { name := "ParamSpec"
    fields := [("default", true), ("minimum", true), ("maximum", true), ("step", true),
      ("enum", true), ("description", true)] }

/-- Reads a spec. -/
def read (n : Node) : Decoded ParamSpec := do
  let m ← shape.members n
  let default ← m.optField "default" Node.asJson
  let minimum ← m.optField "minimum" Node.asDouble
  let maximum ← m.optField "maximum" Node.asDouble
  let step ← m.optField "step" Node.asDouble
  let allowed ← m.optField "enum" (Node.asList Node.asString)
  let description ← m.optField "description" Node.asString
  pure { default, minimum, maximum, step, allowed, description }

end ParamSpec

/-- A model's parameter schema: the declared parameters with their specs, in key order. -/
structure ParamsSchema where
  properties : List (ParamKey × ParamSpec)
  deriving Repr, Inhabited

namespace ParamsSchema

/-- Inserts a declaration, keeping key order. -/
def insertSpec (k : ParamKey) (s : ParamSpec) :
    List (ParamKey × ParamSpec) → List (ParamKey × ParamSpec)
  | [] => [(k, s)]
  | (k', s') :: rest =>
    if k.rank < k'.rank then (k, s) :: (k', s') :: rest
    else if k = k' then (k, s) :: rest
    else (k', s') :: insertSpec k s rest

/-- The spec of a declared parameter (`ParamsSchema::spec`). -/
def spec? (s : ParamsSchema) (k : ParamKey) : Option ParamSpec :=
  (s.properties.find? (·.1 == k)).map (·.2)

/-- Whether the schema declares a parameter (`ParamsSchema::supports`). -/
def supports (s : ParamsSchema) (k : ParamKey) : Bool := s.properties.any (·.1 == k)

/-- The declared parameters, in key order. -/
def supported (s : ParamsSchema) : List ParamKey := s.properties.map (·.1)

/-- The declared defaults that are not `null`, by name (`ParamsSchema::default_values`). -/
def defaultValues (s : ParamsSchema) : List (String × Json) :=
  s.properties.filterMap fun (k, spec) =>
    match spec.default with
    | some v => if v.isNull then none else some (k.name, v)
    | none => none

/-- The record shape of the schema document. -/
def shape : RecordShape := { name := "RawSchema", fields := [("properties", true)] }

/-- Adds the properties one by one, refusing the first unknown name or unreadable spec. -/
def addProperties (acc : List (ParamKey × ParamSpec)) :
    List (String × Json) → Except ParamsError (List (ParamKey × ParamSpec))
  | [] => .ok acc
  | (name, v) :: rest =>
    match ParamKey.ofName? name with
    | none => .error (.invalidSchema ("unknown property '" ++ name ++ "'"))
    | some k =>
      match ParamSpec.read (Node.ofJson v) with
      | .error e => .error (.invalidSchema ("property '" ++ name ++ "': " ++ e.message))
      | .ok spec => addProperties (insertSpec k spec acc) rest

/-- Reads a schema document (`ParamsSchema::from_json`). -/
def ofJson (doc : Json) : Except ParamsError ParamsSchema := do
  let raw : Decoded (List (String × Json)) := do
    let m ← shape.members (Node.ofJson doc)
    m.fieldOr "properties" [] Node.asMap
  let props ← match raw with
    | .ok ps => .ok ps
    | .error e => .error (.invalidSchema e.message)
  let properties ← addProperties [] props
  if properties.any (·.1 == .prompt) then pure { properties }
  else .error (.invalidSchema "schema must declare a 'prompt' property")

/-- The summary of a schema: the supported names in key order and the non-null defaults. -/
def summary (s : ParamsSchema) : Json :=
  Json.mkObj [("supports", .arr (s.supported.map (.str ·.name))),
    ("defaults", Json.mkObj s.defaultValues)]

end ParamsSchema

end ImageStudio
