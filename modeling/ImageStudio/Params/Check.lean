import ImageStudio.Params.Schema
import ImageStudio.Params.Runtime
import ImageStudio.Text.Blank
import ImageStudio.Number.Text

/-!
# Params · Check: turning a request's raw parameters into typed ones

`ParamsSchema.check` validates a parameter object against a schema:

1. the parameters must be an object;
2. the declared defaults are merged with the given members, walked in name order: a name
   that is no standard parameter is refused, a `null` member is skipped (the default, if
   any, stays), and a member the model does not declare is refused;
3. the prompt must be a string that is not blank;
4. every other merged member, in name order, must pass its parameter's check: width,
   height and steps are nonnegative integers within the declared bounds, taken modulo
   `2^32`; the seed likewise, and at most `2^31 - 1`; the guidance scale any number within
   the bounds; size and aspect ratio strings among the allowed values; the reference images
   a list of strings.

Bounds are compared as doubles, so an integer is first rounded to the nearest double.
-/

namespace ImageStudio

/-- The largest seed (`MAX_SEED`). -/
def maxSeed : Int := 2147483647

namespace ParamsSchema

/-- The refusal of a value for a key (`invalid`). -/
def invalidFor (k : ParamKey) (reason : String) : ParamsError := .invalid k.name reason

/-- A number within the declared bounds, as a double (`number_in_range`). -/
def numberInRange (k : ParamKey) (v : Json) (spec : ParamSpec) : Except ParamsError Double :=
  match v with
  | .num n =>
    let x := n.asDouble
    match spec.minimum with
    | some lo =>
      if x.lt lo then .error (invalidFor k ("must be at least " ++ lo.toPlainString)) else
      match spec.maximum with
      | some hi => if hi.lt x then .error (invalidFor k ("must be at most " ++ hi.toPlainString))
                   else .ok x
      | none => .ok x
    | none =>
      match spec.maximum with
      | some hi => if hi.lt x then .error (invalidFor k ("must be at most " ++ hi.toPlainString))
                   else .ok x
      | none => .ok x
  | _ => .error (invalidFor k "expected a number")

/-- A nonnegative signed 64-bit integer within the declared bounds (`integer_in_range`). -/
def integerInRange (k : ParamKey) (v : Json) (spec : ParamSpec) : Except ParamsError Int :=
  match v with
  | .num n =>
    match n.asI64? with
    | none => .error (invalidFor k "expected an integer")
    | some i =>
      if i < 0 then .error (invalidFor k "must not be negative")
      else (numberInRange k v spec).map fun _ => i
  | _ => .error (invalidFor k "expected an integer")

/-- A string among the allowed values, when the spec lists any (`string_in_enum`). -/
def stringInEnum (k : ParamKey) (v : Json) (spec : ParamSpec) : Except ParamsError String :=
  match v with
  | .str s =>
    match spec.allowed with
    | some allowed =>
      if allowed.contains s then .ok s
      else .error (invalidFor k ("'" ++ s ++ "' is not one of " ++ Text.quoteListForMessage allowed))
    | none => .ok s
  | _ => .error (invalidFor k "expected a string")

/-- A list of strings (`string_list`). -/
def stringList (k : ParamKey) (v : Json) : Except ParamsError (List String) :=
  match v with
  | .arr items =>
    items.mapM fun
      | .str s => .ok s
      | _ => .error (invalidFor k "expected an array of strings")
  | _ => .error (invalidFor k "expected an array of strings")

/-- An integer taken modulo `2^32`. -/
def wrap32 (i : Int) : Nat := (i % 4294967296).toNat

/-- Applies one merged member to the typed parameters. -/
def applyMember (s : ParamsSchema) (p : ImageParams) (name : String) (v : Json) :
    Except ParamsError ImageParams :=
  match ParamKey.ofName? name with
  | none => .ok p
  | some k =>
    let spec := (s.spec? k).getD {}
    match k with
    | .prompt => .ok p
    | .width => (integerInRange k v spec).map fun i => { p with width := some (wrap32 i) }
    | .height => (integerInRange k v spec).map fun i => { p with height := some (wrap32 i) }
    | .steps => (integerInRange k v spec).map fun i => { p with steps := some (wrap32 i) }
    | .seed => do
      let i ← integerInRange k v spec
      if i > maxSeed then throw (invalidFor k ("must be at most " ++ toString maxSeed))
      pure { p with seed := some i }
    | .cfg => (numberInRange k v spec).map fun d => { p with cfg := some d }
    | .size => (stringInEnum k v spec).map fun t => { p with size := some t }
    | .aspectRatio => (stringInEnum k v spec).map fun t => { p with aspectRatio := some t }
    | .imageUrls => (stringList k v).map fun xs => { p with imageUrls := xs }

/-- Merges the given members into the defaults, refusing unknown and undeclared names. -/
def mergeProvided (s : ParamsSchema) (acc : List (String × Json)) :
    List (String × Json) → Except ParamsError (List (String × Json))
  | [] => .ok acc
  | (name, v) :: rest =>
    match ParamKey.ofName? name with
    | none => .error (.unknownParameter name)
    | some k =>
      if v.isNull then mergeProvided s acc rest
      else if !s.supports k then .error (.unsupported name)
      else mergeProvided s (Json.insertField name v acc) rest

/-- Validates raw parameters against the schema and returns the typed parameters
(`ParamsSchema::parse_params`). -/
def check (s : ParamsSchema) (raw : Json) : Except ParamsError ImageParams := do
  let provided ← match raw with
    | .obj fs => pure fs
    | _ => throw .notAnObject
  let merged ← mergeProvided s (Json.mkObj s.defaultValues).members provided
  let prompt ← match Json.lookupField "prompt" merged with
    | some (.str t) => if Text.isBlankText t then throw .emptyPrompt else pure t
    | some _ => throw (invalidFor .prompt "expected a string")
    | none => throw .emptyPrompt
  merged.foldlM (fun p (name, v) => applyMember s p name v) { prompt }

end ParamsSchema

end ImageStudio
