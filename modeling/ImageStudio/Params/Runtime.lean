import ImageStudio.Json.Decode

/-!
# Params · Runtime: the typed parameters of one generation

`ImageParams` is what a checked request becomes and what a provider receives. Absent
fields are not sent. Its JSON form, the *configuration* stored with a batch, lists the
present fields only, and the reference images only when there are some; `ImageParams.read`
reads such a form back, ignoring members it does not know.
-/

namespace ImageStudio

/-- The resolved parameters of one provider call (`RuntimeImageParams`). -/
structure ImageParams where
  prompt : String
  width : Option Nat := none
  height : Option Nat := none
  size : Option String := none
  aspectRatio : Option String := none
  steps : Option Nat := none
  cfg : Option Double := none
  seed : Option Int := none
  imageUrls : List String := []
  deriving Repr, Inhabited

namespace ImageParams

/-- The same parameters carrying another seed (`RuntimeImageParams::with_seed`). -/
def withSeed (p : ImageParams) (seed : Option Int) : ImageParams := { p with seed := seed }

/-- A member when the field is present. -/
def member {α : Type} (name : String) (f : α → Json) : Option α → List (String × Json)
  | some a => [(name, f a)]
  | none => []

/-- The stored configuration (`RuntimeImageParams::to_config`): the present fields, by name. -/
def toConfig (p : ImageParams) : Json :=
  Json.mkObj <|
    [("prompt", .str p.prompt)] ++
    member "width" (fun n => Json.ofInt n) p.width ++
    member "height" (fun n => Json.ofInt n) p.height ++
    member "size" Json.str p.size ++
    member "aspectRatio" Json.str p.aspectRatio ++
    member "steps" (fun n => Json.ofInt n) p.steps ++
    member "cfg" (fun d => Json.num (.float d)) p.cfg ++
    member "seed" Json.ofInt p.seed ++
    (if p.imageUrls.isEmpty then [] else [("imageUrls", .arr (p.imageUrls.map .str))])

/-- The record shape of the configuration. -/
def shape : RecordShape :=
  { name := "RuntimeImageParams"
    fields := [("prompt", false), ("width", true), ("height", true), ("size", true),
      ("aspectRatio", true), ("steps", true), ("cfg", true), ("seed", true),
      ("imageUrls", true)] }

/-- Reads a configuration back. -/
def read (n : Node) : Decoded ImageParams := do
  let m ← shape.members n
  let prompt ← m.field "prompt" Node.asString
  let width ← m.optField "width" Node.asU32
  let height ← m.optField "height" Node.asU32
  let size ← m.optField "size" Node.asString
  let aspectRatio ← m.optField "aspectRatio" Node.asString
  let steps ← m.optField "steps" Node.asU32
  let cfg ← m.optField "cfg" Node.asDouble
  let seed ← m.optField "seed" Node.asI64
  let imageUrls ← m.fieldOr "imageUrls" [] (Node.asList Node.asString)
  pure { prompt, width, height, size, aspectRatio, steps, cfg, seed, imageUrls }

end ImageParams

end ImageStudio
