/-!
# Params · Key: the names of the standard generation parameters

A model declares which of nine standard parameters it accepts. Their order here (prompt,
width, height, size, aspect ratio, steps, guidance, seed, reference images) is the order in
which a schema lists what it supports; their names are the keys of a request's parameter
object.
-/

namespace ImageStudio

/-- One of the standard generation parameters. -/
inductive ParamKey where
  | prompt
  | width
  | height
  | size
  | aspectRatio
  | steps
  | cfg
  | seed
  | imageUrls
  deriving DecidableEq, Repr, Inhabited

namespace ParamKey

/-- All keys in their declared order. -/
def all : List ParamKey :=
  [.prompt, .width, .height, .size, .aspectRatio, .steps, .cfg, .seed, .imageUrls]

/-- The key's name in a parameter object (`ParamKey::as_str`). -/
def name : ParamKey → String
  | .prompt => "prompt"
  | .width => "width"
  | .height => "height"
  | .size => "size"
  | .aspectRatio => "aspectRatio"
  | .steps => "steps"
  | .cfg => "cfg"
  | .seed => "seed"
  | .imageUrls => "imageUrls"

/-- The key with a given name, if any (`ParamKey::from_name`). -/
def ofName? (s : String) : Option ParamKey := all.find? (·.name == s)

/-- The position of the key in the declared order. -/
def rank : ParamKey → Nat
  | .prompt => 0
  | .width => 1
  | .height => 2
  | .size => 3
  | .aspectRatio => 4
  | .steps => 5
  | .cfg => 6
  | .seed => 7
  | .imageUrls => 8

theorem ofName?_name (k : ParamKey) : ofName? k.name = some k := by
  cases k <;> decide

end ParamKey

end ImageStudio
