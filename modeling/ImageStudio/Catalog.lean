import ImageStudio.Params.Schema

/-!
# Catalog: which models can be requested

A model card names a provider, a model id, a display name and the model's parameter schema.
The catalog holds cards keyed by provider and model id, in that order; registering a card
with a key already present replaces the old card. The service ships four cards: two image
models of fal.ai and two of OpenAI.
-/

namespace ImageStudio

/-- A requestable model. -/
structure ModelCard where
  provider : String
  id : String
  displayName : String
  schema : ParamsSchema
  deriving Repr, Inhabited

/-- The cards, ordered by provider and then model id (`ModelCatalog`). -/
structure Catalog where
  cards : List ModelCard := []
  deriving Repr, Inhabited

namespace Catalog

/-- Whether the key `(p, i)` sorts before `(p', i')`. -/
def keyLt (p i p' i' : String) : Bool := p < p' || (p == p' && i < i')

/-- Inserts a card in key order, replacing a card with the same key. -/
def insertCard (c : ModelCard) : List ModelCard → List ModelCard
  | [] => [c]
  | d :: rest =>
    if keyLt c.provider c.id d.provider d.id then c :: d :: rest
    else if c.provider == d.provider && c.id == d.id then c :: rest
    else d :: insertCard c rest

/-- Adds a card (`ModelCatalog::register`). -/
def register (cat : Catalog) (c : ModelCard) : Catalog := ⟨insertCard c cat.cards⟩

/-- The card of a provider's model (`ModelCatalog::find`). -/
def find? (cat : Catalog) (provider model : String) : Option ModelCard :=
  cat.cards.find? fun c => c.provider == provider && c.id == model

/-- A whole-number double. -/
def whole (n : Nat) : Double := (Double.ofNat n).getD Double.zero

/-- A spec with an integer default and integer bounds. -/
def boundedSpec (dflt lo hi : Nat) (step : Option Double) : ParamSpec :=
  { default := some (Json.ofInt dflt), minimum := some (whole lo), maximum := some (whole hi),
    step := step }

/-- A spec whose only declaration is a default. -/
def defaultSpec (v : Json) : ParamSpec := { default := some v }

/-- Width, height and seed as the FLUX models declare them. -/
def fluxFrame : List (ParamKey × ParamSpec) :=
  [(.prompt, defaultSpec (.str "")),
   (.width, boundedSpec 1024 512 1536 (some (whole 1))),
   (.height, boundedSpec 1024 512 1536 (some (whole 1)))]

/-- FLUX.1 [schnell] on fal.ai. -/
def fluxSchnell : ModelCard :=
  { provider := "fal", id := "flux/schnell", displayName := "FLUX.1 [schnell]"
    schema := ⟨fluxFrame ++
      [(.steps, boundedSpec 4 1 12 none), (.seed, defaultSpec .null)]⟩ }

/-- FLUX.1 [dev] on fal.ai. -/
def fluxDev : ModelCard :=
  { provider := "fal", id := "flux/dev", displayName := "FLUX.1 [dev]"
    schema := ⟨fluxFrame ++
      [(.steps, boundedSpec 28 1 50 none),
       (.cfg, { default := (Double.ofRatio false 7 2).map (fun d => Json.num (.float d)),
                minimum := some (whole 1), maximum := some (whole 20),
                step := Double.ofRatio false 1 10 }),
       (.seed, defaultSpec .null),
       (.imageUrls, defaultSpec (.arr []))]⟩ }

/-- GPT Image 1 on OpenAI. -/
def gptImage : ModelCard :=
  { provider := "openai", id := "gpt-image-1", displayName := "GPT Image 1"
    schema := ⟨[(.prompt, defaultSpec (.str "")),
      (.size, { default := some (.str "auto")
                allowed := some ["auto", "1024x1024", "1536x1024", "1024x1536"] }),
      (.imageUrls, defaultSpec (.arr []))]⟩ }

/-- DALL·E 3 on OpenAI. -/
def dallE3 : ModelCard :=
  { provider := "openai", id := "dall-e-3", displayName := "DALL·E 3"
    schema := ⟨[(.prompt, defaultSpec (.str "")),
      (.size, { default := some (.str "1024x1024")
                allowed := some ["1024x1024", "1792x1024", "1024x1792"] })]⟩ }

/-- The models shipped with the service (`ModelCatalog::builtin`). -/
def builtin : Catalog :=
  [fluxSchnell, fluxDev, gptImage, dallE3].foldl register {}

/-- The catalog entry of a card: provider, id, display name and schema summary. -/
def cardJson (c : ModelCard) : Json :=
  Json.mkObj [("provider", .str c.provider), ("id", .str c.id),
    ("displayName", .str c.displayName), ("schema", c.schema.summary)]

end Catalog

end ImageStudio
