import ImageStudio.Params.Runtime
import ImageStudio.Port.Error

/-!
# Provider · Rules: image providers that answer from a table

An image provider turns a model and its parameters into an image URL, with the image's
dimensions when it states them. The providers of this library answer from a table of
rules, which makes a run of the service reproducible without a network: the first rule
whose conditions hold answers; without one, the provider's fallback answers; a provider
without a fallback refuses with `no scripted response`.

A rule's conditions are on the prompt, the seed and the model; a condition that is not
given always holds.
-/

namespace ImageStudio

/-- A provider's image: a link or a data URL, with the dimensions it states. -/
structure ProviderImage where
  url : String
  width : Option Nat := none
  height : Option Nat := none
  deriving DecidableEq, Repr, Inhabited

/-- A provider's answer to one request. -/
abbrev ProviderAnswer := Except PortError ProviderImage

/-- The conditions of a rule. -/
structure RuleCondition where
  prompt : Option String := none
  seed : Option Int := none
  model : Option String := none
  deriving DecidableEq, Repr, Inhabited

/-- Whether a request meets the conditions. -/
def RuleCondition.holds (c : RuleCondition) (model : String) (p : ImageParams) : Bool :=
  c.prompt.all (· == p.prompt) && c.seed.all (some · == p.seed) && c.model.all (· == model)

/-- A rule: conditions and the answer they lead to. -/
structure ProviderRule where
  condition : RuleCondition
  answer : ProviderAnswer
  deriving Repr, Inhabited

/-- A named provider. -/
structure Provider where
  name : String
  rules : List ProviderRule := []
  fallback : Option ProviderAnswer := none
  deriving Repr, Inhabited

namespace Provider

/-- The answer of a provider to a request. -/
def answer (p : Provider) (model : String) (params : ImageParams) : ProviderAnswer :=
  match p.rules.find? (·.condition.holds model params) with
  | some r => r.answer
  | none => p.fallback.getD (.error (.unexpected "no scripted response"))

end Provider

/-- A request made to a provider. -/
structure ProviderCall where
  provider : String
  model : String
  params : ImageParams
  deriving Repr, Inhabited

end ImageStudio
