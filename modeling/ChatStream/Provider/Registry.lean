import ChatStream.Provider.Basic

/-! # The provider registry

Providers are looked up by API name. A registry maps each name to a factory that builds the
provider for a base URL (empty for the vendor's default endpoint); registering a name again
replaces its factory. The built-in registry knows the three network APIs; the generate-content
factory takes its project and region from the environment, given here as arguments.
-/

namespace ChatStream

abbrev Factory := String → Provider

/-- Factories by API name, in the order the names were first registered. -/
structure Registry where
  factories : List (String × Factory) := []

namespace Registry

/-- Register a factory, replacing any factory of the same name. -/
def register (r : Registry) (api : String) (f : Factory) : Registry :=
  if r.factories.any (·.1 == api) then
    { factories := r.factories.map fun (k, g) => if k == api then (k, f) else (k, g) }
  else { factories := r.factories ++ [(api, f)] }

/-- The provider of a name for a base URL, if the name is registered. -/
def get (r : Registry) (api base : String) : Option Provider :=
  (r.factories.find? (·.1 == api)).map fun (_, f) => f base

def has (r : Registry) (api : String) : Bool := r.factories.any (·.1 == api)

/-- The registered names, sorted. -/
def apis (r : Registry) : List String := (r.factories.map (·.1)).mergeSort (· ≤ ·)

/-- The registry of the three network APIs; the generate-content provider uses the given project
and region. -/
def withBuiltins (project location : String) : Registry :=
  (({} : Registry).register Vendor.OpenAi.api Provider.openAiAt
    |>.register Vendor.Vertex.api fun base => Provider.vertexAt base project location)
    |>.register Vendor.Anthropic.api Provider.anthropicAt

end Registry

end ChatStream
