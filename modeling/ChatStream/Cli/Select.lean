import ChatStream.Cli.Config
import ChatStream.Provider.Registry

/-! # Choosing a provider

The command line picks an API (the one asked for, else the configured default), builds its
provider for the configured base URL, and takes the model asked for, else the configured one; the
mock API needs no configuration and is called `mock`. The key comes from the configured
environment variable.

A configured generate-content project or region replaces the environment-based factory; an echo
prompt registers a mock provider that answers with the prompt, one piece per word, 20 ms apart.
-/

namespace ChatStream.Cli

/-- The registry with the built-in providers, the generate-content one taking its project and
region from the environment. -/
def builtinRegistry (env : Env) : Registry :=
  Registry.withBuiltins ((env.get "GOOGLE_CLOUD_PROJECT").getD "")
    ((env.get "GOOGLE_CLOUD_LOCATION").getD "")

/-- Apply the configuration that changes how built-in providers are made. -/
def configureRegistry (r : Registry) (b : BackendConfig) (env : Env) : Registry :=
  if b.vertex.project.isNone && b.vertex.location.isNone then r
  else
    let project := (b.vertex.project <|> env.get "GOOGLE_CLOUD_PROJECT").getD ""
    let location := (b.vertex.location <|> env.get "GOOGLE_CLOUD_LOCATION").getD ""
    r.register Vendor.Vertex.api fun base => Provider.vertexAt base project location

/-- Register a mock provider that echoes a prompt. -/
def registerEcho (r : Registry) (prompt : String) : Registry :=
  r.register mockApi fun _ => .mock { MockScript.echo prompt with chunkDelayMs := some 20 }

structure Selection where
  provider : Provider
  model : String
  apiKey : Option String

/-- Choose the provider for an API (or the default), with a model and key. -/
def select (r : Registry) (b : BackendConfig) (env : Env) (api model : Option String) :
    Except String Selection := do
  let api := api.getD b.default
  let resolved := b.resolve api
  let available := ", ".intercalate r.apis
  let provider ← match r.get api ((resolved.map (·.baseUrl)).getD "") with
    | some p => pure p
    | none => throw s!"unknown api '{api}' (available: {available})"
  let model ← match model, resolved with
    | some m, _ => pure m
    | none, some res => pure res.model
    | none, none =>
      if api == mockApi then pure "mock" else throw s!"no model configured for '{api}', pass --model"
  pure ⟨provider, model, resolved.bind (·.apiKey env)⟩

end ChatStream.Cli
