import ChatStream.Cli.Args
import ChatStream.Cli.Select
import ChatStream.Cli.Image
import ChatStream.Cli.Batch

/-! # One run of the command line

A run reads its arguments, takes the prompt (the argument unless blank, else standard input
trimmed unless blank), loads the images, reads the configuration file, chooses the provider, and
prints the stream. Everything it looks at is in `Host`: the environment, a snapshot of the files,
standard input, the network's answers and the time the stream took.

Exit codes: 0 after a stream without error, 1 after an error event, 130 after a cancellation, 2
when the arguments, the prompt, an image or the choice of provider is refused. `--help` and
`--version` print to standard output and exit with 0.
-/

namespace ChatStream.Cli

/-- What a run can see of its surroundings. -/
structure Host where
  env : Env := {}
  files : Files := {}
  /-- Standard input, or none when it is a terminal. -/
  stdin : Option String := none
  /-- What the network answers, request by request. -/
  network : List Http.Answer := []
  /-- The time the stream took, for the summary line. -/
  elapsedMs : Nat := 0

/-- What a run prints and its exit code. -/
structure RunOutput where
  code : Nat
  stdout : String := ""
  stderr : String := ""
  deriving Repr, DecidableEq

/-- A refusal: a message on standard error and exit code 2. -/
def refusal (message : String) : RunOutput := { code := 2, stderr := "error: " ++ message ++ "\n" }

/-- `path` under `base`, as a path join writes it. -/
def joinPath (base path : String) : String :=
  if base.isEmpty then path
  else if base.endsWith "/" then base ++ path else base ++ "/" ++ path

/-- Where the configuration file lives: under `XDG_CONFIG_HOME`, else under `HOME`'s `.config`,
else under `.config` of the working directory. -/
def configPath (env : Env) : String :=
  match env.get "XDG_CONFIG_HOME" with
  | some dir => joinPath dir "llmux/config.toml"
  | none => joinPath ((env.get "HOME").getD ".") ".config/llmux/config.toml"

/-- The prompt: the argument unless it is blank, else standard input, trimmed, unless blank. -/
def readPrompt (arg stdin : Option String) : Option String :=
  match arg.filter (!Text.isBlank ·) with
  | some p => some p
  | none => (stdin.filter (!Text.isBlank ·)).map Text.trim

/-- The context of a prompt with its images and system prompt. -/
def promptContext (prompt : String) (images : List ImageData) (system : Option String) : Context :=
  { systemPrompt := system, messages := [{ role := .user, content := prompt, images }] }

/-- Run with arguments that have been read. -/
def runArgs (h : Host) (a : Args) : RunOutput :=
  match readPrompt a.prompt h.stdin with
  | none => refusal "no prompt given (pass it as an argument or on stdin)"
  | some prompt =>
    match a.images.mapM (loadImage h.files) with
    | .error e => refusal e
    | .ok images =>
      let config := Config.load (h.files.readText (configPath h.env))
      let registry := configureRegistry (builtinRegistry h.env) config.backend h.env
      let (registry, api) := if a.mock then (registerEcho registry prompt, some mockApi)
        else (registry, a.api)
      match select registry config.backend h.env api a.model with
      | .error e => refusal e
      | .ok sel =>
        let options : Vendor.StreamOptions :=
          { apiKey := sel.apiKey, maxTokens := a.maxTokens, temperature := a.temperature,
            queueCapacity := config.transport.queueCapacity,
            transport := config.transport.transportConfig }
        let t := sel.provider.stream sel.model (promptContext prompt images a.system) options h.network
        let (o, code) := runBatch h.elapsedMs t.events
        { code, stdout := o.out, stderr := o.err }

/-- Run the command line with its arguments (the program's name not among them). -/
def run (h : Host) (argv : List String) : RunOutput :=
  match parseArgs argv with
  | .help => { code := 0, stdout := helpText }
  | .version => { code := 0, stdout := versionText }
  | .refuse text => { code := 2, stderr := text }
  | .run a => runArgs h a

end ChatStream.Cli
