import ChatStream.Cli.Run

/-! # The program

`main` gathers what a run looks at and prints what the run gives. A run looks at its arguments,
standard input (unless it is a terminal), the environment variables it reads, the configuration
file and the images it names. There is no network client, so every vendor endpoint is
unreachable and a call to one ends in a transport error. The mock API works fully. The stream
is produced at once, so the summary line shows no elapsed time.
-/

namespace ChatStream.Cli

/-- The environment variables a run may read under a configuration. -/
def variablesRead (c : Config) : List String :=
  ["XDG_CONFIG_HOME", "HOME", "GOOGLE_CLOUD_PROJECT", "GOOGLE_CLOUD_LOCATION", "OPENAI_API_KEY",
    "ANTHROPIC_API_KEY", "GOOGLE_CLOUD_ACCESS_TOKEN"] ++
    [c.backend.openai.apiKeyEnv, c.backend.anthropic.apiKeyEnv, c.backend.vertex.apiKeyEnv].filterMap id

def imagesNamed (argv : List String) : List String :=
  match parseArgs argv with
  | .run a => a.images
  | _ => []

def readVariables (names : List String) : IO Env := do
  let vars ← names.filterMapM fun n => do pure ((← IO.getEnv n).map (n, ·))
  pure ⟨vars⟩

/-- What a path holds, as reading it tells: a file's bytes, a directory, or nothing. -/
def readEntry (path : String) : IO (Option Entry) := do
  try
    pure (some (.file (← IO.FS.readBinFile path)))
  catch e =>
    match e with
    | .inappropriateType _ 21 _ => pure (some .directory)
    | _ => pure none

/-- Snapshot the files at some paths, relative ones taken from the working directory. -/
def readFiles (paths : List String) : IO Files := do
  let cwd := (← IO.currentDir).toString
  let entries ← paths.filterMapM fun p => do
    let key := if p.startsWith "/" then p else joinPath cwd p
    pure ((← readEntry p).map (key, ·))
  pure { cwd, entries }

/-- Whether a run of these arguments reads standard input: only for want of a prompt. -/
def readsStdin (argv : List String) : Bool :=
  match parseArgs argv with
  | .run a => (a.prompt.filter (!Text.isBlank ·)).isNone
  | _ => false

end ChatStream.Cli

def main (argv : List String) : IO UInt32 := do
  let input ← IO.getStdin
  let stdin ← if ChatStream.Cli.readsStdin argv && !(← input.isTty) then some <$> input.readToEnd
    else pure none
  let home ← ChatStream.Cli.readVariables ["XDG_CONFIG_HOME", "HOME"]
  let path := ChatStream.Cli.configPath home
  let config := ChatStream.Cli.Config.load ((← ChatStream.Cli.readFiles [path]).readText path)
  let env ← ChatStream.Cli.readVariables (ChatStream.Cli.variablesRead config)
  let files ← ChatStream.Cli.readFiles (ChatStream.Cli.configPath env :: ChatStream.Cli.imagesNamed argv)
  let out := ChatStream.Cli.run { env, files, stdin } argv
  IO.print out.stdout
  IO.eprint out.stderr
  pure out.code.toUInt32
