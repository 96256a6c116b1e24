import ChatStream.Text.Space
import ChatStream.Url.Basic

/-! # Vendor endpoints

Where each vendor's API lives. The adapters append their own `/v1/...` paths, so a base URL
given as `http://host/v1` (the form many servers document) is cut back to `http://host`; a base
with any other path is kept exactly as given, and so is one that is not a URL at all. An empty
base selects the vendor's public endpoint.

The generate-content vendor is regional: its default endpoint names the location, and its base
URL is used as given, less trailing slashes.
-/

namespace ChatStream.Vendor

/-- Drop a base URL's path when it is exactly `/v1` (trailing slashes aside). The URL is read
after trimming white space; anything that does not read as a URL, or has another path, is
returned unchanged. -/
def normalizeBaseUrl (base : String) : String :=
  match Url.parse (Text.trim base) with
  | none => base
  | some u =>
    if Text.trimEndChar u.pathText '/' != "/v1" then base
    else Text.trimEndChar u.clearPath.render '/'

/-- The public chat-completions endpoint. -/
def openAiDefaultBase : String := "https://api.openai.com"

def anthropicDefaultBase : String := "https://api.anthropic.com"

/-- The region used when none is given. -/
def defaultLocation : String := "us-central1"

/-- The base URL of the chat-completions adapter. -/
def openAiBase (base : String) : String :=
  let url := normalizeBaseUrl base
  if url.isEmpty then openAiDefaultBase else url

/-- The base URL of the messages adapter. -/
def anthropicBase (base : String) : String :=
  let url := normalizeBaseUrl base
  if url.isEmpty then anthropicDefaultBase else url

/-- The region of the generate-content adapter. -/
def vertexLocation (location : String) : String :=
  if location.isEmpty then defaultLocation else location

/-- The base URL of the generate-content adapter for a (resolved) region. -/
def vertexBase (base location : String) : String :=
  let url := Text.trimEndChar base '/'
  if url.isEmpty then "https://" ++ location ++ "-aiplatform.googleapis.com/v1" else url

example : normalizeBaseUrl "http://h:8000/v1/" = "http://h:8000" := by decide +kernel

end ChatStream.Vendor
