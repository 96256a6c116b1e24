import Mathlib
import ChatStream.Vendor.OpenAi
import ChatStream.Vendor.Anthropic
import ChatStream.Vendor.Vertex

/-! # What a request carries of the conversation

Each adapter turns the conversation into its vendor's messages: the chat-completions adapter
into a list of role-tagged messages, several for a turn with tool results (`OpenAi.messagesOf`),
the messages adapter into one message of content blocks per turn (`Anthropic.messageJson`), the
generate-content adapter into one content of parts per turn. Each section below reads back, from
the JSON an adapter builds, what its vendor sees of the tool calls, the tool results and the
images (`callsOf`, `resultsOf`, `imagesOf`), first for one turn and then for the conversation.

Main statements:
* `requests_carry_tool_traffic`: the chat-completions and generate-content requests carry every
  tool call of an assistant turn, every tool result of a user turn (its error marked exactly when
  it is one) and every image of a user turn and of its tool results, the tool results' images
  first, each once and in order. The messages request does the same for every turn that carries
  no tool call of its own; a turn that does is sent as its text and tool calls only.
* `user_tool_calls_drop_results`: a user turn with a tool call and a tool result loses the
  result in the messages request.
-/

namespace ChatStream

/-- A member of an object that is a string. -/
def Json.str? (j : Json) (key : String) : Option String :=
  match j.get? key with
  | some (.str s) => some s
  | _ => none

/-- The items of a member of an object that is an array; none if it is not one. -/
def Json.items (j : Json) (key : String) : List Json :=
  match j.get? key with
  | some (.arr xs) => xs
  | _ => []

/-- The images of a user turn in the order they are sent: those of its tool results, then its
own. -/
def ConversationMessage.allImages (m : ConversationMessage) : List ImageData :=
  m.toolResults.flatMap (·.images) ++ m.images

theorem flatMap_zipIdx_fst {α β : Type} (l : List α) (f : α → Nat → List β) (g : α → List β)
    (h : ∀ a i, f a i = g a) : l.zipIdx.flatMap (fun p => f p.1 p.2) = l.flatMap g := by
  calc l.zipIdx.flatMap (fun p => f p.1 p.2)
      _ = (l.zipIdx.map Prod.fst).flatMap g := by simp only [h, List.flatMap_map]
      _ = l.flatMap g := by rw [List.zipIdx_map_fst]

/-! ## Chat completions -/

namespace Vendor.OpenAi

/-- The turn the caching hint marks, if any. -/
def cachedUser (ctx : Context) : Option Nat :=
  if ctx.cacheHint == .ephemeral then ctx.lastUserIndex else none

/-- The system message: none for an absent or empty prompt. -/
def systemMessages (ctx : Context) : List Json :=
  match ctx.systemPrompt with
  | some s =>
    if s.isEmpty then []
    else [Json.obj [("role", .str "system"),
      ("content", if ctx.cacheHint == .ephemeral then .arr [textPart s true] else .str s)]]
  | none => []

/-- The messages one turn becomes; `cache` marks the cached turn. -/
def messagesOf (m : ConversationMessage) (cache : Bool) : List Json :=
  match m.role with
  | .assistant => [assistantMessage m]
  | .user => if !m.toolResults.isEmpty then toolResultMessages m else [userMessage m cache]

theorem buildMessages_eq (ctx : Context) :
    buildMessages ctx = systemMessages ctx ++
      ctx.messages.zipIdx.flatMap fun p => messagesOf p.1 (cachedUser ctx == some p.2) :=
  rfl

/-- The tool calls a message carries: the id and the function name of each. -/
def callsOf (j : Json) : List (Option String × Option String) :=
  (j.items "tool_calls").map fun c => (c.str? "id", (c.get? "function").bind (·.str? "name"))

/-- The tool result a `tool` message carries: the call it answers and its text. -/
def resultsOf (j : Json) : List (Option String × Option String) :=
  if j.str? "role" = some "tool" then [(j.str? "tool_call_id", j.str? "content")] else []

/-- The URLs of the image parts among some parts. -/
def imageUrls (parts : List Json) : List (Option String) :=
  parts.filterMap fun p =>
    if p.str? "type" = some "image_url" then some ((p.get? "image_url").bind (·.str? "url")) else none

/-- The images a message carries: the URL of each of its image parts. -/
def imagesOf (j : Json) : List (Option String) := imageUrls (j.items "content")

/-- A tool result's text as a `tool` message sends it: an error is marked by a prefix. -/
def resultText (r : ToolResultRecord) : String :=
  if r.isError then "Error: " ++ r.content else r.content

@[simp] theorem imageUrls_nil : imageUrls [] = [] := rfl

@[simp] theorem imageUrls_append (ps qs : List Json) :
    imageUrls (ps ++ qs) = imageUrls ps ++ imageUrls qs :=
  List.filterMap_append

@[simp] theorem imageUrls_textPart (t : String) (cache : Bool) (ps : List Json) :
    imageUrls (textPart t cache :: ps) = imageUrls ps := by
  cases cache <;> simp [imageUrls, textPart, Json.str?, Json.get?]

@[simp] theorem imageUrls_imageParts (images : List ImageData) :
    imageUrls (images.map imagePart) = images.map fun i => some i.dataUrl := by
  simp [imageUrls, imagePart, Json.str?, Json.get?, List.filterMap_map]

/-! ### One turn -/

/-- The `tool` message of a tool result. -/
def toolMessage (r : ToolResultRecord) : Json :=
  .obj [("role", .str "tool"), ("tool_call_id", .str r.toolUseId), ("content", .str (resultText r))]

/-- The parts of the user message that follows a turn's tool messages: the tools' images under a
heading, the user's text and the user's images. -/
def followUpParts (m : ConversationMessage) : List Json :=
  let images := m.toolResults.flatMap fun r => r.images.map imagePart
  (if images.isEmpty then [] else textPart "Images returned by the tool call above:" false :: images) ++
    (if m.content.isEmpty then [] else [textPart m.content false]) ++
    m.images.map imagePart

/-- The user message that follows a turn's tool messages. -/
def followUpMessage (m : ConversationMessage) : Json :=
  .obj [("role", .str "user"), ("content", .arr (followUpParts m))]

theorem toolResultMessages_eq (m : ConversationMessage) :
    toolResultMessages m = m.toolResults.map toolMessage ++
      if (followUpParts m).isEmpty then [] else [followUpMessage m] :=
  rfl

theorem imageUrls_followUpParts (m : ConversationMessage) :
    imageUrls (followUpParts m) = m.allImages.map fun i => some i.dataUrl := by
  have himages : m.toolResults.flatMap (fun r => r.images.map imagePart) =
      (m.toolResults.flatMap (·.images)).map imagePart := by
    simp [List.map_flatMap]
  simp only [followUpParts, himages, ConversationMessage.allImages]
  split <;> split <;> simp_all

@[simp] theorem callsOf_assistantMessage (m : ConversationMessage) :
    callsOf (assistantMessage m) = m.toolUses.map fun t => (some t.id, some t.name) := by
  cases h : m.toolUses with
  | nil => simp [assistantMessage, h, callsOf, Json.items, Json.get?]
  | cons t ts => simp [assistantMessage, h, callsOf, Json.items, Json.get?, Json.str?]

@[simp] theorem resultsOf_assistantMessage (m : ConversationMessage) :
    resultsOf (assistantMessage m) = [] := by
  cases h : m.toolUses <;> by_cases hc : m.content.isEmpty <;>
    simp [assistantMessage, h, hc, resultsOf, Json.str?, Json.get?]

@[simp] theorem imagesOf_assistantMessage (m : ConversationMessage) :
    imagesOf (assistantMessage m) = [] := by
  cases h : m.toolUses <;> by_cases hc : m.content.isEmpty <;>
    simp [assistantMessage, h, hc, imagesOf, Json.items, Json.get?]

@[simp] theorem callsOf_userMessage (m : ConversationMessage) (cache : Bool) :
    callsOf (userMessage m cache) = [] := by
  unfold userMessage
  split <;> simp [callsOf, Json.items, Json.get?]

@[simp] theorem resultsOf_userMessage (m : ConversationMessage) (cache : Bool) :
    resultsOf (userMessage m cache) = [] := by
  unfold userMessage
  split <;> simp [resultsOf, Json.str?, Json.get?]

@[simp] theorem imagesOf_userMessage (m : ConversationMessage) (cache : Bool) :
    imagesOf (userMessage m cache) = m.images.map fun i => some i.dataUrl := by
  unfold userMessage
  split
  · rename_i h
    simp [imagesOf, Json.items, Json.get?, List.isEmpty_iff.mp (Bool.and_eq_true _ _ ▸ h).1]
  · simp [imagesOf, Json.items, Json.get?]

@[simp] theorem callsOf_toolMessage (r : ToolResultRecord) : callsOf (toolMessage r) = [] := by
  simp [callsOf, toolMessage, Json.items, Json.get?]

@[simp] theorem resultsOf_toolMessage (r : ToolResultRecord) :
    resultsOf (toolMessage r) = [(some r.toolUseId, some (resultText r))] := by
  simp [resultsOf, toolMessage, Json.str?, Json.get?]

@[simp] theorem imagesOf_toolMessage (r : ToolResultRecord) : imagesOf (toolMessage r) = [] := by
  simp [imagesOf, toolMessage, Json.items, Json.get?]

@[simp] theorem callsOf_followUpMessage (m : ConversationMessage) :
    callsOf (followUpMessage m) = [] := by
  simp [callsOf, followUpMessage, Json.items, Json.get?]

@[simp] theorem resultsOf_followUpMessage (m : ConversationMessage) :
    resultsOf (followUpMessage m) = [] := by
  simp [resultsOf, followUpMessage, Json.str?, Json.get?]

@[simp] theorem imagesOf_followUpMessage (m : ConversationMessage) :
    imagesOf (followUpMessage m) = m.allImages.map fun i => some i.dataUrl := by
  simp [imagesOf, followUpMessage, Json.items, Json.get?, imageUrls_followUpParts]

theorem callsOf_messagesOf (m : ConversationMessage) (cache : Bool) :
    (messagesOf m cache).flatMap callsOf =
      if m.role = .assistant then m.toolUses.map (fun t => (some t.id, some t.name)) else [] := by
  cases hr : m.role with
  | user =>
    by_cases hres : m.toolResults = []
    · simp [messagesOf, hr, hres]
    · simp [messagesOf, hr, hres, toolResultMessages_eq]
  | assistant => simp [messagesOf, hr]

theorem resultsOf_messagesOf (m : ConversationMessage) (cache : Bool) :
    (messagesOf m cache).flatMap resultsOf =
      if m.role = .user then m.toolResults.map (fun r => (some r.toolUseId, some (resultText r)))
      else [] := by
  cases hr : m.role with
  | user =>
    by_cases hres : m.toolResults = []
    · simp [messagesOf, hr, hres]
    · by_cases hparts : followUpParts m = [] <;>
        simp [messagesOf, hr, hres, toolResultMessages_eq, hparts, List.flatMap_map,
          ← List.map_eq_flatMap]
  | assistant => simp [messagesOf, hr]

theorem imagesOf_messagesOf (m : ConversationMessage) (cache : Bool) :
    (messagesOf m cache).flatMap imagesOf =
      if m.role = .user then m.allImages.map (fun i => some i.dataUrl) else [] := by
  cases hr : m.role with
  | user =>
    by_cases hres : m.toolResults = []
    · simp [messagesOf, hr, hres, ConversationMessage.allImages]
    · by_cases hparts : followUpParts m = []
      · -- no follow-up message: then the turn has no image at all
        have hnone : m.allImages.map (fun i => some i.dataUrl) = [] := by
          rw [← imageUrls_followUpParts, hparts, imageUrls_nil]
        simp [messagesOf, hr, hres, toolResultMessages_eq, hparts, List.flatMap_map, hnone]
      · simp [messagesOf, hr, hres, toolResultMessages_eq, hparts, List.flatMap_map]
  | assistant => simp [messagesOf, hr]

/-! ### The conversation -/

theorem systemMessages_views (ctx : Context) :
    (systemMessages ctx).flatMap callsOf = [] ∧ (systemMessages ctx).flatMap resultsOf = [] ∧
      (systemMessages ctx).flatMap imagesOf = [] := by
  unfold systemMessages
  split
  · split
    · simp
    · split <;> simp [callsOf, resultsOf, imagesOf, Json.items, Json.str?, Json.get?]
  · simp

/-- A view of the messages of a request that the system message adds nothing to is the views
of the turns, in order. -/
theorem flatMap_buildMessages {β : Type} (v : Json → List β) (g : ConversationMessage → List β)
    (ctx : Context) (hsys : (systemMessages ctx).flatMap v = [])
    (hturn : ∀ m cache, (messagesOf m cache).flatMap v = g m) :
    (buildMessages ctx).flatMap v = ctx.messages.flatMap g := by
  rw [buildMessages_eq, List.flatMap_append, hsys, List.nil_append, List.flatMap_assoc]
  exact flatMap_zipIdx_fst ctx.messages
    (fun m i => (messagesOf m (cachedUser ctx == some i)).flatMap v) g fun m _ => hturn m _

end Vendor.OpenAi

/-! ## Messages -/

namespace Vendor.Anthropic

/-- The turn the caching hint marks, if any. -/
def cachedUser (ctx : Context) : Option Nat :=
  match ctx.cacheHint with
  | .ephemeral => ctx.lastUserIndex
  | .none => none

/-- The message one turn becomes; `cache` marks the cached turn. -/
def messageJson (m : ConversationMessage) (cache : Bool) : Json :=
  .obj [("role", .str (match m.role with | .user => "user" | .assistant => "assistant")),
    ("content", messageContent m cache)]

theorem buildMessages_eq (ctx : Context) :
    buildMessages ctx = ctx.messages.zipIdx.map fun p => messageJson p.1 (cachedUser ctx == some p.2) :=
  rfl

/-- The blocks of a given type among some blocks. -/
def blocksOfType (type : String) (bs : List Json) : List Json :=
  bs.filter (·.str? "type" == some type)

/-- Whether a tool-result block is flagged as an error. -/
def errorFlag (b : Json) : Bool :=
  match b.get? "is_error" with
  | some (.bool true) => true
  | _ => false

/-- The tool calls a message carries: the id and the name of each `tool_use` block. -/
def callsOf (j : Json) : List (Option String × Option String) :=
  (blocksOfType "tool_use" (j.items "content")).map fun b => (b.str? "id", b.str? "name")

/-- The tool results a message carries: for each `tool_result` block, the call it answers, the
texts of its content and its error flag. -/
def resultsOf (j : Json) : List (Option String × List (Option String) × Bool) :=
  (blocksOfType "tool_result" (j.items "content")).map fun b =>
    (b.str? "tool_use_id", (blocksOfType "text" (b.items "content")).map (·.str? "text"), errorFlag b)

/-- The media type and data of each image block among some blocks. -/
def imageSources (bs : List Json) : List (Option String × Option String) :=
  (blocksOfType "image" bs).map fun b =>
    ((b.get? "source").bind (·.str? "media_type"), (b.get? "source").bind (·.str? "data"))

/-- The images a message carries: its image blocks and those inside its tool results, in order. -/
def imagesOf (j : Json) : List (Option String × Option String) :=
  (j.items "content").flatMap fun b => imageSources (b :: b.items "content")

/-! ### One turn -/

def toolUseBlock (tu : ToolUseRecord) : Json :=
  .obj [("type", .str "tool_use"), ("id", .str tu.id), ("name", .str tu.name), ("input", tu.inputValue)]

/-- The block of a tool result: its text and its images, flagged if it is an error. -/
def toolResultBlock (r : ToolResultRecord) : Json :=
  .obj ([("type", .str "tool_result"), ("tool_use_id", .str r.toolUseId),
    ("content", .arr (textBlock r.content :: r.images.map imageBlock))] ++
    if r.isError then [("is_error", .bool true)] else [])

/-- A turn's content: its text and tool calls when it has tool calls, else its tool results, text
and images when it has tool results, else its images and text. -/
theorem messageContent_eq (m : ConversationMessage) (cache : Bool) :
    messageContent m cache =
      if !m.toolUses.isEmpty then
        .arr ((if m.content.isEmpty then [] else [textBlock m.content]) ++ m.toolUses.map toolUseBlock)
      else if !m.toolResults.isEmpty then
        .arr (m.toolResults.map toolResultBlock ++
          (if m.content.isEmpty then [] else [textBlock m.content]) ++ m.images.map imageBlock)
      else if m.images.isEmpty && !cache then .str m.content
      else .arr (m.images.map imageBlock ++ [textBlock m.content cache]) :=
  rfl

@[simp] theorem blocksOfType_nil (type : String) : blocksOfType type [] = [] := rfl

@[simp] theorem blocksOfType_cons (type : String) (b : Json) (bs : List Json) :
    blocksOfType type (b :: bs) =
      if b.str? "type" = some type then b :: blocksOfType type bs else blocksOfType type bs := by
  by_cases h : b.str? "type" = some type <;> simp [blocksOfType, h]

@[simp] theorem blocksOfType_append (type : String) (bs cs : List Json) :
    blocksOfType type (bs ++ cs) = blocksOfType type bs ++ blocksOfType type cs :=
  List.filter_append _ _

@[simp] theorem type_textBlock (t : String) (cache : Bool) :
    (textBlock t cache).str? "type" = some "text" := by
  cases cache <;> simp [textBlock, Json.str?, Json.get?]

@[simp] theorem type_imageBlock (i : ImageData) : (imageBlock i).str? "type" = some "image" := by
  simp [imageBlock, Json.str?, Json.get?]

@[simp] theorem type_toolUseBlock (tu : ToolUseRecord) :
    (toolUseBlock tu).str? "type" = some "tool_use" := by
  simp [toolUseBlock, Json.str?, Json.get?]

@[simp] theorem type_toolResultBlock (r : ToolResultRecord) :
    (toolResultBlock r).str? "type" = some "tool_result" := by
  cases h : r.isError <;> simp [toolResultBlock, h, Json.str?, Json.get?]

theorem blocksOfType_map {α : Type} (type : String) (f : α → Json) (l : List α)
    (hf : ∀ a, (f a).str? "type" = some type) : blocksOfType type (l.map f) = l.map f := by
  simp [blocksOfType, List.filter_map, Function.comp_def, hf]

theorem blocksOfType_map_other {α : Type} (type : String) (f : α → Json) (l : List α)
    (hf : ∀ a, (f a).str? "type" ≠ some type) : blocksOfType type (l.map f) = [] := by
  simp [blocksOfType, List.filter_map, Function.comp_def, hf]

@[simp] theorem items_content_textBlock (t : String) (cache : Bool) :
    (textBlock t cache).items "content" = [] := by
  cases cache <;> simp [textBlock, Json.items, Json.get?]

@[simp] theorem items_content_imageBlock (i : ImageData) : (imageBlock i).items "content" = [] := by
  simp [imageBlock, Json.items, Json.get?]

@[simp] theorem items_content_toolUseBlock (tu : ToolUseRecord) :
    (toolUseBlock tu).items "content" = [] := by
  simp [toolUseBlock, Json.items, Json.get?]

@[simp] theorem imageSources_nil : imageSources [] = [] := rfl

@[simp] theorem imageSources_textBlock (t : String) (cache : Bool) (bs : List Json) :
    imageSources (textBlock t cache :: bs) = imageSources bs := by
  simp [imageSources]

@[simp] theorem imageSources_toolUseBlock (tu : ToolUseRecord) (bs : List Json) :
    imageSources (toolUseBlock tu :: bs) = imageSources bs := by
  simp [imageSources]

@[simp] theorem imageSources_toolResultBlock (r : ToolResultRecord) (bs : List Json) :
    imageSources (toolResultBlock r :: bs) = imageSources bs := by
  simp [imageSources]

@[simp] theorem imageSources_imageBlock (i : ImageData) (bs : List Json) :
    imageSources (imageBlock i :: bs) = (some i.mimeType, some i.data) :: imageSources bs := by
  simp [imageSources, imageBlock, Json.str?, Json.get?]

@[simp] theorem imageSources_append (bs cs : List Json) :
    imageSources (bs ++ cs) = imageSources bs ++ imageSources cs := by
  simp [imageSources]

@[simp] theorem imageSources_imageBlocks (images : List ImageData) :
    imageSources (images.map imageBlock) = images.map fun i => (some i.mimeType, some i.data) := by
  simp [imageSources, blocksOfType_map, imageBlock, Json.str?, Json.get?]

theorem blocks_messageJson (m : ConversationMessage) (cache : Bool) :
    (messageJson m cache).items "content" =
      if !m.toolUses.isEmpty then
        (if m.content.isEmpty then [] else [textBlock m.content]) ++ m.toolUses.map toolUseBlock
      else if !m.toolResults.isEmpty then
        m.toolResults.map toolResultBlock ++
          (if m.content.isEmpty then [] else [textBlock m.content]) ++ m.images.map imageBlock
      else if m.images.isEmpty && !cache then []
      else m.images.map imageBlock ++ [textBlock m.content cache] := by
  simp only [messageJson, Json.items, Json.get?, messageContent_eq]
  split_ifs <;> simp

@[simp] theorem str?_id_toolUseBlock (tu : ToolUseRecord) : (toolUseBlock tu).str? "id" = some tu.id := by
  simp [toolUseBlock, Json.str?, Json.get?]

@[simp] theorem str?_name_toolUseBlock (tu : ToolUseRecord) :
    (toolUseBlock tu).str? "name" = some tu.name := by
  simp [toolUseBlock, Json.str?, Json.get?]

@[simp] theorem str?_toolUseId_toolResultBlock (r : ToolResultRecord) :
    (toolResultBlock r).str? "tool_use_id" = some r.toolUseId := by
  cases h : r.isError <;> simp [toolResultBlock, h, Json.str?, Json.get?]

@[simp] theorem items_content_toolResultBlock (r : ToolResultRecord) :
    (toolResultBlock r).items "content" = textBlock r.content :: r.images.map imageBlock := by
  cases h : r.isError <;> simp [toolResultBlock, h, Json.items, Json.get?]

@[simp] theorem errorFlag_toolResultBlock (r : ToolResultRecord) :
    errorFlag (toolResultBlock r) = r.isError := by
  cases h : r.isError <;> simp [toolResultBlock, h, errorFlag, Json.get?]

@[simp] theorem str?_text_textBlock (t : String) (cache : Bool) :
    (textBlock t cache).str? "text" = some t := by
  cases cache <;> simp [textBlock, Json.str?, Json.get?]

theorem callsOf_messageJson (m : ConversationMessage) (cache : Bool) :
    callsOf (messageJson m cache) = m.toolUses.map fun t => (some t.id, some t.name) := by
  rw [callsOf, blocks_messageJson]
  split_ifs <;> simp_all [blocksOfType_map, blocksOfType_map_other]

/-- A turn's tool results are sent, each with its text and error flag, unless the turn carries
tool calls. -/
theorem resultsOf_messageJson (m : ConversationMessage) (cache : Bool) :
    resultsOf (messageJson m cache) =
      if m.toolUses = [] then m.toolResults.map fun r => (some r.toolUseId, [some r.content], r.isError)
      else [] := by
  rw [resultsOf, blocks_messageJson]
  split_ifs <;> simp_all [blocksOfType_map, blocksOfType_map_other]

theorem imagesOf_messageJson (m : ConversationMessage) (cache : Bool) :
    imagesOf (messageJson m cache) =
      if m.toolUses = [] then m.allImages.map fun i => (some i.mimeType, some i.data) else [] := by
  rw [imagesOf, blocks_messageJson]
  split_ifs <;>
    simp_all [List.flatMap_map, ConversationMessage.allImages, List.map_flatMap, ← List.map_eq_flatMap]

/-! ### The conversation -/

theorem flatMap_buildMessages {β : Type} (v : Json → List β) (g : ConversationMessage → List β)
    (ctx : Context) (hturn : ∀ m cache, v (messageJson m cache) = g m) :
    (buildMessages ctx).flatMap v = ctx.messages.flatMap g := by
  rw [buildMessages_eq, List.flatMap_map]
  exact flatMap_zipIdx_fst ctx.messages (fun m i => v (messageJson m (cachedUser ctx == some i))) g
    fun m _ => hturn m _

end Vendor.Anthropic

/-! ## Generate content -/

namespace Vendor.Vertex

/-- The function call of a part: the function's name. -/
def callOf? (p : Json) : Option (Option String) :=
  (p.get? "functionCall").map (·.str? "name")

/-- The function response of a part: the tool's name, and the text under `output` and under
`error`. -/
def responseOf? (p : Json) : Option (Option String × Option String × Option String) :=
  (p.get? "functionResponse").map fun f =>
    (f.str? "name", (f.get? "response").bind (·.str? "output"), (f.get? "response").bind (·.str? "error"))

/-- The inline image of a part: its media type and data. -/
def inlineOf? (p : Json) : Option (Option String × Option String) :=
  (p.get? "inlineData").map fun d => (d.str? "mimeType", d.str? "data")

/-- The function calls a content carries. -/
def callsOf (j : Json) : List (Option String) := (j.items "parts").filterMap callOf?

/-- The function responses a content carries. -/
def resultsOf (j : Json) : List (Option String × Option String × Option String) :=
  (j.items "parts").filterMap responseOf?

/-- The inline images a content carries. -/
def imagesOf (j : Json) : List (Option String × Option String) := (j.items "parts").filterMap inlineOf?

def callPart (tu : ToolUseRecord) : Json :=
  .obj [("functionCall", .obj [("name", .str tu.name), ("args", tu.inputValue)])]

/-- The part of a function response: the content under `error` for an error, else under
`output`. -/
def responsePart (r : ToolResultRecord) : Json :=
  .obj [("functionResponse", .obj [("name", .str r.toolName),
    ("response", .obj [(if r.isError then "error" else "output", .str r.content)])])]

/-- A turn's parts: an assistant's text and calls; a user's responses, each followed by its
images, then the user's text and images. -/
theorem parts_toContent (m : ConversationMessage) :
    (toContent m).items "parts" =
      if m.role = .assistant then
        (if m.content.isEmpty then [] else [textPart m.content]) ++ m.toolUses.map callPart
      else
        m.toolResults.flatMap (fun r => responsePart r :: r.images.map imagePart) ++
          (if m.content.isEmpty then [] else [textPart m.content]) ++ m.images.map imagePart := by
  cases hr : m.role <;> simp [toContent, hr, Json.items, Json.get?, callPart, responsePart]

@[simp] theorem textPart_selectors (t : String) :
    callOf? (textPart t) = none ∧ responseOf? (textPart t) = none ∧ inlineOf? (textPart t) = none := by
  simp [callOf?, responseOf?, inlineOf?, textPart, Json.get?]

@[simp] theorem imagePart_selectors (i : ImageData) :
    callOf? (imagePart i) = none ∧ responseOf? (imagePart i) = none ∧
      inlineOf? (imagePart i) = some (some i.mimeType, some i.data) := by
  simp [callOf?, responseOf?, inlineOf?, imagePart, Json.get?, Json.str?]

@[simp] theorem callPart_selectors (tu : ToolUseRecord) :
    callOf? (callPart tu) = some (some tu.name) ∧ responseOf? (callPart tu) = none ∧
      inlineOf? (callPart tu) = none := by
  simp [callOf?, responseOf?, inlineOf?, callPart, Json.get?, Json.str?]

@[simp] theorem responsePart_selectors (r : ToolResultRecord) :
    callOf? (responsePart r) = none ∧
      responseOf? (responsePart r) = some (some r.toolName, if r.isError then none else some r.content,
        if r.isError then some r.content else none) ∧
      inlineOf? (responsePart r) = none := by
  cases h : r.isError <;> simp [callOf?, responseOf?, inlineOf?, responsePart, h, Json.get?, Json.str?]

theorem callsOf_toContent (m : ConversationMessage) :
    callsOf (toContent m) = if m.role = .assistant then m.toolUses.map (fun t => some t.name) else [] := by
  rw [callsOf, parts_toContent]
  cases m.role <;> by_cases hc : m.content = "" <;> simp [hc, List.filterMap_flatMap]

/-- A turn's function responses are those of a user turn, the content under `error` exactly for
an error. -/
theorem resultsOf_toContent (m : ConversationMessage) :
    resultsOf (toContent m) =
      if m.role = .user then
        m.toolResults.map fun r => (some r.toolName, if r.isError then none else some r.content,
          if r.isError then some r.content else none)
      else [] := by
  rw [resultsOf, parts_toContent]
  cases m.role <;> by_cases hc : m.content = "" <;>
    simp [hc, List.filterMap_flatMap, ← List.map_eq_flatMap]

theorem imagesOf_toContent (m : ConversationMessage) :
    imagesOf (toContent m) =
      if m.role = .user then m.allImages.map (fun i => (some i.mimeType, some i.data)) else [] := by
  rw [imagesOf, parts_toContent]
  cases m.role <;> by_cases hc : m.content = "" <;>
    simp [hc, List.filterMap_flatMap, ConversationMessage.allImages, List.map_flatMap]

end Vendor.Vertex

/-! ## The three requests -/

open Vendor in
/-- **What each request carries of the conversation.** The chat-completions and generate-content
requests carry every tool call of an assistant turn, every tool result of a user turn, its error
marked exactly when it is one (by a prefix, or under `error`), and every image of a user turn,
its tool results' first, each once and in order. The messages request carries every tool call,
and the tool results and images of every turn without tool calls; a turn with tool calls loses
its tool results and images. -/
theorem requests_carry_tool_traffic (ctx : Context) :
    (OpenAi.buildMessages ctx).flatMap OpenAi.callsOf =
        ctx.messages.flatMap (fun m =>
          if m.role = .assistant then m.toolUses.map (fun t => (some t.id, some t.name)) else []) ∧
      (OpenAi.buildMessages ctx).flatMap OpenAi.resultsOf =
        ctx.messages.flatMap (fun m => if m.role = .user then
          m.toolResults.map (fun r => (some r.toolUseId, some (OpenAi.resultText r))) else []) ∧
      (OpenAi.buildMessages ctx).flatMap OpenAi.imagesOf =
        ctx.messages.flatMap (fun m =>
          if m.role = .user then m.allImages.map (fun i => some i.dataUrl) else []) ∧
      (Anthropic.buildMessages ctx).flatMap Anthropic.callsOf =
        ctx.messages.flatMap (fun m => m.toolUses.map (fun t => (some t.id, some t.name))) ∧
      (Anthropic.buildMessages ctx).flatMap Anthropic.resultsOf =
        ctx.messages.flatMap (fun m => if m.toolUses = [] then
          m.toolResults.map (fun r => (some r.toolUseId, [some r.content], r.isError)) else []) ∧
      (Anthropic.buildMessages ctx).flatMap Anthropic.imagesOf =
        ctx.messages.flatMap (fun m => if m.toolUses = [] then
          m.allImages.map (fun i => (some i.mimeType, some i.data)) else []) ∧
      (ctx.messages.map Vertex.toContent).flatMap Vertex.callsOf =
        ctx.messages.flatMap (fun m =>
          if m.role = .assistant then m.toolUses.map (fun t => some t.name) else []) ∧
      (ctx.messages.map Vertex.toContent).flatMap Vertex.resultsOf =
        ctx.messages.flatMap (fun m => if m.role = .user then
          m.toolResults.map (fun r => (some r.toolName, if r.isError then none else some r.content,
            if r.isError then some r.content else none)) else []) ∧
      (ctx.messages.map Vertex.toContent).flatMap Vertex.imagesOf =
        ctx.messages.flatMap (fun m =>
          if m.role = .user then m.allImages.map (fun i => (some i.mimeType, some i.data)) else []) := by
  obtain ⟨hcalls, hresults, himages⟩ := OpenAi.systemMessages_views ctx
  refine ⟨OpenAi.flatMap_buildMessages _ _ ctx hcalls OpenAi.callsOf_messagesOf,
    OpenAi.flatMap_buildMessages _ _ ctx hresults OpenAi.resultsOf_messagesOf,
    OpenAi.flatMap_buildMessages _ _ ctx himages OpenAi.imagesOf_messagesOf,
    Anthropic.flatMap_buildMessages _ _ ctx Anthropic.callsOf_messageJson,
    Anthropic.flatMap_buildMessages _ _ ctx Anthropic.resultsOf_messageJson,
    Anthropic.flatMap_buildMessages _ _ ctx Anthropic.imagesOf_messageJson, ?_, ?_, ?_⟩
  all_goals
    rw [List.flatMap_map]
    congr 1
    funext m
  · exact Vertex.callsOf_toContent m
  · exact Vertex.resultsOf_toContent m
  · exact Vertex.imagesOf_toContent m

open Vendor in
/-- A user turn that carries a tool call loses its tool result in the messages request. -/
theorem user_tool_calls_drop_results :
    let ctx : Context :=
      { messages := [{ role := .user, content := "", toolUses := [⟨"u1", "f", "\x7b\x7d"⟩],
                       toolResults := [{ toolUseId := "u1", toolName := "f", content := "done" }] }] }
    (Anthropic.buildMessages ctx).flatMap Anthropic.resultsOf = [] ∧
      ctx.messages.flatMap (fun m => if m.role = .user then
        m.toolResults.map (fun r => (some r.toolUseId, [some r.content], r.isError)) else []) ≠ [] := by
  intro ctx
  refine ⟨?_, by simp [ctx]⟩
  simp [ctx, Anthropic.buildMessages_eq, Anthropic.resultsOf_messageJson]

end ChatStream
