import Mathlib
import ChatStream.Proofs.RequestContent

/-! # Where a request asks the vendor to cache

A context with the ephemeral caching hint asks the vendor to cache the prompt up to the system
prompt and up to the latest plain user turn (`Context.lastUserIndex`). The chat-completions and
messages adapters ask it by a `cache_control` member on a text part or block; `markedParts` and
`markedBlocks` read back, from the JSON a request is made of, the parts and blocks that carry
one, the blocks inside tool results included.

Main statements:
* `cache_marks_system_and_last_user`: with the hint, the system prompt, when it is not empty,
  carries one mark, the messages of the latest plain user turn carry one mark on the turn's text,
  and nothing else is marked; without it nothing is. The messages adapter marks that turn only
  when it carries no tool call.
* `user_tool_calls_drop_cache_mark`: a latest plain user turn that carries a tool call loses its
  mark in the messages request.
-/

namespace ChatStream

/-- Whether a part or block asks the vendor to cache the prompt up to it. -/
def Json.cacheMarked (j : Json) : Bool := (j.get? "cache_control").isSome

theorem Context.isPlainUser_of_lastUserIndex {ctx : Context} {p : ConversationMessage × Nat}
    (hp : p ∈ ctx.messages.zipIdx) (h : ctx.lastUserIndex = some p.2) : p.1.isPlainUser = true := by
  simp only [Context.lastUserIndex, Option.map_eq_some_iff] at h
  obtain ⟨q, hfind, hq⟩ := h
  have hmem : q ∈ ctx.messages.zipIdx := List.mem_reverse.mp (List.mem_of_find?_eq_some hfind)
  -- the found pair and `p` stand at the same index, so they hold the same turn
  have hsame : q.1 = p.1 := by
    have hq' := List.mem_zipIdx_iff_getElem?.mp hmem
    have hp' := List.mem_zipIdx_iff_getElem?.mp hp
    rw [hq] at hq'
    exact Option.some_injective _ (hq'.symm.trans hp')
  have hfound := List.find?_some hfind
  rwa [← hsame]

/-! ## Chat completions -/

namespace Vendor.OpenAi

/-- The parts of a message that carry a cache mark. -/
def markedParts (j : Json) : List Json := (j.items "content").filter Json.cacheMarked

theorem cachedUser_eq_some {ctx : Context} {i : Nat} :
    cachedUser ctx = some i ↔ ctx.cacheHint = .ephemeral ∧ ctx.lastUserIndex = some i := by
  unfold cachedUser
  by_cases hc : ctx.cacheHint = .ephemeral <;> simp [hc]

@[simp] theorem cacheMarked_textPart (t : String) (cache : Bool) :
    (textPart t cache).cacheMarked = cache := by
  cases cache <;> simp [textPart, Json.cacheMarked, Json.get?]

@[simp] theorem cacheMarked_imagePart (i : ImageData) : (imagePart i).cacheMarked = false := by
  simp [imagePart, Json.cacheMarked, Json.get?]

@[simp] theorem markedParts_assistantMessage (m : ConversationMessage) :
    markedParts (assistantMessage m) = [] := by
  cases h : m.toolUses <;> by_cases hc : m.content.isEmpty <;>
    simp [assistantMessage, h, hc, markedParts, Json.items, Json.get?]

@[simp] theorem markedParts_userMessage (m : ConversationMessage) (cache : Bool) :
    markedParts (userMessage m cache) = if cache then [textPart m.content true] else [] := by
  unfold userMessage
  cases cache <;> by_cases hi : m.images = [] <;>
    simp [hi, markedParts, Json.items, Json.get?, List.filter_map, Function.comp_def]

@[simp] theorem markedParts_toolMessage (r : ToolResultRecord) : markedParts (toolMessage r) = [] := by
  simp [markedParts, toolMessage, Json.items, Json.get?]

@[simp] theorem markedParts_followUpMessage (m : ConversationMessage) :
    markedParts (followUpMessage m) = [] := by
  simp only [markedParts, followUpMessage, Json.items, Json.get?, followUpParts]
  split_ifs <;> simp [List.filter_map, List.filter_flatMap, Function.comp_def]

/-- A turn's messages carry a mark only when the turn is the cached one, a plain user turn, and
then on its text. -/
theorem markedParts_messagesOf (m : ConversationMessage) (cache : Bool) :
    (messagesOf m cache).flatMap markedParts =
      if cache = true ∧ m.isPlainUser = true then [textPart m.content true] else [] := by
  cases hr : m.role with
  | user =>
    by_cases hres : m.toolResults = []
    · simp [messagesOf, hr, hres, ConversationMessage.isPlainUser]
    · simp [messagesOf, hr, hres, toolResultMessages_eq, ConversationMessage.isPlainUser]
  | assistant => simp [messagesOf, hr, ConversationMessage.isPlainUser]

theorem markedParts_systemMessages (ctx : Context) :
    (systemMessages ctx).flatMap markedParts =
      if ctx.cacheHint = .ephemeral then
        (ctx.systemPrompt.filter fun s => !s.isEmpty).toList.map (textPart · true) else [] := by
  unfold systemMessages
  cases ctx.systemPrompt with
  | none => simp
  | some s =>
    by_cases he : s.isEmpty
    · obtain rfl := String.isEmpty_iff.mp he
      simp
    · by_cases hc : ctx.cacheHint = .ephemeral <;>
        simp [he, hc, markedParts, Json.items, Json.get?, Option.filter_some]

/-- The messages of a turn of the conversation are marked exactly when it is the latest plain
user turn and the hint asks for caching. -/
theorem markedParts_turn {ctx : Context} {p : ConversationMessage × Nat}
    (hp : p ∈ ctx.messages.zipIdx) :
    (messagesOf p.1 (cachedUser ctx == some p.2)).flatMap markedParts =
      if ctx.cacheHint = .ephemeral ∧ ctx.lastUserIndex = some p.2 then [textPart p.1.content true]
      else [] := by
  rw [markedParts_messagesOf]
  by_cases hc : ctx.cacheHint = .ephemeral ∧ ctx.lastUserIndex = some p.2
  · have hplain := Context.isPlainUser_of_lastUserIndex hp hc.2
    simp [cachedUser_eq_some, hc, hplain]
  · simp [cachedUser_eq_some, hc]

theorem items_messages_buildRequest (model : String) (ctx : Context) (o : StreamOptions) :
    (buildRequest model ctx o).items "messages" = buildMessages ctx := by
  unfold buildRequest
  split <;> split <;> split <;> simp [Json.items, Json.get?]

end Vendor.OpenAi

/-! ## Messages -/

namespace Vendor.Anthropic

/-- The blocks of a message that carry a cache mark, those inside its tool results included. -/
def markedBlocks (j : Json) : List Json :=
  ((j.items "content").flatMap fun b => b :: b.items "content").filter Json.cacheMarked

theorem cachedUser_eq_some {ctx : Context} {i : Nat} :
    cachedUser ctx = some i ↔ ctx.cacheHint = .ephemeral ∧ ctx.lastUserIndex = some i := by
  unfold cachedUser
  cases ctx.cacheHint <;> simp

@[simp] theorem cacheMarked_textBlock (t : String) (cache : Bool) :
    (textBlock t cache).cacheMarked = cache := by
  cases cache <;> simp [textBlock, Json.cacheMarked, Json.get?]

@[simp] theorem cacheMarked_imageBlock (i : ImageData) : (imageBlock i).cacheMarked = false := by
  simp [imageBlock, Json.cacheMarked, Json.get?]

@[simp] theorem cacheMarked_toolUseBlock (tu : ToolUseRecord) :
    (toolUseBlock tu).cacheMarked = false := by
  simp [toolUseBlock, Json.cacheMarked, Json.get?]

@[simp] theorem cacheMarked_toolResultBlock (r : ToolResultRecord) :
    (toolResultBlock r).cacheMarked = false := by
  cases h : r.isError <;> simp [toolResultBlock, h, Json.cacheMarked, Json.get?]

/-- A turn's message carries a mark only when the turn is the cached one and carries neither tool
calls nor tool results, and then on its text. -/
theorem markedBlocks_messageJson (m : ConversationMessage) (cache : Bool) :
    markedBlocks (messageJson m cache) =
      if cache = true ∧ m.toolUses = [] ∧ m.toolResults = [] then [textBlock m.content true]
      else [] := by
  rw [markedBlocks, blocks_messageJson]
  split_ifs <;> simp_all [List.filter_flatMap]

/-- The message of a turn of the conversation is marked exactly when it is the latest plain user
turn, carries no tool call and the hint asks for caching. -/
theorem markedBlocks_turn {ctx : Context} {p : ConversationMessage × Nat}
    (hp : p ∈ ctx.messages.zipIdx) :
    markedBlocks (messageJson p.1 (cachedUser ctx == some p.2)) =
      if ctx.cacheHint = .ephemeral ∧ ctx.lastUserIndex = some p.2 ∧ p.1.toolUses = []
      then [textBlock p.1.content true] else [] := by
  rw [markedBlocks_messageJson]
  by_cases hc : ctx.cacheHint = .ephemeral ∧ ctx.lastUserIndex = some p.2
  · -- the cached turn is a plain user turn: it has no tool results
    have hplain := Context.isPlainUser_of_lastUserIndex hp hc.2
    simp only [ConversationMessage.isPlainUser, Bool.and_eq_true, List.isEmpty_iff] at hplain
    simp [cachedUser_eq_some, hc, hplain.2]
  · have hnot : ¬(cachedUser ctx == some p.2) = true := by simpa [cachedUser_eq_some] using hc
    rw [if_neg fun h => hnot h.1, if_neg fun h => hc ⟨h.1, h.2.1⟩]

theorem items_messages_buildRequest (model : String) (ctx : Context) (o : StreamOptions) :
    (buildRequest model ctx o).items "messages" = buildMessages ctx := by
  unfold buildRequest
  cases o.temperature <;> cases ctx.systemPrompt <;> simp [Json.items, Json.get?] <;> split_ifs <;> simp

/-- A prompt that is not empty is sent as one marked block when the hint asks for caching, and as
bare text otherwise. -/
theorem items_system_buildRequest (model : String) (ctx : Context) (o : StreamOptions) :
    (buildRequest model ctx o).items "system" =
      if ctx.cacheHint = .ephemeral then
        (ctx.systemPrompt.filter fun s => !s.isEmpty).toList.map (textBlock · true) else [] := by
  unfold buildRequest
  cases o.temperature <;> cases ctx.systemPrompt <;> simp [Json.items, Json.get?] <;>
    split_ifs <;> simp_all [Option.filter_some]

end Vendor.Anthropic

/-! ## The two requests -/

open Vendor in
/-- **Where the requests ask to cache.** The chat-completions request is the system message, then
the messages of each turn in order; the system message carries a mark on its one part exactly
when the hint asks for caching and the prompt is not empty, and the messages of a turn carry one,
on the turn's text, exactly when the hint asks for caching and the turn is the latest plain user
turn. The messages request carries its system prompt as one marked block under the same
conditions, and one message per turn in order, marked in the same way except that the latest
plain user turn carries no mark when it carries a tool call. Without the hint nothing is marked. -/
theorem cache_marks_system_and_last_user (model : String) (ctx : Context) (o : StreamOptions) :
    (OpenAi.buildRequest model ctx o).items "messages" = OpenAi.systemMessages ctx ++
        ctx.messages.zipIdx.flatMap (fun p => OpenAi.messagesOf p.1 (OpenAi.cachedUser ctx == some p.2)) ∧
      (OpenAi.systemMessages ctx).flatMap OpenAi.markedParts =
        (if ctx.cacheHint = .ephemeral then
          (ctx.systemPrompt.filter fun s => !s.isEmpty).toList.map (OpenAi.textPart · true) else []) ∧
      ctx.messages.zipIdx.map (fun p =>
          (OpenAi.messagesOf p.1 (OpenAi.cachedUser ctx == some p.2)).flatMap OpenAi.markedParts) =
        ctx.messages.zipIdx.map (fun p =>
          if ctx.cacheHint = .ephemeral ∧ ctx.lastUserIndex = some p.2
          then [OpenAi.textPart p.1.content true] else []) ∧
      ((Anthropic.buildRequest model ctx o).items "system").filter Json.cacheMarked =
        (if ctx.cacheHint = .ephemeral then
          (ctx.systemPrompt.filter fun s => !s.isEmpty).toList.map (Anthropic.textBlock · true)
        else []) ∧
      (Anthropic.buildRequest model ctx o).items "messages" =
        ctx.messages.zipIdx.map (fun p => Anthropic.messageJson p.1 (Anthropic.cachedUser ctx == some p.2)) ∧
      ctx.messages.zipIdx.map (fun p =>
          Anthropic.markedBlocks (Anthropic.messageJson p.1 (Anthropic.cachedUser ctx == some p.2))) =
        ctx.messages.zipIdx.map (fun p =>
          if ctx.cacheHint = .ephemeral ∧ ctx.lastUserIndex = some p.2 ∧ p.1.toolUses = []
          then [Anthropic.textBlock p.1.content true] else []) := by
  refine ⟨by rw [OpenAi.items_messages_buildRequest, OpenAi.buildMessages_eq],
    OpenAi.markedParts_systemMessages ctx, List.map_congr_left fun p hp => OpenAi.markedParts_turn hp,
    ?_, by rw [Anthropic.items_messages_buildRequest, Anthropic.buildMessages_eq],
    List.map_congr_left fun p hp => Anthropic.markedBlocks_turn hp⟩
  rw [Anthropic.items_system_buildRequest]
  split <;> simp [List.filter_map, Function.comp_def]

open Vendor in
/-- A latest plain user turn that carries a tool call is sent unmarked in the messages request. -/
theorem user_tool_calls_drop_cache_mark :
    let ctx : Context :=
      { messages := [{ role := .user, content := "hi", toolUses := [⟨"u1", "f", "\x7b\x7d"⟩] }],
        cacheHint := .ephemeral }
    ctx.cacheHint = .ephemeral ∧ ctx.lastUserIndex = some 0 ∧
      ((Anthropic.buildRequest "m" ctx {}).items "messages").map Anthropic.markedBlocks = [[]] := by
  intro ctx
  refine ⟨rfl, rfl, ?_⟩
  simp [ctx, Anthropic.items_messages_buildRequest, Anthropic.buildMessages_eq,
    Anthropic.markedBlocks_messageJson]

end ChatStream
