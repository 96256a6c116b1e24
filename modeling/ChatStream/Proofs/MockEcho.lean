import Mathlib.Data.List.TakeWhile
import Mathlib.Tactic.ByContra
import ChatStream.Cli.Run
import ChatStream.Proofs.ReadLoop

/-! # Echoing a prompt through the mock provider

`llmux --mock P` answers with `P` itself. The echo script cuts `P` after every space, the mock
provider streams the pieces as text through the read loop and the message builder, and printing
the stream writes the pieces back one after another, then a line break.

Main statement (`mock_echoes_prompt`): a prompt that is not blank and is read as the prompt (it
does not start with `-`, or is `-` alone) is printed back exactly, with a line break, and the
run exits with 0. The stream's message holds the prompt as its one text block, ends the turn,
and counts one token per piece: one per space, and one for a last word after the last space.
A prompt piped on standard input is trimmed first and then echoed the same way.
-/

namespace ChatStream

/-! ## Cutting after spaces -/

namespace MockScript

theorem flatten_splitInclusive (c : Char) (l : List Char) : (splitInclusive c l).flatten = l := by
  induction l with
  | nil => rfl
  | cons x rest ih =>
    by_cases hx : x = c
    · simp [splitInclusive, hx, ih]
    · rw [splitInclusive, if_neg hx]
      split <;> simp_all

theorem ne_nil_of_mem_splitInclusive {c : Char} {l p : List Char}
    (hp : p ∈ splitInclusive c l) : p ≠ [] := by
  induction l generalizing p with
  | nil => simp [splitInclusive] at hp
  | cons x rest ih =>
    by_cases hx : x = c
    · simp only [splitInclusive, hx, if_true, List.mem_cons] at hp
      rcases hp with rfl | hp
      · simp
      · exact ih hp
    · rw [splitInclusive, if_neg hx] at hp
      split at hp
      · simp_all
      · rename_i q qs hq
        simp only [List.mem_cons] at hp
        rcases hp with rfl | hp
        · simp
        · exact ih (by simp [hq, hp])

theorem length_splitInclusive (c : Char) (l : List Char) :
    (splitInclusive c l).length = l.count c + if l.getLast?.all (· == c) then 0 else 1 := by
  induction l with
  | nil => rfl
  | cons x rest ih =>
    by_cases hx : x = c
    · cases rest with
      | nil => simp [splitInclusive, hx]
      | cons y ys =>
        rw [splitInclusive, if_pos hx, List.length_cons, ih]
        simp [hx]
        omega
    · rw [splitInclusive, if_neg hx]
      split
      · rename_i h
        have : rest = [] := by simpa [h] using (flatten_splitInclusive c rest).symm
        subst this
        simp [hx]
      · rename_i q qs h
        have hne : rest ≠ [] := by
          intro hr
          simp [hr, splitInclusive] at h
        -- `x` joins the first piece of the rest, so the count of pieces is the rest's
        have hlen : ((x :: q) :: qs).length = (splitInclusive c rest).length := by simp [h]
        rw [hlen, ih, List.getLast?_cons_of_ne_nil hne]
        simp [hx]

theorem join_splitAfterSpaces (s : String) : String.join (splitAfterSpaces s) = s := by
  apply String.toList_injective
  simp [splitAfterSpaces, String.toList_join, List.flatMap_map, flatten_splitInclusive]

theorem ne_empty_of_mem_splitAfterSpaces {s w : String} (hw : w ∈ splitAfterSpaces s) :
    w ≠ "" := by
  obtain ⟨q, hq, rfl⟩ := List.mem_map.1 hw
  simpa using ne_nil_of_mem_splitInclusive hq

theorem splitAfterSpaces_ne_nil {s : String} (hs : s ≠ "") : splitAfterSpaces s ≠ [] := by
  intro h
  exact hs (by simpa [h] using (join_splitAfterSpaces s).symm)

/-- The tokens the echo counts for a text: one per space, and one for a last word. -/
def echoTokens (s : String) : UInt32 :=
  saturate (s.toList.count ' ' + if s.toList.getLast?.all (· == ' ') then 0 else 1)

theorem saturate_length_splitAfterSpaces (s : String) :
    saturate (splitAfterSpaces s).length = echoTokens s := by
  simp [splitAfterSpaces, echoTokens, length_splitInclusive]

end MockScript

/-! ## The echo stream -/

theorem MessageBuilder.pushText_first (b : MessageBuilder) {t : String}
    (hb : b.slotsRev = []) (ht : t ≠ "") :
    b.pushText t = (some (.contentDelta t), { b with slotsRev := [.block (.text t)] }) := by
  simp [pushText, pushProse, hb, ht, Slot.extendProse, Piece.block, Piece.delta]

theorem MessageBuilder.pushText_extend (b : MessageBuilder) {acc t : String}
    (hb : b.slotsRev = [.block (.text acc)]) (ht : t ≠ "") :
    b.pushText t =
      (some (.contentDelta t), { b with slotsRev := [.block (.text (acc ++ t))] }) := by
  simp [pushText, pushProse, hb, ht, Slot.extendProse, ContentBlock.prose, Piece.block, Piece.delta]

/-- A builder holding one text block and no tool call finishes with that text and the stop
reason it was given, unless that is `tool_use`. -/
theorem MessageBuilder.finish_text (b : MessageBuilder) {t : String}
    (hb : b.slotsRev = [.block (.text t)]) (ht : b.tools = {}) (r : StopReason)
    (hr : r ≠ .toolUse) :
    (b.setStopReason r).finish =
      ({ b.message with content := [.text t], stopReason := r },
        [.contentDone t, .messageDone r b.message.usage]) := by
  cases r <;> simp_all [finish, setStopReason, ToolCalls.finalize, ToolCalls.isEmpty,
    finalStopReason, doneEvent]

@[simp] theorem mockProcessor_process (b : MessageBuilder) (r : MockResponse) :
    mockProcessor.process b r = r.process b := rfl

section Loop

variable {src : Source MockResponse} (hsrc : src.cancelAt = none)
include hsrc

theorem loop_texts (k : Nat) (b : MessageBuilder) {acc : String}
    (hb : b.slotsRev = [.block (.text acc)]) (ws : List String) (hws : ∀ w ∈ ws, w ≠ "")
    (rest : List (SourceItem MockResponse)) :
    mockProcessor.loop src k b (ws.map (fun w => .chunk (.text w)) ++ rest) =
      (ws.map .contentDelta).map .send ++
        mockProcessor.loop src (k + ws.length)
          { b with slotsRev := [.block (.text (acc ++ String.join ws))] } rest := by
  induction ws generalizing k b acc with
  | nil => simp [← hb]
  | cons w ws ih =>
    have hw : w ≠ "" := hws w (by simp)
    rw [List.map_cons, List.cons_append, Processor.loop]
    simp only [Source.cancelledBy, hsrc, mockProcessor_process, MockResponse.process,
      b.pushText_extend hb hw]
    rw [ih (k + 1) _ rfl (fun v hv => hws v (by simp [hv]))]
    simp [String.join_cons, String.append_assoc, Nat.add_assoc, Nat.add_comm 1]

theorem loop_usage_stop (k : Nat) (b : MessageBuilder) (i o : UInt32) (r : StopReason) :
    mockProcessor.loop src k b [.chunk (.usage i o), .chunk (.stop r)] =
      [.send (.messageDelta none (some (Usage.new i o))), .send (.messageDelta (some r) none)] ++
        mockProcessor.close ((b.setUsage (Usage.new i o)).setStopReason r) := by
  simp [Processor.loop, Source.cancelledBy, hsrc, MockResponse.process]

end Loop

theorem echo_isChunk (p : String) :
    (MockScript.echo p).responses.filter MockResponse.isChunk = (MockScript.echo p).responses := by
  refine List.filter_eq_self.2 fun r hr => ?_
  simp only [MockScript.echo, List.mem_append, List.mem_map, List.mem_cons, List.not_mem_nil,
    or_false] at hr
  rcases hr with ⟨w, -, rfl⟩ | rfl | rfl <;> rfl

/-- The echo of a non-empty prompt: the pieces as text, the usage, the stop, the closing events;
the message holds the prompt as one text block. -/
theorem echo_transcript (p model : String) (hp : p ≠ "") :
    (MockScript.echo p).transcript model false =
      ⟨.messageStart model :: (MockScript.splitAfterSpaces p).map .contentDelta ++
          [.messageDelta none (some (Usage.new (MockScript.echoTokens p) (MockScript.echoTokens p))),
           .messageDelta (some .endTurn) none, .contentDone p,
           .messageDone .endTurn (Usage.new (MockScript.echoTokens p) (MockScript.echoTokens p))],
        { content := [.text p], model, api := mockApi,
          usage := Usage.new (MockScript.echoTokens p) (MockScript.echoTokens p) }⟩ := by
  obtain ⟨w, ws, hwords⟩ := List.exists_cons_of_ne_nil (MockScript.splitAfterSpaces_ne_nil hp)
  have hjoin : w ++ String.join ws = p := by
    simpa [hwords, String.join_cons] using MockScript.join_splitAfterSpaces p
  have hne : ∀ v ∈ w :: ws, v ≠ "" := fun v hv =>
    MockScript.ne_empty_of_mem_splitAfterSpaces (hwords ▸ hv)
  rw [← MockScript.saturate_length_splitAfterSpaces]
  simp only [MockScript.transcript, echo_isChunk]
  simp only [Processor.drive, Processor.signals, MockScript.echo]
  generalize hsrc : ({ items := _, cancelAt := _ } : Source MockResponse) = src
  have hcancel : src.cancelAt = none := by simp [← hsrc]
  have hitems : List.map SourceItem.chunk
      (List.map MockResponse.text (MockScript.splitAfterSpaces p) ++
        [MockResponse.usage (MockScript.saturate (MockScript.splitAfterSpaces p).length)
          (MockScript.saturate (MockScript.splitAfterSpaces p).length),
         MockResponse.stop .endTurn]) =
      .chunk (.text w) :: (ws.map (fun v => .chunk (.text v)) ++
        [.chunk (.usage (MockScript.saturate (MockScript.splitAfterSpaces p).length)
          (MockScript.saturate (MockScript.splitAfterSpaces p).length)),
         .chunk (.stop .endTurn)]) := by
    simp [hwords]
  rw [hitems, Processor.loop]
  simp only [Source.cancelledBy, hcancel, mockProcessor_process, MockResponse.process,
    MessageBuilder.pushText_first (MessageBuilder.new mockApi model) rfl (hne w (by simp)),
    Bool.false_eq_true, if_false]
  rw [loop_texts hcancel _ _ rfl ws (fun v hv => hne v (by simp [hv])), loop_usage_stop hcancel]
  simp only [Processor.close, mockProcessor]
  rw [MessageBuilder.finish_text _ rfl rfl .endTurn (by decide)]
  simp only [Transcript.ofSignals_sends, Option.toList, List.cons_append, List.nil_append,
    Transcript.ofSignals, Transcript.after, List.append_nil]
  simp [hwords, hjoin, MessageBuilder.setUsage, MessageBuilder.new, AssistantMessage.new]

/-! ## Printing and the command line -/

namespace Text

theorem ne_empty_of_isBlank_eq_false {s : String} (h : isBlank s = false) : s ≠ "" := by
  rintro rfl
  simp [isBlank] at h

theorem trim_ne_empty {s : String} (h : isBlank s = false) : trim s ≠ "" := by
  obtain ⟨c, hc, hsp⟩ : ∃ c ∈ s.toList, isSpace c = false := by simpa [isBlank] using h
  intro ht
  -- trimming the end leaves nothing, so what the start leaves is only white space
  have hend : ((s.toList.dropWhile isSpace).reverse.dropWhile isSpace) = [] := by
    simpa [trim, trimEnd, trimStart] using congrArg String.toList ht
  have hspaces : ∀ x ∈ s.toList.dropWhile isSpace, isSpace x := by
    simpa using List.dropWhile_eq_nil_iff.1 hend
  -- and the first character the start leaves is not white space, so it leaves nothing
  have hstart : s.toList.dropWhile isSpace = [] := by
    by_contra hne
    have := List.head_dropWhile_not isSpace hne
    simp [hspaces _ (List.head_mem hne)] at this
  have := List.dropWhile_eq_nil_iff.1 hstart c hc
  simp [hsp] at this

end Text

namespace Registry

theorem find?_map_replace {l : List (String × Factory)} {api : String}
    (h : l.any (·.1 == api) = true) (f : Factory) :
    (l.map fun (k, g) => if k == api then (k, f) else (k, g)).find? (·.1 == api) =
      some (api, f) := by
  induction l with
  | nil => simp at h
  | cons e l ih =>
    obtain ⟨k, g⟩ := e
    rw [List.map_cons, List.find?_cons]
    by_cases hk : k = api
    · subst hk
      simp
    · have hb : (k == api) = false := by simpa using hk
      simp only [hb, Bool.false_eq_true, if_false]
      exact ih (by simpa [hk] using h)

theorem get_register_self (r : Registry) (api base : String) (f : Factory) :
    (r.register api f).get api base = some (f base) := by
  unfold Registry.register Registry.get
  split
  · rename_i h
    rw [find?_map_replace h]
    rfl
  · rename_i h
    have hnone : r.factories.find? (·.1 == api) = none := by
      rw [List.find?_eq_none]
      intro e he hk
      exact h (List.any_eq_true.2 ⟨e, he, hk⟩)
    simp [List.find?_append, hnone]

end Registry

namespace Cli

theorem ArgState.step_prompt (s : ArgState) (p : String) (ht : s.trailing = false)
    (hpend : s.pending = none) (hseen : s.promptSeen = false)
    (hp : p.startsWith "-" = false ∨ p = "-") :
    s.step p = .ok { s with pending := some (.prompt p), promptSeen := true } := by
  have hpos : s.positional p = .ok { s with pending := some (.prompt p), promptSeen := true } := by
    simp [ArgState.positional, hseen, ArgState.resolve, hpend]
  rcases hp with hp | rfl
  · have hdd : p.startsWith "--" = false := by
      simp only [String.startsWith_string_eq_false_iff] at hp ⊢
      intro h
      exact hp (List.IsPrefix.trans (by decide) h)
    have hne : (p == "--") = false := by
      simp only [beq_eq_false_iff_ne]
      rintro rfl
      simp at hdd
    simp [ArgState.step, ht, hne, hdd, hp, hpend, hpos]
  · have : ArgState.step s "-" = s.positional "-" := by
      simp [ArgState.step, ht, hpend]
    rw [this, hpos]

theorem ArgState.step_mock :
    ArgState.step {} "--mock" = .ok { args := { mock := true }, taken := [.opt .mock] } := by
  cbv

theorem parseArgs_mock : parseArgs ["--mock"] = .run { mock := true } := by
  simp only [parseArgs, List.foldlM_cons, List.foldlM_nil, ArgState.step_mock, bind, Except.bind,
    pure, Except.pure, ArgState.resolve]

theorem parseArgs_mock_prompt (p : String) (hp : p.startsWith "-" = false ∨ p = "-") :
    parseArgs ["--mock", p] = .run { mock := true, prompt := some p } := by
  have h2 := ArgState.step_prompt { args := { mock := true }, taken := [.opt .mock] } p rfl rfl rfl hp
  simp only [parseArgs, List.foldlM_cons, List.foldlM_nil, ArgState.step_mock, bind, Except.bind,
    h2, pure, Except.pure, ArgState.resolve]
  rfl

theorem resolve_mock (b : BackendConfig) : b.resolve mockApi = none := by
  have h1 : mockApi ≠ Vendor.OpenAi.api := by decide
  have h2 : mockApi ≠ Vendor.Anthropic.api := by decide
  have h3 : mockApi ≠ Vendor.Vertex.api := by decide
  simp [BackendConfig.resolve, h1, h2, h3]

/-- Asked for the mock API with no model, the command line takes the echo provider it
registered, under the model name `mock`, with no key. -/
theorem select_echo (r : Registry) (b : BackendConfig) (env : Env) (p : String) :
    select (registerEcho r p) b env (some mockApi) none =
      .ok ⟨.mock { MockScript.echo p with chunkDelayMs := some 20 }, "mock", none⟩ := by
  simp only [select, Option.getD, resolve_mock, registerEcho, Registry.get_register_self]
  rfl

theorem foldl_printEvent_contentDeltas (ms : Nat) (o : BatchOutput) (code : Nat)
    (ho : o.inThinking = false) (ws : List String) :
    (ws.map .contentDelta).foldl (printEvent ms) (o, code) =
      ({ o with out := o.out ++ String.join ws, wroteText := o.wroteText || !ws.isEmpty },
        code) := by
  induction ws generalizing o with
  | nil => simp
  | cons w ws ih =>
    rw [List.map_cons, List.foldl_cons]
    have hstep : printEvent ms (o, code) (.contentDelta w) =
        ({ o with out := o.out ++ w, wroteText := true }, code) := by
      simp [printEvent, BatchOutput.emit, BatchOutput.endThinking, ho, exitCodeAfter]
    rw [hstep, ih { o with out := o.out ++ w, wroteText := true } ho]
    simp [String.join_cons, String.append_assoc]

theorem runBatch_echo (ms : Nat) (model p : String) (ws : List String) (hws : ws ≠ [])
    (hjoin : String.join ws = p) (u : Usage) :
    let r := runBatch ms (.messageStart model :: ws.map .contentDelta ++
      [.messageDelta none (some u), .messageDelta (some .endTurn) none, .contentDone p,
       .messageDone .endTurn u])
    r.1.out = p ++ "\n" ∧ r.2 = 0 := by
  simp only [runBatch, List.cons_append, List.foldl_cons, List.foldl_append]
  have h0 : printEvent ms ({}, 0) (.messageStart model) = ({}, 0) := rfl
  rw [h0, foldl_printEvent_contentDeltas ms {} 0 rfl ws]
  simp [printEvent, BatchOutput.emit, BatchOutput.endThinking, BatchOutput.endText,
    exitCodeAfter, hjoin, hws]

/-- A run asking for the mock API with a non-empty prompt, no images and no model prints the
prompt back. -/
theorem runArgs_echo (h : Host) (a : Args) (p : String)
    (hprompt : readPrompt a.prompt h.stdin = some p) (himages : a.images = [])
    (hmock : a.mock = true) (hmodel : a.model = none) (hp : p ≠ "") :
    (runArgs h a).stdout = p ++ "\n" ∧ (runArgs h a).code = 0 := by
  have hecho : ({ MockScript.echo p with chunkDelayMs := some 20 } : MockScript).transcript
      "mock" false = (MockScript.echo p).transcript "mock" false := rfl
  simp only [runArgs, hprompt, himages, List.mapM_nil, hmock, if_true, hmodel, select_echo,
    Provider.stream, Provider.run, hecho, echo_transcript p "mock" hp]
  exact runBatch_echo h.elapsedMs "mock" p _ (MockScript.splitAfterSpaces_ne_nil hp)
    (MockScript.join_splitAfterSpaces p) _

theorem readPrompt_arg {p : String} (stdin : Option String) (hp : Text.isBlank p = false) :
    readPrompt (some p) stdin = some p := by
  simp [readPrompt, Option.filter, hp]

theorem readPrompt_stdin {s : String} (hs : Text.isBlank s = false) :
    readPrompt none (some s) = some (Text.trim s) := by
  simp [readPrompt, Option.filter, hs]

/-- `llmux --mock P` answers with the prompt. For a prompt that is not blank and is read as the
prompt (it does not start with `-`, or is `-` alone), standard output is the prompt and a line
break and the exit code is 0; the stream's message holds the prompt as its one text block, ends
the turn, and counts one token per space and one for a last word. A prompt piped on standard
input is trimmed and echoed the same way. -/
theorem mock_echoes_prompt (h : Host) (p : String) (hblank : Text.isBlank p = false)
    (harg : p.startsWith "-" = false ∨ p = "-") :
    (run h ["--mock", p]).stdout = p ++ "\n" ∧ (run h ["--mock", p]).code = 0 ∧
    ((MockScript.echo p).transcript "mock" false).result =
      { content := [.text p], stopReason := .endTurn, model := "mock", api := mockApi,
        usage := Usage.new (MockScript.echoTokens p) (MockScript.echoTokens p) } ∧
    ∀ s, Text.isBlank s = false →
      (run { h with stdin := some s } ["--mock"]).stdout = Text.trim s ++ "\n" ∧
      (run { h with stdin := some s } ["--mock"]).code = 0 ∧
      ((MockScript.echo (Text.trim s)).transcript "mock" false).result =
        { content := [.text (Text.trim s)], stopReason := .endTurn, model := "mock",
          api := mockApi,
          usage := Usage.new (MockScript.echoTokens (Text.trim s))
            (MockScript.echoTokens (Text.trim s)) } := by
  have hp := Text.ne_empty_of_isBlank_eq_false hblank
  have hargRun : run h ["--mock", p] = runArgs h { mock := true, prompt := some p } := by
    simp [run, parseArgs_mock_prompt p harg]
  obtain ⟨hout, hcode⟩ :=
    runArgs_echo h { mock := true, prompt := some p } p (readPrompt_arg _ hblank) rfl rfl rfl hp
  refine ⟨hargRun ▸ hout, hargRun ▸ hcode, by simp [echo_transcript p "mock" hp], ?_⟩
  intro s hs
  have ht := Text.trim_ne_empty hs
  have hstdinRun : run { h with stdin := some s } ["--mock"] =
      runArgs { h with stdin := some s } { mock := true } := by
    simp [run, parseArgs_mock]
  obtain ⟨hout, hcode⟩ := runArgs_echo { h with stdin := some s } { mock := true } (Text.trim s)
    (readPrompt_stdin hs) rfl rfl rfl ht
  exact ⟨hstdinRun ▸ hout, hstdinRun ▸ hcode, by simp [echo_transcript _ "mock" ht]⟩

/-- The prompt `hi there`, given as an argument, is echoed. -/
theorem mock_echoes_hi_there :
    Text.isBlank "hi there" = false ∧ ("hi there".startsWith "-" = false ∨ "hi there" = "-") ∧
    (run {} ["--mock", "hi there"]).stdout = "hi there" ++ "\n" ∧
    (run {} ["--mock", "hi there"]).code = 0 ∧
    ((MockScript.echo "hi there").transcript "mock" false).result =
      { content := [.text "hi there"], stopReason := .endTurn, model := "mock", api := mockApi,
        usage := Usage.new (MockScript.echoTokens "hi there") (MockScript.echoTokens "hi there") } ∧
    ∀ s, Text.isBlank s = false →
      (run { stdin := some s } ["--mock"]).stdout = Text.trim s ++ "\n" ∧
      (run { stdin := some s } ["--mock"]).code = 0 ∧
      ((MockScript.echo (Text.trim s)).transcript "mock" false).result =
        { content := [.text (Text.trim s)], stopReason := .endTurn, model := "mock",
          api := mockApi,
          usage := Usage.new (MockScript.echoTokens (Text.trim s))
            (MockScript.echoTokens (Text.trim s)) } :=
  have hblank : Text.isBlank "hi there" = false := by simp [Text.isBlank, Text.isSpace]
  ⟨hblank, .inl (by simp), mock_echoes_prompt {} "hi there" hblank (.inl (by simp))⟩

/-- A prompt that starts with `-` is read as an option: `llmux --mock -v` is refused with exit
code 2 and prints nothing on standard output. -/
theorem mock_dash_prompt_refused :
    Text.isBlank "-v" = false ∧ (run {} ["--mock", "-v"]).code = 2 ∧
      (run {} ["--mock", "-v"]).stdout = "" := by
  obtain ⟨text, htext⟩ : ∃ text, ArgState.step { args := { mock := true }, taken := [.opt .mock] }
      "-v" = .error (.refuse text) := ⟨_, by cbv⟩
  have hparse : parseArgs ["--mock", "-v"] = .refuse text := by
    simp only [parseArgs, List.foldlM_cons, ArgState.step_mock, bind, Except.bind, htext]
  exact ⟨by simp [Text.isBlank, Text.isSpace], by simp [run, hparse], by simp [run, hparse]⟩

end Cli

end ChatStream
