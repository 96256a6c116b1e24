import ChatStream.Proofs.MessageFolding

/-! # The streamed events agree with the finished message

Each call on a builder answers at once with events, while `finish` builds the message later from
the slots and the tool calls. Both are fixed by the run alone: a builder that follows a run answers
each call with the events the run calls for there (`BuilderOp.events`, `Follows.step_events`).

Projected onto each kind of event, the stream of a whole run holds what the message holds: the
text deltas join to its text, the thinking deltas to its thinking, the argument deltas of a call
to the call's input (before blank input becomes `{}`), and each call is announced at most once,
when its first non-empty name arrives, with the name its block carries.

The id of an announcement is the first non-empty id known when the name arrived. A vendor may
send the id later, or never, and then the block carries that later id or a minted one. So an
announcement carries its block's id exactly when it carries a non-empty id.
-/

namespace ChatStream

/-! ### Projections of a stream -/

namespace StreamEvent

/-- The prose of a kind an event streams. -/
def prose (k : Piece) : StreamEvent → Option String
  | .contentDelta t => if k = .text then some t else none
  | .thinkingDelta t => if k = .thinking then some t else none
  | _ => none

/-- The argument piece an event streams for the call at `i`. -/
def argsFor (i : Nat) : StreamEvent → Option String
  | .toolUseDelta j a => if j = i then some a else none
  | _ => none

/-- The id and name with which an event announces the call at `i`. -/
def startFor (i : Nat) : StreamEvent → Option (String × String)
  | .toolUseStart j id n => if j = i then some (id, n) else none
  | _ => none

end StreamEvent

/-! ### The events of a call -/

namespace BuilderOp

/-- The events a call causes after the run `pre`: non-empty prose is echoed; a tool-call
fragment announces its call when it brings the call's first non-empty name, with the first
non-empty id known by then, and echoes its non-empty argument piece. -/
def events (pre : List BuilderOp) : BuilderOp → List StreamEvent
  | .pushText t => if t = "" then [] else [.contentDelta t]
  | .pushThinking t => if t = "" then [] else [.thinkingDelta t]
  | .applyTool i id name args =>
    (if firstName pre i = none then
      (ToolCalls.present name).toList.map
        (.toolUseStart i ((firstId (pre ++ [.applyTool i id name args]) i).getD ""))
    else []) ++ (ToolCalls.present args).toList.map (.toolUseDelta i)
  | _ => []

variable (pre : List BuilderOp) (op : BuilderOp)

theorem join_prose_events (k : Piece) :
    String.join ((events pre op).filterMap (StreamEvent.prose k)) =
      String.join (op.prose k).toList := by
  cases op with
  | pushText t =>
    by_cases ht : t = "" <;> cases k <;> simp [events, StreamEvent.prose, prose, ht]
  | pushThinking t =>
    by_cases ht : t = "" <;> cases k <;> simp [events, StreamEvent.prose, prose, ht]
  | applyTool i id name args =>
    cases hn : ToolCalls.present name <;> cases ha : ToolCalls.present args <;>
      by_cases hf : firstName pre i = none <;>
      simp [events, StreamEvent.prose, prose, hn, ha, hf, List.filterMap_cons]
  | _ => rfl

theorem argsFor_events (i : Nat) :
    (events pre op).filterMap (StreamEvent.argsFor i) =
      ((op.fragment? i).bind fun f => ToolCalls.present f.2.2).toList := by
  cases op with
  | applyTool j id name args =>
    by_cases hj : j = i
    · subst hj
      cases hn : ToolCalls.present name <;> cases ha : ToolCalls.present args <;>
        by_cases hf : firstName pre j = none <;>
        simp [events, StreamEvent.argsFor, fragment?, hn, ha, hf, List.filterMap_cons]
    · cases hn : ToolCalls.present name <;> cases ha : ToolCalls.present args <;>
        by_cases hf : firstName pre j = none <;>
        simp [events, StreamEvent.argsFor, fragment?, hj, hn, ha, hf, List.filterMap_cons]
  | pushText t | pushThinking t =>
    by_cases ht : t = "" <;> simp [events, fragment?, StreamEvent.argsFor, ht]
  | _ => rfl

theorem startFor_events (i : Nat) :
    (events pre op).filterMap (StreamEvent.startFor i) =
      if firstName pre i = none then
        ((op.fragment? i).bind fun f => ToolCalls.present f.2.1).toList.map
          (((firstId (pre ++ [op]) i).getD ""), ·)
      else [] := by
  cases op with
  | applyTool j id name args =>
    by_cases hj : j = i
    · subst hj
      cases hn : ToolCalls.present name <;> cases ha : ToolCalls.present args <;>
        by_cases hf : firstName pre j = none <;>
        simp [events, StreamEvent.startFor, fragment?, hn, ha, hf, List.filterMap_cons]
    · cases hn : ToolCalls.present name <;> cases ha : ToolCalls.present args <;>
        by_cases hf : firstName pre j = none <;>
        simp [events, StreamEvent.startFor, fragment?, hj, hn, ha, hf, List.filterMap_cons]
  | _ => split_ifs <;> simp [events, fragment?, StreamEvent.startFor]

theorem firstName_append_single (ops : List BuilderOp) (op : BuilderOp) (i : Nat) :
    firstName (ops ++ [op]) i =
      (firstName ops i).or ((op.fragment? i).bind fun f => ToolCalls.present f.2.1) := by
  cases h : op.fragment? i <;> simp [firstName, fragments_append_single, h, List.head?_append]

theorem firstId_append_single (ops : List BuilderOp) (op : BuilderOp) (i : Nat) :
    firstId (ops ++ [op]) i =
      (firstId ops i).or ((op.fragment? i).bind fun f => ToolCalls.present f.1) := by
  cases h : op.fragment? i <;> simp [firstId, fragments_append_single, h, List.head?_append]

theorem isEmpty_name_callOf (ops : List BuilderOp) (i : Nat) :
    (callOf ops i).name.isEmpty = (firstName ops i).isNone := by
  cases h : firstName ops i with
  | none => simp [callOf, h]
  | some s => simpa [callOf, h, String.isEmpty_iff] using firstName_ne_empty h

end BuilderOp

/-- The events of a fragment: an announcement if the call had no name and the fragment brings
one, with the call's id after the fragment, then the echo of a non-empty argument piece. -/
theorem ToolCalls.apply_fst (tc : ToolCalls) (i : Nat) (id name args : Option String) :
    (tc.apply i id name args).1 =
      (if ((tc.get? i).getD {}).name.isEmpty then
        (present name).toList.map
          (.toolUseStart i (((tc.get? i).getD {}).absorb (id, name, args)).id)
      else []) ++ (present args).toList.map (.toolUseDelta i) := by
  simp only [apply, PendingCall.absorb]
  generalize (tc.get? i).getD {} = c
  obtain ⟨cid, cname, cargs⟩ := c
  cases present id <;> cases present name <;> cases present args <;>
    simp only [Option.getD_none, Option.getD_some] <;>
    split_ifs <;> simp_all [String.isEmpty_iff]

namespace MessageBuilder

theorem step_applyTool_fst (b : MessageBuilder) (i : Nat) (id name args : Option String) :
    (b.step (.applyTool i id name args)).1 = (b.tools.apply i id name args).1 := rfl

theorem Follows.step_events {api model : String} {pre : List BuilderOp} {b : MessageBuilder}
    (h : Follows api model pre b) (op : BuilderOp) : (b.step op).1 = BuilderOp.events pre op := by
  cases op with
  | pushText t | pushThinking t =>
    by_cases ht : t = "" <;>
      simp [MessageBuilder.step, pushText, pushThinking, pushProse_fst, BuilderOp.events, ht,
        Piece.delta]
  | applyTool i id name args =>
    -- the call before the fragment is what the run tells of it, and absorbing the fragment
    -- gives what the longer run tells
    have hc := BuilderOp.callOf_append_single pre (.applyTool i id name args) i
    simp only [BuilderOp.fragment?, if_true] at hc
    rw [step_applyTool_fst, ToolCalls.apply_fst, h.getD_get?, BuilderOp.isEmpty_name_callOf, ← hc]
    simp [BuilderOp.events, BuilderOp.callOf]
  | _ => rfl

theorem feed_events_append_single (api model : String) (ops : List BuilderOp) (op : BuilderOp) :
    ((MessageBuilder.new api model).feed (ops ++ [op])).1 =
      ((MessageBuilder.new api model).feed ops).1 ++ BuilderOp.events ops op := by
  rw [feed_append_single, (feed_follows api model ops).step_events]

/-! ### The stream of a run -/

variable (api model : String)

theorem join_prose_feed (k : Piece) (ops : List BuilderOp) :
    String.join (((MessageBuilder.new api model).feed ops).1.filterMap (StreamEvent.prose k)) =
      BuilderOp.proseOf ops k := by
  induction ops using List.reverseRecOn with
  | nil => rfl
  | append_singleton ops op ih =>
    rw [feed_events_append_single, List.filterMap_append, String.join_append, ih,
      BuilderOp.join_prose_events, BuilderOp.proseOf_append]
    cases h : op.prose k <;> simp [BuilderOp.proseOf, h]

theorem join_argsFor_feed (i : Nat) (ops : List BuilderOp) :
    String.join (((MessageBuilder.new api model).feed ops).1.filterMap (StreamEvent.argsFor i)) =
      BuilderOp.argsOf ops i := by
  induction ops using List.reverseRecOn with
  | nil => rfl
  | append_singleton ops op ih =>
    rw [feed_events_append_single, List.filterMap_append, String.join_append, ih,
      BuilderOp.argsFor_events]
    simp only [BuilderOp.argsOf, BuilderOp.fragments_append_single, List.filterMap_append,
      String.join_append]
    cases h : op.fragment? i with
    | none => simp
    | some f => cases ha : ToolCalls.present f.2.2 <;> simp [ha]

/-- A call is announced at most once, with its first non-empty name. -/
theorem names_startFor_feed (i : Nat) (ops : List BuilderOp) :
    (((MessageBuilder.new api model).feed ops).1.filterMap (StreamEvent.startFor i)).map Prod.snd =
      (BuilderOp.firstName ops i).toList := by
  induction ops using List.reverseRecOn with
  | nil => rfl
  | append_singleton ops op ih =>
    rw [feed_events_append_single, List.filterMap_append, List.map_append, ih,
      BuilderOp.startFor_events, BuilderOp.firstName_append_single]
    cases h : BuilderOp.firstName ops i <;>
      cases (op.fragment? i).bind fun f => ToolCalls.present f.2.1 <;> simp

/-- An announcement with a non-empty id carries the call's first non-empty id: once a call has
an id, later fragments keep it. -/
theorem startFor_feed_id (i : Nat) (ops : List BuilderOp) {p : String × String}
    (hp : p ∈ ((MessageBuilder.new api model).feed ops).1.filterMap (StreamEvent.startFor i))
    (hne : p.1 ≠ "") : BuilderOp.firstId ops i = some p.1 := by
  induction ops using List.reverseRecOn with
  | nil => simp at hp
  | append_singleton ops op ih =>
    rw [feed_events_append_single, List.filterMap_append, List.mem_append,
      BuilderOp.startFor_events] at hp
    rcases hp with hp | hp
    · rw [BuilderOp.firstId_append_single, ih hp]
      rfl
    · -- announced by this call, with the id known after it
      split at hp
      · obtain ⟨n, -, rfl⟩ := List.mem_map.1 hp
        cases h : BuilderOp.firstId (ops ++ [op]) i <;> simp_all
      · simp at hp

end MessageBuilder

/-! ### The finished message -/

theorem AssistantMessage.text_eq_proseOfBlocks (m : AssistantMessage) :
    m.text = proseOfBlocks .text m.content := by
  simp only [AssistantMessage.text, proseOfBlocks]
  congr 1
  apply List.filterMap_congr
  intro blk _
  cases blk <;> rfl

theorem AssistantMessage.toolUses_filter (m : AssistantMessage) :
    m.toolUses = ({ content := m.content.filter ContentBlock.isToolUse } : AssistantMessage).toolUses := by
  simp only [AssistantMessage.toolUses, List.filterMap_filter]
  congr 1
  funext blk
  cases blk <;> rfl

theorem BuilderOp.toolUses_finalMessage (api model : String) (ops : List BuilderOp) :
    (finalMessage api model ops).toolUses = (callOrder ops).map fun i =>
      ((firstId ops i).getD (ToolCalls.mintedId i), (firstName ops i).getD "",
        if Text.isBlank (argsOf ops i) then "{}" else argsOf ops i) := by
  rw [AssistantMessage.toolUses_filter]
  simp only [finalMessage, filter_isToolUse_layout, AssistantMessage.toolUses, List.filterMap_map]
  rw [← List.filterMap_eq_map]
  rfl

/-! ### Events and message agree -/

open BuilderOp MessageBuilder in
/-- Whatever the run, the events a builder streams agree with the message it finishes with.
The text deltas join to the message's text and the thinking deltas to its thinking. Each tool
use, in order, carries the name its call was announced with (empty if it never was) and the join
of its argument deltas, `{}` when that is blank. A call is announced at most once, with its first
non-empty name, by the very call that brings that name. Finishing announces each text and
tool-use block in content order, then the stop reason and usage of the message. -/
theorem stream_agrees_with_message (api model : String) (ops : List BuilderOp) :
    let r := (MessageBuilder.new api model).feed ops
    let fin := r.2.finish
    String.join (r.1.filterMap (StreamEvent.prose .text)) = fin.1.text ∧
    String.join (r.1.filterMap (StreamEvent.prose .thinking)) =
      proseOfBlocks .thinking fin.1.content ∧
    fin.1.toolUses.map Prod.snd = (callOrder ops).map (fun i =>
      ((((r.1.filterMap (StreamEvent.startFor i)).map Prod.snd).head?).getD "",
        if Text.isBlank (String.join (r.1.filterMap (StreamEvent.argsFor i))) then "{}"
        else String.join (r.1.filterMap (StreamEvent.argsFor i)))) ∧
    (∀ i, (r.1.filterMap (StreamEvent.startFor i)).map Prod.snd = (firstName ops i).toList) ∧
    (∀ pre op post, ops = pre ++ op :: post → ∀ i,
      ((((MessageBuilder.new api model).feed pre).2.step op).1.filterMap
          (StreamEvent.startFor i)).map Prod.snd =
        if firstName pre i = none then
          ((op.fragment? i).bind fun f => ToolCalls.present f.2.1).toList
        else []) ∧
    fin.2 = fin.1.content.filterMap doneEvent ++ [.messageDone fin.1.stopReason fin.1.usage] := by
  intro r fin
  have hfin : fin = (finalMessage api model ops, _) := (feed_follows api model ops).finish_eq
  rw [hfin]
  refine ⟨?_, ?_, ?_, fun i => names_startFor_feed api model i ops, ?_, rfl⟩
  · rw [join_prose_feed, AssistantMessage.text_eq_proseOfBlocks, finalMessage, proseOf_layout]
  · rw [join_prose_feed, finalMessage, proseOf_layout]
  · rw [toolUses_finalMessage, List.map_map]
    apply List.map_congr_left
    intro i _
    simp only [r, Function.comp_apply, names_startFor_feed, Option.head?_toList, join_argsFor_feed]
  · intro pre op _ _ i
    rw [(feed_follows api model pre).step_events, startFor_events]
    split <;> simp [List.map_map, Function.comp_def]

/-! ### The id of an announcement -/

open BuilderOp MessageBuilder in
/-- The id an announcement carries is the one its call's tool use (and its `toolUseDone`) ends
with exactly when it is not empty. An announcement is made when the first name arrives, with the
first id known by then; a call whose id arrives later, or never, is announced with the empty id
while its block takes the later id or a minted one. -/
theorem start_id_is_final_iff_nonempty (api model : String) (ops : List BuilderOp) :
    let r := (MessageBuilder.new api model).feed ops
    List.Forall₂ (fun i (u : String × String × String) =>
        ∀ p ∈ r.1.filterMap (StreamEvent.startFor i), (p.1 = u.1 ↔ p.1 ≠ ""))
      (callOrder ops) r.2.finish.1.toolUses := by
  intro r
  simp only [r, (feed_follows api model ops).finish_eq, toolUses_finalMessage,
    List.forall₂_map_right_iff]
  apply List.forall₂_same.2
  intro i _ p hp
  constructor
  · -- a block's id is never empty: a vendor's id is not, and neither is a minted one
    intro he
    rw [he]
    cases h : firstId ops i with
    | none => exact ToolCalls.mintedId_ne_empty i
    | some s => exact firstId_ne_empty h
  · intro hne
    rw [startFor_feed_id api model i ops hp hne]
    rfl

/-- A call named before it has an id is announced with the empty id, while its block and its
`toolUseDone` carry the id minted for it. -/
theorem nameless_start_misses_minted_id :
    let r := (MessageBuilder.new "a" "m").feed [.applyTool 0 none (some "f") none]
    r.1 = [.toolUseStart 0 "" "f"] ∧
      r.2.finish.1.toolUses = [(ToolCalls.mintedId 0, "f", "{}")] ∧ ToolCalls.mintedId 0 ≠ "" := by
  refine ⟨by decide, ?_, ToolCalls.mintedId_ne_empty 0⟩
  have hc : BuilderOp.callOrder [.applyTool 0 none (some "f") none] = [0] := by decide
  have hi : BuilderOp.firstId [.applyTool 0 none (some "f") none] 0 = none := by decide
  have hn : BuilderOp.firstName [.applyTool 0 none (some "f") none] 0 = some "f" := by decide
  have ha : BuilderOp.argsOf [.applyTool 0 none (some "f") none] 0 = "" := by decide
  simp [(MessageBuilder.feed_follows "a" "m" _).finish_eq, BuilderOp.toolUses_finalMessage, hc, hi,
    hn, ha, Text.isBlank]

end ChatStream
