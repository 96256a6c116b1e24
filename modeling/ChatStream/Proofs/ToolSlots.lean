import ChatStream.Proofs.ToolIndexes

/-! # Every tool slot has its call

The first fragment of a tool call puts a slot for it among the blocks of the message; the call
itself is kept apart, by index, and only finishing puts the two together. In every builder a run
reaches, the indexes of the tool slots are distinct and are the indexes of the calls, each once
(`tool_slots_match_calls`). So finishing finds the call of every tool slot, no two slots take the
same call, and the message has one block per slot.

The slots follow the run's layout (`Follows.slots`), whose tool slots are the run's calls in the
order they began; the calls are the same ones, kept sorted by index (`ascending_feed`).
-/

namespace ChatStream

namespace Slot

def toolIndex? : Slot → Option Nat
  | .tool k => some k
  | .block _ => none

/-- The indexes of the tool slots, in order. -/
def toolIndexes (slots : List Slot) : List Nat := slots.filterMap toolIndex?

@[simp] theorem toolIndexes_nil : toolIndexes [] = [] := rfl

@[simp] theorem toolIndexes_append (xs ys : List Slot) :
    toolIndexes (xs ++ ys) = toolIndexes xs ++ toolIndexes ys :=
  List.filterMap_append

@[simp] theorem toolIndexes_cons_tool (k : Nat) (slots : List Slot) :
    toolIndexes (.tool k :: slots) = k :: toolIndexes slots := rfl

@[simp] theorem toolIndexes_map_block (bs : List ContentBlock) :
    toolIndexes (bs.map .block) = [] := by
  simp [toolIndexes, List.filterMap_map, Function.comp_def, toolIndex?]

@[simp] theorem toolIndexes_reverse (slots : List Slot) :
    toolIndexes slots.reverse = (toolIndexes slots).reverse :=
  List.filterMap_reverse

theorem mem_toolIndexes {slots : List Slot} {k : Nat} : k ∈ toolIndexes slots ↔ .tool k ∈ slots := by
  constructor
  · intro hk
    obtain ⟨s, hs, he⟩ := List.mem_filterMap.1 hk
    cases s with
    | tool j => cases he; exact hs
    | block b => cases he
  · intro hk
    exact List.mem_filterMap.2 ⟨.tool k, hk, rfl⟩

end Slot

namespace BuilderOp

theorem toolIndexes_slotsFrom (w : List BuilderOp) (calls : List (Nat × List BuilderOp)) :
    Slot.toolIndexes (slotsFrom w calls) = calls.map Prod.fst := by
  induction calls generalizing w with
  | nil => simp [slotsFrom]
  | cons c calls ih => simp [slotsFrom, ih]

theorem toolIndexes_layoutSlots (ops : List BuilderOp) :
    Slot.toolIndexes (layoutSlots ops) = callOrder ops := by
  rw [layoutSlots, toolIndexes_slotsFrom, sections_nil_calls]

theorem nodup_callOrder (ops : List BuilderOp) : (callOrder ops).Nodup := nodup_eraseDups _

end BuilderOp

namespace ToolCalls

theorem mem_indexes_iff (tc : ToolCalls) (j : Nat) : j ∈ tc.indexes ↔ (tc.get? j).isSome := by
  rw [← contains_eq]
  simp [indexes, contains, List.any_eq_true]

end ToolCalls

namespace MessageBuilder

theorem tools_step_of_index?_none (b : MessageBuilder) {op : BuilderOp} (h : op.index? = none) :
    (b.step op).2.tools = b.tools := by
  cases op with
  | pushText t | pushThinking t => simp only [step, pushText, pushThinking, pushProse]; split_ifs <;> rfl
  | applyTool i id name args => cases h
  | setUsage u => rfl
  | modifyUsage f => rfl
  | setModel m => simp only [step, setModel]; split_ifs <;> rfl
  | setStopReason r => rfl

theorem ascending_step {b : MessageBuilder} (h : b.tools.indexes.Pairwise (· < ·)) (op : BuilderOp) :
    (b.step op).2.tools.indexes.Pairwise (· < ·) := by
  cases hop : op.index? with
  | none => rwa [tools_step_of_index?_none b hop]
  | some i =>
    obtain ⟨id, name, args, rfl⟩ : ∃ id name args, op = .applyTool i id name args := by
      cases op <;> simp_all [BuilderOp.index?]
    rw [step_applyTool]
    exact ToolCalls.pairwise_keys_setAt _ _ h

/-- Fed any run, a builder keeps its tool calls sorted by index, so each index once. -/
theorem ascending_feed (api model : String) (ops : List BuilderOp) :
    ((MessageBuilder.new api model).feed ops).2.tools.indexes.Pairwise (· < ·) := by
  induction ops using List.reverseRecOn with
  | nil => simp [MessageBuilder.new, ToolCalls.indexes]
  | append_singleton ops op ih =>
    rw [feed_append_single]
    exact ascending_step ih op

theorem Follows.toolIndexes {api model : String} {ops : List BuilderOp} {b : MessageBuilder}
    (h : Follows api model ops b) : Slot.toolIndexes b.slotsRev = (BuilderOp.callOrder ops).reverse := by
  rw [h.slots, Slot.toolIndexes_reverse, BuilderOp.toolIndexes_layoutSlots]

theorem Follows.mem_indexes {api model : String} {ops : List BuilderOp} {b : MessageBuilder}
    (h : Follows api model ops b) (j : Nat) : j ∈ b.tools.indexes ↔ j ∈ BuilderOp.callOrder ops := by
  rw [ToolCalls.mem_indexes_iff, h.calls j]
  split <;> simp_all

theorem Follows.finalize_isSome {api model : String} {ops : List BuilderOp} {b : MessageBuilder}
    (h : Follows api model ops b) {k : Nat} (hk : k ∈ Slot.toolIndexes b.slotsRev) :
    ((b.tools.finalize.find? (·.1 == k)).map (·.2)).isSome := by
  rw [h.toolIndexes, List.mem_reverse] at hk
  rw [ToolCalls.finalize_find?, h.calls k, if_pos hk]
  rfl

end MessageBuilder

open MessageBuilder in
/-- In every builder a run reaches, the tool slots have distinct indexes, and these are the
indexes of its tool calls, each once. So finishing finds the call of every tool slot, and the
message it finishes with has one block for each slot: no slot is skipped. -/
theorem tool_slots_match_calls (api model : String) (ops : List BuilderOp) :
    let b := ((MessageBuilder.new api model).feed ops).2
    (Slot.toolIndexes b.slotsRev).Nodup ∧ (Slot.toolIndexes b.slotsRev).Perm b.tools.indexes ∧
      (∀ k ∈ Slot.toolIndexes b.slotsRev, ((b.tools.finalize.find? (·.1 == k)).map (·.2)).isSome) ∧
      b.finish.1.content.length = b.slotsRev.length := by
  intro b
  have hf : Follows api model ops b := feed_follows api model ops
  have hslots : (Slot.toolIndexes b.slotsRev).Nodup := by
    rw [hf.toolIndexes]
    exact (List.reverse_perm _).nodup_iff.2 (BuilderOp.nodup_callOrder ops)
  have hkeys : b.tools.indexes.Nodup := (ascending_feed api model ops).imp Nat.ne_of_lt
  refine ⟨hslots, ?_, fun k hk => hf.finalize_isSome hk, ?_⟩
  · rw [List.perm_ext_iff_of_nodup hslots hkeys]
    intro j
    rw [hf.mem_indexes, hf.toolIndexes, List.mem_reverse]
  · -- a block slot is its block, a tool slot its call's block: no slot is dropped
    simp only [finish]
    conv_rhs => rw [← List.length_reverse]
    rw [List.filterMap_length_eq_length]
    intro s hs
    cases s with
    | block blk => rfl
    | tool k =>
      exact hf.finalize_isSome (Slot.mem_toolIndexes.2 (List.mem_reverse.1 hs))

end ChatStream
