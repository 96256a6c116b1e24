import ChatStream.Vendor.Vertex

/-! # The usage a generate-content stream reports

Each chunk of a generate-content response that carries token counts replaces the usage of the
message being built; text, thinking, calls, the model and finish reasons leave it alone. So after
any sequence of response objects the usage is the one the last counting chunk reported, or the
usage the builder started with (`usage_after_objects`).

The output count is the answer tokens plus the thought tokens added as 32-bit words: past
`2³² - 1` the sum wraps, and then the output count is below the answer count. It is at least the
answer count exactly when the sum fits (`output_tokens_wrap`, `top_candidates_wrap_output`).
-/

namespace ChatStream

namespace MessageBuilder

variable (b : MessageBuilder)

@[simp] theorem usage_pushProse (k : Piece) (t : String) : (b.pushProse k t).2.usage = b.usage := by
  unfold pushProse
  split <;> rfl

@[simp] theorem usage_applyTool (i : Nat) (id name args : Option String) :
    (b.applyTool i id name args).2.usage = b.usage := rfl

@[simp] theorem usage_setModel (m : String) : (b.setModel m).usage = b.usage := by
  unfold setModel
  split <;> rfl

@[simp] theorem usage_setStopReason (r : StopReason) : (b.setStopReason r).usage = b.usage := rfl

@[simp] theorem usage_setUsage (u : Usage) : (b.setUsage u).usage = u := rfl

end MessageBuilder

namespace Vendor.Vertex

/-- The chunk an object of the response reads as, if it reads as one. -/
def chunkOf (object : ByteArray) : Option Chunk :=
  match Json.parseBytes object with
  | .error _ => none
  | .ok j =>
    match chunkDecoder j with
    | .error _ => none
    | .ok c => some c

/-- The token counts a chunk reports; a chunk that reports an error reports none. -/
def Chunk.counts (c : Chunk) : Option UsageMetadata :=
  match c.error with
  | some _ => none
  | none => c.usage

/-- The token counts the last counting object of a sequence reports. -/
def lastCounts (objects : List ByteArray) : Option UsageMetadata :=
  (objects.filterMap fun o => (chunkOf o).bind Chunk.counts).getLast?

/-- The builder after each object of a sequence has been processed. -/
def feed (b : MessageBuilder) (objects : List ByteArray) : MessageBuilder :=
  objects.foldl (fun b o => (process b o).2) b

/-! ### One object -/

theorem usage_applyPart (acc : List StreamEvent × MessageBuilder) (p : Part) :
    (applyPart acc p).2.usage = acc.2.usage := by
  obtain ⟨evs, b⟩ := acc
  unfold applyPart
  have htext : ∀ t, (if p.thought = some true then b.pushThinking t else b.pushText t).2.usage =
      b.usage := fun t => by split <;> simp [MessageBuilder.pushText, MessageBuilder.pushThinking]
  cases p.text <;> cases p.call <;> simp [htext]

theorem usage_foldl_applyPart (ps : List Part) (acc : List StreamEvent × MessageBuilder) :
    (ps.foldl applyPart acc).2.usage = acc.2.usage := by
  induction ps generalizing acc with
  | nil => rfl
  | cons p ps ih => rw [List.foldl_cons, ih, usage_applyPart]

theorem usage_applyCandidate (acc : List StreamEvent × MessageBuilder × Bool) (c : Candidate) :
    (applyCandidate acc c).2.1.usage = acc.2.1.usage := by
  obtain ⟨evs, b, finished⟩ := acc
  unfold applyCandidate
  cases c.finishReason <;> simp [usage_foldl_applyPart]

theorem usage_foldl_applyCandidate (cs : List Candidate)
    (acc : List StreamEvent × MessageBuilder × Bool) :
    (cs.foldl applyCandidate acc).2.1.usage = acc.2.1.usage := by
  induction cs generalizing acc with
  | nil => rfl
  | cons c cs ih => rw [List.foldl_cons, ih, usage_applyCandidate]

theorem usage_applyChunk (b : MessageBuilder) (c : Chunk) :
    (applyChunk b c).2.usage = (c.counts.map UsageMetadata.toUsage).getD b.usage := by
  unfold applyChunk Chunk.counts
  cases c.error with
  | some e => rfl
  | none =>
    simp only [usage_foldl_applyCandidate]
    cases c.usage <;> cases c.modelVersion <;> simp

theorem process_eq (b : MessageBuilder) (o : ByteArray) :
    process b o = match chunkOf o with
      | none => (⟨[], .continue⟩, b)
      | some c => applyChunk b c := by
  unfold process chunkOf
  cases Json.parseBytes o with
  | error => rfl
  | ok j =>
    dsimp only
    cases chunkDecoder j <;> rfl

theorem usage_process (b : MessageBuilder) (o : ByteArray) :
    (process b o).2.usage =
      (((chunkOf o).bind Chunk.counts).map UsageMetadata.toUsage).getD b.usage := by
  rw [process_eq]
  cases chunkOf o with
  | none => rfl
  | some c => simp [usage_applyChunk]

/-! ### A sequence of objects -/

theorem lastCounts_cons (o : ByteArray) (os : List ByteArray) :
    lastCounts (o :: os) = (lastCounts os).or ((chunkOf o).bind Chunk.counts) := by
  unfold lastCounts
  cases h : (chunkOf o).bind Chunk.counts with
  | none => simp only [List.filterMap_cons, h, Option.or_none]
  | some m =>
    simp only [List.filterMap_cons, h, List.getLast?_cons]
    cases (os.filterMap fun o => (chunkOf o).bind Chunk.counts).getLast? <;> rfl

/-- After any sequence of objects the usage is the one the last counting chunk reported. -/
theorem usage_after_objects (b : MessageBuilder) (objects : List ByteArray) :
    (feed b objects).usage = ((lastCounts objects).map UsageMetadata.toUsage).getD b.usage := by
  induction objects generalizing b with
  | nil => rfl
  | cons o os ih =>
    -- the later objects decide, unless none of them counts
    simp only [feed, List.foldl_cons] at ih ⊢
    rw [ih, usage_process, lastCounts_cons]
    cases lastCounts os <;> rfl

/-! ### The output count -/

theorem toNat_outputTokens (m : UsageMetadata) :
    m.toUsage.outputTokens.toNat = (m.candidates.toNat + m.thoughts.toNat) % Nat.pow 2 32 := by
  simp [UsageMetadata.toUsage, UInt32.toNat_add]

/-- The output count is at least the answer count exactly when the sum fits in 32 bits. -/
theorem candidates_le_outputTokens_iff (m : UsageMetadata) :
    m.candidates ≤ m.toUsage.outputTokens ↔ m.candidates.toNat + m.thoughts.toNat < Nat.pow 2 32 := by
  rw [UInt32.le_iff_toNat_le, toNat_outputTokens]
  have hc : m.candidates.toNat < 4294967296 := m.candidates.toNat_lt
  have ht : m.thoughts.toNat < 4294967296 := m.thoughts.toNat_lt
  have hw : Nat.pow 2 32 = 4294967296 := rfl
  rw [hw]
  omega

/-- After any sequence of response objects, the usage is the last reported one, whose output count
is the answer and thought counts summed modulo `2³²`; it is at least the answer count exactly
when that sum fits. -/
theorem output_tokens_wrap (b : MessageBuilder) (objects : List ByteArray) :
    (feed b objects).usage = ((lastCounts objects).map UsageMetadata.toUsage).getD b.usage ∧
      ∀ m, lastCounts objects = some m →
        (feed b objects).usage.outputTokens.toNat =
            (m.candidates.toNat + m.thoughts.toNat) % Nat.pow 2 32 ∧
          (m.candidates ≤ (feed b objects).usage.outputTokens ↔
            m.candidates.toNat + m.thoughts.toNat < Nat.pow 2 32) := by
  refine ⟨usage_after_objects b objects, fun m hm => ?_⟩
  rw [usage_after_objects, hm]
  exact ⟨toNat_outputTokens m, candidates_le_outputTokens_iff m⟩

/-- A chunk with the largest answer count and one thought token reports an output count of `0`. -/
theorem top_candidates_wrap_output :
    let c : Chunk := ⟨[], some { candidates := 4294967295, thoughts := 1 }, none, none⟩
    (applyChunk (MessageBuilder.new api "m") c).2.usage.outputTokens = 0 ∧
      (0 : UInt32) < 4294967295 := by
  decide

end Vendor.Vertex

end ChatStream
