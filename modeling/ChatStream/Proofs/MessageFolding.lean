import Mathlib.Data.List.Forall2
import Mathlib.Data.List.Induction
import ChatStream.Accumulate.Message

/-! # The finished message is the fold of what was streamed

A builder is driven by a run of calls (`BuilderOp`): text and thinking pieces, tool-call
fragments, the usage, the model and the stop reason. This module describes the message the
builder finishes with from the run alone, without its slots.

Cut the run at the first fragment of each tool call (`sections`). Every stretch between two
calls leaves one block for each kind of prose it holds: one text block holding all its text, one
thinking block holding all its thinking, in the order the two kinds first arrived
(`stretchBlocks`). Each call leaves one tool-use block: its first non-empty id (or one minted for
it), its first non-empty name, and its non-empty argument pieces joined (`callBlock`). The
builder lays out exactly that (`Follows.finish_eq`), because after every call it
`Follows` the run: its slots are the layout's, and its tool calls are the run's calls. -/

namespace ChatStream

/-- One call on a message builder that changes it. -/
inductive BuilderOp where
  | pushText (t : String)
  | pushThinking (t : String)
  | applyTool (index : Nat) (id name args : Option String)
  | setUsage (u : Usage)
  /-- Change the usage in place. -/
  | modifyUsage (f : Usage → Usage)
  | setModel (model : String)
  | setStopReason (r : StopReason)

namespace MessageBuilder

/-- Perform one call: the events it returns, and the builder after it. -/
def step (b : MessageBuilder) : BuilderOp → List StreamEvent × MessageBuilder
  | .pushText t => ((b.pushText t).1.toList, (b.pushText t).2)
  | .pushThinking t => ((b.pushThinking t).1.toList, (b.pushThinking t).2)
  | .applyTool i id name args => b.applyTool i id name args
  | .setUsage u => ([], b.setUsage u)
  | .modifyUsage f => ([], b.modifyUsage f)
  | .setModel m => ([], b.setModel m)
  | .setStopReason r => ([], b.setStopReason r)

/-- Perform calls in order: every event they return, and the builder after them. -/
def feed (b : MessageBuilder) (ops : List BuilderOp) : List StreamEvent × MessageBuilder :=
  ops.foldl (fun acc op => (acc.1 ++ (acc.2.step op).1, (acc.2.step op).2)) ([], b)

variable (b : MessageBuilder)

@[simp] theorem feed_nil : b.feed [] = ([], b) := rfl

theorem foldl_events (ops : List BuilderOp) (es : List StreamEvent) :
    ops.foldl (fun acc op => (acc.1 ++ (acc.2.step op).1, (acc.2.step op).2)) (es, b) =
      (es ++ (b.feed ops).1, (b.feed ops).2) := by
  induction ops generalizing es b with
  | nil => simp
  | cons op ops ih =>
    simp only [feed, List.foldl_cons, List.nil_append]
    rw [ih, ih (b.step op).2 (b.step op).1]
    simp

theorem feed_append (xs ys : List BuilderOp) :
    b.feed (xs ++ ys) = ((b.feed xs).1 ++ ((b.feed xs).2.feed ys).1, ((b.feed xs).2.feed ys).2) := by
  rw [feed, List.foldl_append, ← feed, foldl_events]

theorem feed_append_single (ops : List BuilderOp) (op : BuilderOp) :
    b.feed (ops ++ [op]) =
      ((b.feed ops).1 ++ ((b.feed ops).2.step op).1, ((b.feed ops).2.step op).2) := by
  simp [feed]

end MessageBuilder

def ContentBlock.isToolUse : ContentBlock → Bool
  | .toolUse .. => true
  | _ => false

@[simp] theorem ContentBlock.prose_toolUse (k : Piece) (i n j : String) :
    (ContentBlock.toolUse i n j).prose k = none := rfl

@[simp] theorem ContentBlock.isToolUse_toolUse (i n j : String) :
    (ContentBlock.toolUse i n j).isToolUse = true := rfl

/-- All the prose of a kind in some blocks, joined. -/
def proseOfBlocks (k : Piece) (bs : List ContentBlock) : String :=
  String.join (bs.filterMap (ContentBlock.prose k))

namespace BuilderOp

/-- The prose of a kind a call pushes. -/
def prose (k : Piece) : BuilderOp → Option String
  | .pushText t => if k = .text then some t else none
  | .pushThinking t => if k = .thinking then some t else none
  | _ => none

/-- The kind of prose a call pushes, if it pushes any that is not empty. -/
def kind? : BuilderOp → Option Piece
  | .pushText t => if t = "" then none else some .text
  | .pushThinking t => if t = "" then none else some .thinking
  | _ => none

/-- The index of a tool-call fragment. -/
def index? : BuilderOp → Option Nat
  | .applyTool i .. => some i
  | _ => none

/-- The fragment `(id, name, args)` that a call brings to the tool call at `i`. -/
def fragment? (i : Nat) : BuilderOp → Option (Option String × Option String × Option String)
  | .applyTool j id name args => if j = i then some (id, name, args) else none
  | _ => none

def stop? : BuilderOp → Option StopReason
  | .setStopReason r => some r
  | _ => none

/-- The model name a call reports, unless it is empty. -/
def model? : BuilderOp → Option String
  | .setModel m => if m = "" then none else some m
  | _ => none

def usage (u : Usage) : BuilderOp → Usage
  | .setUsage u' => u'
  | .modifyUsage f => f u
  | _ => u

/-! ### What a run says -/

variable (ops : List BuilderOp)

/-- All the prose of a kind pushed in a run, joined in order. -/
def proseOf (k : Piece) : String := String.join (ops.filterMap (prose k))

/-- The kinds of prose a run pushes, each once, in the order of their first non-empty piece. -/
def kinds : List Piece := (ops.filterMap kind?).eraseDups

/-- The tool calls of a run: each index once, in the order of its first fragment. -/
def callOrder : List Nat := (ops.filterMap index?).eraseDups

/-- The fragments of the tool call at `i`, in order. -/
def fragments (i : Nat) : List (Option String × Option String × Option String) :=
  ops.filterMap (fragment? i)

/-- The first non-empty id given to the call at `i`. -/
def firstId (i : Nat) : Option String :=
  ((fragments ops i).filterMap fun f => ToolCalls.present f.1).head?

/-- The first non-empty name given to the call at `i`. -/
def firstName (i : Nat) : Option String :=
  ((fragments ops i).filterMap fun f => ToolCalls.present f.2.1).head?

/-- The non-empty argument pieces of the call at `i`, joined in order. -/
def argsOf (i : Nat) : String :=
  String.join ((fragments ops i).filterMap fun f => ToolCalls.present f.2.2)

/-- What a run tells of the call at `i` before it is finished. -/
def callOf (i : Nat) : PendingCall :=
  { id := (firstId ops i).getD "", name := (firstName ops i).getD "", args := argsOf ops i }

/-- The block the call at `i` leaves: its first id, else one minted for it; its first name, else
empty; its argument pieces joined, `{}` when they are blank. -/
def callBlock (i : Nat) : ContentBlock :=
  .toolUse ((firstId ops i).getD (ToolCalls.mintedId i)) ((firstName ops i).getD "")
    (if Text.isBlank (argsOf ops i) then "{}" else argsOf ops i)

/-- The last stop reason a run reports. -/
def lastStop : Option StopReason := (ops.filterMap stop?).getLast?

/-- The model name a run ends with, starting from `model`. -/
def modelAfter (model : String) : String := ((ops.filterMap model?).getLast?).getD model

def usageAfter : Usage := ops.foldl usage {}

end BuilderOp

/-! ### The layout of a run -/

namespace BuilderOp

/-- A run cut at the first fragment of each tool call: the calls before the first tool call,
then each tool call's index with the calls after its first fragment, up to the next tool call's
first fragment. `begun` are the tool calls begun before the run. -/
def sections (begun : List Nat) : List BuilderOp → List BuilderOp × List (Nat × List BuilderOp)
  | [] => ([], [])
  | op :: ops =>
    match op.index? with
    | some i =>
      if i ∈ begun then (op :: (sections begun ops).1, (sections begun ops).2)
      else ([], (i, (sections (i :: begun) ops).1) :: (sections (i :: begun) ops).2)
    | none => (op :: (sections begun ops).1, (sections begun ops).2)

/-- The stretches of a run between the first fragments of its tool calls. -/
def stretches (ops : List BuilderOp) : List (List BuilderOp) :=
  (sections [] ops).1 :: (sections [] ops).2.map (·.2)

/-- The blocks a stretch leaves: one per kind of prose, holding all of it. -/
def stretchBlocks (w : List BuilderOp) : List ContentBlock :=
  (kinds w).map fun k => k.block (proseOf w k)

/-- The content laid out from a stretch and the tool calls after it. -/
def layoutFrom (ops : List BuilderOp) (w : List BuilderOp) : List (Nat × List BuilderOp) → List ContentBlock
  | [] => stretchBlocks w
  | (i, w') :: calls => stretchBlocks w ++ callBlock ops i :: layoutFrom ops w' calls

def layout (ops : List BuilderOp) : List ContentBlock :=
  layoutFrom ops (sections [] ops).1 (sections [] ops).2

end BuilderOp

/-! ### A run, one call at a time -/

section EraseDups

variable {α : Type} [BEq α] [LawfulBEq α]

theorem eraseDups_append_single (l : List α) (a : α) :
    (l ++ [a]).eraseDups = l.eraseDups ++ if a ∈ l then [] else [a] := by
  rw [List.eraseDups_append]
  by_cases h : a ∈ l <;> simp [List.removeAll, List.eraseDups_cons, h]

theorem nodup_eraseDups (l : List α) : l.eraseDups.Nodup := by
  induction l using List.reverseRecOn with
  | nil => simp
  | append_singleton l a ih =>
    rw [eraseDups_append_single]
    split
    · simpa using ih
    · rename_i h
      simp only [List.nodup_append, ih, List.mem_eraseDups, List.mem_singleton, true_and]
      refine ⟨List.pairwise_singleton _ a, fun x hx b hb hxb => ?_⟩
      subst hb hxb
      exact h hx

end EraseDups

theorem join_eq_empty_iff (l : List String) : String.join l = "" ↔ ∀ s ∈ l, s = "" := by
  induction l with
  | nil => simp
  | cons s l ih => simp [String.join_cons, String.append_eq_empty_iff, ih]

namespace BuilderOp

variable (ops : List BuilderOp) (op : BuilderOp)

@[simp] theorem proseOf_append (xs ys : List BuilderOp) (k : Piece) :
    proseOf (xs ++ ys) k = proseOf xs k ++ proseOf ys k := by
  simp [proseOf, List.filterMap_append, String.join_append]

theorem kinds_append_single :
    kinds (ops ++ [op]) = kinds ops ++
      match op.kind? with
      | some k => if k ∈ kinds ops then [] else [k]
      | none => [] := by
  cases h : op.kind? <;>
    simp [kinds, List.filterMap_append, h, eraseDups_append_single, List.mem_eraseDups]

theorem callOrder_append_single :
    callOrder (ops ++ [op]) = callOrder ops ++
      match op.index? with
      | some i => if i ∈ callOrder ops then [] else [i]
      | none => [] := by
  cases h : op.index? <;>
    simp [callOrder, List.filterMap_append, h, eraseDups_append_single, List.mem_eraseDups]

theorem mem_callOrder {i : Nat} : i ∈ callOrder ops ↔ ∃ op ∈ ops, op.index? = some i := by
  simp [callOrder, List.mem_eraseDups]

theorem kind?_eq_some_iff (k : Piece) : op.kind? = some k ↔ ∃ t, op.prose k = some t ∧ t ≠ "" := by
  cases op <;> cases k <;> simp [kind?, prose]

theorem proseOf_eq_empty_iff (k : Piece) : proseOf ops k = "" ↔ k ∉ kinds ops := by
  simp only [proseOf, join_eq_empty_iff, kinds, List.mem_eraseDups, List.mem_filterMap,
    kind?_eq_some_iff]
  constructor
  · rintro h ⟨op, hop, t, ht, hne⟩
    exact hne (h t ⟨op, hop, ht⟩)
  · rintro h t ⟨op, hop, ht⟩
    by_cases hne : t = ""
    · exact hne
    · exact absurd ⟨op, hop, t, ht, hne⟩ h

end BuilderOp

/-! ### Cutting a run one call longer -/

namespace BuilderOp

/-- Add a call to the last stretch of a cut run. -/
def addLast (op : BuilderOp) (w : List BuilderOp) :
    List (Nat × List BuilderOp) → List BuilderOp × List (Nat × List BuilderOp)
  | [] => (w ++ [op], [])
  | (i, w') :: calls => (w, (i, (addLast op w' calls).1) :: (addLast op w' calls).2)

def lastStretch (w : List BuilderOp) : List (Nat × List BuilderOp) → List BuilderOp
  | [] => w
  | (_, w') :: calls => lastStretch w' calls

theorem addLast_cons (op x : BuilderOp) (w : List BuilderOp) (calls : List (Nat × List BuilderOp)) :
    addLast op (x :: w) calls = (x :: (addLast op w calls).1, (addLast op w calls).2) := by
  cases calls <;> rfl

variable (op : BuilderOp)

theorem sections_append_opens {i : Nat} (hop : op.index? = some i) (begun : List Nat)
    (ops : List BuilderOp) (hb : i ∉ begun) (ho : i ∉ ops.filterMap index?) :
    sections begun (ops ++ [op]) = ((sections begun ops).1, (sections begun ops).2 ++ [(i, [])]) := by
  induction ops generalizing begun with
  | nil => simp [sections, hop, hb]
  | cons x ops ih =>
    simp only [List.filterMap_cons, List.cons_append] at ho ⊢
    cases hx : x.index? with
    | none =>
      rw [hx] at ho
      simp [sections, hx, ih begun hb ho]
    | some j =>
      rw [hx] at ho
      have hij : i ≠ j := fun h => ho (h ▸ List.mem_cons_self)
      have ho' : i ∉ ops.filterMap index? := fun h => ho (List.mem_cons_of_mem _ h)
      by_cases hj : j ∈ begun
      · simp [sections, hx, hj, ih begun hb ho']
      · simp [sections, hx, hj, ih (j :: begun) (by simp [hij, hb]) ho']

theorem sections_append_joins (begun : List Nat) (ops : List BuilderOp)
    (h : ∀ i, op.index? = some i → i ∈ begun ∨ i ∈ ops.filterMap index?) :
    sections begun (ops ++ [op]) = addLast op (sections begun ops).1 (sections begun ops).2 := by
  induction ops generalizing begun with
  | nil =>
    cases hop : op.index? with
    | none => simp [sections, hop, addLast]
    | some i =>
      have hi : i ∈ begun := by simpa using h i hop
      simp [sections, hop, hi, addLast]
  | cons x ops ih =>
    simp only [List.cons_append]
    cases hx : x.index? with
    | none =>
      have h' : ∀ i, op.index? = some i → i ∈ begun ∨ i ∈ ops.filterMap index? := by
        simpa [hx] using h
      simp [sections, hx, ih begun h', addLast_cons]
    | some j =>
      by_cases hj : j ∈ begun
      · have h' : ∀ i, op.index? = some i → i ∈ begun ∨ i ∈ ops.filterMap index? := by
          intro i hi
          rcases h i hi with h | h
          · exact .inl h
          · simp only [List.filterMap_cons, hx, List.mem_cons] at h
            rcases h with rfl | h
            · exact .inl hj
            · exact .inr h
        simp [sections, hx, hj, ih begun h', addLast_cons]
      · have h' : ∀ i, op.index? = some i → i ∈ j :: begun ∨ i ∈ ops.filterMap index? := by
          intro i hi
          rcases h i hi with h | h
          · exact .inl (List.mem_cons_of_mem _ h)
          · simp only [List.filterMap_cons, hx, List.mem_cons] at h
            rcases h with rfl | h
            · exact .inl List.mem_cons_self
            · exact .inr h
        simp [sections, hx, hj, ih (j :: begun) h', addLast]

/-- The tool calls of a cut run are the run's calls not begun before it, in order of their first
fragment. -/
theorem sections_calls (begun : List Nat) (ops : List BuilderOp) :
    (sections begun ops).2.map Prod.fst = ((ops.filterMap index?).filter (· ∉ begun)).eraseDups := by
  induction ops generalizing begun with
  | nil => rfl
  | cons x ops ih =>
    cases hx : x.index? with
    | none => simp [sections, hx, ih]
    | some j =>
      by_cases hj : j ∈ begun
      · simp [sections, hx, hj, ih]
      · simp only [sections, hx, hj, if_false, List.map_cons, ih, List.filterMap_cons]
        rw [List.filter_cons_of_pos (by simpa using hj), List.eraseDups_cons, List.filter_filter]
        congr 2
        apply List.filter_congr
        intro y _
        by_cases hy : y = j <;> simp [hy]

theorem sections_nil_calls (ops : List BuilderOp) :
    (sections [] ops).2.map Prod.fst = callOrder ops := by
  have h := sections_calls [] ops
  simp only [List.not_mem_nil, not_false_eq_true, decide_true] at h
  rwa [List.filter_eq_self.2 fun _ _ => rfl] at h

theorem proseOf_sections (k : Piece) (begun : List Nat) (ops : List BuilderOp) :
    proseOf ops k = proseOf (sections begun ops).1 k ++
      String.join ((sections begun ops).2.map fun c => proseOf c.2 k) := by
  induction ops generalizing begun with
  | nil => rfl
  | cons x ops ih =>
    have hx1 : proseOf (x :: ops) k = proseOf [x] k ++ proseOf ops k := by
      rw [← proseOf_append]; rfl
    cases hx : x.index? with
    | none =>
      simp only [sections, hx]
      rw [hx1, ih begun, show x :: (sections begun ops).1 = [x] ++ (sections begun ops).1 from rfl,
        proseOf_append, String.append_assoc]
    | some j =>
      have hq : proseOf [x] k = "" := by
        have : x.prose k = none := by cases x <;> simp_all [index?, prose]
        simp [proseOf, this]
      by_cases hj : j ∈ begun
      · simp only [sections, hx, hj, if_true]
        rw [hx1, ih begun, show x :: (sections begun ops).1 = [x] ++ (sections begun ops).1 from rfl,
          proseOf_append, String.append_assoc]
      · simp only [sections, hx, hj, if_false, List.map_cons, String.join_cons]
        rw [hx1, hq, ih (j :: begun)]
        simp [proseOf]

end BuilderOp

/-! ### The blocks of a stretch -/

@[simp] theorem Piece.prose_block (k k' : Piece) (s : String) :
    (k'.block s).prose k = if k' = k then some s else none := by
  cases k <;> cases k' <;> simp [Piece.block, ContentBlock.prose]

@[simp] theorem Piece.isToolUse_block (k : Piece) (s : String) : (k.block s).isToolUse = false := by
  cases k <;> rfl

namespace BuilderOp

/-- The call that pushes prose of a kind. -/
def ofProse : Piece → String → BuilderOp
  | .text, t => .pushText t
  | .thinking, t => .pushThinking t

@[simp] theorem kind?_ofProse (k : Piece) (t : String) :
    (ofProse k t).kind? = if t = "" then none else some k := by
  cases k <;> rfl

@[simp] theorem prose_ofProse (k k' : Piece) (t : String) :
    (ofProse k' t).prose k = if k' = k then some t else none := by
  cases k <;> cases k' <;> simp [ofProse, prose]

@[simp] theorem index?_ofProse (k : Piece) (t : String) : (ofProse k t).index? = none := by
  cases k <;> rfl

@[simp] theorem fragment?_ofProse (k : Piece) (t : String) (i : Nat) :
    (ofProse k t).fragment? i = none := by
  cases k <;> rfl

@[simp] theorem stop?_ofProse (k : Piece) (t : String) : (ofProse k t).stop? = none := by
  cases k <;> rfl

@[simp] theorem model?_ofProse (k : Piece) (t : String) : (ofProse k t).model? = none := by
  cases k <;> rfl

@[simp] theorem usage_ofProse (k : Piece) (t : String) (u : Usage) : (ofProse k t).usage u = u := by
  cases k <;> rfl

@[simp] theorem kinds_nil : kinds [] = [] := rfl

theorem nodup_kinds (w : List BuilderOp) : (kinds w).Nodup := nodup_eraseDups _

theorem stretchBlocks_append_quiet (w : List BuilderOp) (op : BuilderOp) (h : op.kind? = none) :
    stretchBlocks (w ++ [op]) = stretchBlocks w := by
  have hq : ∀ k, proseOf [op] k = "" := fun k =>
    (proseOf_eq_empty_iff [op] k).2 (by simp [kinds, h])
  simp [stretchBlocks, kinds_append_single, h, hq]

/-- Prose of a kind the stretch has goes into that kind's block; prose of a new kind opens a
block at the end. -/
theorem stretchBlocks_append_prose (w : List BuilderOp) (k : Piece) {t : String} (ht : t ≠ "") :
    stretchBlocks (w ++ [ofProse k t]) =
      if k ∈ kinds w then
        (kinds w).map fun k' => k'.block (proseOf w k' ++ if k' = k then t else "")
      else stretchBlocks w ++ [k.block t] := by
  have hp : ∀ k', proseOf [ofProse k t] k' = if k' = k then t else "" := by
    intro k'
    by_cases hk : k' = k
    · subst hk; simp [proseOf]
    · simp [proseOf, hk, Ne.symm hk]
  simp only [stretchBlocks, kinds_append_single, kind?_ofProse, ht, if_false, proseOf_append, hp]
  split
  · simp
  · rename_i hk
    have hempty : proseOf w k = "" := (proseOf_eq_empty_iff w k).2 hk
    simp only [List.map_append, List.map_cons, List.map_nil, if_true, hempty, String.empty_append]
    congr 1
    apply List.map_congr_left
    intro k' hk'
    have : k' ≠ k := fun h => hk (h ▸ hk')
    simp [this]

end BuilderOp

/-! ### Slots -/

namespace Slot

/-- Whether a slot is held for a tool call. -/
def isTool : Slot → Bool
  | .tool _ => true
  | .block _ => false

theorem extendProse_append (k : Piece) (t : String) (xs ys : List Slot)
    (hx : ∀ x ∈ xs, x.isTool = false) (hy : ys = [] ∨ ∃ i rest, ys = .tool i :: rest) :
    extendProse k t (xs ++ ys) = (extendProse k t xs).map (· ++ ys) := by
  induction xs with
  | nil =>
    rcases hy with rfl | ⟨i, rest, rfl⟩ <;> rfl
  | cons x xs ih =>
    cases x with
    | tool i => simp [isTool] at hx
    | block b =>
      have ih := ih fun x hx' => hx x (List.mem_cons_of_mem _ hx')
      cases hb : b.prose k with
      | none =>
        simp only [List.cons_append, extendProse, hb, ih, Option.map_map]
        rfl
      | some s => simp [extendProse, hb]

/-- In the blocks of a stretch, latest first, prose of a kind the stretch holds goes into that
kind's one block. -/
theorem extendProse_blocks (k : Piece) (t : String) (ks : List Piece) (hks : ks.Nodup)
    (f : Piece → String) :
    extendProse k t ((ks.map fun k' => Slot.block (k'.block (f k'))).reverse) =
      if k ∈ ks then
        some ((ks.map fun k' => Slot.block (k'.block (f k' ++ if k' = k then t else ""))).reverse)
      else none := by
  induction ks using List.reverseRecOn with
  | nil => rfl
  | append_singleton ks k₀ ih =>
    rw [List.nodup_append] at hks
    simp only [List.map_append, List.map_cons, List.map_nil, List.reverse_append,
      List.reverse_cons, List.reverse_nil, List.nil_append, List.cons_append, extendProse,
      Piece.prose_block, List.mem_append, List.mem_singleton]
    by_cases hk : k₀ = k
    · subst hk
      have hnot : k₀ ∉ ks := fun h => hks.2.2 k₀ h k₀ (List.mem_singleton_self _) rfl
      simp only [if_true, or_true]
      congr 3
      apply List.map_congr_left
      intro k' hk'
      have : k' ≠ k₀ := fun h => hnot (h ▸ hk')
      simp [this]
    · simp only [hk, if_false, ih hks.1, or_false, Ne.symm hk]
      split <;> simp

end Slot

namespace BuilderOp

/-- The slots a stretch and the tool calls after it take. -/
def slotsFrom (w : List BuilderOp) : List (Nat × List BuilderOp) → List Slot
  | [] => (stretchBlocks w).map .block
  | (i, w') :: calls => (stretchBlocks w).map .block ++ .tool i :: slotsFrom w' calls

def layoutSlots (ops : List BuilderOp) : List Slot :=
  slotsFrom (sections [] ops).1 (sections [] ops).2

@[simp] theorem stretchBlocks_nil : stretchBlocks [] = [] := rfl

theorem slotsFrom_append_call (w : List BuilderOp) (calls : List (Nat × List BuilderOp)) (i : Nat) :
    slotsFrom w (calls ++ [(i, [])]) = slotsFrom w calls ++ [.tool i] := by
  induction calls generalizing w with
  | nil => simp [slotsFrom]
  | cons c calls ih => simp [slotsFrom, ih]

/-- The slots of a cut run end with those of its last stretch, after a tool slot or nothing;
adding a call to the last stretch changes only those. -/
theorem slotsFrom_addLast (op : BuilderOp) (w : List BuilderOp) (calls : List (Nat × List BuilderOp)) :
    ∃ pre : List Slot, (pre = [] ∨ ∃ pre₀ i, pre = pre₀ ++ [.tool i]) ∧
      slotsFrom w calls = pre ++ (stretchBlocks (lastStretch w calls)).map .block ∧
      slotsFrom (addLast op w calls).1 (addLast op w calls).2 =
        pre ++ (stretchBlocks (lastStretch w calls ++ [op])).map .block := by
  induction calls generalizing w with
  | nil => exact ⟨[], .inl rfl, rfl, rfl⟩
  | cons c calls ih =>
    obtain ⟨i, w'⟩ := c
    obtain ⟨pre, hpre, h1, h2⟩ := ih w'
    refine ⟨(stretchBlocks w).map .block ++ .tool i :: pre, ?_, ?_, ?_⟩
    · rcases hpre with rfl | ⟨pre₀, j, rfl⟩
      · exact .inr ⟨(stretchBlocks w).map .block, i, by simp⟩
      · exact .inr ⟨(stretchBlocks w).map .block ++ .tool i :: pre₀, j, by simp⟩
    · simp [slotsFrom, lastStretch, h1]
    · simp [slotsFrom, lastStretch, addLast, h2]

/-- The slots of a run end with those of its last stretch; a call that joins the last stretch
changes only those. -/
theorem layoutSlots_append_joins (ops : List BuilderOp) (op : BuilderOp)
    (h : ∀ i, op.index? = some i → i ∈ callOrder ops) :
    ∃ pre : List Slot, (pre = [] ∨ ∃ pre₀ i, pre = pre₀ ++ [.tool i]) ∧
      layoutSlots ops =
        pre ++ (stretchBlocks (lastStretch (sections [] ops).1 (sections [] ops).2)).map .block ∧
      layoutSlots (ops ++ [op]) =
        pre ++ (stretchBlocks (lastStretch (sections [] ops).1 (sections [] ops).2 ++ [op])).map .block := by
  have hj := sections_append_joins op [] ops fun i hi => .inr (by simpa [callOrder] using h i hi)
  simp only [layoutSlots, hj]
  exact slotsFrom_addLast op _ _

theorem layoutSlots_append_opens (ops : List BuilderOp) (op : BuilderOp) {i : Nat}
    (hop : op.index? = some i) (hi : i ∉ callOrder ops) :
    layoutSlots (ops ++ [op]) = layoutSlots ops ++ [.tool i] := by
  rw [layoutSlots, sections_append_opens op hop [] ops (by simp) (by simpa [callOrder] using hi),
    slotsFrom_append_call]
  rfl

theorem layoutSlots_append_quiet (ops : List BuilderOp) (op : BuilderOp) (hk : op.kind? = none)
    (hi : op.index? = none) : layoutSlots (ops ++ [op]) = layoutSlots ops := by
  obtain ⟨pre, -, h1, h2⟩ := layoutSlots_append_joins ops op (by simp [hi])
  rw [h2, h1, stretchBlocks_append_quiet _ op hk]

end BuilderOp

/-! ### Tool calls -/

/-- The call at an index after one more fragment: the first non-empty id and name stick, a
non-empty argument piece is appended. -/
def PendingCall.absorb (c : PendingCall) (f : Option String × Option String × Option String) :
    PendingCall :=
  { id := if c.id.isEmpty then (ToolCalls.present f.1).getD "" else c.id
    name := if c.name.isEmpty then (ToolCalls.present f.2.1).getD "" else c.name
    args := c.args ++ (ToolCalls.present f.2.2).getD "" }

namespace ToolCalls

theorem present_ne_empty {x : Option String} {s : String} (h : present x = some s) : s ≠ "" := by
  cases x with
  | none => cases h
  | some v =>
    by_cases hv : v.isEmpty
    · simp [present, hv] at h
    · simp only [present, hv, Bool.false_eq_true, if_false, Option.some.injEq] at h
      subst h
      simpa [String.isEmpty_iff] using hv

theorem get?_setAt (i j : Nat) (c : PendingCall) (l : List (Nat × PendingCall)) :
    (⟨setAt i c l⟩ : ToolCalls).get? j = if j = i then some c else (⟨l⟩ : ToolCalls).get? j := by
  induction l with
  | nil =>
    by_cases h : j = i
    · simp [get?, setAt, h]
    · simp [get?, setAt, h, Ne.symm h]
  | cons d l ih =>
    obtain ⟨k, e⟩ := d
    simp only [get?] at ih ⊢
    by_cases hik : i = k
    · subst hik
      by_cases h : j = i
      · simp [setAt, h]
      · simp [setAt, h, Ne.symm h]
    · by_cases hlt : i < k
      · by_cases h : j = i
        · simp [setAt, hik, hlt, h]
        · simp [setAt, hik, hlt, h, Ne.symm h]
      · simp only [setAt, hik, hlt, if_false, List.find?_cons]
        by_cases hkj : k = j
        · subst hkj; simp [Ne.symm hik]
        · have hb : (k == j) = false := by simpa using hkj
          simp only [hb]
          exact ih

theorem contains_eq (tc : ToolCalls) (j : Nat) : tc.contains j = (tc.get? j).isSome := by
  rw [Bool.eq_iff_iff]
  simp [contains, get?, List.any_eq_true, List.find?_isSome]

theorem isEmpty_iff (tc : ToolCalls) : tc.isEmpty = true ↔ ∀ j, tc.get? j = none := by
  obtain ⟨calls⟩ := tc
  cases calls with
  | nil => simp [isEmpty, get?]
  | cons d calls =>
    simp only [isEmpty, List.isEmpty_cons, Bool.false_eq_true, false_iff, not_forall]
    exact ⟨d.1, by simp [get?]⟩

theorem apply_snd (tc : ToolCalls) (i : Nat) (id name args : Option String) :
    (tc.apply i id name args).2 = ⟨setAt i (((tc.get? i).getD {}).absorb (id, name, args)) tc.calls⟩ := by
  simp only [apply, PendingCall.absorb]
  generalize (tc.get? i).getD {} = c
  obtain ⟨cid, cname, cargs⟩ := c
  cases present id <;> cases present name <;> cases present args <;>
    simp only [Option.getD_none, Option.getD_some, String.append_empty] <;>
    split_ifs <;> simp_all

theorem finalize_find? (tc : ToolCalls) (k : Nat) :
    (tc.finalize.find? (·.1 == k)).map (·.2) = (tc.get? k).map (PendingCall.finish k) := by
  simp only [finalize, get?, List.find?_map, Option.map_map]
  have hp : ((fun x : Nat × ContentBlock => x.fst == k) ∘
      fun x : Nat × PendingCall => (x.fst, PendingCall.finish x.fst x.snd)) = fun x => x.fst == k :=
    rfl
  rw [hp]
  cases h : tc.calls.find? (fun x => x.fst == k) with
  | none => rfl
  | some x =>
    have hx : x.1 = k := by simpa using List.find?_some h
    simp [hx]

end ToolCalls

namespace BuilderOp

section FirstPresent

variable {α : Type} (g : α → Option String) (hg : ∀ x s, g x = some s → s ≠ "")
include hg

theorem head?_filterMap_ne_empty {l : List α} {s : String} (h : (l.filterMap g).head? = some s) :
    s ≠ "" := by
  obtain ⟨x, -, hx⟩ := List.mem_filterMap.1 (List.mem_of_head? h)
  exact hg x s hx

theorem getD_head?_filterMap_append_single (l : List α) (x : α) :
    (((l ++ [x]).filterMap g).head?).getD "" =
      if ((l.filterMap g).head?.getD "").isEmpty then (g x).getD ""
      else (l.filterMap g).head?.getD "" := by
  rw [List.filterMap_append, List.head?_append]
  cases h : (l.filterMap g).head? with
  | none => cases hx : g x <;> simp [hx]
  | some s =>
    have hs : s.isEmpty = false := by
      simpa [String.isEmpty_iff] using head?_filterMap_ne_empty g hg h
    simp [hs]

end FirstPresent

theorem present_values (f : Option String × Option String × Option String → Option String)
    (hf : ∀ x, f x = ToolCalls.present (x.1) ∨ f x = ToolCalls.present x.2.1 ∨
      f x = ToolCalls.present x.2.2) : ∀ x s, f x = some s → s ≠ "" := by
  intro x s h
  rcases hf x with hx | hx | hx <;> rw [hx] at h <;> exact ToolCalls.present_ne_empty h

theorem fragments_append_single (ops : List BuilderOp) (op : BuilderOp) (i : Nat) :
    fragments (ops ++ [op]) i = fragments ops i ++ (op.fragment? i).toList := by
  cases h : op.fragment? i <;> simp [fragments, List.filterMap_append, h]

theorem fragment?_of_index? {op : BuilderOp} {i : Nat} (h : op.index? ≠ some i) :
    op.fragment? i = none := by
  cases op <;> simp_all [fragment?, index?]

theorem firstId_ne_empty {ops : List BuilderOp} {i : Nat} {s : String} (h : firstId ops i = some s) :
    s ≠ "" :=
  head?_filterMap_ne_empty _ (present_values _ fun _ => .inl rfl) h

theorem firstName_ne_empty {ops : List BuilderOp} {i : Nat} {s : String}
    (h : firstName ops i = some s) : s ≠ "" :=
  head?_filterMap_ne_empty _ (present_values _ fun _ => .inr (.inl rfl)) h

theorem callOf_append_single (ops : List BuilderOp) (op : BuilderOp) (i : Nat) :
    callOf (ops ++ [op]) i =
      match op.fragment? i with
      | some f => (callOf ops i).absorb f
      | none => callOf ops i := by
  cases hf : op.fragment? i with
  | none => simp [callOf, firstId, firstName, argsOf, fragments_append_single, hf]
  | some f =>
    simp only [callOf, firstId, firstName, argsOf, fragments_append_single, hf,
      Option.toList_some, PendingCall.absorb]
    rw [getD_head?_filterMap_append_single _ (present_values _ fun _ => .inl rfl),
      getD_head?_filterMap_append_single _ (present_values _ fun _ => .inr (.inl rfl))]
    cases ha : ToolCalls.present f.2.2 <;> simp [List.filterMap_append, ha, String.join_append]

theorem callOf_of_not_mem {ops : List BuilderOp} {i : Nat} (h : i ∉ callOrder ops) :
    callOf ops i = {} := by
  have hf : fragments ops i = [] := by
    simp only [fragments, List.filterMap_eq_nil_iff]
    intro op hop
    exact fragment?_of_index? fun hi => h ((mem_callOrder ops).2 ⟨op, hop, hi⟩)
  simp [callOf, firstId, firstName, argsOf, hf]

theorem finish_callOf (ops : List BuilderOp) (i : Nat) :
    ToolCalls.PendingCall.finish i (callOf ops i) = callBlock ops i := by
  simp only [ToolCalls.PendingCall.finish, callOf, callBlock]
  -- the two sides decide blank arguments through different instances
  rcases Option.eq_none_or_eq_some (firstId ops i) with h | ⟨s, h⟩
  · have he : "".isEmpty = true := rfl
    simp only [h, Option.getD_none, he, if_true]
    congr
  · have hs : s.isEmpty = false := by simpa [String.isEmpty_iff] using firstId_ne_empty h
    simp only [h, Option.getD_some, hs, Bool.false_eq_true, if_false]
    congr

theorem lastStop_append_single (ops : List BuilderOp) (op : BuilderOp) :
    lastStop (ops ++ [op]) = op.stop?.or (lastStop ops) := by
  cases h : op.stop? <;> simp [lastStop, List.filterMap_append, h]

theorem modelAfter_append_single (ops : List BuilderOp) (op : BuilderOp) (model : String) :
    modelAfter (ops ++ [op]) model = op.model?.getD (modelAfter ops model) := by
  cases h : op.model? <;> simp [modelAfter, List.filterMap_append, h]

theorem usageAfter_append_single (ops : List BuilderOp) (op : BuilderOp) :
    usageAfter (ops ++ [op]) = usage (usageAfter ops) op := by
  simp [usageAfter]

theorem mem_callOrder_of_sections {ops : List BuilderOp} {c : Nat × List BuilderOp}
    (hc : c ∈ (sections [] ops).2) : c.1 ∈ callOrder ops := by
  rw [← sections_nil_calls]
  exact List.mem_map_of_mem hc

/-- Resolving the slots of a cut run, blocks as themselves and tool slots as the calls' blocks,
gives its content. -/
theorem filterMap_slotsFrom (ops : List BuilderOp) (F : Slot → Option ContentBlock)
    (hb : ∀ blk, F (.block blk) = some blk) (w : List BuilderOp) (calls : List (Nat × List BuilderOp))
    (ht : ∀ c ∈ calls, F (.tool c.1) = some (callBlock ops c.1)) :
    (slotsFrom w calls).filterMap F = layoutFrom ops w calls := by
  induction calls generalizing w with
  | nil => simp [slotsFrom, layoutFrom, List.filterMap_map, hb]
  | cons c calls ih =>
    obtain ⟨i, w'⟩ := c
    simp only [slotsFrom, layoutFrom, List.filterMap_append, List.filterMap_map,
      Function.comp_def, hb, List.filterMap_some, List.filterMap_cons]
    rw [ht (i, w') List.mem_cons_self, ih w' fun c hc => ht c (List.mem_cons_of_mem _ hc)]

end BuilderOp

namespace MessageBuilder

variable (b : MessageBuilder)

theorem pushProse_fst (k : Piece) (t : String) :
    (b.pushProse k t).1 = if t = "" then none else some (k.delta t) := by
  by_cases ht : t = "" <;> simp [pushProse, ht]

theorem step_ofProse_eq (k : Piece) (t : String) :
    b.step (.ofProse k t) = ((b.pushProse k t).1.toList, (b.pushProse k t).2) := by
  cases k <;> rfl

theorem step_ofProse (k : Piece) {t : String} (ht : t ≠ "") :
    (b.step (.ofProse k t)).2 =
      { b with slotsRev := (Slot.extendProse k t b.slotsRev).getD (.block (k.block t) :: b.slotsRev) } := by
  simp [step_ofProse_eq, pushProse, ht]

theorem step_ofProse_empty (k : Piece) : (b.step (.ofProse k "")).2 = b := by
  simp [step_ofProse_eq, pushProse]

theorem step_applyTool (i : Nat) (id name args : Option String) :
    (b.step (.applyTool i id name args)).2 =
      { b with slotsRev := if b.tools.contains i then b.slotsRev else .tool i :: b.slotsRev
               tools := ⟨ToolCalls.setAt i (((b.tools.get? i).getD {}).absorb (id, name, args))
                 b.tools.calls⟩ } := by
  rw [← ToolCalls.apply_snd]
  simp only [step, applyTool]

/-- The builder follows a run: its slots are the run's layout, its tool calls the run's calls,
and its message has the run's model and usage. -/
structure Follows (api model : String) (ops : List BuilderOp) (b : MessageBuilder) : Prop where
  slots : b.slotsRev = (BuilderOp.layoutSlots ops).reverse
  calls : ∀ j, b.tools.get? j =
    if j ∈ BuilderOp.callOrder ops then some (BuilderOp.callOf ops j) else none
  stopReason : b.stopReason = BuilderOp.lastStop ops
  message : b.message = { AssistantMessage.new api model with
    model := BuilderOp.modelAfter ops model, usage := BuilderOp.usageAfter ops }

end MessageBuilder

/-- The message a run finishes with: its layout, its usage and model, and its last stop reason,
`tool_use` in place of none or `end_turn` once a tool was called. -/
def BuilderOp.finalMessage (api model : String) (ops : List BuilderOp) : AssistantMessage :=
  { content := layout ops
    stopReason := MessageBuilder.finalStopReason (lastStop ops) (!(callOrder ops).isEmpty)
    usage := usageAfter ops
    model := modelAfter ops model
    api }

namespace MessageBuilder.Follows

variable {api model : String} {ops : List BuilderOp} {b : MessageBuilder}

theorem getD_get? (h : Follows api model ops b) (j : Nat) :
    (b.tools.get? j).getD {} = BuilderOp.callOf ops j := by
  rw [h.calls j]
  split
  · rfl
  · exact (BuilderOp.callOf_of_not_mem ‹_›).symm

theorem contains (h : Follows api model ops b) (j : Nat) :
    b.tools.contains j = decide (j ∈ BuilderOp.callOrder ops) := by
  rw [ToolCalls.contains_eq, h.calls j]
  split <;> simp_all

theorem isEmpty (h : Follows api model ops b) : b.tools.isEmpty = (BuilderOp.callOrder ops).isEmpty := by
  rw [Bool.eq_iff_iff, ToolCalls.isEmpty_iff, List.isEmpty_iff]
  constructor
  · intro hn
    apply List.eq_nil_iff_forall_not_mem.2
    intro j hj
    have := hn j
    rw [h.calls j, if_pos hj] at this
    cases this
  · intro he j
    rw [h.calls j, he]
    simp

theorem new (api model : String) : Follows api model [] (MessageBuilder.new api model) :=
  ⟨rfl, fun j => by simp [MessageBuilder.new, ToolCalls.get?, BuilderOp.callOrder], rfl, rfl⟩

/-- A call that pushes no prose and is no tool-call fragment keeps the builder following the
run, if it leaves the slots and the tool calls alone and sets the stop reason and message the
run now calls for. -/
theorem quiet (h : Follows api model ops b) {op : BuilderOp} (hk : op.kind? = none)
    (hi : op.index? = none) {b' : MessageBuilder} (hs : b'.slotsRev = b.slotsRev)
    (ht : b'.tools = b.tools) (hstop : b'.stopReason = BuilderOp.lastStop (ops ++ [op]))
    (hm : b'.message = { AssistantMessage.new api model with
      model := BuilderOp.modelAfter (ops ++ [op]) model,
      usage := BuilderOp.usageAfter (ops ++ [op]) }) :
    Follows api model (ops ++ [op]) b' := by
  refine ⟨?_, ?_, hstop, hm⟩
  · rw [hs, h.slots, BuilderOp.layoutSlots_append_quiet ops op hk hi]
  · intro j
    have hf : op.fragment? j = none := BuilderOp.fragment?_of_index? (by simp [hi])
    rw [ht, h.calls j, BuilderOp.callOrder_append_single, BuilderOp.callOf_append_single]
    simp [hi, hf]

theorem prose (h : Follows api model ops b) (k : Piece) {t : String} (ht : t ≠ "") :
    Follows api model (ops ++ [.ofProse k t]) (b.step (.ofProse k t)).2 := by
  rw [step_ofProse b k ht]
  obtain ⟨pre, hpre, h1, h2⟩ :=
    BuilderOp.layoutSlots_append_joins ops (.ofProse k t) (by simp)
  generalize BuilderOp.lastStretch _ _ = L at h1 h2
  refine ⟨?_, ?_, ?_, ?_⟩
  · -- the open block of the kind, in the last stretch, takes the prose
    have hrev : pre.reverse = [] ∨ ∃ i rest, pre.reverse = .tool i :: rest := by
      rcases hpre with rfl | ⟨pre₀, i, rfl⟩
      · exact .inl rfl
      · exact .inr ⟨i, pre₀.reverse, by simp⟩
    have hblocks : ∀ x ∈ ((BuilderOp.stretchBlocks L).map Slot.block).reverse, x.isTool = false := by
      simp [Slot.isTool]
    simp only [h.slots, h1, h2, List.reverse_append,
      Slot.extendProse_append k t _ _ hblocks hrev, BuilderOp.stretchBlocks_append_prose L k ht]
    simp only [BuilderOp.stretchBlocks, List.map_map, Function.comp_def,
      Slot.extendProse_blocks k t _ (BuilderOp.nodup_kinds L)]
    split <;> simp
  · intro j
    rw [h.calls j, BuilderOp.callOrder_append_single, BuilderOp.callOf_append_single]
    simp
  · rw [h.stopReason, BuilderOp.lastStop_append_single]
    simp
  · rw [h.message, BuilderOp.modelAfter_append_single, BuilderOp.usageAfter_append_single]
    simp

theorem emptyProse (h : Follows api model ops b) (k : Piece) :
    Follows api model (ops ++ [.ofProse k ""]) (b.step (.ofProse k "")).2 := by
  rw [step_ofProse_empty]
  refine h.quiet (by simp) (by simp) rfl rfl ?_ ?_
  · rw [BuilderOp.lastStop_append_single, h.stopReason]
    simp
  · rw [h.message, BuilderOp.modelAfter_append_single, BuilderOp.usageAfter_append_single]
    simp

theorem applyTool (h : Follows api model ops b) (i : Nat) (id name args : Option String) :
    Follows api model (ops ++ [.applyTool i id name args]) (b.step (.applyTool i id name args)).2 := by
  rw [step_applyTool, h.contains, h.getD_get?]
  refine ⟨?_, ?_, ?_, ?_⟩
  · have hk : (BuilderOp.applyTool i id name args).kind? = none := rfl
    have hidx : (BuilderOp.applyTool i id name args).index? = some i := rfl
    by_cases hi : i ∈ BuilderOp.callOrder ops
    · obtain ⟨pre, -, h1, h2⟩ :=
        BuilderOp.layoutSlots_append_joins ops (.applyTool i id name args) (by simp [hidx, hi])
      simp only [hi, decide_true, if_true, h.slots, h1, h2,
        BuilderOp.stretchBlocks_append_quiet _ _ hk]
    · simp [hi, h.slots, BuilderOp.layoutSlots_append_opens ops _ hidx hi]
  · intro j
    rw [ToolCalls.get?_setAt, BuilderOp.callOrder_append_single, BuilderOp.callOf_append_single]
    by_cases hj : j = i
    · subst hj
      simp [BuilderOp.index?, BuilderOp.fragment?]
    · have hf : (BuilderOp.applyTool i id name args).fragment? j = none := by
        simp [BuilderOp.fragment?, Ne.symm hj]
      rw [hf, if_neg hj]
      have := h.calls j
      simp only [ToolCalls.get?] at this ⊢
      rw [this]
      simp [BuilderOp.index?, hj]
  · rw [h.stopReason, BuilderOp.lastStop_append_single]
    rfl
  · rw [h.message, BuilderOp.modelAfter_append_single, BuilderOp.usageAfter_append_single]
    rfl

theorem step (h : Follows api model ops b) (op : BuilderOp) :
    Follows api model (ops ++ [op]) (b.step op).2 := by
  cases op with
  | pushText t =>
    by_cases ht : t = ""
    · subst ht
      exact h.emptyProse .text
    · exact h.prose .text ht
  | pushThinking t =>
    by_cases ht : t = ""
    · subst ht
      exact h.emptyProse .thinking
    · exact h.prose .thinking ht
  | applyTool i id name args => exact h.applyTool i id name args
  | setUsage u =>
    refine h.quiet rfl rfl rfl rfl ?_ ?_
    · rw [BuilderOp.lastStop_append_single]; exact h.stopReason
    · simp [MessageBuilder.step, setUsage, h.message, BuilderOp.modelAfter_append_single,
        BuilderOp.usageAfter_append_single, BuilderOp.usage, BuilderOp.model?]
  | modifyUsage f =>
    refine h.quiet rfl rfl rfl rfl ?_ ?_
    · rw [BuilderOp.lastStop_append_single]; exact h.stopReason
    · simp [MessageBuilder.step, modifyUsage, setUsage, usage, h.message,
        BuilderOp.modelAfter_append_single, BuilderOp.usageAfter_append_single, BuilderOp.usage,
        BuilderOp.model?]
  | setModel m =>
    by_cases hm : m = ""
    · subst hm
      refine h.quiet rfl rfl rfl rfl ?_ ?_
      · rw [BuilderOp.lastStop_append_single]; exact h.stopReason
      · simp [MessageBuilder.step, setModel, h.message, BuilderOp.modelAfter_append_single,
          BuilderOp.usageAfter_append_single, BuilderOp.usage, BuilderOp.model?]
    · refine h.quiet rfl rfl ?_ ?_ ?_ ?_
      · simp [MessageBuilder.step, setModel, hm]
      · simp [MessageBuilder.step, setModel, hm]
      · simp only [MessageBuilder.step, setModel, BuilderOp.lastStop_append_single]
        simp [hm, h.stopReason, BuilderOp.stop?]
      · simp [MessageBuilder.step, setModel, hm, h.message, BuilderOp.modelAfter_append_single,
          BuilderOp.usageAfter_append_single, BuilderOp.usage, BuilderOp.model?]
  | setStopReason r =>
    refine h.quiet rfl rfl rfl rfl ?_ ?_
    · simp [MessageBuilder.step, setStopReason, BuilderOp.lastStop_append_single, BuilderOp.stop?]
    · simp [MessageBuilder.step, setStopReason, h.message, BuilderOp.modelAfter_append_single,
        BuilderOp.usageAfter_append_single, BuilderOp.usage, BuilderOp.model?]

/-- A builder following a run finishes with the run's message, announcing each text and tool-use
block in order and then the end of the message. -/
theorem finish_eq (h : Follows api model ops b) :
    b.finish = (BuilderOp.finalMessage api model ops,
      (BuilderOp.finalMessage api model ops).content.filterMap doneEvent ++
        [.messageDone (BuilderOp.finalMessage api model ops).stopReason
          (BuilderOp.finalMessage api model ops).usage]) := by
  unfold finish
  dsimp only
  rw [h.slots, List.reverse_reverse, BuilderOp.layoutSlots,
    BuilderOp.filterMap_slotsFrom ops _ (fun _ => rfl) _ _ ?tools, ← BuilderOp.layout, h.isEmpty,
    h.stopReason, h.message]
  · rfl
  case tools =>
    intro c hc
    dsimp only
    rw [ToolCalls.finalize_find?, h.calls, if_pos (BuilderOp.mem_callOrder_of_sections hc),
      Option.map_some, BuilderOp.finish_callOf]

end MessageBuilder.Follows

/-- Fed any run, a fresh builder follows it. -/
theorem MessageBuilder.feed_follows (api model : String) (ops : List BuilderOp) :
    Follows api model ops ((MessageBuilder.new api model).feed ops).2 := by
  induction ops using List.reverseRecOn with
  | nil => exact Follows.new api model
  | append_singleton ops op ih =>
    rw [feed_append_single]
    exact ih.step op

/-! ### What the layout holds -/

/-- The blocks between two tool calls hold what a stretch of the run pushed: no tool call, at
most one block of each kind of prose, and in it all the prose of that kind, in order. -/
def Stretch (seg : List ContentBlock) (w : List BuilderOp) : Prop :=
  (∀ blk ∈ seg, blk.isToolUse = false) ∧
    ∀ k, (seg.filterMap (ContentBlock.prose k)).length ≤ 1 ∧
      proseOfBlocks k seg = BuilderOp.proseOf w k

namespace BuilderOp

theorem prose_callBlock (k : Piece) (ops : List BuilderOp) (i : Nat) :
    (callBlock ops i).prose k = none := rfl

theorem isToolUse_callBlock (ops : List BuilderOp) (i : Nat) : (callBlock ops i).isToolUse = true := rfl

theorem filterMap_prose_blocks (k : Piece) (ks : List Piece) (hks : ks.Nodup) (f : Piece → String) :
    (ks.map fun k' => k'.block (f k')).filterMap (ContentBlock.prose k) =
      if k ∈ ks then [f k] else [] := by
  induction ks with
  | nil => simp
  | cons k₀ ks ih =>
    rw [List.nodup_cons] at hks
    by_cases hk : k₀ = k
    · subst hk
      simp [ih hks.2, hks.1]
    · simp [hk, ih hks.2, Ne.symm hk]

theorem stretch_stretchBlocks (w : List BuilderOp) : Stretch (stretchBlocks w) w := by
  refine ⟨by simp [stretchBlocks], fun k => ?_⟩
  rw [proseOfBlocks, stretchBlocks, filterMap_prose_blocks k _ (nodup_kinds w)]
  split
  · simp
  · exact ⟨by simp, ((proseOf_eq_empty_iff w k).2 ‹_›).symm⟩

theorem proseOfBlocks_layoutFrom (k : Piece) (ops w : List BuilderOp)
    (calls : List (Nat × List BuilderOp)) :
    proseOfBlocks k (layoutFrom ops w calls) =
      proseOf w k ++ String.join (calls.map fun c => proseOf c.2 k) := by
  induction calls generalizing w with
  | nil => simp [layoutFrom, (stretch_stretchBlocks w).2 k]
  | cons c calls ih =>
    have hw := ((stretch_stretchBlocks w).2 k).2
    simp only [proseOfBlocks] at hw ih ⊢
    rw [layoutFrom, List.filterMap_append, List.filterMap_cons_none (prose_callBlock k ops c.1),
      String.join_append, hw, ih, List.map_cons, String.join_cons]

theorem filter_isToolUse_layoutFrom (ops w : List BuilderOp) (calls : List (Nat × List BuilderOp)) :
    (layoutFrom ops w calls).filter ContentBlock.isToolUse = calls.map (callBlock ops ·.1) := by
  have hnone : ∀ w : List BuilderOp, (stretchBlocks w).filter ContentBlock.isToolUse = [] :=
    fun w => List.filter_eq_nil_iff.2 fun blk hb => by simp [(stretch_stretchBlocks w).1 blk hb]
  induction calls generalizing w with
  | nil => exact hnone w
  | cons c calls ih =>
    rw [layoutFrom, List.filter_append, hnone, List.filter_cons_of_pos (isToolUse_callBlock ops c.1),
      ih, List.nil_append, List.map_cons]

theorem filter_isToolUse_layout (ops : List BuilderOp) :
    (layout ops).filter ContentBlock.isToolUse = (callOrder ops).map (callBlock ops) := by
  rw [layout, filter_isToolUse_layoutFrom, ← sections_nil_calls, List.map_map]
  rfl

theorem splitOnP_layoutFrom (ops w : List BuilderOp) (calls : List (Nat × List BuilderOp)) :
    (layoutFrom ops w calls).splitOnP ContentBlock.isToolUse =
      stretchBlocks w :: calls.map (stretchBlocks ·.2) := by
  induction calls generalizing w with
  | nil => exact List.splitOnP_eq_singleton fun blk hb => (stretch_stretchBlocks w).1 blk hb
  | cons c calls ih =>
    rw [layoutFrom, List.splitOnP_append_cons _ _ (isToolUse_callBlock ops c.1),
      List.splitOnP_eq_singleton fun blk hb => (stretch_stretchBlocks w).1 blk hb, ih]
    rfl

theorem proseOf_layout (k : Piece) (ops : List BuilderOp) :
    proseOfBlocks k (layout ops) = proseOf ops k := by
  rw [layout, proseOfBlocks_layoutFrom, ← proseOf_sections]

end BuilderOp

/-- The characters of a lower-case hexadecimal number. -/
def lowerHexChars : List Char := "0123456789abcdef".toList

theorem mem_lowerHexChars_of_mem_toDigits {n : Nat} {c : Char} (h : c ∈ Nat.toDigits 16 n) :
    c ∈ lowerHexChars := by
  induction n using Nat.strongRecOn with
  | ind n ih =>
    rw [Nat.toDigits_eq_if (by decide)] at h
    have hdigit : ∀ d < 16, Nat.digitChar d ∈ lowerHexChars := by decide
    split at h
    · rw [List.mem_singleton.1 h]
      exact hdigit n ‹_›
    · rcases List.mem_append.1 h with h | h
      · exact ih (n / 16) (Nat.div_lt_self (by omega) (by decide)) h
      · rw [List.mem_singleton.1 h]
        exact hdigit _ (Nat.mod_lt _ (by decide))

/-- A minted id is `call_` followed by 32 lower-case hexadecimal digits. -/
theorem ToolCalls.mintedId_shape (i : Nat) :
    ∃ h : String, ToolCalls.mintedId i = "call_" ++ h ∧ h.length = 32 ∧
      ∀ c ∈ h.toList, c ∈ lowerHexChars := by
  have hlt : i % Nat.pow 2 60 < Nat.pow 16 15 := Nat.mod_lt _ (by decide)
  have hlen : (Nat.toDigits 16 (i % Nat.pow 2 60)).length ≤ 15 :=
    (Nat.length_toDigits_le_iff (by decide) (by decide)).2 (by simpa using hlt)
  refine ⟨"5c0f3e9b2d7a4e619" ++ ToolCalls.hexPadded 15 (i % Nat.pow 2 60), ?_, ?_, ?_⟩
  · have e : "call_" ++ "5c0f3e9b2d7a4e619" = "call_5c0f3e9b2d7a4e619" := by simp
    rw [← String.append_assoc, e]
    rfl
  · simp only [String.length_append, ToolCalls.hexPadded, String.length_ofList, List.length_append,
      List.length_replicate]
    have : "5c0f3e9b2d7a4e619".length = 17 := by decide
    omega
  · intro c hc
    simp only [String.toList_append, ToolCalls.hexPadded, String.toList_ofList, List.mem_append,
      List.mem_replicate] at hc
    rcases hc with hc | ⟨-, rfl⟩ | hc
    · -- checked as a boolean, whose decision does not depend on the instances in scope
      have h : ("5c0f3e9b2d7a4e619".toList.all fun c => lowerHexChars.contains c) = true := by
        decide
      exact List.contains_iff_mem.1 (List.all_eq_true.1 h c hc)
    · decide
    · exact mem_lowerHexChars_of_mem_toDigits hc

theorem ToolCalls.mintedId_ne_empty (i : Nat) : ToolCalls.mintedId i ≠ "" := by
  obtain ⟨h, e, -⟩ := ToolCalls.mintedId_shape i
  rw [e]
  intro he
  have := congrArg String.length he
  simp at this

open BuilderOp in
/-- The message a builder finishes with, after any run of calls, is the fold of that run.
Its text and its thinking are all the text and all the thinking pushed, in order. It has one
tool-use block per tool call, in the order of each call's first fragment, made of the call's
first non-empty id (else a minted `call_` id of 32 hex digits), its first non-empty name and its
argument pieces (`{}` when blank). Between the tool-use blocks, each stretch holds at most one
block of each kind of prose, with exactly what was pushed between the neighbouring calls' first
fragments. The stop reason is the last one reported, `tool_use` in place of none or `end_turn`
once a tool was called; usage and model are the last ones set. -/
theorem finish_folds_run (api model : String) (ops : List BuilderOp) :
    let msg := ((MessageBuilder.new api model).feed ops).2.finish.1
    (∀ k, proseOfBlocks k msg.content = proseOf ops k) ∧
    msg.content.filter ContentBlock.isToolUse = (callOrder ops).map (callBlock ops) ∧
    (∀ i, ∃ h : String, ToolCalls.mintedId i = "call_" ++ h ∧ h.length = 32 ∧
      ∀ c ∈ h.toList, c ∈ lowerHexChars) ∧
    List.Forall₂ Stretch (msg.content.splitOnP ContentBlock.isToolUse) (stretches ops) ∧
    msg.stopReason = MessageBuilder.finalStopReason (lastStop ops) (!(callOrder ops).isEmpty) ∧
    msg.usage = usageAfter ops ∧ msg.model = modelAfter ops model ∧ msg.api = api := by
  intro msg
  have hmsg : msg = finalMessage api model ops := by
    simp only [msg, (MessageBuilder.feed_follows api model ops).finish_eq]
  rw [hmsg]
  refine ⟨fun k => proseOf_layout k ops, ?_, ToolCalls.mintedId_shape, ?_, rfl, rfl, rfl, rfl⟩
  · exact filter_isToolUse_layout ops
  · simp only [finalMessage, layout, splitOnP_layoutFrom, stretches]
    refine List.Forall₂.cons (stretch_stretchBlocks _) ?_
    rw [List.forall₂_map_left_iff, List.forall₂_map_right_iff, List.forall₂_same]
    exact fun c _ => stretch_stretchBlocks c.2

end ChatStream
