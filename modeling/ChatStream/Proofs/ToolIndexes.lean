import ChatStream.Proofs.MessageFolding

/-! # Fresh indexes for tool calls

A fragment that comes without an index is placed by `indexForId`: a new id takes `nextIndex`,
one past the largest index in use. Indexes are machine words, so a vendor may name any index up
to `maxIndex`, and `nextIndex` is computed in that width: one past `maxIndex` wraps to `0`.

The calls stay sorted by index whatever indexes the fragments name (`Reachable.ordered`). So
`nextIndex` is above every index in use exactly when `maxIndex` is not in use, and a new id opens
a new call exactly when `maxIndex` and `0` are not both in use (`fresh_index_iff_top_unused`).
Once a vendor has used `maxIndex`, the next index is `0`, and a new id continues the call sitting
there (`top_index_wraps_next_index`).
-/

namespace ChatStream.ToolCalls

/-- The largest index: indexes are 64-bit words. -/
def maxIndex : Nat := Nat.pow 2 64 - 1

/-- The indexes in use, in the order the calls are kept. -/
def indexes (tc : ToolCalls) : List Nat := tc.calls.map (·.1)

/-- The calls that fragments with word-sized indexes build from none. -/
inductive Reachable : ToolCalls → Prop
  | empty : Reachable {}
  | apply {tc : ToolCalls} (index : Nat) (id name args : Option String) :
      Reachable tc → index ≤ maxIndex → Reachable (tc.apply index id name args).2

/-- The calls are sorted by index, and every index is a word. -/
structure Ordered (tc : ToolCalls) : Prop where
  ascending : tc.indexes.Pairwise (· < ·)
  bounded : ∀ k ∈ tc.indexes, k ≤ maxIndex

/-! ### Keeping the calls sorted -/

theorem mem_keys_setAt (i k : Nat) (c : PendingCall) (l : List (Nat × PendingCall)) :
    k ∈ (setAt i c l).map (·.1) ↔ k = i ∨ k ∈ l.map (·.1) := by
  induction l with
  | nil => simp [setAt]
  | cons d l ih =>
    obtain ⟨j, e⟩ := d
    by_cases hij : i = j
    · subst hij
      simp [setAt]
    · by_cases hlt : i < j
      · simp [setAt, hij, hlt]
      · simp only [setAt, hij, hlt, if_false, List.map_cons, List.mem_cons, ih]
        tauto

theorem pairwise_keys_setAt (i : Nat) (c : PendingCall) {l : List (Nat × PendingCall)}
    (h : (l.map (·.1)).Pairwise (· < ·)) : ((setAt i c l).map (·.1)).Pairwise (· < ·) := by
  induction l with
  | nil => simp [setAt]
  | cons d l ih =>
    obtain ⟨j, e⟩ := d
    simp only [List.map_cons, List.pairwise_cons] at h
    obtain ⟨hj, hl⟩ := h
    by_cases hij : i = j
    · subst hij
      simp only [setAt, if_true, List.map_cons, List.pairwise_cons]
      exact ⟨hj, hl⟩
    · by_cases hlt : i < j
      · simp only [setAt, hij, hlt, if_false, if_true, List.map_cons, List.pairwise_cons,
          List.mem_cons]
        refine ⟨?_, hj, hl⟩
        rintro k (rfl | hk)
        · exact hlt
        · exact Nat.lt_trans hlt (hj k hk)
      · simp only [setAt, hij, hlt, if_false, List.map_cons, List.pairwise_cons]
        refine ⟨fun k hk => ?_, ih hl⟩
        rcases (mem_keys_setAt i k c l).1 hk with rfl | hk
        · omega
        · exact hj k hk

theorem Ordered.apply {tc : ToolCalls} (h : Ordered tc) {index : Nat} (hi : index ≤ maxIndex)
    (id name args : Option String) : Ordered (tc.apply index id name args).2 := by
  rw [apply_snd]
  refine ⟨pairwise_keys_setAt _ _ h.ascending, fun k hk => ?_⟩
  rcases (mem_keys_setAt _ k _ _).1 hk with rfl | hk
  · exact hi
  · exact h.bounded k hk

theorem Reachable.ordered {tc : ToolCalls} (h : Reachable tc) : Ordered tc := by
  induction h with
  | empty => exact ⟨by simp [indexes], by simp [indexes]⟩
  | apply index id name args _ hi ih => exact ih.apply hi id name args

/-! ### The last call holds the largest index -/

theorem indexes_of_getLast? {tc : ToolCalls} {k : Nat} {c : PendingCall}
    (hl : tc.calls.getLast? = some (k, c)) : ∃ ks, tc.indexes = ks ++ [k] := by
  obtain ⟨ys, hys⟩ := List.getLast?_eq_some_iff.1 hl
  exact ⟨ys.map (·.1), by simp [indexes, hys]⟩

theorem Ordered.le_last {tc : ToolCalls} (h : Ordered tc) {k : Nat} {c : PendingCall}
    (hl : tc.calls.getLast? = some (k, c)) : k ∈ tc.indexes ∧ ∀ j ∈ tc.indexes, j ≤ k := by
  obtain ⟨ks, hks⟩ := indexes_of_getLast? hl
  have hasc := h.ascending
  rw [hks, List.pairwise_append] at hasc
  rw [hks]
  refine ⟨by simp, fun j hj => ?_⟩
  rcases List.mem_append.1 hj with hj | hj
  · exact Nat.le_of_lt (hasc.2.2 j hj k (by simp))
  · simp_all

theorem indexes_eq_nil {tc : ToolCalls} (hl : tc.calls.getLast? = none) : tc.indexes = [] := by
  simp_all [indexes]

theorem nextIndex_of_getLast? {tc : ToolCalls} {k : Nat} {c : PendingCall}
    (hl : tc.calls.getLast? = some (k, c)) : tc.nextIndex = (k + 1) % Nat.pow 2 64 := by
  simp [nextIndex, hl]

theorem succ_mod_word (k : Nat) (hk : k ≤ maxIndex) :
    (k + 1) % Nat.pow 2 64 = if k = maxIndex then 0 else k + 1 := by
  by_cases h : k = maxIndex
  · rw [if_pos h, h]
    decide
  · rw [if_neg h]
    simp only [maxIndex] at hk h
    exact Nat.mod_eq_of_lt (show k + 1 < Nat.pow 2 64 by omega)

theorem Ordered.top_mem_iff {tc : ToolCalls} (h : Ordered tc) {k : Nat} {c : PendingCall}
    (hl : tc.calls.getLast? = some (k, c)) : maxIndex ∈ tc.indexes ↔ k = maxIndex := by
  obtain ⟨hk, hle⟩ := h.le_last hl
  constructor
  · intro hmem
    exact Nat.le_antisymm (h.bounded k hk) (hle _ hmem)
  · rintro rfl
    exact hk

theorem Ordered.nextIndex_eq {tc : ToolCalls} (h : Ordered tc) {k : Nat} {c : PendingCall}
    (hl : tc.calls.getLast? = some (k, c)) : tc.nextIndex = if k = maxIndex then 0 else k + 1 := by
  rw [nextIndex_of_getLast? hl, succ_mod_word k (h.bounded k (h.le_last hl).1)]

/-- The next index lies above every index in use exactly when the top word is free. -/
theorem Ordered.lt_nextIndex_iff {tc : ToolCalls} (h : Ordered tc) :
    (∀ j ∈ tc.indexes, j < tc.nextIndex) ↔ maxIndex ∉ tc.indexes := by
  cases hl : tc.calls.getLast? with
  | none => simp [indexes_eq_nil hl]
  | some last =>
    obtain ⟨k, c⟩ := last
    obtain ⟨hk, hle⟩ := h.le_last hl
    rw [h.nextIndex_eq hl, h.top_mem_iff hl]
    by_cases htop : k = maxIndex
    · -- the next index wraps to `0`, which is not above the last call's
      simp only [htop, if_true, not_true_eq_false, iff_false, not_forall]
      exact ⟨k, hk, Nat.not_lt_zero _⟩
    · simp only [htop, if_false, not_false_eq_true, iff_true]
      exact fun j hj => Nat.lt_succ_of_le (hle j hj)

/-- An id that is new and not the latest call's goes to a free index, unless the top word and
`0` are both in use. -/
theorem Ordered.indexForId_fresh_iff {tc : ToolCalls} (h : Ordered tc) {i : String}
    (hi : i ≠ "") (hnew : ∀ k c, tc.calls.getLast? = some (k, c) → c.id ≠ i) :
    tc.indexForId (some i) ∉ tc.indexes ↔ ¬(maxIndex ∈ tc.indexes ∧ 0 ∈ tc.indexes) := by
  have hp : present (some i) = some i := by simp [present, String.isEmpty_iff, hi]
  cases hl : tc.calls.getLast? with
  | none => simp [indexForId, hl, hp, indexes_eq_nil hl]
  | some last =>
    obtain ⟨k, c⟩ := last
    have hfor : tc.indexForId (some i) = tc.nextIndex := by
      simp [indexForId, hl, hp, hnew k c hl]
    rw [hfor, h.nextIndex_eq hl, h.top_mem_iff hl]
    by_cases htop : k = maxIndex
    · simp [htop]
    · simp only [htop, if_false, false_and, not_false_eq_true, iff_true]
      exact fun hmem => absurd ((h.le_last hl).2 _ hmem) (by omega)

/-- In every state that fragments with word-sized indexes reach, the next index is above every
index in use exactly when the top word is not in use; and a non-empty id other than the latest
call's is given a free index exactly when the top word and `0` are not both in use. -/
theorem fresh_index_iff_top_unused {tc : ToolCalls} (h : Reachable tc) :
    ((∀ j ∈ tc.indexes, j < tc.nextIndex) ↔ maxIndex ∉ tc.indexes) ∧
      ∀ i : String, i ≠ "" → (∀ k c, tc.calls.getLast? = some (k, c) → c.id ≠ i) →
        (tc.indexForId (some i) ∉ tc.indexes ↔ ¬(maxIndex ∈ tc.indexes ∧ 0 ∈ tc.indexes)) :=
  ⟨h.ordered.lt_nextIndex_iff, fun _ hi hnew => h.ordered.indexForId_fresh_iff hi hnew⟩

theorem fresh_index_after_two_calls :
    let tc := ((({} : ToolCalls).apply 5 (some "a") (some "f") none).2.apply 2 none none
      (some "[1]")).2
    Reachable tc ∧ (((∀ j ∈ tc.indexes, j < tc.nextIndex) ↔ maxIndex ∉ tc.indexes) ∧
      ∀ i : String, i ≠ "" → (∀ k c, tc.calls.getLast? = some (k, c) → c.id ≠ i) →
        (tc.indexForId (some i) ∉ tc.indexes ↔ ¬(maxIndex ∈ tc.indexes ∧ 0 ∈ tc.indexes))) :=
  have h := Reachable.apply 2 none none (some "[1]")
    (Reachable.apply 5 (some "a") (some "f") none .empty (by decide)) (by decide)
  ⟨h, fresh_index_iff_top_unused h⟩

/-- A call at the top word makes the next index wrap to `0`; with a call at `0`, a new id then
continues that call. -/
theorem top_index_wraps_next_index :
    let tc := ((({} : ToolCalls).apply maxIndex (some "a") (some "f") none).2.apply 0 (some "b")
      (some "g") none).2
    tc.indexes = [0, maxIndex] ∧ tc.nextIndex = 0 ∧ tc.indexForId (some "c") = 0 := by
  decide

end ChatStream.ToolCalls
