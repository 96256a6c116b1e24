import Mathlib
import ChatStream.Proofs.FrameReading

/-! # What a frame reader holds between chunks

A reader that has read some chunks without stopping (`Reader.Reaches`) is the reader of the
byte-at-a-time cut of everything it read (`reaches_ofCut`): it holds only the unfinished line,
the draft the ended lines leave, and whether the last byte was a CR; the frames it gave so far
are those of the ended lines.

Main statement (`reader_between_chunks`): between chunks the unfinished line holds no terminator
and at most `maxLineBytes` bytes, so a chunk is read from a buffer of at most `maxLineBytes`
bytes more than the chunk; the reader waits for the LF of a CRLF exactly when the last byte read
was a CR; every frame it gave was closed by a blank line; and a chunk that stops it with an
error leaves the reader empty.
-/

namespace ChatStream.EventSource

open Bytes

/-! ## Cutting lines -/

namespace LineCut

theorem push_afterCr (c : LineCut) (b : UInt8) : (c.push b).afterCr = (b == 13) := by
  unfold push
  split
  · rename_i h
    simp only [Bool.and_eq_true, beq_iff_eq] at h
    simp [h.2]
  · split
    · rfl
    · rename_i _ ht
      simp only [isTerminator, Bool.or_eq_true, beq_iff_eq, not_or] at ht
      simp [ht.2]

theorem feed_afterCr (c : LineCut) (bs : List UInt8) :
    (c.feed bs).afterCr = bs.getLast?.elim c.afterCr (· == 13) := by
  induction bs using List.reverseRecOn with
  | nil => rfl
  | append_singleton bs b _ =>
    rw [feed_append, feed_cons, feed_nil, push_afterCr]
    simp

end LineCut

/-! ## Frames close at blank lines -/

theorem Draft.line_frame {d : Draft} {l : String} {f : Frame} (h : (d.line l).1 = some f) :
    l = "" ∧ d.close.1 = some f := by
  unfold Draft.line at h
  by_cases hl : l.isEmpty
  · rw [if_pos hl] at h
    exact ⟨String.isEmpty_iff.mp hl, h⟩
  · -- a comment or a field line gives no frame
    rw [if_neg hl] at h
    repeat' split at h
    all_goals simp at h

/-- The frame `f` is closed by a blank line of `ls`: the draft the lines before it leave has
`f` as its frame. -/
def ClosedByBlankLine (d : Draft) (ls : List (List UInt8)) (f : Frame) : Prop :=
  ∃ pre l post, ls = pre ++ l :: post ∧ lineText l = "" ∧ (readLines d pre).2.close.1 = some f

theorem closedByBlankLine_of_mem_readLines {d : Draft} {ls : List (List UInt8)} {f : Frame}
    (h : f ∈ (readLines d ls).1) : ClosedByBlankLine d ls f := by
  induction ls generalizing d with
  | nil => simp [readLines] at h
  | cons l ls ih =>
    rw [readLines_cons, List.mem_append] at h
    rcases h with h | h
    · -- the first line closes the frame
      obtain ⟨hl, hf⟩ := Draft.line_frame (Option.mem_toList.mp h)
      exact ⟨[], l, ls, rfl, hl, hf⟩
    · obtain ⟨pre, l', post, rfl, hl', hf⟩ := ih h
      exact ⟨l :: pre, l', post, rfl, hl', by simpa [readLines_cons] using hf⟩

/-! ## Reachable readers -/

namespace Reader

/-- The reader after reading the bytes `bytes` chunk by chunk with no error, having given the
frames `fs`. -/
inductive Reaches : List UInt8 → List Frame → Reader → Prop
  | start : Reaches [] [] {}
  | push {bytes : List UInt8} {fs : List Frame} {r : Reader} (chunk : ByteArray) :
      Reaches bytes fs r → (r.push chunk).error = none →
      Reaches (bytes ++ chunk.data.toList) (fs ++ (r.push chunk).frames.toList) (r.push chunk).reader

/-- A chunk read by the reader of a cut whose lines fit either stops it with a line too long and
an empty reader, or leaves the reader of the longer cut, whose lines fit, with the frames of the
lines the chunk ended. -/
theorem push_ofCut_cases (c : LineCut) (hc : c.Clean) (hfits : c.lines.all fits)
    (chunk : ByteArray) :
    ((ofCut c).push chunk).error = some (.lineTooLong maxLineBytes) ∧
        ((ofCut c).push chunk).reader = {} ∨
      ((ofCut c).push chunk).error = none ∧
        ((ofCut c).push chunk).reader = ofCut (c.feed chunk.data.toList) ∧
        (c.feed chunk.data.toList).lines.all fits ∧
        (readLines {} c.ended).1 ++ ((ofCut c).push chunk).frames.toList =
          (readLines {} (c.feed chunk.data.toList).ended).1 := by
  obtain ⟨c', hc'⟩ : ∃ c', LineCut.feed { c with ended := [] } chunk.data.toList = c' := ⟨_, rfl⟩
  have hfeed : c.feed chunk.data.toList = { c' with ended := c.ended ++ c'.ended } := by
    rw [← hc']
    simpa using LineCut.feed_prepend { c with ended := [] } c.ended chunk.data.toList
  have hended : c.ended.all fits = true := by
    simp only [LineCut.lines, List.all_append, Bool.and_eq_true] at hfits
    exact hfits.1
  rw [push_ofCut c hc, hc', hfeed, LineCut.pass]
  by_cases hall : c'.lines.all fits
  · -- every line fits: the reader of the longer cut
    refine .inr ⟨by simp [hall], ?_, ?_, ?_⟩
    · simp [hall, ofCut, readLines_append]
    · simpa [LineCut.lines, hended] using hall
    · simp [hall, readLines_append]
  · exact .inl ⟨by simp [hall], by simp [hall]⟩

/-- **A reachable reader is the reader of the cut of what it read**, all of whose lines fit,
and it gave the frames of the cut's ended lines. -/
theorem reaches_ofCut {bytes : List UInt8} {fs : List Frame} {r : Reader}
    (h : r.Reaches bytes fs) :
    r = ofCut (LineCut.feed {} bytes) ∧ (LineCut.feed {} bytes).lines.all fits ∧
      fs = (readLines {} (LineCut.feed {} bytes).ended).1 := by
  induction h with
  | start => exact ⟨ofCut_empty.symm, by decide, rfl⟩
  | @push bytes fs r chunk _ herr ih =>
    obtain ⟨rfl, hfits, rfl⟩ := ih
    have hc := LineCut.clean_empty.feed bytes
    rcases push_ofCut_cases _ hc hfits chunk with ⟨hbad, -⟩ | ⟨-, hreader, hfits', hframes⟩
    · rw [herr] at hbad
      cases hbad
    · rw [LineCut.feed_append]
      exact ⟨hreader, hfits', hframes⟩

theorem push_error_empties {bytes : List UInt8} {fs : List Frame} {r : Reader}
    (h : r.Reaches bytes fs) (chunk : ByteArray) (herr : (r.push chunk).error ≠ none) :
    (r.push chunk).error = some (.lineTooLong maxLineBytes) ∧ (r.push chunk).reader = {} := by
  obtain ⟨rfl, hfits, -⟩ := reaches_ofCut h
  rcases push_ofCut_cases _ (LineCut.clean_empty.feed _) hfits chunk with hbad | ⟨hnone, -⟩
  · exact hbad
  · exact absurd hnone herr

end Reader

/-- **Between chunks a reader holds at most one short line.** After reading `bytes` with no
error, the unfinished line it holds has no terminator and at most `maxLineBytes` bytes, so the
next chunk is read from a buffer at most `maxLineBytes` bytes longer than the chunk; it waits for
the LF of a CRLF exactly when the last byte it read was a CR; every frame it gave was closed by
a blank line of the lines it read; and a chunk that stops it leaves it empty. -/
theorem reader_between_chunks {bytes : List UInt8} {fs : List Frame} {r : Reader}
    (h : r.Reaches bytes fs) (chunk : ByteArray) :
    (∀ b ∈ r.pending.data.toList, isTerminator b = false) ∧
      r.pending.size ≤ maxLineBytes ∧
      (r.pending ++ chunk).size ≤ maxLineBytes + chunk.size ∧
      (r.skipLf = true ↔ bytes.getLast? = some 13) ∧
      (∀ f ∈ fs, ClosedByBlankLine {} (LineCut.feed {} bytes).ended f) ∧
      ((r.push chunk).error ≠ none → (r.push chunk).reader = {}) := by
  obtain ⟨rfl, hfits, rfl⟩ := Reader.reaches_ofCut h
  have hclean := LineCut.clean_empty.feed bytes
  -- the unfinished line is the cut's last line, and every line fits
  have hshort : (LineCut.feed {} bytes).current.length ≤ maxLineBytes := by
    have hlast := List.all_eq_true.mp hfits (LineCut.feed {} bytes).current (by simp [LineCut.lines])
    simpa [fits] using hlast
  have hsize : (Reader.ofCut (LineCut.feed {} bytes)).pending.size ≤ maxLineBytes := by
    simpa [Reader.ofCut] using hshort
  refine ⟨?_, hsize, ?_, ?_, fun f hf => closedByBlankLine_of_mem_readLines hf,
    fun herr => (Reader.push_error_empties h chunk herr).2⟩
  · simpa [Reader.ofCut] using hclean.current
  · rw [ByteArray.size_append]
    omega
  · rw [Reader.ofCut, LineCut.feed_afterCr]
    cases bytes.getLast? <;> simp

/-- After `data: x`, a blank line and a CR, the reader holds nothing, waits for an LF and has
given the frame the blank line closed. -/
theorem reader_after_frame_and_cr :
    let chunk : ByteArray := ⟨#[100, 97, 116, 97, 58, 32, 120, 10, 10, 13]⟩
    let next : ByteArray := ⟨#[10, 58]⟩
    let r := ({} : Reader).push chunk
    r.reader.Reaches chunk.data.toList r.frames.toList ∧
      (∀ b ∈ r.reader.pending.data.toList, isTerminator b = false) ∧
      r.reader.pending.size ≤ maxLineBytes ∧
      (r.reader.pending ++ next).size ≤ maxLineBytes + next.size ∧
      (r.reader.skipLf = true ↔ chunk.data.toList.getLast? = some 13) ∧
      (∀ f ∈ r.frames.toList, ClosedByBlankLine {} (LineCut.feed {} chunk.data.toList).ended f) ∧
      ((r.reader.push next).error ≠ none → (r.reader.push next).reader = {}) := by
  intro chunk next r
  have h : r.reader.Reaches chunk.data.toList r.frames.toList := by
    simpa using Reader.Reaches.push chunk .start (by decide +kernel)
  exact ⟨h, reader_between_chunks h next⟩

end ChatStream.EventSource
