import Mathlib
import ChatStream.EventSource.Reader
import ChatStream.Proofs.Body

/-! # Reading frames does not depend on how the body is cut

A body is cut into lines one byte at a time (`LineCut`): an LF or a CR ends a line, and an LF
right after a CR that ended a line ends nothing. `framesOfBytes` reads the lines of a whole body
at once: the frames of its ended lines, then the frames of its end or the read failure. A line
longer than `maxLineBytes`, the unfinished last one included, stops it with an error after the
frames of the lines before it.

`cutLines_eq` shows that one pass of the reader over its buffer is the byte-at-a-time cut of the
buffer, and `frames_eq_framesOfBytes` that a reader fed any chunks gives `framesOfBytes` of
their concatenation.
-/

namespace ChatStream.EventSource

open Bytes

/-- Bytes cut into lines one at a time: the lines ended so far, the unfinished line, and whether
the last byte was a CR that ended a line. -/
structure LineCut where
  ended : List (List UInt8) := []
  current : List UInt8 := []
  afterCr : Bool := false

namespace LineCut

/-- Take one byte. An LF right after a CR is the second half of a CRLF. -/
def push (c : LineCut) (b : UInt8) : LineCut :=
  if c.afterCr && b == 10 then { c with afterCr := false }
  else if isTerminator b then { ended := c.ended ++ [c.current], current := [], afterCr := b == 13 }
  else { c with current := c.current ++ [b], afterCr := false }

def feed (c : LineCut) (bs : List UInt8) : LineCut := bs.foldl push c

/-- Every line so far, the unfinished one last. -/
def lines (c : LineCut) : List (List UInt8) := c.ended ++ [c.current]

@[simp] theorem feed_nil (c : LineCut) : c.feed [] = c := rfl

@[simp] theorem feed_cons (c : LineCut) (b : UInt8) (bs : List UInt8) :
    c.feed (b :: bs) = (c.push b).feed bs := rfl

theorem feed_append (c : LineCut) (xs ys : List UInt8) :
    c.feed (xs ++ ys) = (c.feed xs).feed ys :=
  List.foldl_append

theorem push_prepend (c : LineCut) (e : List (List UInt8)) (b : UInt8) :
    push { c with ended := e ++ c.ended } b = { c.push b with ended := e ++ (c.push b).ended } := by
  unfold push
  split
  · rfl
  · split <;> simp

theorem feed_prepend (c : LineCut) (e : List (List UInt8)) (bs : List UInt8) :
    feed { c with ended := e ++ c.ended } bs =
      { c.feed bs with ended := e ++ (c.feed bs).ended } := by
  induction bs generalizing c with
  | nil => rfl
  | cons b bs ih => simp only [feed_cons, push_prepend, ih]

theorem feed_plain (c : LineCut) (bs : List UInt8) (hbs : ∀ b ∈ bs, isTerminator b = false) :
    c.feed bs = { c with current := c.current ++ bs, afterCr := c.afterCr && bs.isEmpty } := by
  induction bs generalizing c with
  | nil => simp
  | cons b bs ih =>
      have hb : isTerminator b = false := hbs b (by simp)
      have hlf : (b == 10) = false := by
        simp only [isTerminator, Bool.or_eq_false_iff] at hb
        exact hb.1
      rw [feed_cons, ih _ (fun x hx => hbs x (by simp [hx]))]
      simp [push, hlf, hb]

theorem push_terminator (c : LineCut) (t : UInt8) (ht : isTerminator t = true)
    (hcr : (c.afterCr && t == 10) = false) :
    c.push t = { ended := c.ended ++ [c.current], current := [], afterCr := t == 13 } := by
  simp [push, hcr, ht]

/-- The unfinished line holds no terminator, and is empty after a CR that ended a line. -/
structure Clean (c : LineCut) : Prop where
  current : ∀ b ∈ c.current, isTerminator b = false
  afterCr : c.afterCr = true → c.current = []

theorem clean_empty : ({} : LineCut).Clean := ⟨by simp, by simp⟩

theorem Clean.push {c : LineCut} (h : c.Clean) (b : UInt8) : (c.push b).Clean := by
  unfold LineCut.push
  split
  · exact ⟨h.current, fun _ => h.afterCr (by simp_all)⟩
  · split
    · exact ⟨by simp, fun _ => rfl⟩
    · refine ⟨fun x hx => ?_, by simp⟩
      rcases List.mem_append.mp hx with hx | hx
      · exact h.current x hx
      · simp_all

theorem Clean.feed {c : LineCut} (h : c.Clean) (bs : List UInt8) : (c.feed bs).Clean := by
  induction bs generalizing c with
  | nil => exact h
  | cons b bs ih => exact ih (h.push b)

theorem lines_feed (c : LineCut) (bs : List UInt8) :
    ∃ w more, (c.feed bs).lines = c.ended ++ (c.current ++ w) :: more := by
  induction bs generalizing c with
  | nil => exact ⟨[], [], by simp [lines]⟩
  | cons b bs ih =>
      obtain ⟨w, more, h⟩ := ih (c.push b)
      rw [feed_cons, h]
      unfold LineCut.push
      split
      · exact ⟨w, more, rfl⟩
      · split
        · exact ⟨[], w :: more, by simp⟩
        · exact ⟨b :: w, more, by simp⟩

end LineCut

/-! ## Reading lines -/

/-- A line's text: its bytes read as UTF-8, bad bytes replaced. -/
def lineText (l : List UInt8) : String := Text.Utf8.decodeBytes l.toByteArray

/-- Whether a line is short enough for the reader. -/
def fits (l : List UInt8) : Bool := l.length ≤ maxLineBytes

/-- The frames lines give, read in order from a draft, and the draft after them. -/
def readLines (d : Draft) : List (List UInt8) → List Frame × Draft
  | [] => ([], d)
  | l :: ls =>
    let (f, d) := d.line (lineText l)
    let (fs, d) := readLines d ls
    (f.toList ++ fs, d)

theorem readLines_cons (d : Draft) (l : List UInt8) (ls : List (List UInt8)) :
    readLines d (l :: ls) =
      ((d.line (lineText l)).1.toList ++ (readLines (d.line (lineText l)).2 ls).1,
        (readLines (d.line (lineText l)).2 ls).2) := rfl

theorem readLines_append (d : Draft) (ls ms : List (List UInt8)) :
    readLines d (ls ++ ms) =
      ((readLines d ls).1 ++ (readLines (readLines d ls).2 ms).1,
        (readLines (readLines d ls).2 ms).2) := by
  induction ls generalizing d with
  | nil => rfl
  | cons l ls ih => simp [readLines_cons, ih]

/-- The frames the end of the body gives: the unfinished line is read if it is not empty, then
a frame with content closes. -/
def flush (d : Draft) (rest : List UInt8) : List Frame :=
  let (first, d) := if rest = [] then (none, d) else d.line (lineText rest)
  first.toList ++ d.close.1.toList

namespace LineCut

/-- What one pass of the reader over its buffer gives, when the buffer's bytes cut as `c`: read
from the draft `d` after the frames `acc`, the frames of the ended lines and a reader holding the
unfinished one; or, if a line is too long, the frames of the lines before the first such line
and the error. -/
def pass (c : LineCut) (d : Draft) (acc : Array Frame) : Step :=
  if c.lines.all fits then
    ⟨acc ++ (readLines d c.ended).1.toArray, none,
      { pending := c.current.toByteArray, draft := (readLines d c.ended).2, skipLf := c.afterCr }⟩
  else
    ⟨acc ++ (readLines d (c.lines.takeWhile fits)).1.toArray, some (.lineTooLong maxLineBytes), {}⟩

theorem pass_cons (l : List UInt8) (c : LineCut) (d : Draft) (acc : Array Frame)
    (hl : fits l = true) :
    ({ c with ended := l :: c.ended } : LineCut).pass d acc =
      c.pass (d.line (lineText l)).2 (match (d.line (lineText l)).1 with
        | some f => acc.push f
        | none => acc) := by
  have hlines : ({ c with ended := l :: c.ended } : LineCut).lines = l :: c.lines := rfl
  have hacc : ∀ fs : List Frame, acc ++ ((d.line (lineText l)).1.toList ++ fs).toArray =
      (match (d.line (lineText l)).1 with
        | some f => acc.push f
        | none => acc) ++ fs.toArray := by
    intro fs
    cases (d.line (lineText l)).1 <;> simp
  simp only [pass, hlines, List.all_cons, hl, Bool.true_and, List.takeWhile_cons, if_true,
    readLines_cons, hacc]

theorem pass_long (l : List UInt8) (c : LineCut) (d : Draft) (acc : Array Frame)
    (hl : fits l = false) :
    ({ c with ended := l :: c.ended } : LineCut).pass d acc =
      ⟨acc, some (.lineTooLong maxLineBytes), {}⟩ := by
  have hlines : ({ c with ended := l :: c.ended } : LineCut).lines = l :: c.lines := rfl
  simp [pass, hlines, hl, readLines]

end LineCut

/-! ## One pass over a buffer -/

theorem findTerminator_some (bs : ByteArray) (i k : Nat) (h : findTerminator bs i = some k) :
    ∃ hk : k < bs.size, isTerminator bs[k] = true ∧
      ∀ j (hj : j < bs.size), i ≤ j → j < k → isTerminator bs[j] = false := by
  induction i using findTerminator.induct bs with
  | case1 i hi ht =>
      rw [findTerminator, dif_pos hi, if_pos ht] at h
      cases h
      exact ⟨hi, ht, fun j _ h1 h2 => absurd h2 (by omega)⟩
  | case2 i hi ht ih =>
      rw [findTerminator, dif_pos hi, if_neg ht] at h
      obtain ⟨hk, hkt, hbefore⟩ := ih h
      refine ⟨hk, hkt, fun j hj h1 h2 => ?_⟩
      rcases Nat.eq_or_lt_of_le h1 with rfl | h1
      · simpa using ht
      · exact hbefore j hj h1 h2
  | case3 i hi =>
      rw [findTerminator, dif_neg hi] at h
      cases h

theorem findTerminator_none (bs : ByteArray) (i : Nat) (h : findTerminator bs i = none) :
    ∀ j (hj : j < bs.size), i ≤ j → isTerminator bs[j] = false := by
  induction i using findTerminator.induct bs with
  | case1 i hi ht =>
      rw [findTerminator, dif_pos hi, if_pos ht] at h
      cases h
  | case2 i hi ht ih =>
      rw [findTerminator, dif_pos hi, if_neg ht] at h
      intro j hj h1
      rcases Nat.eq_or_lt_of_le h1 with rfl | h1
      · simpa using ht
      · exact ih h j hj h1
  | case3 i hi =>
      intro j hj h1
      omega

/-- With no terminator before `clean` and none from `max start clean` on, there is none from
`start` on. -/
theorem plain_from (bs : ByteArray) (start clean : Nat)
    (hclean : ∀ j (hj : j < bs.size), start ≤ j → j < clean → isTerminator bs[j] = false)
    (hf : findTerminator bs (max start clean) = none) :
    ∀ j (hj : j < bs.size), start ≤ j → isTerminator bs[j] = false := by
  intro j hj h1
  by_cases h2 : j < clean
  · exact hclean j hj h1 h2
  · exact findTerminator_none bs _ hf j hj (by omega)

theorem plain_until (bs : ByteArray) (start clean stop : Nat)
    (hclean : ∀ j (hj : j < bs.size), start ≤ j → j < clean → isTerminator bs[j] = false)
    (hf : findTerminator bs (max start clean) = some stop) :
    ∀ j (hj : j < bs.size), start ≤ j → j < stop → isTerminator bs[j] = false := by
  intro j hj h1 h3
  by_cases h2 : j < clean
  · exact hclean j hj h1 h2
  · exact (findTerminator_some bs _ _ hf).2.2 j hj (by omega) h3

theorem plain_drop (bs : ByteArray) (start : Nat)
    (h : ∀ j (hj : j < bs.size), start ≤ j → isTerminator bs[j] = false) :
    ∀ b ∈ bs.data.toList.drop start, isTerminator b = false := by
  intro b hb
  obtain ⟨i, hi, rfl⟩ := List.mem_iff_getElem.mp hb
  simp only [List.length_drop, length_toList] at hi
  simp only [List.getElem_drop, Array.getElem_toList]
  exact h (start + i) (by omega) (by omega)

theorem plain_take (bs : ByteArray) (start stop : Nat)
    (h : ∀ j (hj : j < bs.size), start ≤ j → j < stop → isTerminator bs[j] = false) :
    ∀ b ∈ (bs.data.toList.drop start).take (stop - start), isTerminator b = false := by
  intro b hb
  obtain ⟨i, hi, rfl⟩ := List.mem_iff_getElem.mp hb
  simp only [List.length_take, List.length_drop] at hi
  simp only [List.getElem_take, List.getElem_drop, Array.getElem_toList]
  exact h (start + i) (by simp only [length_toList] at hi; omega) (by omega) (by omega)

theorem crlf_split (bs : ByteArray) (start stop : Nat) (skipLf : Bool) (hstop : stop < bs.size)
    (h1 : ¬(skipLf = true ∧ start < bs.size ∧ (bs[start]! == 10) = true)) :
    skipLf = true → stop = start → (bs[stop] == 10) = false := by
  rintro rfl rfl
  rw [← getElem!_eq bs stop hstop]
  simpa [hstop] using h1

theorem feed_at_terminator (bs : ByteArray) (start stop : Nat) (skipLf : Bool)
    (hstop : stop < bs.size) (hle : start ≤ stop) (ht : isTerminator bs[stop] = true)
    (hplain : ∀ j (hj : j < bs.size), start ≤ j → j < stop → isTerminator bs[j] = false)
    (hcrlf : skipLf = true → stop = start → (bs[stop] == 10) = false) :
    LineCut.feed { afterCr := skipLf } (bs.data.toList.drop start) =
      let c := LineCut.feed { afterCr := bs[stop] == 13 } (bs.data.toList.drop (stop + 1))
      { c with ended := (bs.data.toList.drop start).take (stop - start) :: c.ended } := by
  have hsplit : bs.data.toList.drop start = (bs.data.toList.drop start).take (stop - start) ++
      bs[stop] :: bs.data.toList.drop (stop + 1) := by
    conv => lhs; rw [← List.take_append_drop (stop - start) (bs.data.toList.drop start)]
    rw [List.drop_drop, Nat.add_sub_cancel' hle, drop_eq_cons bs stop hstop]
  have hlen : ((bs.data.toList.drop start).take (stop - start)).length = stop - start := by
    simp only [List.length_take, List.length_drop, length_toList]
    omega
  conv => lhs; rw [hsplit]
  rw [LineCut.feed_append, LineCut.feed_plain _ _ (plain_take bs start stop hplain),
    LineCut.feed_cons, LineCut.push_terminator _ _ ht]
  · have := LineCut.feed_prepend { afterCr := bs[stop] == 13 }
      [(bs.data.toList.drop start).take (stop - start)] (bs.data.toList.drop (stop + 1))
    simpa using this
  · cases skipLf with
    | false => simp
    | true =>
        by_cases hempty : ((bs.data.toList.drop start).take (stop - start)).isEmpty
        · have : stop = start := by
            rw [List.isEmpty_iff, ← List.length_eq_zero_iff, hlen] at hempty
            omega
          simp [hempty, hcrlf rfl this]
        · simp [hempty]

/-- **One pass of the reader over its buffer is the byte-at-a-time cut of the buffer from where
the pass starts.** The bytes before `clean` are known to hold no terminator. -/
theorem cutLines_eq (bs : ByteArray) (start clean : Nat) (skipLf : Bool) (draft : Draft)
    (acc : Array Frame)
    (hclean : ∀ j (hj : j < bs.size), start ≤ j → j < clean → isTerminator bs[j] = false) :
    cutLines bs start clean skipLf draft acc =
      (LineCut.feed { afterCr := skipLf } (bs.data.toList.drop start)).pass draft acc := by
  induction start, clean, skipLf, draft, acc using cutLines.induct bs with
  | case1 start clean skipLf draft acc h ih =>
      obtain ⟨rfl, hlt, hlf⟩ := h
      rw [cutLines, if_pos ⟨rfl, hlt, hlf⟩, ih (fun j _ h1 h2 => absurd h2 (by omega)),
        drop_eq_cons bs start hlt]
      rw [getElem!_eq bs start hlt] at hlf
      simp [LineCut.push, hlf]
  | case2 start clean skipLf draft acc h1 h2 =>
      obtain ⟨rfl, hge⟩ := h2
      rw [cutLines, if_neg h1, if_pos ⟨rfl, hge⟩, List.drop_eq_nil_of_le (by simpa using hge)]
      simp [LineCut.pass, LineCut.lines, fits, readLines]
  | case3 start clean skipLf draft acc h1 h2 hf hlong =>
      have hplain := plain_drop bs start (plain_from bs start clean hclean hf)
      rw [cutLines, if_neg h1, if_neg h2]
      split
      · rw [if_pos hlong, LineCut.feed_plain _ _ hplain]
        have : ¬ (bs.size - start ≤ maxLineBytes) := by omega
        simp [LineCut.pass, LineCut.lines, fits, this, readLines]
      · simp_all
  | case4 start clean skipLf draft acc h1 h2 hf hshort =>
      have hplain := plain_drop bs start (plain_from bs start clean hclean hf)
      rw [cutLines, if_neg h1, if_neg h2]
      split
      · rw [if_neg hshort, LineCut.feed_plain _ _ hplain]
        have hfits : bs.size - start ≤ maxLineBytes := by omega
        -- a CR that ended the previous chunk was followed by a byte that is not an LF
        have hcr : (skipLf && (bs.data.toList.drop start).isEmpty) = false := by
          cases skipLf with
          | false => rfl
          | true =>
              have : start < bs.size := by simp at h2; omega
              simp [List.drop_eq_nil_iff]
              omega
        have htake : (bs.data.toList.drop start).take (bs.size - start) =
            bs.data.toList.drop start :=
          List.take_of_length_le (by simp)
        simp [LineCut.pass, LineCut.lines, fits, hfits, hcr, readLines, extract_eq, htake]
      · simp_all
  | case5 start clean skipLf draft acc h1 h2 stop hf hlong =>
      obtain ⟨hstop, ht, -⟩ := findTerminator_some bs _ _ hf
      have hle : start ≤ stop := by
        have := findTerminator_bounds bs _ _ hf
        omega
      rw [cutLines, if_neg h1, if_neg h2]
      split
      · simp_all
      · rename_i stop' hf'
        rw [hf] at hf'
        cases hf'
        rw [if_pos hlong, feed_at_terminator bs start stop skipLf hstop hle ht
          (plain_until bs start clean stop hclean hf) (crlf_split bs start stop skipLf hstop h1)]
        exact (LineCut.pass_long _ _ _ _ (by simp [fits]; omega)).symm
  | case6 start clean skipLf draft acc h1 h2 stop hf hshort frame? draft' hline acc' ih =>
      obtain ⟨hstop, ht, -⟩ := findTerminator_some bs _ _ hf
      have hle : start ≤ stop := by
        have := findTerminator_bounds bs _ _ hf
        omega
      rw [cutLines, if_neg h1, if_neg h2]
      split
      · simp_all
      · rename_i stop' hf'
        rw [hf] at hf'
        cases hf'
        rw [if_neg hshort, feed_at_terminator bs start stop skipLf hstop hle ht
          (plain_until bs start clean stop hclean hf) (crlf_split bs start stop skipLf hstop h1),
          LineCut.pass_cons _ _ _ _ (by simp [fits]; omega)]
        have htext : lineText ((bs.data.toList.drop start).take (stop - start)) =
            Text.Utf8.decodeRange bs start stop := by
          rw [Text.Utf8.decodeRange, extract_eq, lineText]
        rw [htext, hline, ← getElem!_eq bs stop hstop]
        exact ih (fun j _ h1 h2 => absurd h2 (by omega))

/-! ## A whole body -/

namespace LineCut

/-- What a reader gives when a whole body cuts as `c` and then fails with a message or ends: the
frames of the ended lines, then the failure or the frames of the end; or, if a line is too long,
the frames of the lines before the first such line and the error. -/
def results (c : LineCut) (failure : Option String) : List (Except FrameError Frame) :=
  if c.lines.all fits then
    (readLines {} c.ended).1.map .ok ++ match failure with
      | some m => [.error (.body m)]
      | none => (flush (readLines {} c.ended).2 c.current).map .ok
  else (readLines {} (c.lines.takeWhile fits)).1.map .ok ++ [.error (.lineTooLong maxLineBytes)]

end LineCut

/-- What a body whose chunks hold the bytes `body` gives, read as a whole, when it ends with a
read failure (`some m`) or at its end (`none`). -/
def framesOfBytes (body : List UInt8) (failure : Option String) :
    List (Except FrameError Frame) :=
  (LineCut.feed {} body).results failure

theorem takeWhile_append_of_not {p : α → Bool} {es : List α} {e : α} (he : e ∈ es)
    (hne : p e = false) (ys : List α) : (es ++ ys).takeWhile p = es.takeWhile p := by
  induction es with
  | nil => cases he
  | cons a es ih =>
      by_cases ha : p a = true
      · rcases List.mem_cons.mp he with rfl | he
        · simp_all
        · simp [ha, ih he]
      · simp [ha]

theorem takeWhile_fits_grow (es : List (List UInt8)) (x w : List UInt8)
    (more : List (List UInt8)) (h : (es ++ [x]).all fits = false) :
    (es ++ (x ++ w) :: more).takeWhile fits = (es ++ [x]).takeWhile fits ∧
      (es ++ (x ++ w) :: more).all fits = false := by
  by_cases hes : ∀ e ∈ es, fits e = true
  · have hx : fits x = false := by simpa [List.all_eq_true.mpr hes] using h
    have hxw : fits (x ++ w) = false := by
      simp only [fits, decide_eq_false_iff_not, List.length_append] at hx ⊢
      omega
    refine ⟨?_, by simp [hxw]⟩
    rw [List.takeWhile_append_of_pos hes, List.takeWhile_append_of_pos hes,
      List.takeWhile_cons_of_neg (by simp [hxw]), List.takeWhile_cons_of_neg (by simp [hx])]
  · obtain ⟨e, he, hne⟩ : ∃ e ∈ es, fits e = false := by simpa using hes
    refine ⟨by rw [takeWhile_append_of_not he hne, takeWhile_append_of_not he hne], ?_⟩
    simp only [List.all_append, Bool.and_eq_false_iff]
    exact .inl (List.all_eq_false.mpr ⟨e, he, by simp [hne]⟩)

namespace Reader

/-- The reader holding the unfinished line of a cut, with the draft its ended lines leave. -/
def ofCut (c : LineCut) : Reader :=
  { pending := c.current.toByteArray, draft := (readLines {} c.ended).2, skipLf := c.afterCr }

theorem ofCut_empty : ofCut {} = {} := rfl

/-- A chunk read by the reader of a cut is one pass over the chunk, cut from where the cut
stands. -/
theorem push_ofCut (c : LineCut) (hc : c.Clean) (chunk : ByteArray) :
    (ofCut c).push chunk =
      (LineCut.feed { c with ended := [] } chunk.data.toList).pass (readLines {} c.ended).2 #[] := by
  have hclean : ∀ j (hj : j < (c.current.toByteArray ++ chunk).size), 0 ≤ j →
      j < c.current.toByteArray.size → isTerminator (c.current.toByteArray ++ chunk)[j] = false := by
    intro j hj _ hlt
    rw [ByteArray.getElem_append_left hlt, List.getElem_toByteArray]
    exact hc.current _ (List.getElem_mem _)
  have hstart : LineCut.feed { afterCr := c.afterCr } c.current = { c with ended := [] } := by
    rw [LineCut.feed_plain _ _ hc.current]
    cases h : c.afterCr with
    | false => simp
    | true => simp [hc.afterCr h]
  rw [push, ofCut, cutLines_eq _ _ _ _ _ _ hclean, ByteArray.toList_data_append, List.drop_zero,
    List.toList_data_toByteArray, LineCut.feed_append, hstart]

theorem finish_ofCut (c : LineCut) :
    (ofCut c).finish.toList = flush (readLines {} c.ended).2 c.current := by
  simp only [finish, ofCut, flush, List.size_toByteArray, List.length_eq_zero_iff, lineText]
  split <;> simp

/-- **A reader holding the unfinished line of a cut gives, after the frames of the cut's ended
lines, what the whole body gives.** The induction is on the body's items; each chunk is one pass
(`push_ofCut`), which leaves the reader of the longer cut or stops at a line too long. -/
theorem run_ofCut (items : List BodyItem) : ∀ c : LineCut, c.Clean → c.lines.all fits →
    (readLines {} c.ended).1.map .ok ++ (ofCut c).run items =
      (c.feed (BodyItem.bytesBeforeFailure items).data.toList).results (BodyItem.failure? items) := by
  induction items with
  | nil =>
      intro c _ hfits
      simp [run, BodyItem.bytesBeforeFailure, BodyItem.failure?, LineCut.results, hfits,
        finish_ofCut]
  | cons item items ih =>
      intro c hc hfits
      cases item with
      | failure m =>
          simp [run, BodyItem.bytesBeforeFailure, BodyItem.failure?, LineCut.results, hfits]
      | chunk chunk =>
          obtain ⟨c', hc'⟩ : ∃ c', LineCut.feed { c with ended := [] } chunk.data.toList = c' :=
            ⟨_, rfl⟩
          have hended : ∀ l ∈ c.ended, fits l = true := by
            intro l hl
            simp only [LineCut.lines, List.all_append, Bool.and_eq_true, List.all_eq_true] at hfits
            exact hfits.1 l hl
          have hfits' : c.ended.all fits = true := List.all_eq_true.mpr hended
          have hfeed : c.feed chunk.data.toList = { c' with ended := c.ended ++ c'.ended } := by
            rw [← hc']
            simpa using LineCut.feed_prepend { c with ended := [] } c.ended chunk.data.toList
          have hbytes : (BodyItem.bytesBeforeFailure (.chunk chunk :: items)).data.toList =
              chunk.data.toList ++ (BodyItem.bytesBeforeFailure items).data.toList := by
            simp [BodyItem.bytesBeforeFailure]
          have hlines : ({ c' with ended := c.ended ++ c'.ended } : LineCut).lines =
              c.ended ++ c'.lines := by
            simp [LineCut.lines]
          have hclean : ({ c' with ended := c.ended ++ c'.ended } : LineCut).Clean :=
            hfeed ▸ hc.feed chunk.data.toList
          rw [hbytes, LineCut.feed_append, hfeed]
          simp only [run, push_ofCut c hc, hc', BodyItem.failure?]
          by_cases hall : c'.lines.all fits
          · have hnext := ih { c' with ended := c.ended ++ c'.ended } hclean
              (by rw [hlines, List.all_append, hfits', hall]; rfl)
            have hreader : ofCut { c' with ended := c.ended ++ c'.ended } =
                { pending := c'.current.toByteArray
                  draft := (readLines (readLines {} c.ended).2 c'.ended).2
                  skipLf := c'.afterCr } := by
              simp [ofCut, readLines_append]
            rw [LineCut.pass, if_pos hall, ← hreader, ← hnext]
            simp [readLines_append]
          · -- the line too long stays the first one too long whatever bytes follow
            obtain ⟨w, more, hgrow⟩ := LineCut.lines_feed { c' with ended := c.ended ++ c'.ended }
              (BodyItem.bytesBeforeFailure items).data.toList
            have hnot : (c.ended ++ c'.ended ++ [c'.current]).all fits = false := by
              simpa [LineCut.lines, hfits'] using hall
            obtain ⟨htake, hall'⟩ :=
              takeWhile_fits_grow (c.ended ++ c'.ended) c'.current w more hnot
            rw [LineCut.pass, if_neg hall]
            unfold LineCut.results
            rw [hgrow, hall', htake]
            simp [List.takeWhile_append_of_pos hended, readLines_append, LineCut.lines]

end Reader

/-- **However a body is cut into chunks, the reader gives what its bytes give read as a whole.**
The frames and the error depend only on the bytes before the first read failure and on that
failure. -/
theorem frames_eq_framesOfBytes (body : List BodyItem) :
    frames body =
      framesOfBytes (BodyItem.bytesBeforeFailure body).data.toList (BodyItem.failure? body) := by
  have h := Reader.run_ofCut body {} LineCut.clean_empty (by decide)
  simpa [frames, framesOfBytes, Reader.ofCut_empty, readLines] using h

end ChatStream.EventSource
