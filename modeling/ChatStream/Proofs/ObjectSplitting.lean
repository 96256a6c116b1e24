import Mathlib
import ChatStream.Json.Splitter
import ChatStream.Proofs.Body

/-! # Splitting a body into JSON objects, one byte at a time

`ObjectCut` takes the bytes of a body one at a time and keeps the objects it has completed and
the bytes of the one it is in. The splitter holds the same bytes in a buffer, scans it by index
and hands an object on as soon as it is complete; `decodeAll_cut` shows that one run of the
splitter over a buffer is the cut of the bytes it has not scanned yet.

The splitter checks its limit only when it runs out of bytes, that is at the end of a chunk. So
`objects_eq_split` reads the objects of a body off its bytes and the offsets at which its chunks
end: they are the objects the cut completes, unless at the end of some chunk the object in
progress is already longer than `maxObjectBytes`, where the objects stop with that error. A
complete object is never measured.
-/

namespace ChatStream.Json

open Bytes

/-- A scan between objects is the empty one, and only a string has an escaped byte. -/
structure Scan.Sound (s : Scan) : Prop where
  idle : s.depth = 0 → s = {}
  escape : s.escaped = true → s.inString = true

theorem Scan.sound_empty : ({} : Scan).Sound := ⟨fun _ => rfl, by simp⟩

theorem Scan.step_of_idle {s : Scan} (h : s.depth = 0) (b : UInt8) :
    s.step b = if b = 0x7B then ({ depth := 1 }, true) else (s, false) := by
  by_cases hb : b = 0x7B <;> simp [Scan.step, h, hb]

theorem Scan.opens_of_busy {s : Scan} (h : 0 < s.depth) (b : UInt8) : (s.step b).2 = false := by
  unfold Scan.step
  split_ifs <;> first | rfl | omega

/-- Inside a string, a byte that is neither a backslash nor a quote after an unescaped byte
changes nothing. -/
theorem Scan.step_of_plain {s : Scan} {b : UInt8} (hd : 0 < s.depth) (hs : s.inString = true)
    (he : s.escaped = false) (hq : b ≠ 0x5C ∧ b ≠ 0x22) : s.step b = (s, false) := by
  simp [Scan.step, Nat.pos_iff_ne_zero.mp hd, hs, he, hq.1, hq.2]

theorem Scan.Sound.step {s : Scan} (h : s.Sound) (b : UInt8) : (s.step b).1.Sound := by
  unfold Scan.step
  split
  · split
    · exact ⟨by simp, by simp⟩
    · exact h
  · rename_i hd
    split
    · split
      · exact ⟨by simp [hd], by simp⟩
      · split
        · exact ⟨by simp [hd], by simp_all⟩
        · split
          · exact ⟨by simp [hd], by simp_all⟩
          · exact h
    · rename_i hs
      have hesc : s.escaped = false := by simpa [hs] using mt h.escape
      split
      · exact ⟨by simp [hd], by simp⟩
      · split
        · exact ⟨by simp [hd], by simp [hesc]⟩
        · split
          · refine ⟨fun _ => ?_, by simp [hesc]⟩
            cases s
            simp_all
          · exact h

/-- Bytes cut into top-level objects one at a time: the objects completed so far, the bytes of
the object in progress, and where the scan stands. -/
structure ObjectCut where
  done : List (List UInt8) := []
  begun : List UInt8 := []
  scan : Scan := {}

namespace ObjectCut

/-- Take one byte. A byte that opens an object starts `begun`, one that brings the depth back
to zero completes it, and a byte between objects is skipped. -/
def push (c : ObjectCut) (b : UInt8) : ObjectCut :=
  let s := (c.scan.step b).1
  if (c.scan.step b).2 then { c with begun := [b], scan := s }
  else if c.scan.depth = 0 then { c with scan := s }
  else if s.depth = 0 then { done := c.done ++ [c.begun ++ [b]], begun := [], scan := s }
  else { c with begun := c.begun ++ [b], scan := s }

def feed (c : ObjectCut) (bs : List UInt8) : ObjectCut := bs.foldl push c

/-- The object in progress is longer than the splitter holds. -/
def oversized (c : ObjectCut) : Bool := maxObjectBytes < c.begun.length

@[simp] theorem feed_nil (c : ObjectCut) : c.feed [] = c := rfl

@[simp] theorem feed_cons (c : ObjectCut) (b : UInt8) (bs : List UInt8) :
    c.feed (b :: bs) = (c.push b).feed bs := rfl

theorem feed_append (c : ObjectCut) (xs ys : List UInt8) :
    c.feed (xs ++ ys) = (c.feed xs).feed ys :=
  List.foldl_append

theorem push_of_opens {c : ObjectCut} {b : UInt8} {s : Scan} (h : c.scan.step b = (s, true)) :
    c.push b = { c with begun := [b], scan := s } := by
  simp [push, h]

theorem push_of_idle {c : ObjectCut} {b : UInt8} {s : Scan} (h : c.scan.step b = (s, false))
    (hd : c.scan.depth = 0) : c.push b = { c with scan := s } := by
  simp [push, h, hd]

theorem push_of_close {c : ObjectCut} {b : UInt8} (hd : 0 < c.scan.depth)
    (hz : (c.scan.step b).1.depth = 0) :
    c.push b = { done := c.done ++ [c.begun ++ [b]], begun := [], scan := (c.scan.step b).1 } := by
  simp [push, Scan.opens_of_busy hd, hz, Nat.pos_iff_ne_zero.mp hd]

theorem push_of_inside {c : ObjectCut} {b : UInt8} (hd : 0 < c.scan.depth)
    (hz : 0 < (c.scan.step b).1.depth) :
    c.push b = { c with begun := c.begun ++ [b], scan := (c.scan.step b).1 } := by
  simp [push, Scan.opens_of_busy hd, Nat.pos_iff_ne_zero.mp hd, Nat.pos_iff_ne_zero.mp hz]

/-- Where the cut stands for the bytes that follow, its completed objects handed on. -/
def carry (c : ObjectCut) : ObjectCut := { begun := c.begun, scan := c.scan }

@[simp] theorem carry_done (c : ObjectCut) : c.carry.done = [] := rfl

@[simp] theorem carry_begun (c : ObjectCut) : c.carry.begun = c.begun := rfl

@[simp] theorem carry_scan (c : ObjectCut) : c.carry.scan = c.scan := rfl

@[simp] theorem oversized_carry (c : ObjectCut) : c.carry.oversized = c.oversized := rfl

theorem carry_of_done_nil {c : ObjectCut} (h : c.done = []) : c.carry = c := by
  cases c
  simp_all [carry]

theorem push_prepend (c : ObjectCut) (e : List (List UInt8)) (b : UInt8) :
    push { c with done := e ++ c.done } b = { c.push b with done := e ++ (c.push b).done } := by
  simp only [push]
  split_ifs <;> simp

theorem feed_prepend (c : ObjectCut) (e : List (List UInt8)) (bs : List UInt8) :
    feed { c with done := e ++ c.done } bs = { c.feed bs with done := e ++ (c.feed bs).done } := by
  induction bs generalizing c with
  | nil => rfl
  | cons b bs ih => simp only [feed_cons, push_prepend, ih]

theorem feed_done (c : ObjectCut) (bs : List UInt8) :
    c.feed bs = { c.carry.feed bs with done := c.done ++ (c.carry.feed bs).done } := by
  simpa [carry] using feed_prepend c.carry c.done bs

theorem feed_append_carry (c : ObjectCut) (xs ys : List UInt8) :
    c.feed (xs ++ ys) =
      { (c.feed xs).carry.feed ys with
        done := (c.feed xs).done ++ ((c.feed xs).carry.feed ys).done } := by
  rw [feed_append, feed_done]

theorem feed_of_steady (c : ObjectCut) (bs : List UInt8) (hd : 0 < c.scan.depth)
    (hbs : ∀ b ∈ bs, c.scan.step b = (c.scan, false)) :
    c.feed bs = { c with begun := c.begun ++ bs } := by
  induction bs generalizing c with
  | nil => simp
  | cons b bs ih =>
    have hstep := hbs b (by simp)
    have hpush : c.push b = { c with begun := c.begun ++ [b] } := by
      rw [push_of_inside hd (by rw [hstep]; exact hd), hstep]
    rw [feed_cons, hpush, ih { c with begun := c.begun ++ [b] } hd
      fun x hx => hbs x (by simp [hx])]
    simp

theorem feed_of_plain (c : ObjectCut) (bs : List UInt8) (hd : 0 < c.scan.depth)
    (hs : c.scan.inString = true) (he : c.scan.escaped = false)
    (hbs : ∀ b ∈ bs, b ≠ 0x5C ∧ b ≠ 0x22) :
    c.feed bs = { c with begun := c.begun ++ bs } :=
  feed_of_steady c bs hd fun b hb => Scan.step_of_plain hd hs he (hbs b hb)

/-- The scan is sound, and nothing has begun between objects. -/
structure Clean (c : ObjectCut) : Prop where
  sound : c.scan.Sound
  idle : c.scan.depth = 0 → c.begun = []

theorem clean_empty : ({} : ObjectCut).Clean := ⟨Scan.sound_empty, fun _ => rfl⟩

theorem Clean.push {c : ObjectCut} (h : c.Clean) (b : UInt8) : (c.push b).Clean := by
  have hs := h.sound.step b
  simp only [ObjectCut.push]
  split_ifs with hopen hidle hclose
  · -- only a `{` between objects opens one, and the scan is then one deep
    refine ⟨hs, fun h0 => absurd h0 ?_⟩
    by_cases hd : c.scan.depth = 0
    · rw [Scan.step_of_idle hd] at hopen ⊢
      split_ifs at hopen ⊢
      simp
    · simp [Scan.opens_of_busy (Nat.pos_of_ne_zero hd)] at hopen
  · exact ⟨hs, fun _ => h.idle hidle⟩
  · exact ⟨hs, fun _ => rfl⟩
  · exact ⟨hs, fun h0 => absurd h0 hclose⟩

theorem length_begun_feed (c : ObjectCut) (bs : List UInt8) :
    (c.feed bs).begun.length ≤ c.begun.length + bs.length := by
  induction bs generalizing c with
  | nil => simp
  | cons b bs ih =>
    have hpush : (c.push b).begun.length ≤ c.begun.length + 1 := by
      simp only [ObjectCut.push]
      split_ifs <;> simp
    have := ih (c.push b)
    rw [feed_cons, List.length_cons]
    omega

theorem Clean.carry {c : ObjectCut} (h : c.Clean) : c.carry.Clean := ⟨h.sound, h.idle⟩

theorem Clean.feed {c : ObjectCut} (h : c.Clean) (bs : List UInt8) : (c.feed bs).Clean := by
  induction bs generalizing c with
  | nil => exact h
  | cons b bs ih => exact ih (h.push b)

end ObjectCut

namespace Splitter

/-- The splitter has scanned its bytes up to `pos` and stands where the cut `c` stands: the
same scan, no completed object waiting, and the object in progress held from `start` on. -/
structure Tracks (d : Splitter) (c : ObjectCut) : Prop where
  done : c.done = []
  clean : c.Clean
  scan : d.scan = c.scan
  start_le : d.start ≤ d.pos
  pos_le : d.pos ≤ d.bytes.size
  begun : 0 < c.scan.depth → c.begun = (d.bytes.data.toList.drop d.start).take (d.pos - d.start)

section Scanning

variable {bs : ByteArray} {start i : Nat} {s s' : Scan} {opens : Bool} {c : ObjectCut}

/-- A byte that does not complete the object keeps the splitter on the cut; an opening byte
moves `start` to itself. -/
theorem Tracks.push_byte (h : Tracks ⟨bs, start, i, s⟩ c) (hi : i < bs.size)
    (hstep : s.step bs[i] = (s', opens)) (hgo : ¬(0 < s.depth ∧ s'.depth = 0)) :
    Tracks ⟨bs, if opens then i else start, i + 1, s'⟩ (c.push bs[i]) := by
  have hsc : c.scan = s := h.scan.symm
  have hle : start ≤ i := h.start_le
  have hclean := h.clean.push bs[i]
  rw [← hsc] at hstep hgo
  by_cases hd : c.scan.depth = 0
  · have hst := Scan.step_of_idle hd bs[i]
    rw [hstep] at hst
    by_cases hb : bs[i] = 0x7B
    · -- an opening brace: the object starts here
      simp only [hb, if_true, Prod.mk.injEq] at hst
      obtain ⟨rfl, rfl⟩ := hst
      rw [ObjectCut.push_of_opens hstep] at hclean ⊢
      refine ⟨h.done, hclean, rfl, by simp, by simpa using hi, fun _ => ?_⟩
      simp [drop_eq_cons bs i hi]
    · simp only [hb, if_false, Prod.mk.injEq] at hst
      obtain ⟨rfl, rfl⟩ := hst
      rw [ObjectCut.push_of_idle hstep hd] at hclean ⊢
      exact ⟨h.done, hclean, rfl, by simp only [Bool.false_eq_true, if_false]; omega,
        by simpa using hi, fun hpos => absurd hd (by simpa using hpos.ne')⟩
  · -- inside an object nothing opens, and the object grows by the byte
    have hbusy : 0 < c.scan.depth := Nat.pos_of_ne_zero hd
    have hopen : opens = false := by simpa [hstep] using Scan.opens_of_busy hbusy bs[i]
    have hpos : 0 < s'.depth := Nat.pos_of_ne_zero fun h0 => hgo ⟨hbusy, h0⟩
    have hs' : (c.scan.step bs[i]).1 = s' := by rw [hstep]
    rw [ObjectCut.push_of_inside hbusy (hs' ▸ hpos), hs'] at hclean ⊢
    subst hopen
    refine ⟨h.done, hclean, rfl, by simp only [Bool.false_eq_true, if_false]; omega,
      by simpa using hi, fun _ => ?_⟩
    simp only [Bool.false_eq_true, if_false]
    rw [h.begun hbusy, take_drop_succ bs hle hi]

theorem Tracks.push_close (h : Tracks ⟨bs, start, i, s⟩ c) (hi : i < bs.size)
    (hd : 0 < s.depth) (hz : (s.step bs[i]).1.depth = 0) :
    c.push bs[i] =
      { done := [(bs.data.toList.drop start).take (i + 1 - start)], scan := (s.step bs[i]).1 } := by
  have hsc : c.scan = s := h.scan.symm
  rw [← hsc] at hd hz
  rw [ObjectCut.push_of_close hd hz, h.done, h.begun hd, take_drop_succ bs h.start_le hi, hsc]
  rfl

theorem scanFrom_some {a b st : Nat} (h : Tracks ⟨bs, start, i, s⟩ c)
    (hs : scanFrom bs start i s = (some (a, b), st, s')) :
    c.feed ((bs.data.toList.drop i).take (b - i)) =
      { done := [(bs.data.toList.drop a).take (b - a)], scan := s' } := by
  induction start, i, s using scanFrom.induct bs generalizing c with
  | case1 start i s hi s₁ opens hstep hclose =>
    have hopen : opens = false := by simpa [hstep] using Scan.opens_of_busy hclose.1 bs[i]
    subst hopen
    rw [scanFrom, dif_pos hi] at hs
    simp only [hstep, if_pos hclose, Bool.false_eq_true, if_false, Prod.mk.injEq,
      Option.some.injEq] at hs
    obtain ⟨⟨rfl, rfl⟩, -, rfl⟩ := hs
    have hz : (s.step bs[i]).1.depth = 0 := by rw [hstep]; exact hclose.2
    rw [show i + 1 - i = 1 by omega, drop_eq_cons bs i hi, List.take_succ_cons, List.take_zero,
      ObjectCut.feed_cons, ObjectCut.feed_nil, h.push_close hi hclose.1 hz, hstep]
  | case2 start i s hi s₁ opens hstep start₁ hclose =>
    rename_i ih
    rw [scanFrom, dif_pos hi] at hs
    simp only [hstep, if_neg hclose] at hs
    have hb := (scanFrom_found bs _ _ _ hs).1
    rw [drop_eq_cons bs i hi, show b - i = b - (i + 1) + 1 by omega, List.take_succ_cons,
      ObjectCut.feed_cons]
    exact ih (by simpa [start₁] using h.push_byte hi hstep hclose) hs
  | case3 start i s hi =>
    rw [scanFrom, dif_neg hi] at hs
    cases hs

theorem scanFrom_none {st : Nat} (h : Tracks ⟨bs, start, i, s⟩ c)
    (hs : scanFrom bs start i s = (none, st, s')) :
    Tracks ⟨bs, st, bs.size, s'⟩ (c.feed (bs.data.toList.drop i)) := by
  induction start, i, s using scanFrom.induct bs generalizing c with
  | case1 start i s hi s₁ opens hstep hclose =>
    rw [scanFrom, dif_pos hi] at hs
    simp [hstep, if_pos hclose] at hs
  | case2 start i s hi s₁ opens hstep start₁ hclose =>
    rename_i ih
    rw [scanFrom, dif_pos hi] at hs
    simp only [hstep, if_neg hclose] at hs
    rw [drop_eq_cons bs i hi, ObjectCut.feed_cons]
    exact ih (by simpa [start₁] using h.push_byte hi hstep hclose) hs
  | case3 start i s hi =>
    rw [scanFrom, dif_neg hi] at hs
    obtain ⟨rfl, rfl⟩ : start = st ∧ s = s' := by simpa using hs
    have hend : i = bs.size := by have := h.pos_le; simp at this; omega
    subst hend
    rw [List.drop_eq_nil_of_le (by simp), ObjectCut.feed_nil]
    exact h

end Scanning

theorem tracks_empty : ({} : Splitter).Tracks {} :=
  ⟨rfl, ObjectCut.clean_empty, rfl, le_refl 0, le_refl 0, fun h => absurd h (lt_irrefl 0)⟩

section Decoding

variable {d d' : Splitter} {c : ObjectCut}

theorem decodeAll_of_some {o : ByteArray} (h : d.decode = (.ok (some o), d')) :
    d.decodeAll = (o :: d'.decodeAll.1, d'.decodeAll.2.1, d'.decodeAll.2.2) := by
  rw [decodeAll]
  split <;> simp_all

theorem decodeAll_of_none (h : d.decode = (.ok none, d')) : d.decodeAll = ([], none, d') := by
  rw [decodeAll]
  split <;> simp_all

theorem decodeAll_of_error {e : SplitError} (h : d.decode = (.error e, d')) :
    d.decodeAll = ([], some e, d') := by
  rw [decodeAll]
  split <;> simp_all

theorem decode_of_found {a b st : Nat} {s' : Scan}
    (hs : scanFrom d.bytes d.start d.pos d.scan = (some (a, b), st, s')) :
    d.decode = (.ok (some ((d.bytes.data.toList.drop a).take (b - a)).toByteArray),
      { d with start := b, pos := b, scan := s' }) := by
  simp [decode, hs, extract_eq]

/-- A scan that runs out ends `decode` with no object, or with an error exactly when the object
in progress is over the limit. The splitter is left at the end of its bytes, on the cut. -/
theorem decode_of_exhausted {st : Nat} {s' : Scan} (h : d.Tracks c)
    (hs : scanFrom d.bytes d.start d.pos d.scan = (none, st, s')) :
    ∃ d', d.decode = ((if (c.feed (d.bytes.data.toList.drop d.pos)).oversized then
        .error (.tooLarge maxObjectBytes) else .ok none), d') ∧
      d'.Tracks (c.feed (d.bytes.data.toList.drop d.pos)) ∧ d'.pos = d'.bytes.size := by
  have ht : Tracks ⟨d.bytes, st, d.bytes.size, s'⟩ (c.feed (d.bytes.data.toList.drop d.pos)) :=
    scanFrom_none h hs
  have hsc : (c.feed (d.bytes.data.toList.drop d.pos)).scan = s' := ht.scan.symm
  by_cases hz : s'.depth = 0
  · -- between objects the buffer is dropped, and nothing is in progress
    have hidle := ht.clean.idle (hsc ▸ hz)
    refine ⟨{}, ?_, ⟨ht.done, ht.clean, (ht.clean.sound.idle (hsc ▸ hz)).symm, le_refl 0,
      le_refl 0, fun hpos => absurd (hsc ▸ hz) hpos.ne'⟩, rfl⟩
    simp [decode, hs, hz, ObjectCut.oversized, hidle]
  · -- the object in progress is held from `st` to the end
    have hlen : (c.feed (d.bytes.data.toList.drop d.pos)).begun.length = d.bytes.size - st := by
      have hst : st ≤ d.bytes.size := ht.start_le
      rw [ht.begun (hsc ▸ Nat.pos_of_ne_zero hz)]
      simp
    refine ⟨{ d with start := st, pos := d.bytes.size, scan := s' }, ?_, ht, rfl⟩
    by_cases hov : maxObjectBytes < d.bytes.size - st
    · simp [decode, hs, hz, ObjectCut.oversized, hlen, hov]
    · simp [decode, hs, hz, ObjectCut.oversized, hlen, hov]

/-- One run of `decodeAll` hands on the objects the cut completes in the bytes not scanned yet,
and stops with an error exactly when the object it leaves in progress is over the limit. -/
theorem decodeAll_cut (h : d.Tracks c) :
    ∃ d', d.decodeAll =
        ((c.feed (d.bytes.data.toList.drop d.pos)).done.map List.toByteArray,
          (if (c.feed (d.bytes.data.toList.drop d.pos)).oversized then
            some (.tooLarge maxObjectBytes) else none), d') ∧
      d'.Tracks (c.feed (d.bytes.data.toList.drop d.pos)).carry ∧
      d'.pos = d'.bytes.size := by
  induction d using decodeAll.induct generalizing c with
  | case1 d o d₁ hdec rest err d₂ hrest ih =>
    rcases hs : scanFrom d.bytes d.start d.pos d.scan with ⟨_ | ⟨a, b⟩, st, s'⟩
    · obtain ⟨_, hd, -⟩ := decode_of_exhausted h hs
      rw [hd] at hdec
      split_ifs at hdec <;> simp at hdec
    · rw [decode_of_found hs] at hdec
      obtain ⟨rfl, rfl⟩ := by simpa [eq_comm] using hdec
      have hb := scanFrom_found _ _ _ _ hs
      -- the bytes up to the object's end complete it; the rest is cut from a clean start
      have hfeed := scanFrom_some h hs
      have hsplit : d.bytes.data.toList.drop d.pos =
          (d.bytes.data.toList.drop d.pos).take (b - d.pos) ++ d.bytes.data.toList.drop b := by
        conv_lhs => rw [← List.take_append_drop (b - d.pos) (d.bytes.data.toList.drop d.pos)]
        rw [List.drop_drop, show d.pos + (b - d.pos) = b by omega]
      have hclean := h.clean.feed ((d.bytes.data.toList.drop d.pos).take (b - d.pos))
      rw [hfeed] at hclean
      have ht : Tracks { d with start := b, pos := b, scan := s' } { scan := s' } :=
        ⟨rfl, ⟨hclean.sound, hclean.idle⟩, rfl, le_refl b, hb.2, fun _ => by simp⟩
      have hcut : c.feed (d.bytes.data.toList.drop d.pos) =
          { ({ scan := s' } : ObjectCut).feed (d.bytes.data.toList.drop b) with
            done := [(d.bytes.data.toList.drop a).take (b - a)] ++
              (({ scan := s' } : ObjectCut).feed (d.bytes.data.toList.drop b)).done } := by
        rw [hsplit, ObjectCut.feed_append_carry, hfeed]
        rfl
      obtain ⟨d₃, hda, ht₃, hend⟩ := ih ht
      refine ⟨d₃, ?_, ?_, hend⟩
      · rw [decodeAll_of_some (decode_of_found hs), hda, hcut]
        simp [ObjectCut.oversized]
      · rw [hcut]
        simpa [ObjectCut.carry] using ht₃
  | case2 d d₁ hdec =>
    rcases hs : scanFrom d.bytes d.start d.pos d.scan with ⟨_ | ⟨a, b⟩, st, s'⟩
    · obtain ⟨d₃, hd, ht, hend⟩ := decode_of_exhausted h hs
      rw [hd] at hdec
      split_ifs at hdec with hov
      · simp at hdec
      · obtain rfl : d₃ = d₁ := by simpa using hdec
        refine ⟨d₃, ?_, by rwa [ObjectCut.carry_of_done_nil ht.done], hend⟩
        rw [decodeAll_of_none (hd.trans (by rw [if_neg hov])), ht.done, if_neg hov]
        rfl
    · rw [decode_of_found hs] at hdec
      simp at hdec
  | case3 d e d₁ hdec =>
    rcases hs : scanFrom d.bytes d.start d.pos d.scan with ⟨_ | ⟨a, b⟩, st, s'⟩
    · obtain ⟨d₃, hd, ht, hend⟩ := decode_of_exhausted h hs
      rw [hd] at hdec
      split_ifs at hdec with hov
      · obtain ⟨rfl, rfl⟩ : SplitError.tooLarge maxObjectBytes = e ∧ d₃ = d₁ := by
          simpa using hdec
        refine ⟨d₃, ?_, by rwa [ObjectCut.carry_of_done_nil ht.done], hend⟩
        rw [decodeAll_of_error (hd.trans (by rw [if_pos hov])), ht.done, if_pos hov]
        rfl
      · simp at hdec
    · rw [decode_of_found hs] at hdec
      simp at hdec

/-- Taking a chunk keeps a splitter that has scanned all it holds on the cut, with the chunk as
the bytes it has not scanned. -/
theorem Tracks.push_chunk (h : d.Tracks c) (hend : d.pos = d.bytes.size) (chunk : ByteArray) :
    (d.push chunk).Tracks c ∧
      (d.push chunk).bytes.data.toList.drop (d.push chunk).pos = chunk.data.toList := by
  have hle : d.start ≤ d.pos := h.start_le
  have hkept : (d.bytes.extract d.start d.bytes.size).data.toList =
      d.bytes.data.toList.drop d.start := by
    rw [extract_eq, List.toList_data_toByteArray, List.take_of_length_le (by simp)]
  have hlen : (d.bytes.data.toList.drop d.start).length = d.pos - d.start := by simp [hend]
  refine ⟨⟨h.done, h.clean, h.scan, Nat.zero_le _, ?_, fun hpos => ?_⟩, ?_⟩
  · simp only [push, ByteArray.size_append, ByteArray.size_extract]
    omega
  · simp only [push, ByteArray.toList_data_append, hkept, List.drop_zero, Nat.sub_zero]
    rw [h.begun hpos, ← hlen, List.take_left, List.take_length]
  · simp only [push, ByteArray.toList_data_append, hkept]
    rw [← hlen, List.drop_left]

end Decoding

end Splitter

namespace ObjectCut

/-- The objects of the bytes of a body whose chunks end at the offsets `ends` and that fails
with `failure` after them, cut from `c`: the objects completed, then the failure. At the first
chunk end where the object in progress is over the limit, the objects completed by then and the
error instead. -/
def split (c : ObjectCut) (bytes : List UInt8) (ends : List Nat) (failure : Option String) :
    List (Except SplitError ByteArray) :=
  match ends.find? fun e => (c.feed (bytes.take e)).oversized with
  | some e =>
    (c.feed (bytes.take e)).done.map (fun o => .ok o.toByteArray) ++
      [.error (.tooLarge maxObjectBytes)]
  | none =>
    (c.feed bytes).done.map (fun o => .ok o.toByteArray) ++
      (failure.map fun m => .error (.body m)).toList

theorem split_chunk_oversized (c : ObjectCut) (xs ys : List UInt8) (ends : List Nat)
    (failure : Option String) (hov : (c.feed xs).oversized) :
    c.split (xs ++ ys) (xs.length :: ends) failure =
      (c.feed xs).done.map (fun o => .ok o.toByteArray) ++ [.error (.tooLarge maxObjectBytes)] := by
  simp [split, hov]

/-- Where it does not, the objects of the body are those the chunk completes, then those of the
rest of the body cut from where the chunk left off. -/
theorem split_chunk (c : ObjectCut) (xs ys : List UInt8) (ends : List Nat)
    (failure : Option String) (hov : (c.feed xs).oversized = false) :
    c.split (xs ++ ys) (xs.length :: ends.map (xs.length + ·)) failure =
      (c.feed xs).done.map (fun o => .ok o.toByteArray) ++
        (c.feed xs).carry.split ys ends failure := by
  have hpred : (fun e => (c.feed ((xs ++ ys).take e)).oversized) ∘ (xs.length + ·) =
      fun e => ((c.feed xs).carry.feed (ys.take e)).oversized := by
    funext e
    simp only [Function.comp, List.take_length_add_append, feed_append_carry]
    rfl
  simp only [split, List.find?_cons, List.take_left, hov, List.find?_map, hpred]
  cases ends.find? fun e => ((c.feed xs).carry.feed (ys.take e)).oversized with
  | none => simp [feed_append_carry]
  | some e => simp [List.take_length_add_append, feed_append_carry]

end ObjectCut

/-- A splitter on the cut `c` that has scanned all it holds, fed the rest of a body, gives the
objects of that rest cut from `c`. -/
theorem go_eq_split {d : Splitter} {c : ObjectCut} (h : d.Tracks c) (hend : d.pos = d.bytes.size)
    (body : List BodyItem) :
    objects.go d body = c.split (BodyItem.bytesBeforeFailure body).data.toList
      (BodyItem.chunkEnds body) (BodyItem.failure? body) := by
  induction body generalizing d c with
  | nil => simp [objects.go, ObjectCut.split, BodyItem.chunkEnds, BodyItem.failure?, h.done]
  | cons item rest ih =>
    cases item with
    | failure m =>
      simp [objects.go, ObjectCut.split, BodyItem.chunkEnds, BodyItem.failure?, h.done]
    | chunk ch =>
      obtain ⟨hpush, hbytes⟩ := h.push_chunk hend ch
      obtain ⟨d', hda, ht, hend'⟩ := Splitter.decodeAll_cut hpush
      rw [hbytes] at hda ht
      have hends : BodyItem.chunkEnds (.chunk ch :: rest) =
          ch.data.toList.length :: (BodyItem.chunkEnds rest).map (ch.data.toList.length + ·) := by
        simp [BodyItem.chunkEnds]
      rw [BodyItem.bytesBeforeFailure_chunk, hends,
        show BodyItem.failure? (.chunk ch :: rest) = BodyItem.failure? rest from rfl]
      by_cases hov : (c.feed ch.data.toList).oversized
      · -- the chunk leaves an object over the limit: the splitter stops here
        rw [ObjectCut.split_chunk_oversized _ _ _ _ _ hov]
        simp [objects.go, hda, hov]
      · rw [ObjectCut.split_chunk _ _ _ _ _ (by simpa using hov), ← ih ht hend']
        simp [objects.go, hda, hov]

theorem objects_eq_split (body : List BodyItem) :
    objects body = ({} : ObjectCut).split (BodyItem.bytesBeforeFailure body).data.toList
      (BodyItem.chunkEnds body) (BodyItem.failure? body) :=
  go_eq_split Splitter.tracks_empty rfl body

/-- Where no object in progress ever grows past the limit, the objects of a body are the objects
its bytes complete, then its failure: where the chunks end makes no difference. -/
theorem objects_of_small (body : List BodyItem)
    (hsmall : ∀ e, (({} : ObjectCut).feed
      ((BodyItem.bytesBeforeFailure body).data.toList.take e)).oversized = false) :
    objects body =
      (({} : ObjectCut).feed (BodyItem.bytesBeforeFailure body).data.toList).done.map
          (fun o => .ok o.toByteArray) ++
        ((BodyItem.failure? body).map fun m => .error (.body m)).toList := by
  show objects.go {} body = _
  rw [go_eq_split Splitter.tracks_empty rfl, ObjectCut.split,
    List.find?_eq_none.mpr fun e _ => by simp [hsmall e]]

/-- A client of the splitter that takes each chunk in turn and decodes until no object is left,
stopping at the first error: the objects, the error, and the splitter at the end. -/
def Splitter.pushAll (d : Splitter) : List ByteArray → List ByteArray × Option SplitError × Splitter
  | [] => ([], none, d)
  | chunk :: rest =>
    match (d.push chunk).decodeAll with
    | (found, some e, d') => (found, some e, d')
    | (found, none, d') =>
      let (more, err, d'') := d'.pushAll rest
      (found ++ more, err, d'')

/-- Where no object in progress grows past the limit, the client gets the objects the cut
completes and no error, and its splitter ends on the cut. -/
theorem Splitter.pushAll_of_small {d : Splitter} {c : ObjectCut} (h : d.Tracks c)
    (hend : d.pos = d.bytes.size) (chunks : List ByteArray)
    (hsmall : ∀ e, (c.feed (((chunks.map (·.data.toList)).flatten).take e)).oversized = false) :
    ∃ d', d.pushAll chunks =
        ((c.feed (chunks.map (·.data.toList)).flatten).done.map List.toByteArray, none, d') ∧
      d'.Tracks (c.feed (chunks.map (·.data.toList)).flatten).carry := by
  induction chunks generalizing d c with
  | nil => exact ⟨d, by simp [pushAll, h.done], by simpa [ObjectCut.carry_of_done_nil h.done]⟩
  | cons ch rest ih =>
    obtain ⟨hpush, hbytes⟩ := h.push_chunk hend ch
    obtain ⟨d₁, hda, ht, hend₁⟩ := decodeAll_cut hpush
    rw [hbytes] at hda ht
    have hfeed := ObjectCut.feed_append_carry c ch.data.toList
    have hov : (c.feed ch.data.toList).oversized = false := by
      simpa using hsmall ch.data.toList.length
    have hsmall' (e : Nat) : ((c.feed ch.data.toList).carry.feed
        (((rest.map (·.data.toList)).flatten).take e)).oversized = false := by
      have := hsmall (ch.data.toList.length + e)
      rwa [List.map_cons, List.flatten_cons, List.take_length_add_append, hfeed] at this
    obtain ⟨d₂, hrun, ht₂⟩ := ih ht hend₁ hsmall'
    refine ⟨d₂, ?_, ?_⟩
    · rw [List.map_cons, List.flatten_cons, hfeed]
      simp [pushAll, hda, hov, hrun]
    · rw [List.map_cons, List.flatten_cons, hfeed]
      simpa [ObjectCut.carry] using ht₂

/-- An object that arrives whole in one chunk is handed on, whatever its length. -/
theorem objects_whole {o : List UInt8} (h : ({} : ObjectCut).feed o = { done := [o] }) :
    objects [.chunk o.toByteArray] = [.ok o.toByteArray] := by
  show objects.go {} _ = _
  rw [go_eq_split Splitter.tracks_empty rfl]
  simp [ObjectCut.split, BodyItem.chunkEnds, BodyItem.failure?, h, ObjectCut.oversized]

theorem objects_cut_oversized {o : List UInt8} {k : Nat}
    (hov : (({} : ObjectCut).feed (o.take k)).oversized)
    (hdone : (({} : ObjectCut).feed (o.take k)).done = []) :
    objects [.chunk (o.take k).toByteArray, .chunk (o.drop k).toByteArray] =
      [.error (.tooLarge maxObjectBytes)] := by
  show objects.go {} _ = _
  rw [go_eq_split Splitter.tracks_empty rfl]
  have hbytes : (BodyItem.bytesBeforeFailure
      [.chunk (o.take k).toByteArray, .chunk (o.drop k).toByteArray]).data.toList =
      o.take k ++ o.drop k := by
    simp
  have hends : BodyItem.chunkEnds [.chunk (o.take k).toByteArray, .chunk (o.drop k).toByteArray] =
      (o.take k).length :: [(o.drop k).length].map ((o.take k).length + ·) := by
    simp [BodyItem.chunkEnds]
  rw [hbytes, hends, ObjectCut.split_chunk_oversized _ _ _ _ _ hov, hdone]
  rfl

/-- An object of one string field holding `n` plain bytes: `{"a":"xx…x"}`. -/
def stringObject (n : Nat) : List UInt8 :=
  [0x7B, 0x22, 0x61, 0x22, 0x3A, 0x22] ++ List.replicate n 0x78 ++ [0x22, 0x7D]

theorem length_stringObject (n : Nat) : (stringObject n).length = n + 8 := by
  simp [stringObject]

theorem feed_stringObject_take (n : Nat) :
    ({} : ObjectCut).feed ((stringObject n).take (n + 6)) =
      { begun := [0x7B, 0x22, 0x61, 0x22, 0x3A, 0x22] ++ List.replicate n 0x78,
        scan := { depth := 1, inString := true } } := by
  have hhead : ({} : ObjectCut).feed [0x7B, 0x22, 0x61, 0x22, 0x3A, 0x22] =
      { begun := [0x7B, 0x22, 0x61, 0x22, 0x3A, 0x22], scan := { depth := 1, inString := true } } :=
    rfl
  have htaken : (stringObject n).take (n + 6) =
      [0x7B, 0x22, 0x61, 0x22, 0x3A, 0x22] ++ List.replicate n 0x78 :=
    List.take_left' (by simp)
  rw [htaken, ObjectCut.feed_append, hhead,
    ObjectCut.feed_of_plain _ _ (by decide) rfl rfl (by simp)]

theorem oversized_stringObject_take (n : Nat) :
    (({} : ObjectCut).feed ((stringObject n).take (n + 6))).oversized =
      decide (maxObjectBytes < n + 6) := by
  rw [feed_stringObject_take]
  simp only [ObjectCut.oversized, List.length_append, List.length_replicate, List.length_cons,
    List.length_nil, decide_eq_decide]
  omega

theorem feed_stringObject (n : Nat) :
    ({} : ObjectCut).feed (stringObject n) = { done := [stringObject n] } := by
  have hrest : (stringObject n).drop (n + 6) = [0x22, 0x7D] := List.drop_left' (by simp)
  rw [← List.take_append_drop (n + 6) (stringObject n), ObjectCut.feed_append,
    feed_stringObject_take, hrest]
  simp [ObjectCut.push, Scan.step, stringObject]

/-- An object longer than the limit that arrives in one chunk is handed on whole, while the same
bytes cut just past the limit stop with the error. -/
theorem objects_long_object_depends_on_chunks :
    maxObjectBytes < (stringObject maxObjectBytes).length ∧
      objects [.chunk (stringObject maxObjectBytes).toByteArray] =
        [.ok (stringObject maxObjectBytes).toByteArray] ∧
      objects [.chunk ((stringObject maxObjectBytes).take (maxObjectBytes + 6)).toByteArray,
        .chunk ((stringObject maxObjectBytes).drop (maxObjectBytes + 6)).toByteArray] =
        [.error (.tooLarge maxObjectBytes)] := by
  refine ⟨by rw [length_stringObject]; omega, ?_, ?_⟩
  · exact objects_whole (feed_stringObject maxObjectBytes)
  · exact objects_cut_oversized
      (by rw [oversized_stringObject_take]; exact decide_eq_true (by omega))
      (by rw [feed_stringObject_take])

end ChatStream.Json
