import ChatStream.Proofs.ObjectSplitting

/-! # The splitter between calls

A splitter holds the bytes from `start` on (`held`) and has scanned `pos - start` of them
(`scanned`). Whatever chunks it takes and however often it is asked to decode, it stays
`WellFormed` between calls: the scan never runs past the held bytes; with no object in progress
it stands at their start, outside any string; with one in progress the held bytes open with its
`{` and are at least as many as the scan is deep; and only a string has an escaped byte.

From there every object `decode` hands on is cut from the held bytes: the bytes skipped before
it (none when an object was already in progress), the object, then the bytes kept, with nothing
lost or read twice; and the object opens with `{` and closes with `}` or `]`
(`splitter_between_calls`).

The splitter stands on a cut (`Splitter.cut`, see `Tracks`), so the shape of its objects is the
shape of the objects a cut completes (`ObjectCut.Shaped`).
-/

namespace ChatStream.Json

/-! ### One byte -/

theorem Scan.depth_step_le (s : Scan) (b : UInt8) : (s.step b).1.depth ≤ s.depth + 1 := by
  unfold Scan.step
  split_ifs <;> dsimp only <;> omega

theorem Scan.closes_of_step {s : Scan} {b : UInt8} (hd : 0 < s.depth)
    (hz : (s.step b).1.depth = 0) : b = 0x7D ∨ b = 0x5D := by
  unfold Scan.step at hz
  split_ifs at hz <;> simp_all

theorem Scan.step_of_opens {s : Scan} {b : UInt8} (h : (s.step b).2 = true) :
    b = 0x7B ∧ (s.step b).1 = { depth := 1 } := by
  by_cases hd : s.depth = 0
  · rw [Scan.step_of_idle hd] at h ⊢
    by_cases hb : b = 0x7B
    · simp [hb]
    · simp [hb] at h
  · simp [Scan.opens_of_busy (Nat.pos_of_ne_zero hd)] at h

/-! ### Objects a cut completes -/

namespace ObjectCut

/-- Bytes that open with `{` and close with `}` or `]`. -/
def Braced (o : List UInt8) : Prop :=
  o.head? = some 0x7B ∧ (o.getLast? = some 0x7D ∨ o.getLast? = some 0x5D)

/-- The object in progress opened with `{` and holds at least as many bytes as the scan is deep,
and every completed object is braced. -/
structure Shaped (c : ObjectCut) : Prop where
  clean : c.Clean
  begun : 0 < c.scan.depth → c.begun.head? = some 0x7B ∧ c.scan.depth ≤ c.begun.length
  done : ∀ o ∈ c.done, Braced o

theorem Shaped.push {c : ObjectCut} (h : c.Shaped) (b : UInt8) : (c.push b).Shaped := by
  have hclean := h.clean.push b
  rcases hstep : c.scan.step b with ⟨s, opens⟩
  cases opens with
  | true =>
    have ho := Scan.step_of_opens (by rw [hstep] : (c.scan.step b).2 = true)
    have hs : s = { depth := 1 } := by rw [← ho.2, hstep]
    rw [push_of_opens hstep] at hclean ⊢
    refine ⟨hclean, fun _ => ?_, h.done⟩
    simp [ho.1, hs]
  | false =>
    by_cases hd : c.scan.depth = 0
    · -- between objects any other byte is skipped
      have hs : s = c.scan := by
        have hidle := Scan.step_of_idle hd b
        rw [hstep] at hidle
        split_ifs at hidle <;> simp_all
      subst hs
      rw [push_of_idle hstep hd] at hclean ⊢
      exact ⟨hclean, fun hpos => absurd hd hpos.ne', h.done⟩
    · have hbusy := Nat.pos_of_ne_zero hd
      obtain ⟨hhead, hlen⟩ := h.begun hbusy
      have hne : c.begun ≠ [] := by
        intro he
        simp [he] at hhead
      by_cases hz : s.depth = 0
      · -- the byte that closes the object completes it
        have hz' : (c.scan.step b).1.depth = 0 := by rw [hstep]; exact hz
        rw [push_of_close hbusy hz'] at hclean ⊢
        refine ⟨hclean, fun hpos => absurd hz' hpos.ne', fun o ho => ?_⟩
        rcases List.mem_append.1 ho with ho | ho
        · exact h.done o ho
        · rw [List.mem_singleton.1 ho]
          refine ⟨by simp [hhead], ?_⟩
          simpa [List.getLast?_concat] using Scan.closes_of_step hbusy hz'
      · have hpos : 0 < (c.scan.step b).1.depth := by rw [hstep]; exact Nat.pos_of_ne_zero hz
        have hle := Scan.depth_step_le c.scan b
        rw [push_of_inside hbusy hpos] at hclean ⊢
        refine ⟨hclean, fun _ => ⟨by simp [hhead], ?_⟩, h.done⟩
        simp only [List.length_append, List.length_singleton]
        omega

theorem Shaped.feed {c : ObjectCut} (h : c.Shaped) (bs : List UInt8) : (c.feed bs).Shaped := by
  induction bs generalizing c with
  | nil => exact h
  | cons b bs ih => exact ih (h.push b)

end ObjectCut

/-! ### The splitter's state -/

namespace Splitter

variable {d : Splitter}

/-- The bytes the splitter holds: those from `start` on. -/
def held (d : Splitter) : List UInt8 := d.bytes.data.toList.drop d.start

/-- How many of the held bytes the scan has read. -/
def scanned (d : Splitter) : Nat := d.pos - d.start

/-- A splitter between calls. The scan lies within the held bytes; with no object in progress it
stands at their start and the scan is the empty one; with an object in progress the held bytes
open with its `{` and the scan has read at least as many of them as it is deep. Only a string has
an escaped byte. -/
structure WellFormed (d : Splitter) : Prop where
  start_le : d.start ≤ d.pos
  pos_le : d.pos ≤ d.bytes.size
  sound : d.scan.Sound
  idle : d.scan.depth = 0 → d.pos = d.start
  busy : 0 < d.scan.depth → d.held.head? = some 0x7B ∧ d.scan.depth ≤ d.scanned

theorem wellFormed_empty : ({} : Splitter).WellFormed :=
  ⟨le_refl 0, le_refl 0, Scan.sound_empty, fun _ => rfl, fun h => absurd h (lt_irrefl 0)⟩

theorem WellFormed.scanned_le (h : d.WellFormed) : d.scanned ≤ d.held.length := by
  have := h.pos_le
  simp only [scanned, held, List.length_drop, Bytes.length_toList]
  omega

/-- The cut a splitter stands on: its scan, and the scanned bytes of the object in progress. -/
def cut (d : Splitter) : ObjectCut :=
  { begun := if 0 < d.scan.depth then d.held.take d.scanned else [], scan := d.scan }

theorem WellFormed.tracks (h : d.WellFormed) : d.Tracks d.cut := by
  refine ⟨rfl, ⟨h.sound, fun hz => ?_⟩, rfl, h.start_le, h.pos_le, fun hpos => ?_⟩
  · simp only [cut] at hz ⊢
    simp [hz]
  · simp only [cut] at hpos ⊢
    simp [hpos, held, scanned]

theorem WellFormed.shaped (h : d.WellFormed) : d.cut.Shaped := by
  refine ⟨h.tracks.clean, fun hpos => ?_, by simp [cut]⟩
  simp only [cut] at hpos ⊢
  obtain ⟨hhead, hdepth⟩ := h.busy hpos
  have hlen := h.scanned_le
  refine ⟨?_, ?_⟩
  · simp [hpos, List.head?_take, hhead]
    omega
  · simp only [hpos, if_true, List.length_take]
    omega

/-! ### Taking a chunk -/

theorem held_push (chunk : ByteArray) :
    (d.push chunk).held = d.held ++ chunk.data.toList := by
  have hkept : (d.bytes.extract d.start d.bytes.size).data.toList = d.bytes.data.toList.drop d.start := by
    rw [Bytes.extract_eq, List.toList_data_toByteArray, List.take_of_length_le (by simp)]
  simp only [held, push, ByteArray.toList_data_append, hkept, List.drop_zero]

theorem scanned_push (chunk : ByteArray) : (d.push chunk).scanned = d.scanned := by
  simp [scanned, push]

theorem WellFormed.push (h : d.WellFormed) (chunk : ByteArray) : (d.push chunk).WellFormed := by
  have hs := h.start_le
  have hp := h.pos_le
  refine ⟨Nat.zero_le _, ?_, h.sound, fun hz => ?_, fun hpos => ?_⟩
  · simp only [Splitter.push, ByteArray.size_append, ByteArray.size_extract]
    omega
  · show d.pos - d.start = 0
    have := h.idle hz
    omega
  · obtain ⟨hhead, hdepth⟩ := h.busy hpos
    rw [held_push chunk, scanned_push]
    exact ⟨by simp [hhead], hdepth⟩

/-! ### Decoding -/

/-- An object found inside an open one is that one; found between objects, it opens at a `{`
at or after the scan. -/
theorem scanFrom_found_start {bs : ByteArray} {start i a b st : Nat} {s s' : Scan}
    (h : scanFrom bs start i s = (some (a, b), st, s')) :
    (0 < s.depth → a = start) ∧ (s.depth = 0 → i ≤ a) := by
  induction start, i, s using scanFrom.induct bs with
  | case1 start i s hi s₁ opens hstep hclose =>
    have hopen : opens = false := by simpa [hstep] using Scan.opens_of_busy hclose.1 bs[i]
    subst hopen
    rw [scanFrom, dif_pos hi] at h
    simp only [hstep, if_pos hclose, Bool.false_eq_true, if_false, Prod.mk.injEq,
      Option.some.injEq] at h
    exact ⟨fun _ => h.1.1.symm, fun h0 => absurd h0 hclose.1.ne'⟩
  | case2 start i s hi s₁ opens hstep start₁ hclose ih =>
    rw [scanFrom, dif_pos hi] at h
    simp only [hstep, if_neg hclose] at h
    obtain ⟨ih₁, ih₂⟩ := ih (by simpa [start₁] using h)
    by_cases hd : s.depth = 0
    · refine ⟨fun hpos => absurd hd hpos.ne', fun _ => ?_⟩
      have hidle := Scan.step_of_idle hd bs[i]
      rw [hstep] at hidle
      by_cases hb : bs[i] = 0x7B
      · -- the object opens at this byte
        simp only [hb, if_true, Prod.mk.injEq] at hidle
        obtain ⟨rfl, rfl⟩ := hidle
        have ha := ih₁ (by decide)
        simp [start₁] at ha
        omega
      · simp only [hb, if_false, Prod.mk.injEq] at hidle
        obtain ⟨rfl, rfl⟩ := hidle
        have := ih₂ hd
        omega
    · -- inside an object nothing opens, and the object stays open past this byte
      have hbusy := Nat.pos_of_ne_zero hd
      have hopen : opens = false := by simpa [hstep] using Scan.opens_of_busy hbusy bs[i]
      have hs₁ : 0 < s₁.depth := Nat.pos_of_ne_zero fun h0 => hclose ⟨hbusy, h0⟩
      refine ⟨fun _ => ?_, fun h0 => absurd h0 hd⟩
      simpa [start₁, hopen] using ih₁ hs₁
  | case3 start i s hi =>
    rw [scanFrom, dif_neg hi] at h
    cases h

/-- A scan that runs out of bytes empties a splitter with nothing in progress, and leaves one
with an object in progress at the end of its bytes, holding the object from its start. -/
theorem decode_snd_of_exhausted {st : Nat} {s' : Scan}
    (hs : scanFrom d.bytes d.start d.pos d.scan = (none, st, s')) :
    d.decode.2 = if s'.depth = 0 then {} else { d with start := st, pos := d.bytes.size, scan := s' } := by
  simp only [decode, hs]
  split_ifs <;> rfl

theorem decode_fst_of_exhausted {st : Nat} {s' : Scan}
    (hs : scanFrom d.bytes d.start d.pos d.scan = (none, st, s')) (o : ByteArray) :
    d.decode.1 ≠ .ok (some o) := by
  simp only [decode, hs]
  split_ifs <;> simp

/-- A scan from a well-formed splitter that finds an object ends between objects, and the object
is braced. -/
theorem WellFormed.found {a b st : Nat} {s' : Scan} (h : d.WellFormed)
    (hs : scanFrom d.bytes d.start d.pos d.scan = (some (a, b), st, s')) :
    s' = {} ∧ ObjectCut.Braced ((d.bytes.data.toList.drop a).take (b - a)) := by
  -- the scan is the cut of the bytes up to the object's end, which completes the object alone
  have hsh := h.shaped.feed ((d.bytes.data.toList.drop d.pos).take (b - d.pos))
  rw [scanFrom_some h.tracks hs] at hsh
  have hz : s'.depth = 0 := by
    by_contra hne
    simpa using (hsh.begun (Nat.pos_of_ne_zero hne)).1
  exact ⟨hsh.clean.sound.idle hz, hsh.done _ List.mem_cons_self⟩

theorem WellFormed.decode (h : d.WellFormed) : d.decode.2.WellFormed := by
  rcases hs : scanFrom d.bytes d.start d.pos d.scan with ⟨_ | ⟨a, b⟩, st, s'⟩
  · rw [decode_snd_of_exhausted hs]
    split_ifs with hz
    · exact wellFormed_empty
    · -- the object in progress is held from `st` to the end, all of it scanned
      have ht := scanFrom_none h.tracks hs
      have hsh := h.shaped.feed (d.bytes.data.toList.drop d.pos)
      have hsc : s' = (d.cut.feed (d.bytes.data.toList.drop d.pos)).scan := ht.scan
      have hst : st ≤ d.bytes.size := ht.start_le
      have hpos : 0 < (d.cut.feed (d.bytes.data.toList.drop d.pos)).scan.depth := by
        rw [← hsc]
        exact Nat.pos_of_ne_zero hz
      obtain ⟨hhead, hdepth⟩ := hsh.begun hpos
      have hbegun : (d.cut.feed (d.bytes.data.toList.drop d.pos)).begun =
          d.bytes.data.toList.drop st := by
        rw [ht.begun hpos]
        exact List.take_of_length_le (by simp)
      rw [hbegun, ← hsc] at hdepth
      rw [hbegun] at hhead
      refine ⟨hst, le_refl _, by rw [hsc]; exact hsh.clean.sound, fun h0 => absurd h0 hz,
        fun _ => ⟨hhead, ?_⟩⟩
      simpa [scanned] using hdepth
  · -- an object is handed on: the splitter stands just past it, between objects
    rw [decode_of_found hs]
    obtain ⟨rfl, -⟩ := h.found hs
    exact ⟨le_refl b, (scanFrom_found _ _ _ _ hs).2, Scan.sound_empty, fun _ => rfl,
      fun hpos => absurd hpos (lt_irrefl 0)⟩

/-- An object `decode` hands on is cut from the held bytes: after the bytes it skips (none when an
object was in progress) and before those it keeps. It opens with `{` and closes with `}` or `]`. -/
theorem WellFormed.decode_object (h : d.WellFormed) {o : ByteArray} {d' : Splitter}
    (hd : d.decode = (.ok (some o), d')) :
    (∃ stray, d.held = stray ++ o.data.toList ++ d'.held ∧ (0 < d.scan.depth → stray = [])) ∧
      ObjectCut.Braced o.data.toList := by
  rcases hs : scanFrom d.bytes d.start d.pos d.scan with ⟨_ | ⟨a, b⟩, st, s'⟩
  · exact absurd (congrArg Prod.fst hd) (decode_fst_of_exhausted hs o)
  · rw [decode_of_found hs] at hd
    obtain ⟨rfl, rfl⟩ : ((d.bytes.data.toList.drop a).take (b - a)).toByteArray = o ∧
        { d with start := b, pos := b, scan := s' } = d' := by
      simpa using hd
    have hbraced := (h.found hs).2
    rw [List.toList_data_toByteArray]
    refine ⟨?_, hbraced⟩
    -- the object starts where the one in progress did, or at or after the scan
    obtain ⟨ha₁, ha₂⟩ := scanFrom_found_start hs
    have hsa : d.start ≤ a := by
      by_cases hd0 : d.scan.depth = 0
      · have := h.idle hd0
        have := ha₂ hd0
        omega
      · exact (ha₁ (Nat.pos_of_ne_zero hd0)).ge
    have hab : a ≤ b := by
      by_contra hba
      have hne := hbraced.1
      rw [Nat.sub_eq_zero_of_le (by omega), List.take_zero] at hne
      simp at hne
    refine ⟨(d.bytes.data.toList.drop d.start).take (a - d.start), ?_, fun hpos => ?_⟩
    · have hrest := List.drop_take_append_drop d.bytes.data.toList a (b - a)
      have hskip := List.drop_take_append_drop d.bytes.data.toList d.start (a - d.start)
      rw [Nat.add_sub_cancel' hab] at hrest
      rw [Nat.add_sub_cancel' hsa] at hskip
      simp only [held]
      rw [List.append_assoc, hrest, hskip]
    · rw [ha₁ hpos, Nat.sub_self, List.take_zero]

/-- Splitters that calls reach from a new one: taking a chunk, and decoding. Asking whether an
object is in progress changes nothing. -/
inductive Reachable : Splitter → Prop
  | empty : Reachable {}
  | push {d : Splitter} (chunk : ByteArray) : Reachable d → Reachable (d.push chunk)
  | decode {d : Splitter} : Reachable d → Reachable d.decode.2

theorem Reachable.wellFormed (h : Reachable d) : d.WellFormed := by
  induction h with
  | empty => exact wellFormed_empty
  | push chunk _ ih => exact ih.push chunk
  | decode _ ih => exact ih.decode

/-- After any calls, the scan lies within the held bytes and is no deeper than what it read of
them. With no object in progress the scan stands at the start of the held bytes, outside any
string; with one in progress the held bytes open with `{` and some of them have been read. Only a
string has an escaped byte. Every object `decode` hands on is the held bytes after those it
skips (none when an object was in progress) and before those it keeps, and opens with `{` and
closes with `}` or `]`. -/
theorem splitter_between_calls (h : Reachable d) :
    d.scanned ≤ d.held.length ∧ d.scan.depth ≤ d.scanned ∧
    (d.scan.depth = 0 → d.scanned = 0 ∧ d.scan.inString = false ∧ d.scan.escaped = false) ∧
    (0 < d.scan.depth → d.held.head? = some 0x7B ∧ 0 < d.scanned) ∧
    (d.scan.escaped = true → d.scan.inString = true) ∧
    ∀ o d', d.decode = (.ok (some o), d') →
      (∃ stray, d.held = stray ++ o.data.toList ++ d'.held ∧ (0 < d.scan.depth → stray = [])) ∧
        ObjectCut.Braced o.data.toList := by
  have hw := h.wellFormed
  have hidle (hz : d.scan.depth = 0) : d.scanned = 0 ∧ d.scan.inString = false ∧
      d.scan.escaped = false := by
    have hpos := hw.idle hz
    rw [hw.sound.idle hz]
    exact ⟨by simp [scanned, hpos], rfl, rfl⟩
  have hdepth : d.scan.depth ≤ d.scanned := by
    by_cases hz : d.scan.depth = 0
    · omega
    · exact (hw.busy (Nat.pos_of_ne_zero hz)).2
  refine ⟨hw.scanned_le, hdepth, hidle, fun hpos => ⟨(hw.busy hpos).1, by omega⟩, hw.sound.escape,
    fun o d' hd => hw.decode_object hd⟩

/-- A splitter that took the opening of an array with one object, handed the object on, and took
the start of a second object. -/
theorem splitter_after_one_object :
    let d := ((({} : Splitter).push [0x5B, 0x7B, 0x7D, 0x2C].toByteArray).decode.2).push
      [0x7B, 0x22].toByteArray
    Reachable d ∧ (d.scanned ≤ d.held.length ∧ d.scan.depth ≤ d.scanned ∧
    (d.scan.depth = 0 → d.scanned = 0 ∧ d.scan.inString = false ∧ d.scan.escaped = false) ∧
    (0 < d.scan.depth → d.held.head? = some 0x7B ∧ 0 < d.scanned) ∧
    (d.scan.escaped = true → d.scan.inString = true) ∧
    ∀ o d', d.decode = (.ok (some o), d') →
      (∃ stray, d.held = stray ++ o.data.toList ++ d'.held ∧ (0 < d.scan.depth → stray = [])) ∧
        ObjectCut.Braced o.data.toList) :=
  have h := Reachable.push [0x7B, 0x22].toByteArray
    (Reachable.decode (Reachable.push [0x5B, 0x7B, 0x7D, 0x2C].toByteArray .empty))
  ⟨h, splitter_between_calls h⟩

end Splitter

end ChatStream.Json
