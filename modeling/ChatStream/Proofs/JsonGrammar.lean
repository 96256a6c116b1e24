import Mathlib
import ChatStream.Json.Parse
import ChatStream.Proofs.ObjectSplitting

/-! # Well-formed JSON objects come through the splitter whole

`Grammar` is the grammar of JSON text over bytes, in the usual railroad form: literals, numbers,
strings with their escapes and UTF-8 characters, and arrays and objects with whitespace around
every item. The splitter knows none of it; it counts brackets outside strings. Over the
grammar the two agree: a value fed to the cut at any depth comes back to that depth and extends
the object in progress (`Value.extends`), so an object fed between objects is completed exactly at
its last byte (`Object.feed_idle`).

`objects_of_wellFormed` puts this together: objects of at most `maxObjectBytes` bytes between
separators with no `{`, cut into chunks anyhow, are split into exactly those objects with no
error, and a client that pushes each chunk and decodes until nothing is left ends with no
object in progress.
-/

namespace ChatStream.Json

namespace Grammar

/-- JSON whitespace: space, tab, line feed and carriage return. -/
def Ws (bs : List UInt8) : Prop := ∀ b ∈ bs, JsonText.isSpace b

def Digits (bs : List UInt8) : Prop := bs ≠ [] ∧ ∀ b ∈ bs, JsonText.isDigit b

/-- A hexadecimal digit, either case. -/
def isHexDigit (b : UInt8) : Bool := JsonText.isDigit b || (0x41 ≤ b && b ≤ 0x46) || (0x61 ≤ b && b ≤ 0x66)

/-- A number: an optional minus, an integer part with no leading zero, then an optional fraction
and an optional exponent. -/
inductive Number : List UInt8 → Prop
  | mk {sign int frac exp : List UInt8} :
      sign = [] ∨ sign = [0x2D] →
      int = [0x30] ∨ (∃ d ds, int = d :: ds ∧ 0x31 ≤ d ∧ d ≤ 0x39 ∧ ∀ b ∈ ds, JsonText.isDigit b) →
      frac = [] ∨ (∃ ds, frac = 0x2E :: ds ∧ Digits ds) →
      exp = [] ∨ (∃ e s ds, (e = 0x65 ∨ e = 0x45) ∧ (s = [] ∨ s = [0x2B] ∨ s = [0x2D]) ∧
        Digits ds ∧ exp = e :: s ++ ds) →
      Number (sign ++ int ++ frac ++ exp)

inductive StringPiece : List UInt8 → Prop
  /-- A character other than a quote, a backslash or a control character, in UTF-8. -/
  | char (c : Char) : 0x20 ≤ c.val → c ≠ '"' → c ≠ '\\' → StringPiece (String.utf8EncodeChar c)
  /-- One of the short escapes `\"`, `\\`, `\/`, `\b`, `\f`, `\n`, `\r`, `\t`. -/
  | escape (e : UInt8) : e ∈ [0x22, 0x5C, 0x2F, 0x62, 0x66, 0x6E, 0x72, 0x74] →
      StringPiece [0x5C, e]
  /-- A `\u` escape with four hexadecimal digits. -/
  | unicode (h : List UInt8) : h.length = 4 → (∀ d ∈ h, isHexDigit d) →
      StringPiece (0x5C :: 0x75 :: h)

/-- A string: its pieces between quotes. -/
inductive Str : List UInt8 → Prop
  | mk (ps : List (List UInt8)) : (∀ p ∈ ps, StringPiece p) → Str (0x22 :: ps.flatten ++ [0x22])

/-- The literals `true`, `false` and `null`. -/
def literals : List (List UInt8) :=
  [[0x74, 0x72, 0x75, 0x65], [0x66, 0x61, 0x6C, 0x73, 0x65], [0x6E, 0x75, 0x6C, 0x6C]]

mutual
/-- A value, with no whitespace around it. -/
inductive Value : List UInt8 → Prop
  | literal {bs} : bs ∈ literals → Value bs
  | number {bs} : Number bs → Value bs
  | string {bs} : Str bs → Value bs
  | array {bs} : Array bs → Value bs
  | object {bs} : Object bs → Value bs

/-- An array: brackets around whitespace, or around elements. -/
inductive Array : List UInt8 → Prop
  | empty {w} : Ws w → Array (0x5B :: w ++ [0x5D])
  | elements {es} : Elements es → Array (0x5B :: es ++ [0x5D])

/-- An object: braces around whitespace, or around members. -/
inductive Object : List UInt8 → Prop
  | empty {w} : Ws w → Object (0x7B :: w ++ [0x7D])
  | members {ms} : Members ms → Object (0x7B :: ms ++ [0x7D])

/-- A value with whitespace around it. -/
inductive Element : List UInt8 → Prop
  | mk {w₁ v w₂} : Ws w₁ → Value v → Ws w₂ → Element (w₁ ++ v ++ w₂)

inductive Elements : List UInt8 → Prop
  | one {e} : Element e → Elements e
  | cons {e es} : Element e → Elements es → Elements (e ++ 0x2C :: es)

/-- A string key with whitespace around it, a colon, and an element. -/
inductive Member : List UInt8 → Prop
  | mk {w₁ k w₂ e} : Ws w₁ → Str k → Ws w₂ → Element e → Member (w₁ ++ k ++ w₂ ++ 0x3A :: e)

inductive Members : List UInt8 → Prop
  | one {m} : Member m → Members m
  | cons {m ms} : Member m → Members ms → Members (m ++ 0x2C :: ms)
end

end Grammar

/-! ## The scan over the grammar -/

/-- A byte that moves no scan outside a string: anything but a quote, a brace or a bracket. -/
def isBare (b : UInt8) : Bool := !(b == 0x22 || b == 0x7B || b == 0x7D || b == 0x5B || b == 0x5D)

theorem isBare_iff (b : UInt8) : isBare b = true ↔
    b.toNat ≠ 34 ∧ b.toNat ≠ 123 ∧ b.toNat ≠ 125 ∧ b.toNat ≠ 91 ∧ b.toNat ≠ 93 := by
  simp [isBare, ← UInt8.toNat_inj, and_assoc]

theorem isBare_of_isDigit {b : UInt8} (h : JsonText.isDigit b = true) : isBare b = true := by
  simp [JsonText.isDigit, UInt8.le_iff_toNat_le] at h
  rw [isBare_iff]
  omega

theorem isBare_of_isSpace {b : UInt8} (h : JsonText.isSpace b = true) : isBare b = true := by
  simp [JsonText.isSpace] at h
  rcases h with ((rfl | rfl) | rfl) | rfl <;> rfl

theorem Scan.step_of_bare {d : Nat} {b : UInt8} (hb : isBare b = true) :
    ({ depth := d + 1 } : Scan).step b = ({ depth := d + 1 }, false) := by
  simp only [isBare, Bool.not_eq_true', Bool.or_eq_false_iff, beq_eq_false_iff_ne] at hb
  simp [Scan.step, hb]

theorem Grammar.Number.bare {bs : List UInt8} (h : Grammar.Number bs) :
    ∀ b ∈ bs, isBare b = true := by
  obtain ⟨hs, hi, hf, he⟩ := h
  intro b hb
  simp only [List.mem_append] at hb
  rcases hb with ((hb | hb) | hb) | hb
  · -- the sign
    rcases hs with rfl | rfl
    · cases hb
    · rw [List.mem_singleton.mp hb]
      rfl
  · -- the integer part
    rcases hi with rfl | ⟨d, ds, rfl, hd₁, hd₂, hds⟩
    · rw [List.mem_singleton.mp hb]
      rfl
    · rcases List.mem_cons.mp hb with rfl | hb
      · simp only [UInt8.le_iff_toNat_le] at hd₁ hd₂
        rw [isBare_iff]
        simp at hd₁ hd₂
        omega
      · exact isBare_of_isDigit (hds b hb)
  · -- the fraction
    rcases hf with rfl | ⟨ds, rfl, -, hds⟩
    · cases hb
    · rcases List.mem_cons.mp hb with rfl | hb
      · rfl
      · exact isBare_of_isDigit (hds b hb)
  · -- the exponent
    rcases he with rfl | ⟨e, s, ds, he, hs, ⟨-, hds⟩, rfl⟩
    · cases hb
    · rcases List.mem_cons.mp hb with rfl | hb
      · rcases he with rfl | rfl <;> rfl
      · rcases List.mem_append.mp hb with hb | hb
        · rcases hs with rfl | rfl | rfl
          · cases hb
          all_goals
            rw [List.mem_singleton.mp hb]
            rfl
        · exact isBare_of_isDigit (hds b hb)

/-- A character other than a quote and a backslash has neither byte in its UTF-8 form: the
bytes of a longer form all have the high bit set. -/
theorem utf8EncodeChar_plain {c : Char} (hq : c ≠ '"') (hb : c ≠ '\\') :
    ∀ b ∈ String.utf8EncodeChar c, b ≠ 0x5C ∧ b ≠ 0x22 := by
  have high (y m : UInt8) (hm : 0x80 ≤ m.toNat) : (y ||| m) ≠ 0x5C ∧ (y ||| m) ≠ 0x22 := by
    have : m.toNat ≤ (y ||| m).toNat := by
      rw [UInt8.toNat_or]
      exact Nat.right_le_or
    constructor <;> intro h <;> rw [h] at this <;> simp at this <;> omega
  rw [String.utf8EncodeChar_eq_utf8EncodeCharFast]
  simp only [String.utf8EncodeCharFast]
  split_ifs with h₁
  · -- an ASCII character is its own byte
    have h₁' : c.val.toNat ≤ 127 := UInt32.le_iff_toNat_le.mp h₁
    have hbyte (d : Char) (h : c.val.toUInt8.toNat = d.val.toNat) : c = d :=
      Char.ext (UInt32.toNat_inj.mp (by rw [← h, UInt32.toNat_toUInt8]; omega))
    simp only [List.mem_singleton, forall_eq]
    exact ⟨fun h => hb (hbyte _ (by rw [h]; rfl)), fun h => hq (hbyte _ (by rw [h]; rfl))⟩
  all_goals simp only [List.mem_cons, List.not_mem_nil, or_false]
  all_goals rintro b (rfl | rfl | rfl | rfl) <;> exact high _ _ (by decide)

/-- Fed at depth `d + 1` outside a string, the bytes come back there and only extend the object
in progress. -/
def Extends (d : Nat) (bs : List UInt8) : Prop :=
  ∀ c : ObjectCut, c.scan = { depth := d + 1 } → c.feed bs = { c with begun := c.begun ++ bs }

theorem Extends.append {d : Nat} {xs ys : List UInt8} (hx : Extends d xs) (hy : Extends d ys) :
    Extends d (xs ++ ys) := by
  intro c hc
  rw [ObjectCut.feed_append, hx c hc, hy { c with begun := c.begun ++ xs } hc]
  simp

theorem extends_bare {d : Nat} {bs : List UInt8} (h : ∀ b ∈ bs, isBare b = true) :
    Extends d bs := fun c hc =>
  ObjectCut.feed_of_steady c bs (by simp [hc]) fun b hb => by rw [hc]; exact Scan.step_of_bare (h b hb)

theorem extends_byte {d : Nat} {b : UInt8} (h : isBare b = true) : Extends d [b] :=
  extends_bare fun _ hx => (List.mem_singleton.mp hx) ▸ h

theorem extends_ws {d : Nat} {w : List UInt8} (h : Grammar.Ws w) : Extends d w :=
  extends_bare fun b hb => isBare_of_isSpace (h b hb)

theorem feed_escape (c : ObjectCut) {d : Nat} (hc : c.scan = { depth := d + 1, inString := true })
    (e : UInt8) : c.feed [0x5C, e] = { c with begun := c.begun ++ [0x5C, e] } := by
  simp [ObjectCut.push, Scan.step, hc]

theorem Grammar.StringPiece.feed {p : List UInt8} (h : Grammar.StringPiece p) (c : ObjectCut) {d : Nat}
    (hc : c.scan = { depth := d + 1, inString := true }) :
    c.feed p = { c with begun := c.begun ++ p } := by
  cases h with
  | char ch _ hq hb =>
    exact ObjectCut.feed_of_plain c _ (by simp [hc]) (by simp [hc]) (by simp [hc])
      (utf8EncodeChar_plain hq hb)
  | escape e _ => exact feed_escape c hc e
  | unicode h _ hh =>
    have hplain : ∀ b ∈ h, b ≠ 0x5C ∧ b ≠ 0x22 := by
      intro b hb
      have := hh b hb
      constructor <;> rintro rfl <;> exact absurd this (by decide)
    rw [show 0x5C :: 0x75 :: h = [0x5C, 0x75] ++ h from rfl, ObjectCut.feed_append,
      feed_escape c hc, ObjectCut.feed_of_plain _ _ (by simp [hc]) (by simp [hc]) (by simp [hc])
        hplain]
    simp

theorem Grammar.Str.extends {s : List UInt8} (h : Grammar.Str s) (d : Nat) : Extends d s := by
  intro c hc
  obtain ⟨ps, hps⟩ := h
  have hpieces : ∀ qs : List (List UInt8), (∀ p ∈ qs, Grammar.StringPiece p) →
      ∀ c' : ObjectCut, c'.scan = { depth := d + 1, inString := true } →
        c'.feed qs.flatten = { c' with begun := c'.begun ++ qs.flatten } := by
    intro qs hqs
    induction qs with
    | nil => simp
    | cons p qs ih =>
      intro c' hc'
      rw [List.flatten_cons, ObjectCut.feed_append, (hqs p (by simp)).feed c' hc',
        ih (fun q hq => hqs q (by simp [hq])) { c' with begun := c'.begun ++ p } hc']
      simp
  have hopen : c.push 0x22 =
      { c with begun := c.begun ++ [0x22], scan := { depth := d + 1, inString := true } } := by
    simp [ObjectCut.push, Scan.step, hc]
  rw [List.cons_append, ObjectCut.feed_cons, hopen, ObjectCut.feed_append, hpieces ps hps _ rfl]
  simp [ObjectCut.push, Scan.step, hc]

theorem extends_bracketed {d : Nat} {o e : UInt8} {inner : List UInt8} (ho : o = 0x7B ∨ o = 0x5B)
    (he : e = 0x7D ∨ e = 0x5D) (hin : Extends (d + 1) inner) : Extends d (o :: inner ++ [e]) := by
  intro c hc
  have hopen : c.push o = { c with begun := c.begun ++ [o], scan := { depth := d + 1 + 1 } } := by
    rcases ho with rfl | rfl <;> simp [ObjectCut.push, Scan.step, hc]
  rw [List.cons_append, ObjectCut.feed_cons, hopen, ObjectCut.feed_append,
    hin { c with begun := c.begun ++ [o], scan := { depth := d + 1 + 1 } } rfl]
  rcases he with rfl | rfl <;> simp [ObjectCut.push, Scan.step, hc]

theorem literals_bare : ∀ bs ∈ Grammar.literals, ∀ b ∈ bs, isBare b = true := by
  simp [Grammar.literals, isBare]

mutual
theorem Grammar.Value.extends : ∀ {v : List UInt8}, Grammar.Value v → ∀ d, Extends d v
  | _, .literal h, _ => extends_bare (literals_bare _ h)
  | _, .number h, _ => extends_bare h.bare
  | _, .string h, d => h.extends d
  | _, .array h, d => h.extends d
  | _, .object h, d => h.extends d

theorem Grammar.Array.extends : ∀ {a : List UInt8}, Grammar.Array a → ∀ d, Extends d a
  | _, .empty hw, _ => extends_bracketed (.inr rfl) (.inr rfl) (extends_ws hw)
  | _, .elements hes, d => extends_bracketed (.inr rfl) (.inr rfl) (hes.extends (d + 1))

theorem Grammar.Object.extends : ∀ {o : List UInt8}, Grammar.Object o → ∀ d, Extends d o
  | _, .empty hw, _ => extends_bracketed (.inl rfl) (.inl rfl) (extends_ws hw)
  | _, .members hms, d => extends_bracketed (.inl rfl) (.inl rfl) (hms.extends (d + 1))

theorem Grammar.Element.extends : ∀ {e : List UInt8}, Grammar.Element e → ∀ d, Extends d e
  | _, .mk hw₁ hv hw₂, d => ((extends_ws hw₁).append (hv.extends d)).append (extends_ws hw₂)

theorem Grammar.Elements.extends : ∀ {es : List UInt8}, Grammar.Elements es → ∀ d, Extends d es
  | _, .one he, d => he.extends d
  | _, .cons he hes, d =>
    (he.extends d).append ((extends_byte rfl).append (hes.extends d))

theorem Grammar.Member.extends : ∀ {m : List UInt8}, Grammar.Member m → ∀ d, Extends d m
  | _, .mk hw₁ hk hw₂ he, d =>
    (((extends_ws hw₁).append (hk.extends d)).append (extends_ws hw₂)).append
      ((extends_byte rfl).append (he.extends d))

theorem Grammar.Members.extends : ∀ {ms : List UInt8}, Grammar.Members ms → ∀ d, Extends d ms
  | _, .one hm, d => hm.extends d
  | _, .cons hm hms, d =>
    (hm.extends d).append ((extends_byte rfl).append (hms.extends d))
end

theorem Grammar.Object.feed_idle {o : List UInt8} (h : Grammar.Object o) (c : ObjectCut)
    (hc : c.scan = {}) : c.feed o = { done := c.done ++ [o] } := by
  -- the opening brace starts the object one deep; what is inside comes back there
  have braced : ∀ inner, Extends 0 inner →
      c.feed (0x7B :: inner ++ [0x7D]) = { done := c.done ++ [0x7B :: inner ++ [0x7D]] } := by
    intro inner hin
    have hopen : c.push 0x7B = { c with begun := [0x7B], scan := { depth := 0 + 1 } } := by
      simp [ObjectCut.push, Scan.step, hc]
    rw [List.cons_append, ObjectCut.feed_cons, hopen, ObjectCut.feed_append,
      hin { c with begun := [0x7B], scan := { depth := 0 + 1 } } rfl]
    simp [ObjectCut.push, Scan.step]
  cases h with
  | empty hw => exact braced _ (extends_ws hw)
  | members hms => exact braced _ (hms.extends 0)

/-! ## Objects between separators -/

theorem feed_separator (D : List (List UInt8)) (s : List UInt8) (hs : ∀ b ∈ s, b ≠ 0x7B) :
    ({ done := D } : ObjectCut).feed s = { done := D } := by
  induction s with
  | nil => rfl
  | cons b s ih =>
    have hstep : ({} : Scan).step b = ({}, false) := by
      rw [Scan.step_of_idle rfl, if_neg (hs b (by simp))]
    rw [ObjectCut.feed_cons, ObjectCut.push_of_idle hstep rfl]
    exact ih fun x hx => hs x (by simp [hx])

/-- The bytes of objects after a first separator, each object followed by its own separator. -/
def streamText (first : List UInt8) (items : List (List UInt8 × List UInt8)) : List UInt8 :=
  first ++ (items.map fun x => x.1 ++ x.2).flatten

theorem streamText_nil (first : List UInt8) : streamText first [] = first := by
  simp [streamText]

theorem streamText_cons (first : List UInt8) (x : List UInt8 × List UInt8)
    (rest : List (List UInt8 × List UInt8)) :
    streamText first (x :: rest) = first ++ x.1 ++ streamText x.2 rest := by
  simp [streamText]

section Stream

variable (first : List UInt8) (items : List (List UInt8 × List UInt8))

theorem feed_streamText (D : List (List UInt8)) (hobj : ∀ x ∈ items, Grammar.Object x.1)
    (hsep : ∀ b ∈ first ++ (items.map Prod.snd).flatten, b ≠ 0x7B) :
    ({ done := D } : ObjectCut).feed (streamText first items) =
      { done := D ++ items.map Prod.fst } := by
  induction items generalizing D first with
  | nil => simpa [streamText_nil] using feed_separator D first (by simpa using hsep)
  | cons x rest ih =>
    have hfirst : ∀ b ∈ first, b ≠ 0x7B := fun b hb => hsep b (by simp [hb])
    have hrest : ∀ b ∈ x.2 ++ (rest.map Prod.snd).flatten, b ≠ 0x7B :=
      fun b hb => hsep b (by simp_all)
    rw [streamText_cons, ObjectCut.feed_append, ObjectCut.feed_append, feed_separator D first hfirst,
      (hobj x (by simp)).feed_idle _ rfl, ih x.2 _ (fun y hy => hobj y (by simp [hy])) hrest]
    simp

/-- At no point of the bytes is an object in progress longer than the longest of the objects:
the cut holds at most the bytes of the object it is in. -/
theorem oversized_streamText_take (D : List (List UInt8))
    (hobj : ∀ x ∈ items, Grammar.Object x.1 ∧ x.1.length ≤ maxObjectBytes)
    (hsep : ∀ b ∈ first ++ (items.map Prod.snd).flatten, b ≠ 0x7B) (e : Nat) :
    (({ done := D } : ObjectCut).feed ((streamText first items).take e)).oversized = false := by
  induction items generalizing D first e with
  | nil =>
    rw [streamText_nil, feed_separator D _ fun b hb => hsep b (by simpa using List.mem_of_mem_take hb)]
    rfl
  | cons x rest ih =>
    have hfirst : ∀ b ∈ first, b ≠ 0x7B := fun b hb => hsep b (by simp [hb])
    have hrest : ∀ b ∈ x.2 ++ (rest.map Prod.snd).flatten, b ≠ 0x7B :=
      fun b hb => hsep b (by simp_all)
    obtain ⟨hx, hsmall⟩ := hobj x (by simp)
    rw [streamText_cons, List.take_append, List.take_append,
      ObjectCut.feed_append, ObjectCut.feed_append,
      feed_separator D _ fun b hb => hfirst b (List.mem_of_mem_take hb)]
    by_cases hin : e - first.length < x.1.length
    · -- the bytes end inside the object: what it holds is part of it
      have hnone : e - (first ++ x.1).length = 0 := by simp; omega
      rw [hnone, List.take_zero, ObjectCut.feed_nil]
      have := ObjectCut.length_begun_feed { done := D } (x.1.take (e - first.length))
      simp only [ObjectCut.oversized, decide_eq_false_iff_not, not_lt]
      simp at this
      omega
    · -- past the object: it is completed, and the rest is cut from between objects
      rw [List.take_of_length_le (by omega), hx.feed_idle _ rfl, List.length_append,
        show e - (first.length + x.1.length) = e - first.length - x.1.length by omega]
      exact ih x.2 _ (fun y hy => hobj y (by simp [hy])) hrest _

end Stream

theorem objects_of_wellFormed (first : List UInt8) (items : List (List UInt8 × List UInt8))
    (chunks : List ByteArray)
    (hobj : ∀ x ∈ items, Grammar.Object x.1 ∧ x.1.length ≤ maxObjectBytes)
    (hsep : ∀ b ∈ first ++ (items.map Prod.snd).flatten, b ≠ 0x7B)
    (hchunks : (chunks.map (·.data.toList)).flatten = streamText first items) :
    objects (chunks.map .chunk) = items.map (fun x => .ok x.1.toByteArray) ∧
      ∃ d, ({} : Splitter).pushAll chunks = (items.map (·.1.toByteArray), none, d) ∧
        d.hasPartial = false := by
  have hfeed : ({} : ObjectCut).feed (streamText first items) = { done := items.map Prod.fst } := by
    simpa using feed_streamText first items [] (fun x hx => (hobj x hx).1) hsep
  have hsmall := oversized_streamText_take first items [] hobj hsep
  constructor
  · rw [objects_of_small _ (by rwa [BodyItem.bytesBeforeFailure_chunks, hchunks]),
      BodyItem.bytesBeforeFailure_chunks, hchunks, hfeed, BodyItem.failure?_chunks]
    simp
  · obtain ⟨d, hrun, ht⟩ := Splitter.pushAll_of_small Splitter.tracks_empty rfl chunks
      (by rwa [hchunks])
    refine ⟨d, by rw [hrun, hchunks, hfeed]; simp, ?_⟩
    rw [hchunks, hfeed] at ht
    simp [Splitter.hasPartial, ht.scan, ObjectCut.carry]

/-- Two objects of an array as one server streams it, `[{"k":"}"},{}]`, cut inside the string of
the first. -/
theorem objects_of_wellFormed_array :
    let first : List UInt8 := [0x5B]
    let items : List (List UInt8 × List UInt8) :=
      [([0x7B, 0x22, 0x6B, 0x22, 0x3A, 0x22, 0x7D, 0x22, 0x7D], [0x2C]), ([0x7B, 0x7D], [0x5D])]
    let chunks : List ByteArray :=
      [[0x5B, 0x7B, 0x22, 0x6B, 0x22, 0x3A, 0x22].toByteArray,
        [0x7D, 0x22, 0x7D, 0x2C, 0x7B, 0x7D, 0x5D].toByteArray]
    (∀ x ∈ items, Grammar.Object x.1 ∧ x.1.length ≤ maxObjectBytes) ∧
      (∀ b ∈ first ++ (items.map Prod.snd).flatten, b ≠ 0x7B) ∧
      (chunks.map (·.data.toList)).flatten = streamText first items ∧
      (objects (chunks.map .chunk) = items.map (fun x => .ok x.1.toByteArray) ∧
        ∃ d, ({} : Splitter).pushAll chunks = (items.map (·.1.toByteArray), none, d) ∧
          d.hasPartial = false) := by
  intro first items chunks
  have hstr (ch : Char) (h₁ : 0x20 ≤ ch.val) (h₂ : ch ≠ '"') (h₃ : ch ≠ '\\') :
      Grammar.Str (0x22 :: [String.utf8EncodeChar ch].flatten ++ [0x22]) :=
    Grammar.Str.mk [String.utf8EncodeChar ch] fun p hp => by
      rw [List.mem_singleton.mp hp]
      exact .char ch h₁ h₂ h₃
  have hnil : Grammar.Ws [] := fun _ h => by cases h
  have hobj₁ : Grammar.Object [0x7B, 0x22, 0x6B, 0x22, 0x3A, 0x22, 0x7D, 0x22, 0x7D] :=
    .members (.one (.mk hnil (hstr 'k' (by decide) (by decide) (by decide)) hnil
      (.mk hnil (.string (hstr '}' (by decide) (by decide) (by decide))) hnil)))
  have hobj : ∀ x ∈ items, Grammar.Object x.1 ∧ x.1.length ≤ maxObjectBytes := by
    intro x hx
    simp only [items, List.mem_cons, List.not_mem_nil, or_false] at hx
    rcases hx with rfl | rfl
    · exact ⟨hobj₁, by simp [maxObjectBytes]⟩
    · exact ⟨.empty hnil, by simp [maxObjectBytes]⟩
  have hsep : ∀ b ∈ first ++ (items.map Prod.snd).flatten, b ≠ 0x7B := by
    simp [first, items]
  have hchunks : (chunks.map (·.data.toList)).flatten = streamText first items := by
    simp [chunks, first, items, streamText]
  exact ⟨hobj, hsep, hchunks, objects_of_wellFormed first items chunks hobj hsep hchunks⟩

end ChatStream.Json
