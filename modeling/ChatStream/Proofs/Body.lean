import Mathlib
import ChatStream.Http.Body

/-! # Bodies as lists of bytes

The readers keep their input in byte arrays and walk them by index; the proofs read an array as
the list of its bytes, `bs.data.toList`. A body is then the bytes of its chunks before the first
read failure, the message of that failure, and the offsets at which its chunks end.
-/

namespace ChatStream

namespace Bytes

@[simp] theorem length_toList (bs : ByteArray) : bs.data.toList.length = bs.size :=
  Array.length_toList

theorem drop_eq_cons (bs : ByteArray) (i : Nat) (h : i < bs.size) :
    bs.data.toList.drop i = bs[i] :: bs.data.toList.drop (i + 1) := by
  rw [List.drop_eq_getElem_cons (by simpa using h)]
  simp [ByteArray.getElem_eq_getElem_data]

theorem getElem!_eq (bs : ByteArray) (i : Nat) (h : i < bs.size) : bs[i]! = bs[i] :=
  getElem!_pos bs i h

theorem take_drop_succ (bs : ByteArray) {start i : Nat} (hs : start ≤ i) (hi : i < bs.size) :
    (bs.data.toList.drop start).take (i + 1 - start) =
      (bs.data.toList.drop start).take (i - start) ++ [bs[i]] := by
  rw [show i + 1 - start = i - start + 1 by omega, List.take_add_one]
  simp [List.getElem?_drop, show start + (i - start) = i by omega, hi,
    ByteArray.getElem_eq_getElem_data]

theorem extract_eq (bs : ByteArray) (start stop : Nat) :
    bs.extract start stop = ((bs.data.toList.drop start).take (stop - start)).toByteArray := by
  apply ByteArray.ext
  apply Array.toList_inj.mp
  simp [ByteArray.data_extract, List.extract]

end Bytes

namespace BodyItem

/-- The message of the first read failure of a body, if it has one. -/
def failure? : List BodyItem → Option String
  | [] => none
  | .chunk _ :: rest => failure? rest
  | .failure m :: _ => some m

/-- The offsets, in the bytes before the first failure, at which the chunks end. -/
def chunkEnds : List BodyItem → List Nat
  | [] => []
  | .chunk c :: rest => c.size :: (chunkEnds rest).map (c.size + ·)
  | .failure _ :: _ => []

@[simp] theorem bytesBeforeFailure_chunk (c : ByteArray) (rest : List BodyItem) :
    (bytesBeforeFailure (.chunk c :: rest)).data.toList =
      c.data.toList ++ (bytesBeforeFailure rest).data.toList := by
  simp [bytesBeforeFailure]

@[simp] theorem bytesBeforeFailure_failure (m : String) (rest : List BodyItem) :
    (bytesBeforeFailure (.failure m :: rest)).data.toList = [] := rfl

@[simp] theorem bytesBeforeFailure_nil : (bytesBeforeFailure []).data.toList = [] := rfl

theorem bytesBeforeFailure_chunks (chunks : List ByteArray) :
    (bytesBeforeFailure (chunks.map .chunk)).data.toList = (chunks.map (·.data.toList)).flatten := by
  induction chunks with
  | nil => rfl
  | cons c cs ih => simp [ih]

theorem failure?_chunks (chunks : List ByteArray) : failure? (chunks.map .chunk) = none := by
  induction chunks with
  | nil => rfl
  | cons c cs ih => simpa [failure?] using ih

end BodyItem

end ChatStream
