/-! # Response bodies as they arrive

A response body reaches a reader as a sequence of pieces: chunks of bytes in order, possibly
ended by a read failure with its message. Where the chunk boundaries fall is up to the network;
readers built on bodies give the same results however the bytes are cut.
-/

namespace ChatStream

/-- One piece of a body: some bytes, or a failure to read further. -/
inductive BodyItem where
  | chunk (bytes : ByteArray)
  | failure (message : String)

namespace BodyItem

/-- A chunk holding the UTF-8 bytes of a text. -/
def text (s : String) : BodyItem := .chunk s.toUTF8

end BodyItem

/-- All bytes of the chunks before the first failure, concatenated. -/
def BodyItem.bytesBeforeFailure : List BodyItem → ByteArray
  | [] => ByteArray.empty
  | .chunk b :: rest => b ++ bytesBeforeFailure rest
  | .failure _ :: _ => ByteArray.empty

end ChatStream
