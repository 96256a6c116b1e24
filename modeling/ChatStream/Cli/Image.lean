import ChatStream.Cli.Files
import ChatStream.Context.Basic

/-! # Image attachments

An image given on the command line is read whole and sent inline, base64-encoded. Its type comes
from the file's extension (`png`, `jpg`/`jpeg`, `gif`, `webp`, in any case); files over 20 MiB
are refused. The extension is what follows the last dot of the file name, unless that dot
starts the name: `.png` has none, `name.` has an empty one.
-/

namespace ChatStream.Cli

/-- The largest image accepted, in bytes. -/
def maxImageBytes : Nat := 20 * 1024 * 1024

def mimeTypeFor (ext : String) : Option String :=
  match String.ofList (ext.toList.map Char.toLower) with
  | "png" => some "image/png"
  | "jpg" | "jpeg" => some "image/jpeg"
  | "gif" => some "image/gif"
  | "webp" => some "image/webp"
  | _ => none

/-- The last component of a path (`.` components aside), unless it is `..` or there is none. -/
def fileName (path : String) : Option String :=
  match (components path |>.filter (· != ".")).getLast? with
  | some ".." => none
  | some name => some name
  | none => none

def extension (path : String) : Option String :=
  (fileName path).bind fun name =>
    match (name.splitOn ".").reverse with
    | [_] => none
    | ext :: rest => if rest == [""] then none else some ext
    | [] => none

/-! ## Base64 -/

def base64Digit (n : Nat) : Char :=
  "ABCDEFGHIJKLMNOPQRSTUVWXYZabcdefghijklmnopqrstuvwxyz0123456789+/".toList.getD n '='

/-- Standard base64 with padding. -/
def base64 (bytes : List UInt8) : String :=
  String.ofList (go bytes)
where
  go : List UInt8 → List Char
    | a :: b :: c :: rest =>
      let n := a.toNat * 65536 + b.toNat * 256 + c.toNat
      base64Digit (n / 262144) :: base64Digit (n / 4096 % 64) :: base64Digit (n / 64 % 64) ::
        base64Digit (n % 64) :: go rest
    | [a, b] =>
      let n := a.toNat * 65536 + b.toNat * 256
      [base64Digit (n / 262144), base64Digit (n / 4096 % 64), base64Digit (n / 64 % 64), '=']
    | [a] =>
      let n := a.toNat * 65536
      [base64Digit (n / 262144), base64Digit (n / 4096 % 64), '=', '=']
    | [] => []

/-- Read an image file into inline base64 data. -/
def loadImage (fs : Files) (path : String) : Except String ImageData := do
  let ext ← match extension path with
    | some e => pure e
    | none => throw s!"no file extension: {path}"
  let mime ← match mimeTypeFor ext with
    | some m => pure m
    | none => throw s!"unsupported image format '.{ext}' (supported: png, jpg, jpeg, gif, webp)"
  let size ← match fs.size path with
    | .ok n => pure n
    | .error e => throw s!"cannot read {path}: {e.message}"
  if size > maxImageBytes then
    throw s!"{path} is too large: {size} bytes (max {maxImageBytes / 1024 / 1024} MiB)"
  match fs.read path with
  | .ok bytes => pure ⟨mime, base64 bytes.toList⟩
  | .error e => throw s!"cannot read {path}: {e.message}"

example : base64 "jpg".toUTF8.toList = "anBn" := by decide +kernel

end ChatStream.Cli
