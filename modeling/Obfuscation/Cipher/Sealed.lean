import Obfuscation.Cipher.Stream
import Obfuscation.Text.Utf8
import Obfuscation.Bytes.Base64
/-!
Sealed strings: text padded to whole 16-code-point blocks, encoded as UTF-8, encrypted in 8-bit
cipher feedback mode, and written in base64 after its vector. `reveal` is the decryption function
of sealed programs.
-/

namespace Obfuscation.Cipher

open Obfuscation.Text Obfuscation.Bytes

/-- The number of code points padding adds: from 1 to 16, making the length a multiple of 16. -/
def padLength (t : Text) : Nat := 16 - t.length % 16

/-- A text padded to a multiple of 16 code points, each added code point being the count. -/
def pad (t : Text) : Text := t ++ List.replicate (padLength t) (padLength t)

/-- The sealed form of a text under a block function and a vector: base64 of the vector followed
by the ciphertext of the padded text. -/
def sealWith (E : Block → Block) (iv : Block) (plain : Text) : Except Fault String := do
  let bytes ← (encodeUtf8 (pad plain)).mapError EncodeFault.toFault
  return toBase64 (iv.toList ++ encryptFeedback E iv bytes)

/-- A text with its padding removed: the last code point says how many to cut. -/
def unpad (t : Text) : Except Fault Text :=
  match t.getLast? with
  | none => .error Fault.stringIndex
  | some 0 => .ok []
  | some k => .ok (t.take (t.length - k))

/-- The text sealed in the bytes `sealed`, a vector and then a ciphertext, under a block
function. -/
def openWith (E : Block → Block) (sealed : List UInt8) : Except Fault Text := do
  let iv ← prepareVector (sealed.take 16)
  let plain ← (decodeUtf8 (decryptFeedback E iv (sealed.drop 16))).mapError
    DecodeFault.toFault
  unpad plain

/-- The text sealed in `enc` under the AES key whose base64 text is `keyText`. -/
def reveal (enc keyText : Text) : Except Fault Text := do
  let sealed ← ofBase64 enc
  let key ← ofBase64 keyText
  let keys ← prepareKey key
  openWith (encryptBlock keys) sealed

theorem length_pad (t : Text) : (pad t).length % 16 = 0 := by
  simp only [pad, padLength, List.length_append, List.length_replicate]
  omega

end Obfuscation.Cipher
