import Obfuscation.Cipher.Aes
import Obfuscation.Fault
/-!
Cipher feedback mode with 8-bit segments, over a block function. Decryption shifts in the same
ciphertext bytes as encryption, so the block function only ever runs forwards.
-/

namespace Obfuscation.Cipher

def prepareKey (key : List UInt8) : Except Fault (List Block) :=
  if key.length == 16 || key.length == 24 || key.length == 32 then .ok (roundKeys key)
  else .error ⟨.valueError, "Incorrect AES key length (" ++ Nat.repr key.length ++ " bytes)"⟩

def prepareVector (iv : List UInt8) : Except Fault Block :=
  if iv.length == 16 then .ok iv.toArray
  else .error ⟨.valueError, "Incorrect IV length (it must be 16 bytes long)"⟩

def shiftIn (register : Block) (c : UInt8) : Block := (register.toList.drop 1 ++ [c]).toArray

/-- The byte that the register adds to the next message byte under the block function `E`. -/
def keystreamByte (E : Block → Block) (register : Block) : UInt8 :=
  (E register).at 0

def encryptFeedback (E : Block → Block) (register : Block) : List UInt8 → List UInt8
  | [] => []
  | p :: rest =>
    let c := p ^^^ keystreamByte E register
    c :: encryptFeedback E (shiftIn register c) rest

def decryptFeedback (E : Block → Block) (register : Block) : List UInt8 → List UInt8
  | [] => []
  | c :: rest =>
    (c ^^^ keystreamByte E register) :: decryptFeedback E (shiftIn register c) rest

/-- Decryption undoes encryption from the same register, whatever the block function. -/
theorem decryptFeedback_encryptFeedback (E : Block → Block) (register : Block)
    (message : List UInt8) :
    decryptFeedback E register (encryptFeedback E register message) = message := by
  induction message generalizing register with
  | nil => rfl
  | cons p rest ih =>
    simp only [encryptFeedback, decryptFeedback, ih, UInt8.xor_assoc, UInt8.xor_self,
      UInt8.xor_zero]

end Obfuscation.Cipher
