import Obfuscation.Syntax.Walk
import Obfuscation.Session
import Obfuscation.Bytes.Base64
/-!
Sealing string constants. Every non-empty string constant is sealed under the session key with a
fresh vector and replaced by a call of `decrypt_string`; unless the module defines that function at
its top level, the fixed definition is put first.
-/

namespace Obfuscation.Pass

open Syntax

/-- The call that reveals a sealed text under a key. -/
def revealCall (sealed keyText : String) : Expr :=
  .call (.name "decrypt_string")
    [.constant (.str (Text.ofString sealed) false),
      .constant (.str (Text.ofString keyText) false)] []

/-- Seal one non-empty text and give the call that reveals it; `announce` heads the line printed
with `verbose`. -/
def sealOne (verbose : Bool) (key : List UInt8) (announce : String) (t : Text) : Run Expr := do
  let sealed ← Run.sealText key t
  if verbose then Run.say (announce ++ Text.toString t ++ " -> " ++ sealed)
  pure (revealCall sealed (Bytes.toBase64 key))

def sealVisit (verbose : Bool) (key : List UInt8) : LeafVisit Run where
  name id := pure (.name id)
  text t u :=
    if t.isEmpty then pure (.constant (.str t u))
    else sealOne verbose key "Encrypting string: " t
  part t u :=
    if t.isEmpty then pure (.constant (.str t u))
    else do
      let call ← sealOne verbose key "Encrypting string in f-string: " t
      pure (.formattedValue call (-1) none)
  imports _ := pure ()

def callOn (f : Expr) (args : List Expr) : Expr := .call f args []

/-- The fixed definition of `decrypt_string`: base64-decode the sealed text and the key, split
off the vector, decrypt the rest in CFB mode, decode UTF-8 and drop the padding. -/
def decryptorDef : Stmt :=
  let aes := Expr.name "AES"
  let blockSize := Expr.attribute aes "block_size"
  let decode (arg : String) := callOn (.attribute (.name "base64") "b64decode") [.name arg]
  .functionDef "decrypt_string"
    (.mk [] [.mk "enc_str" none, .mk "key_str" none] none [] [] none [])
    [ .importNames [⟨"base64", none⟩],
      .importFrom (some "Crypto.Cipher") [⟨"AES", none⟩] 0,
      .assign [.name "enc"] (decode "enc_str"),
      .assign [.name "key"] (decode "key_str"),
      .assign [.name "iv"] (.subscript (.name "enc") (.slice none (some blockSize) none)),
      .assign [.name "ct"] (.subscript (.name "enc") (.slice (some blockSize) none none)),
      .assign [.name "cipher"]
        (callOn (.attribute aes "new") [.name "key", .attribute aes "MODE_CFB", .name "iv"]),
      .assign [.name "pt"]
        (callOn (.attribute (callOn (.attribute (.name "cipher") "decrypt") [.name "ct"]) "decode")
          [.constant (.str (Text.ofString "utf-8") false)]),
      .assign [.name "padding_len"]
        (callOn (.name "ord") [.subscript (.name "pt") (.unaryOp .uSub (.constant (.int 1)))]),
      .returnStmt (some (.subscript (.name "pt")
        (.slice none (some (.unaryOp .uSub (.name "padding_len"))) none))) ]
    [] none false

/-- Whether a statement defines a (not `async`) function named `decrypt_string`. -/
def Stmt.definesDecryptor : Stmt → Bool
  | .functionDef name _ _ _ _ false => name == "decrypt_string"
  | _ => false

/-- A module with the `decrypt_string` definition put first unless it defines one at its top
level. -/
def Module.ensureDecryptor (m : Module) : Module :=
  if m.any Stmt.definesDecryptor then m else decryptorDef :: m

/-- Seal the strings of a module under the session key, then ensure it defines
`decrypt_string`. -/
def Module.sealStrings (verbose : Bool) (m : Module) : Run Module := do
  let key ← Run.key
  let sealed ← Stmt.walkLeavesAll (sealVisit verbose key) m
  pure (Module.ensureDecryptor sealed)

end Obfuscation.Pass
