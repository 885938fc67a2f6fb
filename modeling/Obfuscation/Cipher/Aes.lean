/-!
The AES block cipher (FIPS 197), encryption direction, for keys of 16, 24 and 32 bytes.

A block is 16 bytes, read column by column into the 4×4 state. Each round substitutes every
byte through the S-box, shifts row `r` left by `r` places, mixes each column as a polynomial
over GF(2⁸), and adds the round key; the last round does not mix. A key of `4·k` bytes gives
`k + 6` rounds, and the key schedule stretches it to `4·(k + 7)` words.
-/

namespace Obfuscation.Cipher

/-- The AES S-box: the multiplicative inverse in GF(2⁸) (zero to zero) followed by the affine
map of FIPS 197. -/
def sbox : Array UInt8 := #[
    0x63, 0x7C, 0x77, 0x7B, 0xF2, 0x6B, 0x6F, 0xC5, 0x30, 0x01, 0x67, 0x2B, 0xFE, 0xD7, 0xAB, 0x76,
    0xCA, 0x82, 0xC9, 0x7D, 0xFA, 0x59, 0x47, 0xF0, 0xAD, 0xD4, 0xA2, 0xAF, 0x9C, 0xA4, 0x72, 0xC0,
    0xB7, 0xFD, 0x93, 0x26, 0x36, 0x3F, 0xF7, 0xCC, 0x34, 0xA5, 0xE5, 0xF1, 0x71, 0xD8, 0x31, 0x15,
    0x04, 0xC7, 0x23, 0xC3, 0x18, 0x96, 0x05, 0x9A, 0x07, 0x12, 0x80, 0xE2, 0xEB, 0x27, 0xB2, 0x75,
    0x09, 0x83, 0x2C, 0x1A, 0x1B, 0x6E, 0x5A, 0xA0, 0x52, 0x3B, 0xD6, 0xB3, 0x29, 0xE3, 0x2F, 0x84,
    0x53, 0xD1, 0x00, 0xED, 0x20, 0xFC, 0xB1, 0x5B, 0x6A, 0xCB, 0xBE, 0x39, 0x4A, 0x4C, 0x58, 0xCF,
    0xD0, 0xEF, 0xAA, 0xFB, 0x43, 0x4D, 0x33, 0x85, 0x45, 0xF9, 0x02, 0x7F, 0x50, 0x3C, 0x9F, 0xA8,
    0x51, 0xA3, 0x40, 0x8F, 0x92, 0x9D, 0x38, 0xF5, 0xBC, 0xB6, 0xDA, 0x21, 0x10, 0xFF, 0xF3, 0xD2,
    0xCD, 0x0C, 0x13, 0xEC, 0x5F, 0x97, 0x44, 0x17, 0xC4, 0xA7, 0x7E, 0x3D, 0x64, 0x5D, 0x19, 0x73,
    0x60, 0x81, 0x4F, 0xDC, 0x22, 0x2A, 0x90, 0x88, 0x46, 0xEE, 0xB8, 0x14, 0xDE, 0x5E, 0x0B, 0xDB,
    0xE0, 0x32, 0x3A, 0x0A, 0x49, 0x06, 0x24, 0x5C, 0xC2, 0xD3, 0xAC, 0x62, 0x91, 0x95, 0xE4, 0x79,
    0xE7, 0xC8, 0x37, 0x6D, 0x8D, 0xD5, 0x4E, 0xA9, 0x6C, 0x56, 0xF4, 0xEA, 0x65, 0x7A, 0xAE, 0x08,
    0xBA, 0x78, 0x25, 0x2E, 0x1C, 0xA6, 0xB4, 0xC6, 0xE8, 0xDD, 0x74, 0x1F, 0x4B, 0xBD, 0x8B, 0x8A,
    0x70, 0x3E, 0xB5, 0x66, 0x48, 0x03, 0xF6, 0x0E, 0x61, 0x35, 0x57, 0xB9, 0x86, 0xC1, 0x1D, 0x9E,
    0xE1, 0xF8, 0x98, 0x11, 0x69, 0xD9, 0x8E, 0x94, 0x9B, 0x1E, 0x87, 0xE9, 0xCE, 0x55, 0x28, 0xDF,
    0x8C, 0xA1, 0x89, 0x0D, 0xBF, 0xE6, 0x42, 0x68, 0x41, 0x99, 0x2D, 0x0F, 0xB0, 0x54, 0xBB, 0x16
  ]

def subByte (b : UInt8) : UInt8 := sbox.getD b.toNat 0

/-- Multiplication by `x` in GF(2⁸) modulo `x⁸ + x⁴ + x³ + x + 1`. -/
def xtime (b : UInt8) : UInt8 :=
  if b &&& 0x80 == 0 then b <<< 1 else (b <<< 1) ^^^ 0x1B

abbrev Block := Array UInt8

def Block.at (s : Block) (i : Nat) : UInt8 := s.getD i 0

def positions : List Nat := List.range 16

/-- The bytes shifted: row `r` moves left by `r` columns. -/
def shiftRows (s : Block) : Block :=
  (positions.map fun i => s.at (i % 4 + 4 * ((i / 4 + i % 4) % 4))).toArray

/-- Each column multiplied by `3x³ + x² + x + 2`. -/
def mixColumns (s : Block) : Block :=
  (positions.map fun i =>
    let c := i / 4
    let r := i % 4
    let a (k : Nat) : UInt8 := s.at (4 * c + (r + k) % 4)
    xtime (a 0) ^^^ (xtime (a 1) ^^^ a 1) ^^^ a 2 ^^^ a 3).toArray

def addKey (s k : Block) : Block := (positions.map fun i => s.at i ^^^ k.at i).toArray

def subBytes (s : Block) : Block := s.map subByte

def roundConstant : Nat → UInt8
  | 0 => 0x8D
  | 1 => 0x01
  | n + 1 => xtime (roundConstant n)

/-- Words of the key schedule after the first `k` key words, given the words so far (most
recent first) and how many more to make. -/
def expandWords (k : Nat) : Nat → Nat → List (List UInt8) → List (List UInt8)
  | 0, _, acc => acc
  | more + 1, i, acc =>
    let previous := acc.headD [0, 0, 0, 0]
    let back := acc.getD (k - 1) [0, 0, 0, 0]
    let temp :=
      if i % k == 0 then
        match previous.map subByte with
        | [a, b, c, d] => [b ^^^ roundConstant (i / k), c, d, a]
        | other => other
      else if k > 6 && i % k == 4 then previous.map subByte
      else previous
    expandWords k more (i + 1) (List.zipWith (· ^^^ ·) back temp :: acc)

/-- The round keys of a key of 16, 24 or 32 bytes: one more than the number of rounds. -/
def roundKeys (key : List UInt8) : List Block :=
  let k := key.length / 4
  let rounds := k + 6
  let initial := ((List.range k).map fun j => key.extract (4 * j) (4 * j + 4)).reverse
  let words := (expandWords k (4 * (rounds + 1) - k) k initial).reverse
  (List.range (rounds + 1)).map fun r => (words.extract (4 * r) (4 * r + 4)).flatten.toArray

def encryptBlock (keys : List Block) (block : Block) : Block :=
  match keys with
  | [] => block
  | first :: rest =>
    let middle := rest.dropLast
    let last := rest.getLastD first
    let state := middle.foldl (fun s k => addKey (mixColumns (shiftRows (subBytes s))) k)
      (addKey block first)
    addKey (shiftRows (subBytes state)) last

example : subByte 0x53 = 0xED ∧ xtime 0x57 = 0xAE := by decide +kernel

/-- The test vector of FIPS 197, appendix C.1. -/
example : (encryptBlock (roundKeys ((List.range 16).map Nat.toUInt8))
    #[0x00, 0x11, 0x22, 0x33, 0x44, 0x55, 0x66, 0x77, 0x88, 0x99, 0xAA, 0xBB, 0xCC, 0xDD, 0xEE,
      0xFF]).toList =
    [0x69, 0xC4, 0xE0, 0xD8, 0x6A, 0x7B, 0x04, 0x30, 0xD8, 0xCD, 0xB7, 0x80, 0x70, 0xB4, 0xC5,
      0x5A] := by decide +kernel

end Obfuscation.Cipher
