import Obfuscation.Text.Quote
import Obfuscation.Fault
/-!
UTF-8: the byte form of text. Encoding refuses surrogates; decoding reads well-formed sequences
only and reports the first fault with the positions of the bytes it covers.
-/

namespace Obfuscation.Text

def utf8Code (c : Nat) : List UInt8 :=
  if c < 0x80 then [c.toUInt8]
  else if c < 0x800 then [(0xC0 + c / 0x40).toUInt8, (0x80 + c % 0x40).toUInt8]
  else if c < 0x10000 then
    [(0xE0 + c / 0x1000).toUInt8, (0x80 + c / 0x40 % 0x40).toUInt8, (0x80 + c % 0x40).toUInt8]
  else
    [(0xF0 + c / 0x40000).toUInt8, (0x80 + c / 0x1000 % 0x40).toUInt8,
      (0x80 + c / 0x40 % 0x40).toUInt8, (0x80 + c % 0x40).toUInt8]

/-- A run of surrogates that UTF-8 cannot encode: positions `start` up to `stop` (exclusive),
the first of them being `first`. -/
structure EncodeFault where
  start : Nat
  stop : Nat
  first : Nat
  deriving DecidableEq, Repr

def EncodeFault.toFault (f : EncodeFault) : Fault :=
  let what :=
    if f.stop == f.start + 1 then
      "character '" ++ hexEscape f.first ++ "' in position " ++ Nat.repr f.start
    else
      "characters in position " ++ Nat.repr f.start ++ "-" ++ Nat.repr (f.stop - 1)
  ⟨.unicodeEncodeError, "'utf-8' codec can't encode " ++ what ++ ": surrogates not allowed"⟩

def surrogateRun : Text → Nat
  | [] => 0
  | c :: rest => if isSurrogate c then surrogateRun rest + 1 else 0

def encodeFrom (pos : Nat) : Text → Except EncodeFault (List UInt8)
  | [] => .ok []
  | c :: rest =>
    if isSurrogate c then .error ⟨pos, pos + surrogateRun (c :: rest), c⟩
    else (utf8Code c ++ ·) <$> encodeFrom (pos + 1) rest

def encodeUtf8 (t : Text) : Except EncodeFault (List UInt8) := encodeFrom 0 t

inductive DecodeReason where
  | invalidStart
  | invalidContinuation
  | unexpectedEnd
  deriving DecidableEq, Repr

/-- A decoding fault covering positions `start` up to `stop` (exclusive); `first` is the byte
at `start`. -/
structure DecodeFault where
  reason : DecodeReason
  start : Nat
  stop : Nat
  first : UInt8
  deriving DecidableEq, Repr

def DecodeFault.toFault (f : DecodeFault) : Fault :=
  let what :=
    if f.stop == f.start + 1 then
      "byte 0x" ++ hexPadded 2 f.first.toNat ++ " in position " ++ Nat.repr f.start
    else
      "bytes in position " ++ Nat.repr f.start ++ "-" ++ Nat.repr (f.stop - 1)
  let why := match f.reason with
    | .invalidStart => "invalid start byte"
    | .invalidContinuation => "invalid continuation byte"
    | .unexpectedEnd => "unexpected end of data"
  ⟨.unicodeDecodeError, "'utf-8' codec can't decode " ++ what ++ ": " ++ why⟩

def isContinuation (b : UInt8) : Bool := b &&& 0xC0 == 0x80

def payload (b : UInt8) : Nat := (b &&& 0x3F).toNat

/-- Decoding of the bytes from position `pos` on. A lead byte `E0` needs a second byte from
`A0`, `ED` one below `A0`, `F0` one from `90`, and `F4` one below `90`. -/
def decodeFrom (pos : Nat) : List UInt8 → Except DecodeFault Text
  | [] => .ok []
  | b :: rest =>
    let bad (reason : DecodeReason) (width : Nat) : Except DecodeFault Text :=
      .error ⟨reason, pos, pos + width, b⟩
    let ended : Except DecodeFault Text := bad .unexpectedEnd (rest.length + 1)
    if b < 0x80 then (b.toNat :: ·) <$> decodeFrom (pos + 1) rest
    else if b < 0xC2 then bad .invalidStart 1
    else if b < 0xE0 then
      match rest with
      | [] => ended
      | c :: rest' =>
        if isContinuation c then
          (((b &&& 0x1F).toNat * 0x40 + payload c) :: ·) <$> decodeFrom (pos + 2) rest'
        else bad .invalidContinuation 1
    else if b < 0xF0 then
      let secondOk (c : UInt8) : Bool :=
        isContinuation c && !(b == 0xE0 && c < 0xA0) && !(b == 0xED && c ≥ 0xA0)
      match rest with
      | [] => ended
      | [c] => if secondOk c then ended else bad .invalidContinuation 1
      | c :: d :: rest' =>
        if !secondOk c then bad .invalidContinuation 1
        else if !isContinuation d then bad .invalidContinuation 2
        else (((b &&& 0x0F).toNat * 0x1000 + payload c * 0x40 + payload d) :: ·) <$>
          decodeFrom (pos + 3) rest'
    else if b < 0xF5 then
      let secondOk (c : UInt8) : Bool :=
        isContinuation c && !(b == 0xF0 && c < 0x90) && !(b == 0xF4 && c ≥ 0x90)
      match rest with
      | [] => ended
      | [c] => if secondOk c then ended else bad .invalidContinuation 1
      | [c, d] =>
        if !secondOk c then bad .invalidContinuation 1
        else if !isContinuation d then bad .invalidContinuation 2
        else ended
      | c :: d :: e :: rest' =>
        if !secondOk c then bad .invalidContinuation 1
        else if !isContinuation d then bad .invalidContinuation 2
        else if !isContinuation e then bad .invalidContinuation 3
        else (((b &&& 0x07).toNat * 0x40000 + payload c * 0x1000 + payload d * 0x40 +
          payload e) :: ·) <$> decodeFrom (pos + 4) rest'
    else bad .invalidStart 1

def decodeUtf8 (bs : List UInt8) : Except DecodeFault Text := decodeFrom 0 bs

example : (decodeUtf8 (utf8Code 0x20AC ++ utf8Code 0x1F600)).toOption = some [0x20AC, 0x1F600] := by
  decide +kernel
example : (encodeUtf8 [0x61, 0xD800, 0xDC00, 0x62]).toOption = none := by decide +kernel

end Obfuscation.Text
