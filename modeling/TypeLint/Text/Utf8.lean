import TypeLint.Text.Basic

/-!
# UTF-8

`Utf8.decode` reads bytes as text.  Bytes that are no text are refused at the first sequence that is not the
shortest spelling of a scalar value.  `Utf8.encode` writes a text in bytes.
-/

namespace TypeLint.Utf8

/-- Why bytes are no text. -/
inductive Reason where
  | startByte
  | continuation
  | unexpectedEnd
deriving DecidableEq

/-- The bytes from `start` on, `count` of them, begin no character; `first` is the first of them. -/
structure DecodeError where
  reason : Reason
  start : Nat
  count : Nat
  first : UInt8
deriving DecidableEq

/-- The wording of a reason. -/
def Reason.message : Reason → Text
  | .startByte => text "invalid start byte"
  | .continuation => text "invalid continuation byte"
  | .unexpectedEnd => text "unexpected end of data"

/-- The wording of an error. -/
def DecodeError.message (e : DecodeError) : Text :=
  let bytes :=
    if e.count = 1 then
      text "byte 0x" ++ .hex 2 e.first.toNat ++ text " in position " ++ .ofNat e.start
    else text "bytes in position " ++ .ofNat e.start ++ text "-" ++ .ofNat (e.start + e.count - 1)
  text "'utf-8' codec can't decode " ++ bytes ++ text ": " ++ e.reason.message

/-- A sequence of which some bytes have been read. -/
structure Begun where
  first : UInt8
  /-- bytes read so far -/
  read : Nat
  /-- bytes still to come -/
  owed : Nat
  /-- bounds of the next byte -/
  low : Nat
  high : Nat
  /-- the number that the bytes so far spell -/
  value : Nat

/-- What the first byte of a sequence of several bytes begins. -/
def begin? (b : UInt8) : Option Begun :=
  let n := b.toNat
  if 0xC2 ≤ n && n ≤ 0xDF then some ⟨b, 1, 1, 0x80, 0xBF, n - 0xC0⟩
  else if n = 0xE0 then some ⟨b, 1, 2, 0xA0, 0xBF, 0⟩
  else if n = 0xED then some ⟨b, 1, 2, 0x80, 0x9F, 0xD⟩
  else if 0xE1 ≤ n && n ≤ 0xEF then some ⟨b, 1, 2, 0x80, 0xBF, n - 0xE0⟩
  else if n = 0xF0 then some ⟨b, 1, 3, 0x90, 0xBF, 0⟩
  else if 0xF1 ≤ n && n ≤ 0xF3 then some ⟨b, 1, 3, 0x80, 0xBF, n - 0xF0⟩
  else if n = 0xF4 then some ⟨b, 1, 3, 0x80, 0x8F, 4⟩
  else none

/-- One more byte of a sequence. -/
def Begun.next (s : Begun) (b : UInt8) : Begun :=
  { s with read := s.read + 1, owed := s.owed - 1, low := 0x80, high := 0xBF, value := s.value * 64 + (b.toNat - 0x80) }

/-- The text of bytes, of which the first stands at `pos`, inside a sequence if one has begun. -/
def decodeFrom : (pos : Nat) → Option Begun → List UInt8 → Except DecodeError Text
  | _, none, [] => .ok []
  | pos, some s, [] => .error ⟨.unexpectedEnd, pos - s.read, s.read, s.first⟩
  | pos, none, b :: rest =>
    if b.toNat < 0x80 then
      match CodePoint.ofNat? b.toNat with
      | some c => (decodeFrom (pos + 1) none rest).map (c :: ·)
      | none => .error ⟨.startByte, pos, 1, b⟩
    else match begin? b with
      | some s => decodeFrom (pos + 1) (some s) rest
      | none => .error ⟨.startByte, pos, 1, b⟩
  | pos, some s, b :: rest =>
    if s.low ≤ b.toNat && b.toNat ≤ s.high then
      let s := s.next b
      if s.owed = 0 then
        match CodePoint.ofNat? s.value with
        | some c => (decodeFrom (pos + 1) none rest).map (c :: ·)
        | none => .error ⟨.continuation, pos - s.read, s.read, s.first⟩
      else decodeFrom (pos + 1) (some s) rest
    else .error ⟨.continuation, pos - s.read, s.read, s.first⟩

/-- The text of bytes. -/
def decode (bytes : List UInt8) : Except DecodeError Text := decodeFrom 0 none bytes

/-- The bytes of a code point. -/
def encodeOne (c : CodePoint) : List UInt8 :=
  let n := c.val
  let tail := fun k => UInt8.ofNat (0x80 + n / Nat.pow 64 k % 64)
  if n < 0x80 then [UInt8.ofNat n]
  else if n < 0x800 then [UInt8.ofNat (0xC0 + n / 64), tail 0]
  else if n < 0x10000 then [UInt8.ofNat (0xE0 + n / 4096), tail 1, tail 0]
  else [UInt8.ofNat (0xF0 + n / 262144), tail 2, tail 1, tail 0]

/-- The bytes of a text. -/
def encode (t : Text) : List UInt8 := t.flatMap encodeOne

end TypeLint.Utf8
