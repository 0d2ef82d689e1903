/-! # UTF-8

`encode` writes characters as octets. `decode` reads any octets: one entry per character, and
`none` for each longest run of octets that starts a character but cannot end it, or for a single
octet that starts none. `text?` wants every octet to belong to a character; `lossy` puts U+FFFD
where one does not. -/

namespace SellerApi.Text.Utf8

/-- The octets of one character. -/
def encodeChar (c : Char) : List UInt8 :=
  let n := c.toNat
  if n < 0x80 then [n.toUInt8]
  else if n < 0x800 then [(0xC0 + n / 0x40).toUInt8, (0x80 + n % 0x40).toUInt8]
  else if n < 0x10000 then
    [(0xE0 + n / 0x1000).toUInt8, (0x80 + n / 0x40 % 0x40).toUInt8, (0x80 + n % 0x40).toUInt8]
  else
    [(0xF0 + n / 0x40000).toUInt8, (0x80 + n / 0x1000 % 0x40).toUInt8,
      (0x80 + n / 0x40 % 0x40).toUInt8, (0x80 + n % 0x40).toUInt8]

/-- The octets of a text. -/
def encode (cs : List Char) : List UInt8 := cs.flatMap encodeChar

/-- What is still owed to the character being read: how many octets, the bounds of the next one,
and the value of the octets so far. -/
structure Owed where
  count : Nat
  low : Nat
  high : Nat
  value : Nat
  deriving DecidableEq, Repr

/-- The role of an octet between characters. -/
inductive Lead where
  /-- A character of one octet. -/
  | whole (c : Char)
  /-- The first octet of a longer character. -/
  | first (owed : Owed)
  /-- An octet that starts no character. -/
  | stray
  deriving DecidableEq, Repr

/-- The role of an octet between characters. The bounds on the second octet keep out overlong
forms, surrogates and values above U+10FFFF. -/
def lead (b : Nat) : Lead :=
  if b < 0x80 then .whole (Char.ofNat b)
  else if b < 0xC2 then .stray
  else if b < 0xE0 then .first ⟨1, 0x80, 0xBF, b - 0xC0⟩
  else if b = 0xE0 then .first ⟨2, 0xA0, 0xBF, 0⟩
  else if b = 0xED then .first ⟨2, 0x80, 0x9F, 0xD⟩
  else if b < 0xF0 then .first ⟨2, 0x80, 0xBF, b - 0xE0⟩
  else if b = 0xF0 then .first ⟨3, 0x90, 0xBF, 0⟩
  else if b < 0xF4 then .first ⟨3, 0x80, 0xBF, b - 0xF0⟩
  else if b = 0xF4 then .first ⟨3, 0x80, 0x8F, 4⟩
  else .stray

/-- Reads octets, inside a character when something is owed to it. -/
def decodeFrom : Option Owed → List UInt8 → List (Option Char)
  | none, [] => []
  | some _, [] => [none]
  | none, b :: bs =>
    match lead b.toNat with
    | .whole c => some c :: decodeFrom none bs
    | .first owed => decodeFrom (some owed) bs
    | .stray => none :: decodeFrom none bs
  | some owed, b :: bs =>
    if owed.low ≤ b.toNat ∧ b.toNat ≤ owed.high then
      let value := owed.value * 0x40 + (b.toNat - 0x80)
      if owed.count ≤ 1 then some (Char.ofNat value) :: decodeFrom none bs
      else decodeFrom (some ⟨owed.count - 1, 0x80, 0xBF, value⟩) bs
    else
      none :: match lead b.toNat with
        | .whole c => some c :: decodeFrom none bs
        | .first owed => decodeFrom (some owed) bs
        | .stray => none :: decodeFrom none bs

/-- The characters that octets stand for, `none` where they stand for none. -/
def decode (bs : List UInt8) : List (Option Char) := decodeFrom none bs

/-- The text that octets stand for, if all of them belong to characters. -/
def text? (bs : List UInt8) : Option (List Char) := (decode bs).mapM id

/-- The text that octets stand for, with U+FFFD for what stands for no character. -/
def lossy (bs : List UInt8) : List Char := (decode bs).map (·.getD '\uFFFD')

end SellerApi.Text.Utf8
