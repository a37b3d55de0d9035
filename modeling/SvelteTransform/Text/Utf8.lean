/-! UTF-8 in both directions. Writing is exact. Reading never fails: bytes that belong to no
character are replaced, one replacement mark for each longest run that began like a character. -/
namespace SvelteTransform.Text

abbrev Bytes := List UInt8

def utf8 (text : List Char) : Bytes := text.flatMap String.utf8EncodeChar

def byteCount (text : List Char) : Nat := text.foldl (fun n c => n + c.utf8Size) 0

def replacement : Char := '\uFFFD'

namespace Utf8

inductive Position where
  | start
  | inside (low high : UInt8) (more : Nat) (bits : Nat)
  deriving DecidableEq, Repr

structure Progress where
  read : List Char
  position : Position

/-- The first byte decides the length of a character and the range of its second byte; the
narrow ranges keep out overlong forms, surrogates and values past the last character. -/
def first (read : List Char) (b : UInt8) : Progress :=
  let inside (low high : UInt8) (more : Nat) (bits : UInt8) : Progress :=
    ⟨read, .inside low high more bits.toNat⟩
  if b < 0x80 then ⟨Char.ofNat b.toNat :: read, .start⟩
  else if b < 0xC2 then ⟨replacement :: read, .start⟩
  else if b < 0xE0 then inside 0x80 0xBF 0 (b - 0xC0)
  else if b = 0xE0 then inside 0xA0 0xBF 1 0
  else if b = 0xED then inside 0x80 0x9F 1 0x0D
  else if b < 0xF0 then inside 0x80 0xBF 1 (b - 0xE0)
  else if b = 0xF0 then inside 0x90 0xBF 2 0
  else if b < 0xF4 then inside 0x80 0xBF 2 (b - 0xF0)
  else if b = 0xF4 then inside 0x80 0x8F 2 4
  else ⟨replacement :: read, .start⟩

def step (p : Progress) (b : UInt8) : Progress :=
  match p.position with
  | .start => first p.read b
  | .inside low high more bits =>
    if low ≤ b ∧ b ≤ high then
      let bits := bits * 64 + (b.toNat - 0x80)
      match more with
      | 0 => ⟨Char.ofNat bits :: p.read, .start⟩
      | more + 1 => ⟨p.read, .inside 0x80 0xBF more bits⟩
    else first (replacement :: p.read) b

def finish (p : Progress) : List Char :=
  match p.position with
  | .start => p.read.reverse
  | .inside .. => (replacement :: p.read).reverse

end Utf8

def ofUtf8Lossy (bytes : Bytes) : List Char :=
  Utf8.finish (bytes.foldl Utf8.step ⟨[], .start⟩)

def ofUtf8? (bytes : Bytes) : Option (List Char) :=
  let text := ofUtf8Lossy bytes
  if utf8 text = bytes then some text else none

end SvelteTransform.Text
