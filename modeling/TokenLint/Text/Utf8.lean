import TokenLint.Text.Quoted

/-!
# Reading UTF-8

Bytes read as UTF-8, with the first place where they are not. A lead byte says how many bytes follow and
which of them may come second; the rest are plain continuation bytes. A fault spans the bytes that could
still have begun a character: a lead byte alone when the second byte does not fit, more when a later one
does not, and all that is left when the bytes run out.

## Main definitions

* `Fault`: Where and why bytes are not UTF-8.
* `Lead`: What a lead byte promises.
* `decode`: The text that bytes stand for.
* `decodeMarked`: The same, less one leading byte order mark.
-/

namespace TokenLint

namespace Utf8

/-- Why bytes are not UTF-8. -/
inductive Reason where
  /-- The byte begins no character. -/
  | invalidStart
  /-- The byte after a lead byte does not continue it. -/
  | invalidContinuation
  /-- The bytes end inside a character. -/
  | unexpectedEnd
deriving DecidableEq, Repr

/-- How a reason reads. -/
def Reason.text : Reason → String
  | .invalidStart => "invalid start byte"
  | .invalidContinuation => "invalid continuation byte"
  | .unexpectedEnd => "unexpected end of data"

/-- The first bytes that are not UTF-8. -/
structure Fault where
  /-- The place of the first byte at fault. -/
  start : Nat
  /-- How many bytes are at fault. -/
  length : Nat
  /-- The first byte at fault. -/
  byte : UInt8
  /-- What is wrong with them. -/
  reason : Reason
deriving DecidableEq, Repr

/-- How a fault is reported: one byte by its value, several by their places. -/
def Fault.message (f : Fault) : String :=
  let subject :=
    if f.length = 1 then
      s!"byte 0x{String.ofList (Text.hexText 2 f.byte.toNat)} in position {f.start}"
    else s!"bytes in position {f.start}-{f.start + f.length - 1}"
  s!"'utf-8' codec can't decode {subject}: {f.reason.text}"

/-- What a lead byte promises: the bits it holds itself, the range of the second byte, and how many plain
continuation bytes follow that one. -/
structure Lead where
  /-- The bits of the character that the lead byte holds. -/
  bits : Nat
  /-- The least second byte. -/
  least : Nat
  /-- The greatest second byte. -/
  greatest : Nat
  /-- The number of continuation bytes after the second. -/
  more : Nat

/-- What a byte promises as the first of several, if it may be that. -/
def Lead.ofByte? (b : Nat) : Option Lead :=
  if 0xC2 ≤ b ∧ b ≤ 0xDF then some ⟨b - 0xC0, 0x80, 0xBF, 0⟩
  else if b = 0xE0 then some ⟨0, 0xA0, 0xBF, 1⟩
  else if b = 0xED then some ⟨13, 0x80, 0x9F, 1⟩
  else if 0xE1 ≤ b ∧ b ≤ 0xEF then some ⟨b - 0xE0, 0x80, 0xBF, 1⟩
  else if b = 0xF0 then some ⟨0, 0x90, 0xBF, 2⟩
  else if 0xF1 ≤ b ∧ b ≤ 0xF3 then some ⟨b - 0xF0, 0x80, 0xBF, 2⟩
  else if b = 0xF4 then some ⟨4, 0x80, 0x8F, 2⟩
  else none

/-- How the continuation bytes of a character came out. -/
inductive Tail where
  /-- All were there: the code point and how many bytes they were. -/
  | complete (code taken : Nat)
  /-- The byte after the first `taken` ones does not continue the character. -/
  | broken (taken : Nat)
  /-- The bytes ended after the first `taken` ones. -/
  | ended (taken : Nat)

/-- Reads the continuation bytes of a character: the next in a given range, `more` plain ones after it. -/
def readTail (least greatest : Nat) : (more code taken : Nat) → List UInt8 → Tail
  | _, _, taken, [] => .ended taken
  | more, code, taken, b :: bs =>
    if least ≤ b.toNat ∧ b.toNat ≤ greatest then
      match more with
      | 0 => .complete (code * 64 + (b.toNat - 0x80)) (taken + 1)
      | more + 1 => readTail 0x80 0xBF more (code * 64 + (b.toNat - 0x80)) (taken + 1) bs
    else .broken taken

/-- Reads bytes that begin at a place of the whole. The number `skip` counts the bytes at the front that
belong to a character read before. -/
def decodeFrom : (place skip : Nat) → List UInt8 → Except Fault (List Char)
  | _, _, [] => .ok []
  | place, skip + 1, _ :: bs => decodeFrom (place + 1) skip bs
  | place, 0, b :: bs =>
    if b.toNat < 0x80 then
      (Char.ofNat b.toNat :: ·) <$> decodeFrom (place + 1) 0 bs
    else match Lead.ofByte? b.toNat with
      | none => .error ⟨place, 1, b, .invalidStart⟩
      | some lead =>
        match readTail lead.least lead.greatest lead.more lead.bits 0 bs with
        | .complete code taken => (Char.ofNat code :: ·) <$> decodeFrom (place + 1) taken bs
        | .broken taken => .error ⟨place, taken + 1, b, .invalidContinuation⟩
        | .ended taken => .error ⟨place, taken + 1, b, .unexpectedEnd⟩

/-- The text that bytes stand for. -/
def decode (bs : List UInt8) : Except Fault (List Char) :=
  decodeFrom 0 0 bs

/-- The bytes of a byte order mark. -/
def mark : List UInt8 := [0xEF, 0xBB, 0xBF]

/-- The text that bytes stand for, less one byte order mark at the front. Places of faults are counted
after the mark. Bytes that end inside the mark stand for nothing. -/
def decodeMarked (bs : List UInt8) : Except Fault (List Char) :=
  if bs.length < 3 && bs.isPrefixOf mark then .ok []
  else if mark.isPrefixOf bs then decode (bs.drop 3)
  else decode bs

/-- The bytes that stand for a text. -/
def encode (s : String) : List UInt8 :=
  s.toUTF8.toList

end Utf8

end TokenLint
