/-
SqlScript/Text/Utf8.lean

Decoding of UTF-8 with the exact place of the first fault.

A character takes one to four bytes.  The first byte fixes how many follow and, in
four cases, narrows the range of the second one, so that every character has one
encoding and surrogates have none.  A fault is one of three: a byte that starts no
character, a byte that cannot continue the character begun, or the end of the text
inside a character.  It is reported with the bytes of the character that were read
up to it, or these are replaced together by one character.
-/
import SqlScript.Text.Quoted

namespace SqlScript.Text

/-- What is wrong with a sequence of bytes as UTF-8. -/
inductive Utf8Fault where
  | invalidStart
  | invalidContinuation
  | unexpectedEnd
  deriving DecidableEq, Repr

/-- The wording of a fault. -/
def Utf8Fault.reason : Utf8Fault → String
  | .invalidStart => "invalid start byte"
  | .invalidContinuation => "invalid continuation byte"
  | .unexpectedEnd => "unexpected end of data"

/-- A fault and the bytes it concerns. -/
structure Utf8Error where
  fault : Utf8Fault
  /-- The position of the first byte concerned. -/
  start : Nat
  /-- That byte. -/
  byte : UInt8
  /-- How many bytes are concerned. -/
  count : Nat
  deriving DecidableEq, Repr

/-- The wording of an error. -/
def Utf8Error.message (e : Utf8Error) : String :=
  let place := if e.count = 1 then
      "byte 0x" ++ String.ofList (hexDigits 2 e.byte.toNat)
        ++ " in position " ++ toString e.start
    else
      "bytes in position " ++ toString e.start ++ "-" ++ toString (e.start + e.count - 1)
  "'utf-8' codec can't decode " ++ place ++ ": " ++ e.fault.reason

/-- What a first byte announces: its own bits, the number of bytes to follow, and
the range of the first of them. -/
structure Lead where
  bits : Nat
  following : Nat
  low : Nat
  high : Nat

/-- The announcement of a first byte, if it can start a character. -/
def lead? (b : Nat) : Option Lead :=
  if b < 0x80 then some ⟨b, 0, 0, 0⟩
  else if b < 0xc2 then none
  else if b < 0xe0 then some ⟨b - 0xc0, 1, 0x80, 0xbf⟩
  else if b < 0xf0 then
    some ⟨b - 0xe0, 2, if b = 0xe0 then 0xa0 else 0x80, if b = 0xed then 0x9f else 0xbf⟩
  else if b < 0xf5 then
    some ⟨b - 0xf0, 3, if b = 0xf0 then 0x90 else 0x80, if b = 0xf4 then 0x8f else 0xbf⟩
  else none

/-- Reads the bytes that follow a first byte: the code point, or the fault and how
many of them were read. -/
def continuation (bits following low high : Nat) :
    List UInt8 → Except (Utf8Fault × Nat) Nat
  | bytes =>
    match following, bytes with
    | 0, _ => .ok bits
    | _ + 1, [] => .error (.unexpectedEnd, 0)
    | n + 1, b :: rest =>
      if low ≤ b.toNat ∧ b.toNat ≤ high then
        match continuation (bits * 64 + (b.toNat - 0x80)) n 0x80 0xbf rest with
        | .ok code => .ok code
        | .error (fault, read) => .error (fault, read + 1)
      else .error (.invalidContinuation, 0)

/-- Decodes the bytes from position `start` on. -/
def decodeFrom (start : Nat) : List UInt8 → Except Utf8Error (List Char)
  | [] => .ok []
  | b :: rest =>
    match lead? b.toNat with
    | none => .error ⟨.invalidStart, start, b, 1⟩
    | some lead =>
      match continuation lead.bits lead.following lead.low lead.high rest with
      | .error (fault, read) => .error ⟨fault, start, b, read + 1⟩
      | .ok code =>
        match decodeFrom (start + lead.following + 1) (rest.drop lead.following) with
        | .ok cs => .ok (Char.ofNat code :: cs)
        | .error e => .error e
termination_by bytes => bytes.length
decreasing_by simp only [List.length_drop, List.length_cons]; omega

/-- Decodes UTF-8, or tells the first fault. -/
def decodeUtf8 (bytes : List UInt8) : Except Utf8Error (List Char) := decodeFrom 0 bytes

/-- Decodes UTF-8 with a replacement character in the place of each fault. -/
def decodeReplacing : List UInt8 → List Char
  | [] => []
  | b :: rest =>
    match lead? b.toNat with
    | none => '\ufffd' :: decodeReplacing rest
    | some lead =>
      match continuation lead.bits lead.following lead.low lead.high rest with
      | .error (_, read) => '\ufffd' :: decodeReplacing (rest.drop read)
      | .ok code => Char.ofNat code :: decodeReplacing (rest.drop lead.following)
termination_by bytes => bytes.length
decreasing_by all_goals simp only [List.length_drop, List.length_cons]; omega

end SqlScript.Text
