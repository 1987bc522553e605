/-
SqlScript/Archive/Gzip.lean

Packed files.

A packed file is a sequence of members.  A member has a mark, a header, compressed
data, the checksum of the data and its length; zeros may follow it.  `unpack` returns
the data of all members.  A file without any bytes has no members.
-/
import SqlScript.Archive.Deflate
import SqlScript.Text.Quoted

namespace SqlScript.Archive

/-! ### Errors -/

/-- Why a file cannot be unpacked. -/
inductive GzipError where
  /-- A member does not start with the mark; the bytes that stand in its place. -/
  | notPacked (start : List UInt8)
  | unknownMethod
  | wrongChecksum (stored computed : Nat)
  | wrongLength
  | damaged (d : Damage)
  deriving DecidableEq, Repr

/-- The hexadecimal text of a number. -/
def hexText (n : Nat) : String := "0x" ++ String.ofList (Nat.toDigits 16 n)

/-- The wording of an error. -/
def GzipError.message : GzipError → String
  | .notPacked start => "Not a gzipped file (" ++ Text.quotedBytes start ++ ")"
  | .unknownMethod => "Unknown compression method"
  | .wrongChecksum stored computed =>
    "CRC check failed " ++ hexText stored ++ " != " ++ hexText computed
  | .wrongLength => "Incorrect length of data produced"
  | .damaged d => d.message

/-! ### Checksums -/

/-- One step of a checksum. -/
def checksumBit (sum : UInt32) : UInt32 :=
  if sum &&& 1 = 1 then (sum >>> 1) ^^^ 0xedb88320 else sum >>> 1

/-- A checksum after one more byte. -/
def checksumByte (sum : UInt32) (b : UInt8) : UInt32 :=
  (List.range 8).foldl (fun sum _ => checksumBit sum) (sum ^^^ b.toUInt32)

/-- The checksum of bytes. -/
def checksum (bytes : List UInt8) : Nat :=
  (bytes.foldl checksumByte 0xffffffff ^^^ 0xffffffff).toNat

/-! ### Members -/

/-- The two bytes that a member starts with. -/
def mark : List UInt8 := [0x1f, 0x8b]

/-- Takes so many bytes. -/
def takeBytes (n : Nat) (bytes : List UInt8) : Except GzipError (List UInt8 × List UInt8) :=
  if bytes.length < n then .error (.damaged .truncated)
  else .ok (bytes.take n, bytes.drop n)

/-- The number that bytes stand for, the lowest first. -/
def numberOf (bytes : List UInt8) : Nat := bytes.foldr (fun b n => 256 * n + b.toNat) 0

/-- Drops bytes up to a zero, and the zero. -/
def dropText (bytes : List UInt8) : List UInt8 := (bytes.dropWhile (· ≠ 0)).drop 1

/-- Drops the parts of a header that its flags announce. -/
def dropParts (flags : Nat) (bytes : List UInt8) : Except GzipError (List UInt8) :=
  let afterExtra : Except GzipError (List UInt8) :=
    if flags.testBit 2 then
      match takeBytes 2 bytes with
      | .error e => .error e
      | .ok (length, rest) =>
        match takeBytes (numberOf length) rest with
        | .error e => .error e
        | .ok (_, rest) => .ok rest
    else .ok bytes
  match afterExtra with
  | .error e => .error e
  | .ok bytes =>
    let bytes := if flags.testBit 3 then dropText bytes else bytes
    let bytes := if flags.testBit 4 then dropText bytes else bytes
    if flags.testBit 1 then
      match takeBytes 2 bytes with
      | .error e => .error e
      | .ok (_, rest) => .ok rest
    else .ok bytes

/-- Drops the header of a member. -/
def dropHeader (bytes : List UInt8) : Except GzipError (List UInt8) :=
  if bytes.take 2 ≠ mark then .error (.notPacked (bytes.take 2))
  else
    match takeBytes 8 (bytes.drop 2) with
    | .error e => .error e
    | .ok (fields, rest) =>
      if fields.headD 0 ≠ 8 then .error .unknownMethod
      else dropParts ((fields.drop 1).headD 0).toNat rest

/-- Compares the data of a member with what stands after it. -/
def verify (bytes trailer : List UInt8) : Except GzipError Unit :=
  let stored := numberOf (trailer.take 4)
  if stored ≠ checksum bytes then .error (.wrongChecksum stored (checksum bytes))
  else if numberOf (trailer.drop 4) ≠ bytes.length % 0x100000000 then .error .wrongLength
  else .ok ()

/-- Reads a member: its data, and the bytes after it and its zeros. -/
def member (bytes : List UInt8) : Except GzipError (List UInt8 × List UInt8) :=
  match dropHeader bytes with
  | .error e => .error e
  | .ok body =>
    match inflate body with
    | .error d => .error (.damaged d)
    | .ok (out, rest) =>
      match takeBytes 8 rest with
      | .error e => .error e
      | .ok (trailer, rest) =>
        match verify out trailer with
        | .error e => .error e
        | .ok () => .ok (out, rest.dropWhile (· = 0))

/-- The data of so many members at most.  Each member takes a byte, so the number of
bytes is fuel enough. -/
def members : Nat → List UInt8 → Except GzipError (List UInt8)
  | _, [] => .ok []
  | 0, _ :: _ => .error (.damaged .truncated)
  | fuel + 1, bytes =>
    match member bytes with
    | .error e => .error e
    | .ok (out, rest) =>
      match members fuel rest with
      | .error e => .error e
      | .ok others => .ok (out ++ others)

/-- The data of a packed file. -/
def unpack (bytes : List UInt8) : Except GzipError (List UInt8) := members bytes.length bytes

end SqlScript.Archive
