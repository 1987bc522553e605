/-
SqlScript/Archive/Deflate.lean

Data compressed by Huffman codes and repetitions.

The data is a sequence of bits, the lowest bit of each byte first, and falls into
blocks.  A block is stored as it is, or it consists of symbols of two prefix codes: a
symbol of the first is a byte, the end of the block, or the length of a repetition,
which a symbol of the second completes by a distance.  The codes are either fixed or
described at the start of the block by the lengths of their words, from which the
words follow: shorter words come first, and words of equal length are in the order of
their symbols.

`inflate` undoes the compression.  It returns the data and the bytes after it.
-/
namespace SqlScript.Archive

/-! ### Damage -/

/-- Why compressed data has no meaning. -/
inductive Flaw where
  | blockKind
  | storedLength
  | symbolCount
  /-- The words of the code of lengths do not fit together. -/
  | lengthCode
  /-- A length is repeated that is not there, or too often. -/
  | lengthRepeat
  /-- The end of a block has no word. -/
  | noEnd
  /-- The words of the code of literals and lengths do not fit together. -/
  | literalCode
  /-- The words of the code of distances do not fit together. -/
  | distanceCode
  | literalSymbol
  | distanceSymbol
  /-- A distance leads beyond the start of the data. -/
  | distance
  deriving DecidableEq, Repr

/-- The wording of a flaw. -/
def Flaw.message : Flaw → String
  | .blockKind => "invalid block type"
  | .storedLength => "invalid stored block lengths"
  | .symbolCount => "too many length or distance symbols"
  | .lengthCode => "invalid code lengths set"
  | .lengthRepeat => "invalid bit length repeat"
  | .noEnd => "invalid code -- missing end-of-block"
  | .literalCode => "invalid literal/lengths set"
  | .distanceCode => "invalid distances set"
  | .literalSymbol => "invalid literal/length code"
  | .distanceSymbol => "invalid distance code"
  | .distance => "invalid distance too far back"

/-- What is wrong with compressed data. -/
inductive Damage where
  /-- It ends too early. -/
  | truncated
  | corrupt (f : Flaw)
  deriving DecidableEq, Repr

/-- The wording of damage. -/
def Damage.message : Damage → String
  | .truncated => "Compressed file ended before the end-of-stream marker was reached"
  | .corrupt f => "Error -3 while decompressing data: " ++ f.message

/-! ### Bits -/

/-- The bits of bytes, the lowest of each byte first. -/
def bitsOf (bytes : List UInt8) : List Bool :=
  bytes.flatMap fun b => (List.range 8).map b.toNat.testBit

/-- Takes a number of so many bits, the lowest first. -/
def takeNumber : Nat → List Bool → Except Damage (Nat × List Bool)
  | 0, bits => .ok (0, bits)
  | _ + 1, [] => .error .truncated
  | n + 1, b :: bits =>
    match takeNumber n bits with
    | .error d => .error d
    | .ok (high, rest) => .ok (2 * high + b.toNat, rest)

/-- Takes numbers of given widths. -/
def takeNumbers : List Nat → List Bool → Except Damage (List Nat × List Bool)
  | [], bits => .ok ([], bits)
  | width :: widths, bits =>
    match takeNumber width bits with
    | .error d => .error d
    | .ok (first, bits) =>
      match takeNumbers widths bits with
      | .error d => .error d
      | .ok (others, rest) => .ok (first :: others, rest)

/-- Drops the bits up to the next byte. -/
def align (bits : List Bool) : List Bool := bits.drop (bits.length % 8)

/-! ### Prefix codes -/

/-- A prefix code, as the tree of its words. -/
inductive Code where
  | unused
  | symbol (s : Nat)
  | branch (zero one : Code)
  deriving Repr, Inhabited

/-- Adds the word of a symbol. -/
def Code.insert (s : Nat) : List Bool → Code → Code
  | [], _ => .symbol s
  | false :: word, .branch zero one => .branch (insert s word zero) one
  | true :: word, .branch zero one => .branch zero (insert s word one)
  | false :: word, _ => .branch (insert s word .unused) .unused
  | true :: word, _ => .branch .unused (insert s word .unused)

/-- Takes a symbol; what is no word of the code is a flaw. -/
def Code.take (flaw : Flaw) : Code → List Bool → Except Damage (Nat × List Bool)
  | .unused, _ => .error (.corrupt flaw)
  | .symbol s, bits => .ok (s, bits)
  | .branch .., [] => .error .truncated
  | .branch zero one, b :: bits => if b then one.take flaw bits else zero.take flaw bits

/-- A word of a given length, the highest bit first. -/
def wordOf (length value : Nat) : List Bool :=
  (List.range length).reverse.map value.testBit

/-- Adds the words of symbols to a code.  The symbols come with the lengths of their
words, shorter ones first; `next` is the word after the last one, which has the length
`length`. -/
def Code.insertAll (next length : Nat) : List (Nat × Nat) → Code → Code
  | [], code => code
  | (l, s) :: rest, code =>
    let word := next * Nat.pow 2 (l - length)
    insertAll (word + 1) l rest (code.insert s (wordOf l word))

/-- The code whose words have given lengths; a symbol of length zero has no word.  There is
one bit at least to take. -/
def Code.ofLengths (lengths : List Nat) : Code :=
  let used := lengths.zipIdx.filter fun p => p.1 ≠ 0
  insertAll 0 0 (used.mergeSort fun p q => p.1 ≤ q.1) (.branch .unused .unused)

/-- The greatest length of a word. -/
def maxWordLength : Nat := 15

/-- The share of all texts that start with words of given lengths, in units of the texts
that start with one longest word. -/
def share (lengths : List Nat) : Nat :=
  lengths.foldl (fun n l => if l = 0 then n else n + Nat.pow 2 (maxWordLength - l)) 0

/-- Whether words of given lengths fit together so that every text starts with one. -/
def isComplete (lengths : List Nat) : Bool := share lengths = Nat.pow 2 maxWordLength

/-- Whether lengths are those of a code for data: a complete one, or one with a single
word of length one, or with no words at all. -/
def isUsable (lengths : List Nat) : Bool :=
  isComplete lengths
    || (share lengths ≤ Nat.pow 2 maxWordLength && lengths.all (· ≤ 1))

/-! ### Repetitions -/

/-- The least length of each length symbol, and the width of what is added to it. -/
def lengthSymbols : List (Nat × Nat) :=
  [(3, 0), (4, 0), (5, 0), (6, 0), (7, 0), (8, 0), (9, 0), (10, 0), (11, 1), (13, 1),
   (15, 1), (17, 1), (19, 2), (23, 2), (27, 2), (31, 2), (35, 3), (43, 3), (51, 3), (59, 3),
   (67, 4), (83, 4), (99, 4), (115, 4), (131, 5), (163, 5), (195, 5), (227, 5), (258, 0)]

/-- The least distance of each distance symbol, and the width of what is added to it. -/
def distanceSymbols : List (Nat × Nat) :=
  [(1, 0), (2, 0), (3, 0), (4, 0), (5, 1), (7, 1), (9, 2), (13, 2), (17, 3), (25, 3),
   (33, 4), (49, 4), (65, 5), (97, 5), (129, 6), (193, 6), (257, 7), (385, 7), (513, 8),
   (769, 8), (1025, 9), (1537, 9), (2049, 10), (3073, 10), (4097, 11), (6145, 11),
   (8193, 12), (12289, 12), (16385, 13), (24577, 13)]

/-- Takes what a symbol of a table leaves open; a symbol that is not in the table is a
flaw. -/
def takeRest (flaw : Flaw) (table : List (Nat × Nat)) (s : Nat) (bits : List Bool) :
    Except Damage (Nat × List Bool) :=
  match table.drop s with
  | [] => .error (.corrupt flaw)
  | (least, width) :: _ =>
    match takeNumber width bits with
    | .error d => .error d
    | .ok (more, rest) => .ok (least + more, rest)

/-- Takes a distance. -/
def takeDistance (distances : Code) (bits : List Bool) : Except Damage (Nat × List Bool) :=
  match distances.take .distanceSymbol bits with
  | .error d => .error d
  | .ok (s, bits) => takeRest .distanceSymbol distanceSymbols s bits

/-- Repeats so many bytes from a distance back, one after the other. -/
def repeatBack (distance : Nat) : Nat → Array UInt8 → Except Damage (Array UInt8)
  | 0, out => .ok out
  | n + 1, out =>
    if out.size < distance then .error (.corrupt .distance)
    else
      match out[out.size - distance]? with
      | none => .error (.corrupt .distance)
      | some b => repeatBack distance n (out.push b)

/-! ### Blocks -/

/-- Reads the symbols of a block up to its end.  Each symbol takes a bit, so the number
of bits is fuel enough. -/
def symbols (literals distances : Code) :
    Nat → List Bool → Array UInt8 → Except Damage (Array UInt8 × List Bool)
  | 0, _, _ => .error .truncated
  | fuel + 1, bits, out =>
    match literals.take .literalSymbol bits with
    | .error d => .error d
    | .ok (s, bits) =>
      if s < 256 then symbols literals distances fuel bits (out.push s.toUInt8)
      else if s = 256 then .ok (out, bits)
      else
        match takeRest .literalSymbol lengthSymbols (s - 257) bits with
        | .error d => .error d
        | .ok (length, bits) =>
          match takeDistance distances bits with
          | .error d => .error d
          | .ok (distance, bits) =>
            match repeatBack distance length out with
            | .error d => .error d
            | .ok out => symbols literals distances fuel bits out

/-- Reads so many bytes. -/
def storedBytes : Nat → List Bool → Array UInt8 → Except Damage (Array UInt8 × List Bool)
  | 0, bits, out => .ok (out, bits)
  | n + 1, bits, out =>
    match takeNumber 8 bits with
    | .error d => .error d
    | .ok (b, rest) => storedBytes n rest (out.push b.toUInt8)

/-- Reads a stored block: its length, the complement of that, and its bytes. -/
def stored (bits : List Bool) (out : Array UInt8) :
    Except Damage (Array UInt8 × List Bool) :=
  match takeNumber 16 (align bits) with
  | .error d => .error d
  | .ok (length, bits) =>
    match takeNumber 16 bits with
    | .error d => .error d
    | .ok (complement, bits) =>
      if length + complement = 0xffff then storedBytes length bits out
      else .error (.corrupt .storedLength)

/-- The lengths of the fixed code of literals. -/
def fixedLiterals : List Nat :=
  List.replicate 144 8 ++ List.replicate 112 9 ++ List.replicate 24 7 ++ List.replicate 8 8

/-- The lengths of the fixed code of distances; two of its words have no meaning. -/
def fixedDistances : List Nat := List.replicate 32 5

/-- The order in which the lengths of the code of lengths are described. -/
def lengthOrder : List Nat :=
  [16, 17, 18, 0, 8, 7, 9, 6, 10, 5, 11, 4, 12, 3, 13, 2, 14, 1, 15]

/-- How often a symbol repeats a length at least, and the width of what is added to
that. -/
def runOf (s : Nat) : Nat × Nat :=
  if s < 16 then (1, 0) else if s = 16 then (3, 2) else if s = 17 then (3, 3) else (11, 7)

/-- The length that a symbol repeats; it may be the last one read. -/
def lengthOf (last : Option Nat) (s : Nat) : Except Damage Nat :=
  if s < 16 then .ok s
  else if s = 16 then
    match last with
    | some l => .ok l
    | none => .error (.corrupt .lengthRepeat)
  else .ok 0

/-- Reads so many lengths of words, the newest first.  Each symbol stands for one at
least, so their number is fuel enough. -/
def takeLengths (code : Code) (count : Nat) :
    Nat → List Nat → List Bool → Except Damage (List Nat × List Bool)
  | 0, lengths, bits => .ok (lengths, bits)
  | fuel + 1, lengths, bits =>
    if lengths.length = count then .ok (lengths, bits)
    else
      match code.take .lengthCode bits with
      | .error d => .error d
      | .ok (s, bits) =>
        match takeNumber (runOf s).2 bits with
        | .error d => .error d
        | .ok (more, bits) =>
          match lengthOf lengths.head? s with
          | .error d => .error d
          | .ok length =>
            let times := (runOf s).1 + more
            if count < lengths.length + times then .error (.corrupt .lengthRepeat)
            else takeLengths code count fuel (List.replicate times length ++ lengths) bits

/-- The lengths of the code of lengths from their description. -/
def lengthsInOrder (described : List Nat) : List Nat :=
  (List.range 19).map fun s => ((lengthOrder.zip described).lookup s).getD 0

/-- The code of lengths.  Without any words, each bit stands for a length of zero. -/
def codeOfLengths (lengths : List Nat) : Except Damage Code :=
  if lengths.all (· = 0) then .ok (.branch (.symbol 0) (.symbol 0))
  else if isComplete lengths then .ok (.ofLengths lengths)
  else .error (.corrupt .lengthCode)

/-- The codes of a block from the lengths of their words. -/
def codesOf (literals distances : List Nat) : Except Damage (Code × Code) :=
  if (literals.drop 256).headD 0 = 0 then .error (.corrupt .noEnd)
  else if !isUsable literals then .error (.corrupt .literalCode)
  else if !isUsable distances then .error (.corrupt .distanceCode)
  else .ok (.ofLengths literals, .ofLengths distances)

/-- Reads the two codes of a block, of which the first has so many symbols and the second
so many. -/
def takeTwoCodes (literals distances described : Nat) (bits : List Bool) :
    Except Damage ((Code × Code) × List Bool) :=
  match takeNumbers (List.replicate described 3) bits with
  | .error d => .error d
  | .ok (lengths, bits) =>
    match codeOfLengths (lengthsInOrder lengths) with
    | .error d => .error d
    | .ok code =>
      let count := literals + distances
      match takeLengths code count (count + 1) [] bits with
      | .error d => .error d
      | .ok (lengths, bits) =>
        match codesOf (lengths.reverse.take literals) (lengths.reverse.drop literals) with
        | .error d => .error d
        | .ok codes => .ok (codes, bits)

/-- Reads the numbers of symbols of the two codes of a block, and then the codes. -/
def takeCodes (bits : List Bool) : Except Damage ((Code × Code) × List Bool) :=
  match takeNumbers [5, 5, 4] bits with
  | .error d => .error d
  | .ok (counts, bits) =>
    let literals := counts.headD 0 + 257
    let distances := (counts.drop 1).headD 0 + 1
    if 286 < literals || 30 < distances then .error (.corrupt .symbolCount)
    else takeTwoCodes literals distances ((counts.drop 2).headD 0 + 4) bits

/-- Reads a block of a given kind. -/
def block (kind : Nat) (bits : List Bool) (out : Array UInt8) :
    Except Damage (Array UInt8 × List Bool) :=
  match kind with
  | 0 => stored bits out
  | 1 => symbols (.ofLengths fixedLiterals) (.ofLengths fixedDistances) (bits.length + 1) bits out
  | 2 =>
    match takeCodes bits with
    | .error d => .error d
    | .ok ((literals, distances), bits) =>
      symbols literals distances (bits.length + 1) bits out
  | _ => .error (.corrupt .blockKind)

/-- Reads blocks up to the one that is marked as the last.  Each block takes a bit, so
the number of bits is fuel enough. -/
def blocks : Nat → List Bool → Array UInt8 → Except Damage (Array UInt8 × List Bool)
  | 0, _, _ => .error .truncated
  | fuel + 1, bits, out =>
    match takeNumber 3 bits with
    | .error d => .error d
    | .ok (head, bits) =>
      match block (head / 2) bits out with
      | .error d => .error d
      | .ok (out, bits) => if head % 2 = 1 then .ok (out, bits) else blocks fuel bits out

/-- Undoes the compression of data at the front of bytes: the data, and the bytes after
it. -/
def inflate (bytes : List UInt8) : Except Damage (List UInt8 × List UInt8) :=
  let bits := bitsOf bytes
  match blocks (bits.length + 1) bits #[] with
  | .error d => .error d
  | .ok (out, rest) => .ok (out.toList, bytes.drop (bytes.length - rest.length / 8))

end SqlScript.Archive
