/-
SqlScript/Proofs/Text/Utf8.lean

Decoding inverts encoding.

The encoding of a character is a byte that announces how many follow, and those.  The first byte
is told from the range of the code point, so there is one case for each number of bytes.  Code
points that are encoded have no bytes but those that are accepted: the first of the bytes that
follow is narrowed down by the least code point that needs so many bytes, by the surrogates,
which are no characters, and by the greatest code point.
-/
import SqlScript.Text.Utf8

namespace SqlScript.Text

/-- The bytes that encode a text. -/
def encodeUtf8 (cs : List Char) : List UInt8 := cs.flatMap String.utf8EncodeChar

/-- One more byte that follows, if it can. -/
theorem continuation_cons {bits n low high code : Nat} {b : UInt8} {rest : List UInt8}
    (hb : low ≤ b.toNat ∧ b.toNat ≤ high)
    (h : continuation (bits * 64 + (b.toNat - 0x80)) n 0x80 0xbf rest = .ok code) :
    continuation bits (n + 1) low high (b :: rest) = .ok code := by
  rw [continuation, if_pos hb, h]

theorem toNat_byte {n : Nat} (h : n < 256) : (UInt8.ofNat n).toNat = n := by
  rw [UInt8.toNat_ofNat', Nat.mod_eq_of_lt h]

/-- A byte that follows another one brings six bits. -/
theorem continuation_six {bits n code : Nat} {rest : List UInt8} (v : Nat)
    (h : continuation (bits * 64 + v % 64) n 0x80 0xbf rest = .ok code) {low high : Nat}
    (hl : low ≤ v % 64 + 128) (hh : v % 64 + 128 ≤ high) :
    continuation bits (n + 1) low high (UInt8.ofNat (v % 64 + 128) :: rest) = .ok code := by
  have byte := toNat_byte (show v % 64 + 128 < 256 by omega)
  apply continuation_cons
  · rw [byte]
    exact ⟨hl, hh⟩
  · rw [byte, Nat.add_sub_cancel]
    exact h

/-- **The bytes of a character announce themselves**, and are read as the character, whatever
follows them. -/
theorem continuation_encode (c : Char) :
    ∃ b bytes lead, String.utf8EncodeChar c = b :: bytes ∧ lead? b.toNat = some lead ∧
      lead.following = bytes.length ∧ ∀ rest,
        continuation lead.bits lead.following lead.low lead.high (bytes ++ rest) = .ok c.toNat := by
  have valid : c.toNat < 0xd800 ∨ 0xdfff < c.toNat ∧ c.toNat < 0x110000 := c.valid
  have value : c.val.toNat = c.toNat := rfl
  rw [String.utf8EncodeChar, value]
  generalize c.toNat = v at valid
  have six (v : Nat) : 0x80 ≤ v % 64 + 128 ∧ v % 64 + 128 ≤ 0xbf := by omega
  by_cases one : v ≤ 127
  · have byte := toNat_byte (show v < 256 by omega)
    refine ⟨_, _, ⟨v, 0, 0, 0⟩, if_pos one, ?_, rfl, fun rest => rfl⟩
    rw [byte, lead?, if_pos (by omega)]
  by_cases two : v ≤ 2047
  · have byte := toNat_byte (show v / 64 % 32 + 192 < 256 by omega)
    refine ⟨_, _, ⟨v / 64, 1, 0x80, 0xbf⟩, (if_neg one).trans (if_pos two), ?_, rfl, ?_⟩
    · rw [byte, lead?, if_neg (by omega), if_neg (by omega), if_pos (by omega), Option.some.injEq,
        Lead.mk.injEq]
      omega
    · intro rest
      apply continuation_six v _ (six v).1 (six v).2
      show Except.ok (v / 64 * 64 + v % 64) = .ok v
      rw [Nat.div_add_mod']
  by_cases three : v ≤ 65535
  · have byte := toNat_byte (show v / 4096 % 16 + 224 < 256 by omega)
    refine ⟨_, _, ⟨v / 4096, 2, if v / 4096 = 0 then 0xa0 else 0x80,
        if v / 4096 = 13 then 0x9f else 0xbf⟩,
      (if_neg one).trans ((if_neg two).trans (if_pos three)), ?_, rfl, ?_⟩
    · rw [byte, lead?, if_neg (by omega), if_neg (by omega), if_neg (by omega), if_pos (by omega),
        Option.some.injEq, Lead.mk.injEq]
      refine ⟨by omega, rfl, ?_, ?_⟩
      · split <;> split <;> omega
      · split <;> split <;> omega
    · intro rest
      have low : (if v / 4096 = 0 then 0xa0 else 0x80) ≤ v / 64 % 64 + 128 := by
        split <;> omega
      have high : v / 64 % 64 + 128 ≤ if v / 4096 = 13 then 0x9f else 0xbf := by
        split <;> omega
      apply continuation_six (v / 64) _ low high
      apply continuation_six v _ (six v).1 (six v).2
      show Except.ok ((v / 4096 * 64 + v / 64 % 64) * 64 + v % 64) = .ok v
      rw [Except.ok.injEq]
      omega
  · have byte := toNat_byte (show v / 262144 % 8 + 240 < 256 by omega)
    refine ⟨_, _, ⟨v / 262144, 3, if v / 262144 = 0 then 0x90 else 0x80,
        if v / 262144 = 4 then 0x8f else 0xbf⟩,
      (if_neg one).trans ((if_neg two).trans (if_neg three)), ?_, rfl, ?_⟩
    · rw [byte, lead?, if_neg (by omega), if_neg (by omega), if_neg (by omega), if_neg (by omega),
        if_pos (by omega), Option.some.injEq, Lead.mk.injEq]
      refine ⟨by omega, rfl, ?_, ?_⟩
      · split <;> split <;> omega
      · split <;> split <;> omega
    · intro rest
      have low : (if v / 262144 = 0 then 0x90 else 0x80) ≤ v / 4096 % 64 + 128 := by
        split <;> omega
      have high : v / 4096 % 64 + 128 ≤ if v / 262144 = 4 then 0x8f else 0xbf := by
        split <;> omega
      apply continuation_six (v / 4096) _ low high
      apply continuation_six (v / 64) _ (six _).1 (six _).2
      apply continuation_six v _ (six v).1 (six v).2
      show Except.ok (((v / 262144 * 64 + v / 4096 % 64) * 64 + v / 64 % 64) * 64 + v % 64) = .ok v
      rw [Except.ok.injEq]
      omega

theorem decodeFrom_encodeUtf8 (start : Nat) (cs : List Char) :
    decodeFrom start (encodeUtf8 cs) = .ok cs := by
  induction cs generalizing start with
  | nil => rw [encodeUtf8, List.flatMap_nil, decodeFrom]
  | cons c cs ih =>
    obtain ⟨b, bytes, lead, encoded, announced, length, read⟩ := continuation_encode c
    have bytes' : encodeUtf8 (c :: cs) = b :: (bytes ++ encodeUtf8 cs) := by
      rw [encodeUtf8, List.flatMap_cons, encoded]
      rfl
    rw [bytes', decodeFrom, announced]
    simp only [read]
    simp only [length, List.drop_left, ih, Char.ofNat_toNat]

/-- **Decoding inverts encoding.** -/
theorem decodeUtf8_encodeUtf8 (cs : List Char) : decodeUtf8 (encodeUtf8 cs) = .ok cs :=
  decodeFrom_encodeUtf8 0 cs

end SqlScript.Text
