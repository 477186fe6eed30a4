import Condition.Text

/-!
# Characters as bytes

The UTF-8 form of a character, and of a range of characters as sequences of ranges of bytes: a
character is in the range when its bytes are, one by one, in the byte ranges of one of the
sequences. A range is cut where the number of bytes changes, at the surrogates, and where a byte
behind the first one would not run through all of its values; `firstBehindCut?` says where the first
cut is.
-/

namespace Condition.Utf8

/-- A byte of a character behind its first one: the lowest six bits of a code point. -/
def tailByte (code : Nat) : Nat := 0x80 + code % 64

/-- The bytes of a code point. -/
def bytes (code : Nat) : List Nat :=
  if code < 0x80 then [code]
  else if code < 0x800 then [0xc0 + code / 64, tailByte code]
  else if code < 0x10000 then [0xe0 + code / 4096, tailByte (code / 64), tailByte code]
  else [0xf0 + code / 262144, tailByte (code / 4096), tailByte (code / 64), tailByte code]

/-- Bytes from a first one to a last one. -/
structure ByteRange where
  first : Nat
  last : Nat
  deriving DecidableEq, Repr

/-- Whether a byte lies in a range. -/
def ByteRange.contains (range : ByteRange) (byte : Nat) : Bool :=
  range.first ≤ byte && byte ≤ range.last

/-- Where a range is cut that has members in several blocks of some size but not all members of its
first or its last block: the first code point behind the cut. -/
def firstBehindBlock? (block first last : Nat) : Option Nat :=
  if first / block = last / block then none
  else if first % block ≠ 0 then some ((first / block + 1) * block)
  else if last % block ≠ block - 1 then some (last / block * block)
  else none

/-- Where a range is first cut: the first code point behind the cut. -/
def firstBehindCut? (first last : Nat) : Option Nat :=
  if first ≤ 0x7f ∧ 0x7f < last then some 0x80
  else if first ≤ 0x7ff ∧ 0x7ff < last then some 0x800
  else if first ≤ 0xffff ∧ 0xffff < last then some 0x10000
  else if last ≤ 0x7f then none
  else (firstBehindBlock? 64 first last).or
    ((firstBehindBlock? 4096 first last).or (firstBehindBlock? 262144 first last))

theorem lt_of_firstBehindBlock? {block first last behind : Nat} (hb : 0 < block) (h : first ≤ last)
    (hc : firstBehindBlock? block first last = some behind) : first < behind ∧ behind ≤ last := by
  have hle : first / block ≤ last / block := Nat.div_le_div_right h
  have hfirst := Nat.div_add_mod first block
  have hlast := Nat.div_add_mod last block
  have hmod := Nat.mod_lt first hb
  unfold firstBehindBlock? at hc
  split at hc
  · cases hc
  · rename_i hne
    have hstep : block * (first / block + 1) ≤ block * (last / block) :=
      Nat.mul_le_mul_left _ (by omega)
    rw [Nat.mul_add, Nat.mul_one] at hstep
    split at hc
    · simp only [Option.some.injEq] at hc
      rw [Nat.mul_comm, Nat.mul_add, Nat.mul_one] at hc
      omega
    · split at hc
      · simp only [Option.some.injEq] at hc
        rw [Nat.mul_comm] at hc
        omega
      · cases hc

theorem lt_of_firstBehindCut? {first last behind : Nat} (h : first ≤ last)
    (hc : firstBehindCut? first last = some behind) : first < behind ∧ behind ≤ last := by
  unfold firstBehindCut? at hc
  split at hc
  · simp only [Option.some.injEq] at hc; omega
  · split at hc
    · simp only [Option.some.injEq] at hc; omega
    · split at hc
      · simp only [Option.some.injEq] at hc; omega
      · split at hc
        · cases hc
        · rcases Option.or_eq_some_iff.1 hc with hc | ⟨_, hc⟩
          · exact lt_of_firstBehindBlock? (by omega) h hc
          · rcases Option.or_eq_some_iff.1 hc with hc | ⟨_, hc⟩
            · exact lt_of_firstBehindBlock? (by omega) h hc
            · exact lt_of_firstBehindBlock? (by omega) h hc

/-- The sequences of byte ranges of a range without surrogates, in ascending order. -/
def sequencesOf (first last : Nat) : List (List ByteRange) :=
  if _h : first ≤ last then
    match _hc : firstBehindCut? first last with
    | some behind => sequencesOf first (behind - 1) ++ sequencesOf behind last
    | none => [List.zipWith ByteRange.mk (bytes first) (bytes last)]
  else []
termination_by last + 1 - first
decreasing_by
  all_goals
    have := lt_of_firstBehindCut? _h _hc
    omega

/-- The sequences of byte ranges of the characters from one code point to another. -/
def sequences (first last : Nat) : List (List ByteRange) :=
  if first < 0xe000 ∧ 0xd7ff < last then sequencesOf first 0xd7ff ++ sequencesOf 0xe000 last
  else sequencesOf first last

end Condition.Utf8
