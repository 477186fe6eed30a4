import Condition.Proofs.PathTexts

/-! # Indices and iteration

An index leads to the element of an array that iteration yields in that place, counted from the
front, or from the end if it is negative; beside the array it leads to null. There is one value for
every index.

An index has 64 bits, and so has a length. Found with words of that size (`wordPlaceOf`), where the
distance from the end is a word without sign and may be larger than any index, the place is the
same.

* `placeOf_wordPlaceOf`: the place of an index, found with words.
* `readIndex_word`: every index that is read has 64 bits.
* `index_agrees_with_iterate`: indices and iteration at all places of an array, and beside it. -/

namespace Condition.Path

/-! ### Places found with words -/

/-- How far an index is from zero, as a word without sign. -/
def distance (place : Int64) : UInt64 :=
  if place < 0 then -place.toUInt64 else place.toUInt64

/-- The place in a list of some length that an index means, found with words: as many places from
the end as the index says, or that many from the front. -/
def wordPlaceOf (place : Int64) (length : UInt64) : Option UInt64 :=
  if place < 0 then
    if distance place ≤ length then some (length - distance place) else none
  else some place.toUInt64

theorem lt_zero_iff (place : Int64) : place < 0 ↔ place.toInt < 0 := by
  rw [Int64.lt_iff_toInt_lt]
  rfl

theorem toNat_toUInt64 (place : Int64) :
    (place.toUInt64.toNat : Int) =
      if place.toInt < 0 then place.toInt + UInt64.size else place.toInt := by
  have hword : place.toInt =
      if 2 * place.toUInt64.toNat < UInt64.size then (place.toUInt64.toNat : Int)
      else place.toUInt64.toNat - UInt64.size := BitVec.toInt_eq_toNat_cond place.toBitVec
  have hlt := place.toUInt64.toNat_lt_size
  split at hword <;> split <;> omega

theorem toNat_distance (place : Int64) : (distance place).toNat = place.toInt.natAbs := by
  have hword := toNat_toUInt64 place
  have hlow := place.le_toInt
  unfold distance
  split
  · rename_i hneg
    rw [lt_zero_iff] at hneg
    have hsize : UInt64.size = 2 ^ 64 := rfl
    rw [if_pos hneg, hsize] at hword
    rw [UInt64.toNat_neg, hsize]
    omega
  · rename_i hneg
    rw [lt_zero_iff] at hneg
    rw [if_neg hneg] at hword
    omega

/-- **The place of an index** is the one found with words. -/
theorem placeOf_wordPlaceOf (place : Int64) (length : UInt64) :
    (wordPlaceOf place length).map UInt64.toNat = placeOf place.toInt length.toNat := by
  have hdistance := toNat_distance place
  unfold wordPlaceOf placeOf
  by_cases hneg : place < 0
  · have hneg' : ¬ 0 ≤ place.toInt := Int.not_le.2 ((lt_zero_iff place).1 hneg)
    have hle : distance place ≤ length ↔ place.toInt.natAbs ≤ length.toNat := by
      rw [UInt64.le_iff_toNat_le, hdistance]
    rw [if_pos hneg, if_neg hneg']
    by_cases hinside : distance place ≤ length
    · rw [if_pos hinside, if_pos (hle.1 hinside), Option.map_some,
        UInt64.toNat_sub_of_le _ _ hinside, hdistance]
    · rw [if_neg hinside, if_neg fun h => hinside (hle.2 h)]
      rfl
  · have hneg' : 0 ≤ place.toInt := Int.not_lt.1 fun h => hneg ((lt_zero_iff place).2 h)
    have hword := toNat_toUInt64 place
    rw [if_neg (Int.not_lt.2 hneg')] at hword
    rw [if_neg hneg, if_pos hneg', Option.map_some]
    congr 1
    omega

example : wordPlaceOf Int64.minValue 3 = none ∧ wordPlaceOf (-1) 3 = some 2 := by decide

theorem indexOf?_word {negative : Bool} {digits : Text} {place : Int}
    (h : indexOf? negative digits = some place) : ∃ word : Int64, word.toInt = place := by
  obtain ⟨-, h⟩ := Option.ite_none_left_eq_some.1 h
  obtain ⟨⟨hlow, hhigh⟩, h⟩ := Option.ite_none_right_eq_some.1 h
  obtain rfl := Option.some.inj h
  exact ⟨.ofInt _, Int64.toInt_ofInt_of_le hlow hhigh⟩

/-- **Every index that is read** has 64 bits. -/
theorem readIndex_word {cursor left : Cursor} {place : Int}
    (h : readIndex cursor = .ok place left) : ∃ word : Int64, word.toInt = place := by
  unfold readIndex at h
  dsimp only at h
  split at h
  · rename_i hplace
    cases h
    exact indexOf?_word hplace
  · cases h

/-! ### Places and elements -/

variable {items : List Json}

theorem run_index (place : Int) (items : List Json) : run (.index place) (.array items) =
    [.ok (((placeOf place items.length).bind (items[·]?)).getD .null)] := rfl

theorem run_iterate (items : List Json) : run .iterate (.array items) = items.map .ok :=
  List.append_nil _

theorem placeOf_of_nonneg (i length : Nat) : placeOf i length = some i :=
  if_pos (Int.natCast_nonneg i)

/-- Counted from the end. -/
theorem placeOf_sub_length {i length : Nat} (h : i < length) :
    placeOf (i - length) length = some i := by
  have hneg : ¬ (0 : Int) ≤ i - length := by omega
  have hle : ((i : Int) - length).natAbs ≤ length := by omega
  unfold placeOf
  rw [if_neg hneg, if_pos hle]
  congr 1
  omega

/-- Beside the list there is no element. -/
theorem bind_placeOf_eq_none {place : Int} (h : place < -items.length ∨ items.length ≤ place) :
    (placeOf place items.length).bind (items[·]?) = none := by
  unfold placeOf
  rcases h with h | h
  · have hneg : ¬ 0 ≤ place := by omega
    have hlt : ¬ place.natAbs ≤ items.length := by omega
    rw [if_neg hneg, if_neg hlt]
    rfl
  · have hpos : 0 ≤ place := by omega
    rw [if_pos hpos, Option.bind_some]
    exact List.getElem?_eq_none (by omega)

/-- **Indices and iteration agree** on every array. An index yields one value and no error. In the
array it is the one that iteration yields in that place, whether the index counts from the front or
from the end, and beside the array it is null. Iteration yields as many values as there are
elements, and no error. Every index of 64 bits can be written, every one that is read has 64 bits,
and its place is the one found with words. -/
theorem index_agrees_with_iterate (items : List Json) :
    (∀ place, ∃ v, run (.index place) (.array items) = [.ok v]) ∧
    (∀ (i : Nat) (h : i < items.length),
      run (.index i) (.array items) = [.ok items[i]] ∧
      run (.index (i - items.length)) (.array items) = [.ok items[i]] ∧
      (run .iterate (.array items))[i]? = some (.ok items[i])) ∧
    (∀ place : Int, place < -items.length ∨ items.length ≤ place →
      run (.index place) (.array items) = [.ok .null]) ∧
    ((run .iterate (.array items)).length = items.length ∧
      ∀ item ∈ run .iterate (.array items), ∃ v, item = .ok v) ∧
    (∀ place : Int64, ofText (stepsText [⟨.element place, 0⟩]) = .ok (.index place.toInt)) ∧
    (∀ cursor place left, readIndex cursor = .ok place left → ∃ word : Int64, word.toInt = place) ∧
    ∀ place : Int64, items.length < UInt64.size →
      placeOf place.toInt items.length = (wordPlaceOf place (.ofNat items.length)).map
        UInt64.toNat := by
  refine ⟨fun place => ⟨_, run_index place items⟩, fun i h => ⟨?_, ?_, ?_⟩, fun place h => ?_,
    ⟨?_, ?_⟩, fun place => ofText_stepsText ⟨.element place, 0⟩ [],
    fun _ _ _ h => readIndex_word h, fun place h => ?_⟩
  · rw [run_index, placeOf_of_nonneg, Option.bind_some, List.getElem?_eq_getElem h]
    rfl
  · rw [run_index, placeOf_sub_length h, Option.bind_some, List.getElem?_eq_getElem h]
    rfl
  · rw [run_iterate, List.getElem?_map, List.getElem?_eq_getElem h]
    rfl
  · rw [run_index, bind_placeOf_eq_none h]
    rfl
  · rw [run_iterate, List.length_map]
  · intro item hitem
    rw [run_iterate] at hitem
    obtain ⟨v, -, rfl⟩ := List.mem_map.1 hitem
    exact ⟨v, rfl⟩
  · have hlength : (UInt64.ofNat items.length).toNat = items.length := UInt64.toNat_ofNat_of_lt h
    rw [placeOf_wordPlaceOf, hlength]

end Condition.Path
