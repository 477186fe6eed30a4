import Condition.Proofs.JsonPieces

/-! # The texts of JSON values

Every value is read from a piece of the text (`TakesPiece`), in which the brackets are closed but
for those in strings. So an array ends where the passage behind its opening bracket does
(`IsArray`).

* `takesPiece_readValue`, `isLocal_reader`: the pieces of values.
* `exists_isArray_of_read?`: the parts of a text that is an array. -/

namespace Condition.Json

open Numeral Source

/-! ### Elements and members -/

/-- **A reader of values** takes pieces, and no closing bracket. -/
structure Reader.IsLocal (item : Reader Json) : Prop where
  takes : ∀ {text : Text} {value : Json} {rest : Text}, item.run text = some (value, rest) →
    TakesPiece item.run text value rest
  refuses : ∀ {text rest : Text}, skipSpace text = ']' :: rest → item.run text = none

variable {convert : Conversion} {item : Reader Json}

/-- Behind a value come spaces, and then what goes on with an array or an object or ends it. -/
theorem exists_separator (hi : item.IsLocal) {text after behind : Text} {value : Json} {c : Char}
    (hr : item.run text = some (value, after)) (hs : skipSpace after = c :: behind)
    (hc : c = ',' ∨ c = ']' ∨ c = '\x7d') :
    ∃ piece spaces, text = piece ++ (spaces ++ c :: behind) ∧ IsPassage piece ∧
      (∀ d ∈ spaces, isSpace d = true) ∧
      ∀ more, item.run (piece ++ (spaces ++ c :: more)) = some (value, spaces ++ c :: more) ∧
        skipSpace (spaces ++ c :: more) = c :: more := by
  obtain ⟨piece, rfl, hpiece, hrun⟩ := hi.takes hr
  obtain ⟨spaces, hspaces, hafter⟩ := exists_spaces after
  have hstop : isSpace c = false ∧ c.isDigit = false ∧ c ≠ '.' ∧ c ≠ 'e' ∧ c ≠ 'E' := by
    rcases hc with rfl | rfl | rfl <;> decide
  refine ⟨piece, spaces, by rw [hafter, hs], hpiece, hspaces, fun more => ⟨?_, ?_⟩⟩
  · exact hrun _ (stops_spaces hspaces (stops_cons hstop.2 more))
  · rw [skipSpace_append hspaces, skipSpace_cons hstop.1]

/-- **The parts of an array** behind its opening bracket: the text of the first element, and the
text behind it up to the closing bracket. -/
structure IsArray (item : Reader Json) (element others : Text) (value : Json) (items : List Json) :
    Prop where
  head : items.head? = some value
  element_isPassage : IsPassage element
  others_isPassage : IsPassage others
  comma : (∀ c ∈ others, isSpace c = true) ∨
    ∃ spaces more, (∀ c ∈ spaces, isSpace c = true) ∧ IsPassage more ∧
      others = spaces ++ ',' :: more
  run : ∀ more, item.run (element ++ (others ++ ']' :: more)) = some (value, others ++ ']' :: more)
  elements : ∀ more, readElements item (element ++ (others ++ ']' :: more)) = some (items, more)

theorem exists_isArray (hi : item.IsLocal) {text rest : Text} {items : List Json}
    (h : readElements item text = some (items, rest)) :
    ∃ element others value, text = element ++ (others ++ ']' :: rest) ∧
      IsArray item element others value items := by
  fun_induction readElements item text generalizing items with
  | case1 | case4 => cases h
  | case2 text value after hr more hs ih =>
    obtain ⟨found, hf, he⟩ := Option.map_eq_some_iff.1 h
    cases he
    obtain ⟨element, others, _, rfl, ha⟩ := ih hf
    obtain ⟨piece, spaces, rfl, hpiece, hspaces, hrun⟩ := exists_separator hi hr hs (.inl rfl)
    have hothers : IsPassage (element ++ others) := ha.element_isPassage.append ha.others_isPassage
    refine ⟨piece, spaces ++ ',' :: (element ++ others), value, ?_, rfl, hpiece,
      (isPassage_spaces hspaces).append (hothers.cons (by decide)),
      .inr ⟨spaces, _, hspaces, hothers, rfl⟩, fun more => ?_, fun more => ?_⟩
    · simp only [List.append_assoc, List.cons_append]
    · rw [List.append_assoc]
      exact (hrun _).1
    · simp only [List.append_assoc, List.cons_append]
      rw [readElements_eq, (hrun _).1]
      simp only [(hrun _).2, ha.elements, Option.map_some]
  | case3 text value after hr more hs =>
    cases h
    obtain ⟨piece, spaces, rfl, hpiece, hspaces, hrun⟩ :=
      exists_separator hi hr hs (.inr (.inl rfl))
    refine ⟨piece, spaces, value, rfl, rfl, hpiece, isPassage_spaces hspaces, .inl hspaces,
      fun more => (hrun more).1, fun more => ?_⟩
    rw [readElements_eq, (hrun more).1]
    simp only [(hrun more).2]

/-- A name is taken with its colon, whatever follows. -/
theorem readName_eq_some {text rest name : Text} (h : readName text = some (name, rest)) :
    ∃ piece, text = piece ++ rest ∧ IsPassage piece ∧
      ∀ more, readName (piece ++ more) = some (name, more) := by
  obtain ⟨spaces, hspaces, htext⟩ := exists_spaces text
  unfold readName at h
  split at h
  · rename_i inside hq
    obtain ⟨⟨content, after⟩, hr, h⟩ := Option.bind_eq_some_iff.1 h
    dsimp only at h
    split at h
    · rename_i behind hc
      cases h
      obtain ⟨body, rfl, hopen, hbody⟩ := readString_eq_some hr
      obtain ⟨gap, hgap, hafter⟩ := exists_spaces after
      refine ⟨spaces ++ ('"' :: (body ++ ['"']) ++ (gap ++ [':'])), ?_, ?_, fun more => ?_⟩
      · rw [htext, hq, hafter, hc]
        simp only [List.append_assoc, List.cons_append, List.nil_append]
      · exact (isPassage_spaces hspaces).append ((isPassage_quoted hopen).append
          ((isPassage_spaces hgap).append (passesOver_singleton (by decide))))
      · have hname : skipSpace (spaces ++ '"' :: (body ++ '"' :: (gap ++ ':' :: more))) =
            '"' :: (body ++ '"' :: (gap ++ ':' :: more)) := by
          rw [skipSpace_append hspaces, skipSpace_cons rfl]
        have hcolon : skipSpace (gap ++ ':' :: more) = ':' :: more := by
          rw [skipSpace_append hgap, skipSpace_cons rfl]
        simp only [List.append_assoc, List.cons_append, List.nil_append, readName, hname, hbody,
          hcolon, bind, Option.bind_some, pure]
    · cases h
  · cases h

theorem readMembers_eq (item : Reader Json) (text : Text) : readMembers item text =
    match readName text with
    | none => none
    | some (name, behind) =>
      match item.run behind with
      | none => none
      | some (value, rest) =>
        match skipSpace rest with
        | ',' :: more => (readMembers item more).map fun found =>
          ((name, value) :: found.1, found.2)
        | '\x7d' :: more => some ([(name, value)], more)
        | _ => none := by
  rw [readMembers]
  split
  · rename_i hn
    simp only [hn]
  · rename_i hn
    simp only [hn]
    split
    · rename_i h
      simp only [h]
    · rename_i h
      simp only [h]
      split
      · rename_i hs
        simp only [hs]
      · rename_i hs
        simp only [hs]
      · rename_i hc hb
        split
        · rename_i more hs
          exact absurd hs (hc more)
        · rename_i more hs
          exact absurd hs (hb more)
        · rfl

theorem readMembers_eq_some (hi : item.IsLocal) {text rest : Text} {members : List (Text × Json)}
    (h : readMembers item text = some (members, rest)) :
    ∃ piece, text = piece ++ rest ∧ IsPassage piece ∧
      ∀ more, readMembers item (piece ++ more) = some (members, more) := by
  fun_induction readMembers item text generalizing members with
  | case1 | case2 | case5 => cases h
  | case3 text name inside hn value after hr more hs ih =>
    obtain ⟨found, hf, he⟩ := Option.map_eq_some_iff.1 h
    cases he
    obtain ⟨others, rfl, hothers, hmembers⟩ := ih hf
    obtain ⟨piece, spaces, rfl, hpiece, hspaces, hrun⟩ := exists_separator hi hr hs (.inl rfl)
    obtain ⟨called, rfl, hcalled, hname⟩ := readName_eq_some hn
    refine ⟨called ++ (piece ++ (spaces ++ ',' :: others)), ?_, ?_, fun more => ?_⟩
    · simp only [List.append_assoc, List.cons_append]
    · exact hcalled.append (hpiece.append ((isPassage_spaces hspaces).append
        (hothers.cons (by decide))))
    · simp only [List.append_assoc, List.cons_append]
      rw [readMembers_eq, hname]
      simp only [(hrun _).1, (hrun _).2, hmembers, Option.map_some]
  | case4 text name inside hn value after hr more hs =>
    cases h
    obtain ⟨piece, spaces, rfl, hpiece, hspaces, hrun⟩ :=
      exists_separator hi hr hs (.inr (.inr rfl))
    obtain ⟨called, rfl, hcalled, hname⟩ := readName_eq_some hn
    refine ⟨called ++ (piece ++ (spaces ++ ['\x7d'])), ?_, ?_, fun more => ?_⟩
    · simp only [List.append_assoc, List.cons_append, List.nil_append]
    · exact hcalled.append (hpiece.append ((isPassage_spaces hspaces).append
        (passesOver_singleton (by decide))))
    · simp only [List.append_assoc, List.cons_append, List.nil_append]
      rw [readMembers_eq, hname]
      simp only [(hrun _).1, (hrun _).2]

/-! ### Values -/

theorem readElements_eq_none (hi : item.IsLocal) {text rest : Text}
    (h : skipSpace text = ']' :: rest) : readElements item text = none := by
  rw [readElements_eq, hi.refuses h]

/-- **The parts of an array** are read as one, whatever follows. -/
theorem IsArray.readArray_eq {element others : Text} {value : Json} {items : List Json}
    (h : IsArray item element others value items) (hi : item.IsLocal) (more : Text) :
    readArray item (element ++ (others ++ ']' :: more)) = some (.array items, more) := by
  unfold readArray
  split
  · rename_i hs
    have hnone := readElements_eq_none hi hs
    rw [h.elements] at hnone
    cases hnone
  · rw [h.elements]
    rfl

/-- An array with elements has them behind its opening bracket. -/
theorem readElements_of_readArray {text rest : Text} {items : List Json}
    (h : readArray item text = some (.array items, rest)) (hne : items ≠ []) :
    readElements item text = some (items, rest) := by
  unfold readArray at h
  split at h
  · cases h
    exact absurd rfl hne
  · obtain ⟨found, hf, he⟩ := Option.map_eq_some_iff.1 h
    cases he
    exact hf

/-- An array is taken with its brackets, whatever follows. -/
theorem readArray_eq_some (hi : item.IsLocal) {text rest : Text} {value : Json}
    (h : readArray item text = some (value, rest)) :
    ∃ inner, text = inner ++ ']' :: rest ∧ IsPassage inner ∧
      ∀ more, readArray item (inner ++ ']' :: more) = some (value, more) := by
  obtain ⟨spaces, hspaces, htext⟩ := exists_spaces text
  unfold readArray at h
  split at h
  · rename_i behind hs
    cases h
    refine ⟨spaces, by rw [← hs]; exact htext, isPassage_spaces hspaces, fun more => ?_⟩
    have hbracket : skipSpace (spaces ++ ']' :: more) = ']' :: more := by
      rw [skipSpace_append hspaces, skipSpace_cons rfl]
    simp only [readArray, hbracket]
  · obtain ⟨found, hf, he⟩ := Option.map_eq_some_iff.1 h
    cases he
    obtain ⟨element, others, _, rfl, ha⟩ := exists_isArray hi hf
    refine ⟨element ++ others, (List.append_assoc _ _ _).symm,
      ha.element_isPassage.append ha.others_isPassage, fun more => ?_⟩
    rw [List.append_assoc]
    exact ha.readArray_eq hi more

theorem exists_items_of_readArray {text rest : Text} {value : Json}
    (h : readArray item text = some (value, rest)) : ∃ items, value = .array items := by
  unfold readArray at h
  split at h
  · cases h
    exact ⟨[], rfl⟩
  · obtain ⟨found, -, he⟩ := Option.map_eq_some_iff.1 h
    cases he
    exact ⟨found.1, rfl⟩

theorem kind_of_readObject {text rest : Text} {value : Json}
    (h : readObject item text = some (value, rest)) : value.kind = .object := by
  unfold readObject at h
  split at h
  · cases h
    rfl
  · obtain ⟨found, -, he⟩ := Option.map_eq_some_iff.1 h
    cases he
    rfl

/-- An object is taken with its braces, whatever follows. -/
theorem readObject_eq_some (hi : item.IsLocal) {text rest : Text} {value : Json}
    (h : readObject item text = some (value, rest)) :
    ∃ piece, text = piece ++ rest ∧ IsPassage piece ∧
      ∀ more, readObject item (piece ++ more) = some (value, more) := by
  obtain ⟨spaces, hspaces, htext⟩ := exists_spaces text
  unfold readObject at h
  split at h
  · rename_i behind hs
    cases h
    refine ⟨spaces ++ ['\x7d'], ?_, ?_, fun more => ?_⟩
    · rw [List.append_assoc, List.singleton_append, ← hs]
      exact htext
    · exact (isPassage_spaces hspaces).append (passesOver_singleton (by decide))
    · have hbrace : skipSpace (spaces ++ '\x7d' :: more) = '\x7d' :: more := by
        rw [skipSpace_append hspaces, skipSpace_cons rfl]
      simp only [List.append_assoc, List.singleton_append, readObject, hbrace]
  · obtain ⟨found, hf, he⟩ := Option.map_eq_some_iff.1 h
    cases he
    obtain ⟨piece, rfl, hpiece, hread⟩ := readMembers_eq_some hi hf
    refine ⟨piece, rfl, hpiece, fun more => ?_⟩
    unfold readObject
    split
    · rename_i hs
      -- no name starts with a brace
      have hname : readName (piece ++ more) = none := by
        unfold readName
        rw [hs]
        rfl
      have hnone := hread more
      rw [readMembers_eq, hname] at hnone
      cases hnone
    · rw [hread]
      rfl

theorem readWord_eq_some {word text rest : Text} {value found : Json}
    (h : readWord word value text = some (found, rest)) :
    text = word ++ rest ∧ ∀ more, readWord word value (word ++ more) = some (found, more) := by
  unfold readWord at h ⊢
  split at h
  · rename_i hword
    cases h
    obtain ⟨behind, rfl⟩ := List.isPrefixOf_iff_prefix.1 hword
    refine ⟨by rw [List.drop_left], fun more => ?_⟩
    rw [if_pos (List.isPrefixOf_iff_prefix.2 (List.prefix_append word more)), List.drop_left]
  · cases h

theorem readValue_spaces (item? : Option (Reader Json)) {spaces : Text}
    (h : ∀ c ∈ spaces, isSpace c = true) (text : Text) :
    readValue convert item? (spaces ++ text) = readValue convert item? text := by
  rw [← readValue_skipSpace, skipSpace_append h, readValue_skipSpace]

section

variable {item? : Option (Reader Json)} {text behind rest : Text} {value : Json}

theorem TakesPiece.of_skipSpace
    (h : TakesPiece (readValue convert item?) (skipSpace text) value rest) :
    TakesPiece (readValue convert item?) text value rest := by
  obtain ⟨spaces, hspaces, htext⟩ := exists_spaces text
  obtain ⟨piece, hp, hpassage, hread⟩ := h
  refine ⟨spaces ++ piece, ?_, (isPassage_spaces hspaces).append hpassage, fun more hs => ?_⟩
  · rw [List.append_assoc, ← hp]
    exact htext
  · rw [List.append_assoc, readValue_spaces item? hspaces]
    exact hread more hs

theorem takesPiece_array {item : Reader Json} (hi : item.IsLocal)
    (h : readArray item behind = some (value, rest)) :
    TakesPiece (readValue convert (some item)) ('[' :: behind) value rest := by
  obtain ⟨inner, rfl, hinner, hread⟩ := readArray_eq_some hi h
  refine ⟨'[' :: (inner ++ [']']), ?_, hinner.enclosed (by decide), fun more _ => ?_⟩
  · simp only [List.append_assoc, List.cons_append, List.nil_append]
  · rw [List.cons_append, List.append_assoc]
    exact hread more

theorem takesPiece_object {item : Reader Json} (hi : item.IsLocal)
    (h : readObject item behind = some (value, rest)) :
    TakesPiece (readValue convert (some item)) ('\x7b' :: behind) value rest := by
  obtain ⟨piece, rfl, hpiece, hread⟩ := readObject_eq_some hi h
  exact ⟨'\x7b' :: piece, rfl, hpiece.cons (by decide), fun more _ => hread more⟩

theorem takesPiece_string {content : Text} (h : readString behind = some (content, rest)) :
    TakesPiece (readValue convert item?) ('"' :: behind) (.string content) rest := by
  obtain ⟨body, rfl, hopen, hbody⟩ := readString_eq_some h
  refine ⟨'"' :: (body ++ ['"']), ?_, isPassage_quoted hopen, fun more _ => ?_⟩
  · simp only [List.append_assoc, List.cons_append, List.nil_append]
  · have hvalue : readValue convert item? ('"' :: (body ++ '"' :: more)) =
        (readString (body ++ '"' :: more)).map fun found => (.string found.1, found.2) := rfl
    rw [List.cons_append, List.append_assoc, List.singleton_append, hvalue, hbody]
    rfl

theorem takesPiece_word {c : Char} {word : Text} {meant : Json} (hp : IsPassage (c :: word))
    (hv : ∀ more, readValue convert item? (c :: more) = readWord word meant more)
    (h : readWord word meant behind = some (value, rest)) :
    TakesPiece (readValue convert item?) (c :: behind) value rest := by
  obtain ⟨rfl, hread⟩ := readWord_eq_some h
  refine ⟨c :: word, rfl, hp, fun more _ => ?_⟩
  rw [List.cons_append, hv, hread]

theorem takesPiece_number {number : Number} (h : readNumber convert text = some (number, rest)) :
    TakesPiece (readValue convert item?) text (.number number) rest := by
  obtain ⟨sign, n, hsigned, rfl, hread⟩ := readNumber_eq_some h
  refine ⟨sign ++ n.spelling, (List.append_assoc _ _ _).symm, hsigned.isPassage, fun more hs => ?_⟩
  rw [List.append_assoc, hsigned.readValue_eq, hread more hs]
  rfl

/-- **A value** is taken from the front of a text, with the spaces in front of it. -/
theorem takesPiece_readValue (hi : ∀ item ∈ item?, item.IsLocal)
    (h : readValue convert item? text = some (value, rest)) :
    TakesPiece (readValue convert item?) text value rest := by
  refine .of_skipSpace ?_
  unfold readValue at h
  split at h
  case h_1 hs =>
    obtain ⟨item, rfl, h⟩ := Option.bind_eq_some_iff.1 h
    rw [hs]
    exact takesPiece_array (hi item rfl) h
  case h_2 hs =>
    obtain ⟨item, rfl, h⟩ := Option.bind_eq_some_iff.1 h
    rw [hs]
    exact takesPiece_object (hi item rfl) h
  case h_3 hs =>
    obtain ⟨found, hf, he⟩ := Option.map_eq_some_iff.1 h
    cases he
    rw [hs]
    exact takesPiece_string hf
  case h_4 hs | h_5 hs | h_6 hs =>
    rw [hs]
    exact takesPiece_word (passesOver_plain (by simp [IsPlain])) (fun _ => rfl) h
  case h_7 =>
    obtain ⟨found, hf, he⟩ := Option.map_eq_some_iff.1 h
    cases he
    exact takesPiece_number hf

/-- **The forms of a value** that matter in an array: strings, numbers and arrays. -/
theorem readValue_cases (h : readValue convert item? text = some (value, rest)) :
    (∃ content behind, skipSpace text = '"' :: behind ∧ readString behind = some (content, rest) ∧
        value = .string content) ∨
      (∃ number, readNumber convert (skipSpace text) = some (number, rest) ∧
        value = .number number) ∨
      (∃ item items behind, item? = some item ∧ skipSpace text = '[' :: behind ∧
        readArray item behind = some (.array items, rest) ∧ value = .array items) ∨
      (value.kind ≠ .string ∧ value.kind ≠ .number ∧ value.kind ≠ .array) := by
  unfold readValue at h
  split at h
  case h_1 hs =>
    obtain ⟨item, rfl, h⟩ := Option.bind_eq_some_iff.1 h
    obtain ⟨items, rfl⟩ := exists_items_of_readArray h
    exact .inr (.inr (.inl ⟨item, items, _, rfl, hs, h, rfl⟩))
  case h_2 =>
    obtain ⟨item, rfl, h⟩ := Option.bind_eq_some_iff.1 h
    have hkind := kind_of_readObject h
    refine .inr (.inr (.inr ?_))
    rw [hkind]
    decide
  case h_3 hs =>
    obtain ⟨found, hf, he⟩ := Option.map_eq_some_iff.1 h
    cases he
    exact .inl ⟨found.1, _, hs, hf, rfl⟩
  case h_4 | h_5 | h_6 =>
    refine .inr (.inr (.inr ?_))
    rw [eq_of_readWord h]
    decide
  case h_7 =>
    obtain ⟨found, hf, he⟩ := Option.map_eq_some_iff.1 h
    cases he
    exact .inr (.inl ⟨found.1, hf, rfl⟩)

end

theorem refuses_readValue (item? : Option (Reader Json)) {text rest : Text}
    (h : skipSpace text = ']' :: rest) : readValue convert item? text = none := by
  rw [← readValue_skipSpace, h, readValue_number item? rfl (by decide),
    readNumber_eq_none rfl (by decide)]
  rfl

/-- **Every reader of values** takes pieces. -/
theorem isLocal_reader (depth : Nat) : (reader convert depth).IsLocal := by
  induction depth with
  | zero => exact ⟨fun h => takesPiece_readValue (by rintro item ⟨⟩) h, refuses_readValue none⟩
  | succ depth ih =>
    refine ⟨fun h => takesPiece_readValue ?_ h, refuses_readValue (some (reader convert depth))⟩
    rintro item ⟨⟩
    exact ih

/-! ### Elements of an array -/

section

variable {depth : Nat} {element others : Text} {value : Json} {items : List Json}

/-- Behind the first element nothing goes on with a number. -/
theorem IsArray.stops (h : IsArray item element others value items) (more : Text) :
    Stops (others ++ ']' :: more) := by
  rcases h.comma with hs | ⟨spaces, behind, hs, -, rfl⟩
  · exact stops_spaces hs (stops_cons (by decide) more)
  · rw [List.append_assoc]
    exact stops_spaces hs (stops_cons (by decide) _)

/-- The first element is a value by itself. -/
theorem IsArray.readValue_eq (h : IsArray (reader convert depth) element others value items) :
    ∃ item?, readValue convert item? (element ++ (others ++ [']'])) =
      some (value, others ++ [']']) := by
  obtain ⟨item?, hi⟩ := run_reader convert depth
  have hrun := h.run []
  rw [hi] at hrun
  exact ⟨item?, hrun⟩

/-- **A first element that is a string** stands between quotes, behind spaces. -/
theorem IsArray.exists_string {content : Text}
    (h : IsArray (reader convert depth) element others (.string content) items) :
    ∃ spaces body, (∀ c ∈ spaces, isSpace c = true) ∧ KeepsOpen body ∧
      element = spaces ++ '"' :: (body ++ ['"']) := by
  obtain ⟨item?, hvalue⟩ := h.readValue_eq
  obtain ⟨spaces, hspaces, htext⟩ := exists_spaces (element ++ (others ++ [']']))
  rcases readValue_cases hvalue with ⟨_, behind, hs, hr, -⟩ | ⟨_, -, he⟩
    | ⟨_, _, _, -, -, -, he⟩ | hk
  · obtain ⟨body, rfl, hopen, -⟩ := readString_eq_some hr
    refine ⟨spaces, body, hspaces, hopen, (List.append_left_inj (others ++ [']'])).1 ?_⟩
    rw [htext, hs]
    simp only [List.append_assoc, List.cons_append, List.nil_append]
  · cases he
  · cases he
  · exact absurd rfl hk.1

/-- **A first element that is a number** is a numeral with a sign, behind spaces. -/
theorem IsArray.exists_number {number : Number}
    (h : IsArray (reader convert depth) element others (.number number) items) :
    ∃ spaces sign n, (∀ c ∈ spaces, isSpace c = true) ∧ IsSigned sign n ∧
      element = spaces ++ (sign ++ n.spelling) := by
  obtain ⟨item?, hvalue⟩ := h.readValue_eq
  obtain ⟨spaces, hspaces, htext⟩ := exists_spaces (element ++ (others ++ [']']))
  rcases readValue_cases hvalue with ⟨_, _, -, -, he⟩ | ⟨_, hr, -⟩ | ⟨_, _, _, -, -, -, he⟩ | hk
  · cases he
  · obtain ⟨sign, n, hsigned, hfront, -⟩ := readNumber_eq_some hr
    refine ⟨spaces, sign, n, hspaces, hsigned, (List.append_left_inj (others ++ [']'])).1 ?_⟩
    rw [htext, hfront]
    simp only [List.append_assoc]
  · cases he
  · exact absurd rfl hk.2.1

/-! ### Whole texts -/

end

section

variable {dialect : Dialect} {element others : Text} {value : Json} {items : List Json}

/-- The text between brackets, when it is an array, is one with the brackets alone. -/
theorem IsArray.read?_eq {depth : Nat} (hd : dialect.depth = depth + 1)
    (h : IsArray (reader dialect.convert depth) element others value items) :
    dialect.read? ('[' :: (element ++ others ++ [']'])) = some (.array items) := by
  rw [Dialect.read?_bracket depth hd, List.append_assoc, h.readArray_eq (isLocal_reader depth)]
  rfl

/-- **A text that is an array** with elements: spaces, its brackets with its parts between them, and
spaces. -/
theorem exists_isArray_of_read? {text : Text} (h : dialect.read? text = some (.array items))
    (hne : items ≠ []) : ∃ depth lead element others value trail, dialect.depth = depth + 1 ∧
      (∀ c ∈ lead, isSpace c = true) ∧ (∀ c ∈ trail, isSpace c = true) ∧
      text = lead ++ '[' :: (element ++ (others ++ ']' :: trail)) ∧
      IsArray (reader dialect.convert depth) element others value items := by
  unfold Dialect.read? at h
  split at h
  · rename_i found trail hr
    split at h
    · rename_i htrail
      cases h
      obtain ⟨lead, hlead, htext⟩ := exists_spaces text
      obtain ⟨tail, htail, hend⟩ := exists_spaces trail
      rw [List.isEmpty_iff.1 htrail, List.append_nil] at hend
      obtain ⟨item?, hrun, hitem⟩ : ∃ item?,
          (reader dialect.convert dialect.depth).run = readValue dialect.convert item? ∧
          ∀ item ∈ item?, ∃ depth, dialect.depth = depth + 1 ∧
              item = reader dialect.convert depth := by
        cases dialect.depth with
        | zero => exact ⟨none, rfl, nofun⟩
        | succ depth =>
          refine ⟨some (reader dialect.convert depth), rfl, ?_⟩
          rintro item ⟨⟩
          exact ⟨depth, rfl, rfl⟩
      rw [hrun] at hr
      rcases readValue_cases hr with ⟨_, _, -, -, he⟩ | ⟨_, -, he⟩ | ⟨_, _, inside, hi, hs, ha, he⟩
        | hk
      · cases he
      · cases he
      · cases he
        obtain ⟨depth, hdepth, rfl⟩ := hitem _ hi
        have helements := readElements_of_readArray ha hne
        obtain ⟨element, others, value, rfl, hparts⟩ :=
          exists_isArray (isLocal_reader depth) helements
        exact ⟨depth, lead, element, others, value, trail, hdepth, hlead, hend ▸ htail,
          by rw [← hs, ← htext], hparts⟩
      · exact absurd rfl hk.2.2
    · cases h
  · cases h

end

end Condition.Json
