import Condition.Proofs.TokenTexts

/-! # Balanced passages

A passage ends at the delimiter that closes it. Where each delimiter in a text is closed in it
again, but for those in quoted strings, the reading passes over the text at any depth
(`PassesOver`), and a passage that starts with the text ends behind it.

* `passesOver_plain`, `passesOver_quoted`, `PassesOver.enclosed`, `PassesOver.append`: texts from
  parts.
* `takeBalanced_of_passesOver`, `exists_takeBalanced`: the passage up to the delimiter behind such a
  text. -/

namespace Condition.Source

/-- Two characters that may enclose a passage: they differ, and neither is a quote. -/
def AreDelimiters (opening closing : Char) : Prop :=
  opening ≠ closing ∧ (opening ≠ '"' ∧ opening ≠ '\'') ∧ closing ≠ '"' ∧ closing ≠ '\''

instance (opening closing : Char) : Decidable (AreDelimiters opening closing) := by
  unfold AreDelimiters
  infer_instance

/-- Neither a quote nor a delimiter of a passage. -/
def IsPlain (opening closing c : Char) : Prop :=
  (c ≠ '"' ∧ c ≠ '\'') ∧ c ≠ opening ∧ c ≠ closing

instance (opening closing c : Char) : Decidable (IsPlain opening closing c) := by
  unfold IsPlain
  infer_instance

/-- No character of a class is a quote or a delimiter if none of these is in the class. -/
theorem isPlain_of_class {f : Char → Bool} {opening closing c : Char} (h : f c = true)
    (hf : ['"', '\'', opening, closing].any f = false) : IsPlain opening closing c := by
  have hplain := Json.notMem_of_class h hf
  simp only [List.mem_cons, List.not_mem_nil, or_false, not_or] at hplain
  obtain ⟨hdouble, hsingle, hopening, hclosing⟩ := hplain
  exact ⟨⟨hdouble, hsingle⟩, hopening, hclosing⟩

/-- **A text that a passage passes over**, however many levels are open. -/
def PassesOver (opening closing : Char) (text : Text) : Prop :=
  ∀ depth, 1 ≤ depth → ∀ offset rest, ∃ offset',
    balanced opening closing depth offset (text ++ rest) =
      (balanced opening closing depth offset' rest).map fun found => (text ++ found.1, found.2)

variable {opening closing : Char}

/-! ### Steps of a passage -/

/-- A character that is no quote and does not close the passage is taken. -/
theorem balanced_cons {depth : Nat} {c : Char} (hq : c ≠ '"' ∧ c ≠ '\'')
    (hc : ¬(c = closing ∧ depth ≤ 1)) (offset : Nat) (text : Text) :
    balanced opening closing depth offset (c :: text) =
      (balanced opening closing (levelsBehind opening closing depth c) (offset + 1) text).map
        fun found => (c :: found.1, found.2) := by
  have hquote : ¬(c = '"' ∨ c = '\'') := not_or.2 hq
  rw [balanced, if_neg hquote, if_neg hc]

/-- A string between quotes is taken whole. -/
theorem balanced_quoted {quote : Char} (hq : quote = '"' ∨ quote = '\'') {depth : Nat} {body : Text}
    (hb : closeQuote quote body = some (body, [])) (offset : Nat) (text : Text) :
    balanced opening closing depth offset (quote :: (body ++ text)) =
      (balanced opening closing depth (offset + body.length + 1) text).map
        fun found => (quote :: (body ++ found.1), found.2) := by
  have hclose : closeQuote quote (body ++ text) = some (body, text) :=
    closeQuote_append_rest hb text
  rw [balanced, if_pos hq]
  split
  · rename_i hnone
    rw [hclose] at hnone
    cases hnone
  · rename_i hsome
    rw [hclose] at hsome
    cases hsome
    rfl

theorem map_balanced_map {text more : Text} (x : Except Unclosed (Text × Text)) :
    (x.map fun found => (more ++ found.1, found.2)).map (fun found => (text ++ found.1, found.2)) =
      x.map fun found => (text ++ more ++ found.1, found.2) := by
  cases x with
  | error e => rfl
  | ok found => simp only [Except.map, List.append_assoc]

/-! ### Texts that are passed over -/

theorem passesOver_nil : PassesOver opening closing [] := by
  intro depth _ offset rest
  refine ⟨offset, ?_⟩
  rw [List.nil_append]
  cases balanced opening closing depth offset rest <;> rfl

theorem PassesOver.append {text more : Text} (h : PassesOver opening closing text)
    (hm : PassesOver opening closing more) : PassesOver opening closing (text ++ more) := by
  intro depth hd offset rest
  obtain ⟨offset₁, h₁⟩ := h depth hd offset (more ++ rest)
  obtain ⟨offset₂, h₂⟩ := hm depth hd offset₁ rest
  refine ⟨offset₂, ?_⟩
  rw [List.append_assoc, h₁, h₂, map_balanced_map]

theorem passesOver_singleton {c : Char} (hc : IsPlain opening closing c) :
    PassesOver opening closing [c] := by
  obtain ⟨hq, ho, hcl⟩ := hc
  intro depth _ offset rest
  have hlevel : levelsBehind opening closing depth c = depth := by
    rw [levelsBehind, if_neg hcl, if_neg ho]
  refine ⟨offset + 1, ?_⟩
  rw [List.singleton_append, balanced_cons hq fun h => hcl h.1, hlevel]
  rfl

theorem PassesOver.cons {c : Char} {text : Text} (h : PassesOver opening closing text)
    (hc : IsPlain opening closing c) : PassesOver opening closing (c :: text) :=
  (passesOver_singleton hc).append h

/-- A text without quotes and delimiters. -/
theorem passesOver_plain {text : Text} (h : ∀ c ∈ text, IsPlain opening closing c) :
    PassesOver opening closing text := by
  induction text with
  | nil => exact passesOver_nil
  | cons c text ih =>
    obtain ⟨hc, ht⟩ := List.forall_mem_cons.1 h
    exact (ih ht).cons hc

/-- A string between double quotes, whatever is in it. -/
theorem passesOver_quoted {body : Text} (hb : closeQuote '"' body = some (body, [])) :
    PassesOver opening closing ('"' :: body) :=
  fun _ _ offset rest => ⟨_, balanced_quoted (.inl rfl) hb offset rest⟩

/-- Between two more delimiters a text is one level deeper. -/
theorem PassesOver.enclosed {inner : Text} (h : PassesOver opening closing inner)
    (hd : AreDelimiters opening closing) :
    PassesOver opening closing (opening :: (inner ++ [closing])) := by
  obtain ⟨hne, ho, hc⟩ := hd
  intro depth _ offset rest
  obtain ⟨offset', hinner⟩ := h (depth + 1) (Nat.le_add_left 1 depth) (offset + 1) (closing :: rest)
  have hopen : levelsBehind opening closing depth opening = depth + 1 := by
    rw [levelsBehind, if_neg hne, if_pos rfl]
  have hclose : levelsBehind opening closing (depth + 1) closing = depth := by
    rw [levelsBehind, if_pos rfl, Nat.add_sub_cancel]
  have hdeep : ¬(closing = closing ∧ depth + 1 ≤ 1) := by omega
  refine ⟨offset' + 1, ?_⟩
  rw [List.cons_append, List.append_assoc, List.singleton_append, balanced_cons ho fun h => hne h.1,
    hopen, hinner, balanced_cons hc hdeep, hclose]
  cases balanced opening closing depth (offset' + 1) rest with
  | error e => rfl
  | ok found => simp only [Except.map, List.append_assoc, List.cons_append, List.nil_append]

/-! ### Passages -/

/-- **A text that is passed over** is what stands in front of the delimiter that closes it. -/
theorem takeBalanced_of_passesOver {text : Text} (h : PassesOver opening closing text)
    (hd : AreDelimiters opening closing) (passage : Passage) (start position : Nat) (rest : Text) :
    takeBalanced opening closing 1 passage start ⟨text ++ closing :: rest, position⟩ =
      .ok text ⟨rest, position + (text ++ [closing]).length⟩ := by
  obtain ⟨offset', hr⟩ := h 1 (Nat.le_refl 1) 0 (closing :: rest)
  have hend : balanced opening closing 1 offset' (closing :: rest) = .ok ([], rest) := by
    rw [balanced, if_neg (not_or.2 hd.2.2), if_pos ⟨rfl, Nat.le_refl 1⟩]
  have hbody : balanced opening closing 1 0 (text ++ closing :: rest) = .ok (text, rest) := by
    rw [hr, hend]
    simp only [Except.map, List.append_nil]
  unfold takeBalanced
  simp only [hbody]
  rfl

end Condition.Source

namespace Condition.Lookahead

open Source

/-- Behind a lexeme such a text is taken as a passage, and the lookahead then stands behind its
delimiter. -/
theorem exists_takeBalanced {s : Lookahead} {lexeme : Lexeme} {opening closing : Char}
    {text rest : Text}
    (hs : s.slot = .delivered lexeme) (hr : s.source.rest = text ++ closing :: rest)
    (h : PassesOver opening closing text) (hd : AreDelimiters opening closing) (what : Passage)
    (start : Nat) :
    ∃ left, takeBalanced opening closing 1 what start s = .ok text left ∧ StandsAt left rest := by
  obtain ⟨⟨found, position⟩, slot⟩ := s
  dsimp only at hs hr
  subst hs hr
  refine ⟨⟨⟨rest, position + (text ++ [closing]).length⟩, .empty⟩, ?_, _,
    rfl, by rintro other ⟨⟩, rfl⟩
  simp only [takeBalanced, passage, onSource, takeBalanced_of_passesOver h hd]

end Condition.Lookahead
