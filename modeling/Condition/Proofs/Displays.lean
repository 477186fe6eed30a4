import Condition.Expr.Display
import Condition.Proofs.TokenTexts

/-! # Displays of expressions

The walk along the left edge writes what the recursion on the tree would: an operator between its
operands, in parentheses of its own (`display_binary`). An expression whose names are no keywords,
whose strings need no escapes and which has no other operands than these and truth values
(`isPlain`) is written as a text that splits into the tokens of the tree.

* `consistsOf_display`: the tokens of a plain expression.
* `nesting_display`: the parentheses of its text are nested as deep as its operators and groups
  are. -/

namespace Condition

/-! ### Plain text -/

namespace Text

/-- Whether a character is a printable one of ASCII, neither the quote nor the backslash. -/
def isPlainChar (c : Char) : Bool :=
  0x20 ≤ c.toNat && c.toNat < 0x7f && c != '"' && c != '\\'

theorem ne_of_isPlainChar {c : Char} (h : isPlainChar c = true) : c ≠ '"' ∧ c ≠ '\\' := by
  simp only [isPlainChar, Bool.and_eq_true, bne_iff_ne] at h
  exact ⟨h.1.2, h.2⟩

theorem escaped_of_isPlainChar {c : Char} (h : isPlainChar c = true) : escaped c = [c] := by
  obtain ⟨hq, hb⟩ := ne_of_isPlainChar h
  simp only [isPlainChar, Bool.and_eq_true, decide_eq_true_eq] at h
  obtain ⟨⟨⟨hlow, hhigh⟩, -⟩, -⟩ := h
  have hcontrol : c ≠ '\t' ∧ c ≠ '\n' ∧ c ≠ '\r' ∧ c.toNat ≠ 0 := by
    refine ⟨?_, ?_, ?_, by omega⟩ <;> rintro rfl <;> exact absurd hlow (by decide)
  have hprint : isPrintable c = true := by
    rw [isPrintable, if_pos (by omega)]
    simp only [Bool.and_eq_true, decide_eq_true_eq]
    exact ⟨hlow, hhigh⟩
  rw [escaped, if_neg hq, if_neg hb, if_neg hcontrol.1, if_neg hcontrol.2.1, if_neg hcontrol.2.2.1,
    if_neg hcontrol.2.2.2, if_pos hprint]

/-- Plain text stands between its quotes as it is. -/
theorem quoted_of_isPlainChar {text : Text} (h : text.all isPlainChar = true) :
    quoted text = '"' :: (text ++ ['"']) := by
  have hflat : text.flatMap escaped = text := by
    induction text with
    | nil => rfl
    | cons c text ih =>
      rw [List.all_cons, Bool.and_eq_true] at h
      rw [List.flatMap_cons, escaped_of_isPlainChar h.1, ih h.2]
      rfl
  rw [quoted, hflat]

/-! ### Parentheses -/

/-- How deep the parentheses of a text are nested, from a depth on. Those between double quotes do
not count. -/
def nestingFrom (inQuotes : Bool) (depth : Nat) : Text → Nat
  | [] => depth
  | c :: rest =>
    if c = '"' then nestingFrom (!inQuotes) depth rest
    else if inQuotes then nestingFrom true depth rest
    else max depth (nestingFrom false (Source.levelsBehind '(' ')' depth c) rest)

/-- How deep the parentheses of a text are nested. -/
def nesting (text : Text) : Nat := nestingFrom false 0 text

theorem le_nestingFrom (inQuotes : Bool) (depth : Nat) (text : Text) :
    depth ≤ nestingFrom inQuotes depth text := by
  induction text generalizing inQuotes with
  | nil => exact Nat.le_refl depth
  | cons c text ih =>
    rw [nestingFrom]
    split
    · exact ih _
    · split
      · exact ih _
      · exact Nat.le_max_left ..

/-- Characters that are neither quotes nor parentheses make no difference. -/
theorem nestingFrom_append {text : Text} (h : ∀ c ∈ text, c ≠ '"' ∧ c ≠ '(' ∧ c ≠ ')')
    (depth : Nat) (rest : Text) :
    nestingFrom false depth (text ++ rest) = nestingFrom false depth rest := by
  induction text with
  | nil => rfl
  | cons c text ih =>
    obtain ⟨hq, ho, hc⟩ := h c List.mem_cons_self
    have hlevel : Source.levelsBehind '(' ')' depth c = depth := by
      rw [Source.levelsBehind, if_neg hc, if_neg ho]
    rw [List.cons_append, nestingFrom, if_neg hq, if_neg (by simp), hlevel,
      ih fun d hd => h d (List.mem_cons_of_mem c hd)]
    exact Nat.max_eq_right (le_nestingFrom ..)

/-- Nothing between quotes makes a difference. -/
theorem nestingFrom_quoted {text : Text} (h : ∀ c ∈ text, c ≠ '"') (depth : Nat) (rest : Text) :
    nestingFrom false depth ('"' :: (text ++ '"' :: rest)) = nestingFrom false depth rest := by
  have hinner : nestingFrom true depth (text ++ '"' :: rest) = nestingFrom false depth rest := by
    induction text with
    | nil => rfl
    | cons c text ih =>
      rw [List.cons_append, nestingFrom, if_neg (h c List.mem_cons_self), if_pos rfl,
        ih fun d hd => h d (List.mem_cons_of_mem c hd)]
  exact hinner

theorem nestingFrom_leftParen (depth : Nat) (rest : Text) :
    nestingFrom false depth ('(' :: rest) = max depth (nestingFrom false (depth + 1) rest) := rfl

theorem nestingFrom_rightParen (depth : Nat) (rest : Text) :
    nestingFrom false (depth + 1) (')' :: rest) = max (depth + 1) (nestingFrom false depth rest) :=
      rfl

end Text

namespace Expr

open Token

theorem ne_of_mem_symbol (op : Operator) : ∀ c ∈ ' ' :: (op.symbol ++ [' ']),
    c ≠ '"' ∧ c ≠ '(' ∧ c ≠ ')' := by
  have hall : (' ' :: (op.symbol ++ [' '])).all (fun c => c != '"' && (c != '(' && c != ')')) =
      true := by
    cases op <;> rfl
  simpa only [List.all_eq_true, Bool.and_eq_true, bne_iff_ne] using hall

theorem ne_of_continuesWord {c : Char} (h : Text.continuesWord c = true) :
    c ≠ '"' ∧ c ≠ '(' ∧ c ≠ ')' := by
  refine ⟨?_, ?_, ?_⟩ <;> rintro rfl <;> exact absurd h (by decide)

theorem ne_of_isWord {word : Text} (h : Text.isWord word = true) :
    ∀ c ∈ word, c ≠ '"' ∧ c ≠ '(' ∧ c ≠ ')' := by
  intro c hc
  cases word with
  | nil => cases hc
  | cons d word =>
    rw [Text.isWord, Bool.and_eq_true, List.all_eq_true] at h
    rcases List.mem_cons.1 hc with rfl | hc
    · exact ne_of_continuesWord (Text.continuesWord_of_startsWord h.1)
    · exact ne_of_continuesWord (h.2 c hc)

variable [Pattern.Engine] {Q : Type}

/-! ### The text of an operator -/

/-- The walk along the left edge of an operand writes the operand, and goes on with the steps behind
it. -/
theorem display_spineOnto (steps : Steps Q) (e : Expr Q) :
    List.replicate (spineOnto steps e).2.length '(' ++ display (spineOnto steps e).1 ++
        displaySteps (spineOnto steps e).2 =
      List.replicate steps.length '(' ++ (display e ++ displaySteps steps) := by
  induction e generalizing steps with
  | binary op left right ih =>
    -- the walk from this operator itself, which its own display starts
    have hone : display (.binary op left right) =
        '(' :: (display left ++ displaySteps [(op, right)]) := by
      rw [display]
      exact ih [(op, right)]
    rw [spineOnto, ih, hone]
    simp only [displaySteps, List.length_cons, List.replicate_succ', List.append_assoc,
      List.cons_append, List.nil_append]
  | _ => exact List.append_assoc ..

/-- **An operator** is written between its operands, in parentheses. -/
theorem display_binary (op : Operator) (left right : Expr Q) :
    display (.binary op left right) =
      '(' :: (display left ++ ' ' :: (op.symbol ++ ' ' :: (display right ++ [')']))) := by
  rw [display]
  refine (display_spineOnto [(op, right)] left).trans ?_
  simp only [displaySteps, List.length_cons, List.length_nil, List.replicate_succ,
    List.replicate_zero, List.cons_append, List.nil_append, List.append_assoc]

theorem display_group (inner : Expr Q) :
    display (.group inner) = '(' :: (display inner ++ [')']) := by
  rw [display]
  rfl

/-! ### Plain expressions -/

/-- Whether an expression is a bare string. -/
def isString : Expr Q → Bool
  | .string _ => true
  | _ => false

/-- **Whether an expression is plain**: all operands are names, truth values or strings of plain
text, and no string is the right operand of an operator that takes a pattern. -/
def isPlain : Expr Q → Bool
  | .binary op left right =>
    isPlain left && isPlain right && !(op.takesPattern && right.isString)
  | .group inner => isPlain inner
  | .name text => isName text
  | .string text => text.all Text.isPlainChar
  | .boolean _ => true
  | _ => false

/-- The tokens of a plain expression. -/
def tokens : Expr Q → List Token
  | .binary op left right =>
    .leftParen :: (tokens left ++ .operator op :: (tokens right ++ [.rightParen]))
  | .group inner => .leftParen :: (tokens inner ++ [.rightParen])
  | .name text => [.name text]
  | .string text => [.string ('"' :: (text ++ ['"']))]
  | .boolean b => [.boolean b]
  | _ => []

/-- How deep the operators and groups of an expression are nested. -/
def depth : Expr Q → Nat
  | .binary _ left right => max (depth left) (depth right) + 1
  | .group inner => depth inner + 1
  | _ => 0

theorem isPlain_binary {op : Operator} {left right : Expr Q}
    (h : (binary op left right).isPlain = true) :
    left.isPlain = true ∧ right.isPlain = true ∧
      (op.takesPattern = false ∨ right.isString = false) := by
  simp only [isPlain, Bool.and_eq_true, Bool.not_eq_true', Bool.and_eq_false_iff] at h
  exact ⟨h.1.1, h.1.2, h.2⟩

/-! ### The tokens of a plain expression -/

/-- A plain expression starts with a parenthesis, a word or a string. -/
theorem noEqual_display {e : Expr Q} (h : e.isPlain = true) {rest : Text}
    (hr : Text.StopsWord rest) : NoEqual (display e ++ rest) := by
  cases e with
  | binary op left right =>
    rw [display_binary]
    exact ⟨.single '(', _, _, Source.cut_single (by decide) _, by decide⟩
  | group inner =>
    rw [display_group]
    exact ⟨.single '(', _, _, Source.cut_single (by decide) _, by decide⟩
  | name text =>
    rw [isPlain, isName, Bool.and_eq_true] at h
    rw [display]
    exact ⟨.word, _, _, Source.cut_word_dropWhile h.1 hr, by decide⟩
  | boolean b =>
    rw [display]
    exact ⟨.word, _, _, Source.cut_word_dropWhile (by cases b <;> decide) hr, by decide⟩
  | string text =>
    have hplain : Text.Quotable '"' text :=
      Source.quotable_of_plain fun c hc => Text.ne_of_isPlainChar (List.all_eq_true.1 h c hc)
    rw [display, Text.quoted_of_isPlainChar h, List.cons_append, List.append_assoc]
    exact ⟨.quoted, _, _,
      .quoted (.inl rfl) (Source.closeQuote_of_quotable (by decide) hplain rest), by decide⟩
  | _ => cases h

/-- **The tokens of a plain expression** are those of its text, in front of what does not continue a
word. -/
theorem consistsOf_display {e : Expr Q} (h : e.isPlain = true) {rest : Text} {others : List Token}
    (hr : Text.StopsWord rest) (ho : ConsistsOf rest others) :
    ConsistsOf (display e ++ rest) (tokens e ++ others) := by
  induction e generalizing rest others with
  | binary op left right ihl ihr =>
    obtain ⟨hl, hright, -⟩ := isPlain_binary h
    -- from the end of the text to its front, a token at a time
    have hclose : ConsistsOf (')' :: rest) (.rightParen :: others) :=
      ho.cons (begins_rightParen rest) (by simp)
    have hparen := Text.stopsWord_rightParen rest
    have hoperator := ((ihr hright hparen hclose).of_blank (c := ' ') rfl).cons
      (begins_operator op ((noEqual_display hright hparen).of_blank (c := ' ') rfl)
        (Text.stopsWord_blank _)) (by simp)
    have hall := (ihl hl (Text.stopsWord_blank _) (hoperator.of_blank (c := ' ') rfl)).cons
      (begins_leftParen _) (by simp)
    simpa only [display_binary, tokens, List.cons_append, List.append_assoc,
      List.nil_append] using hall
  | group inner ih =>
    have hclose : ConsistsOf (')' :: rest) (.rightParen :: others) :=
      ho.cons (begins_rightParen rest) (by simp)
    have hparen := Text.stopsWord_rightParen rest
    have hall := (ih h hparen hclose).cons (begins_leftParen _) (by simp)
    simpa only [display_group, tokens, List.cons_append, List.append_assoc,
      List.nil_append] using hall
  | name text =>
    rw [display]
    exact ho.cons (begins_name h hr) (by simp)
  | boolean b =>
    rw [display]
    exact ho.cons (begins_boolean b hr) (by simp)
  | string text =>
    have hplain : Text.Quotable '"' text :=
      Source.quotable_of_plain fun c hc => Text.ne_of_isPlainChar (List.all_eq_true.1 h c hc)
    rw [display, Text.quoted_of_isPlainChar h, List.cons_append, List.append_assoc]
    exact ho.cons (begins_quoted (.inl rfl) hplain rest) (by simp)
  | _ => cases h

/-! ### The nesting of a plain expression -/

/-- A plain expression goes as deep from a depth as it is itself, and leaves the depth as it was. -/
theorem nestingFrom_display {e : Expr Q} (h : e.isPlain = true) (start : Nat) (rest : Text) :
    Text.nestingFrom false start (display e ++ rest) =
      max (start + depth e) (Text.nestingFrom false start rest) := by
  have hle := Text.le_nestingFrom false start rest
  induction e generalizing start rest with
  | binary op left right ihl ihr =>
    obtain ⟨hl, hr, -⟩ := isPlain_binary h
    have htext : display (.binary op left right) ++ rest =
        '(' :: (display left ++
            ((' ' :: (op.symbol ++ [' '])) ++ (display right ++ ')' :: rest))) := by
      simp only [display_binary, List.cons_append, List.append_assoc, List.nil_append]
    rw [htext, Text.nestingFrom_leftParen, ihl hl _ _ (Text.le_nestingFrom ..),
      Text.nestingFrom_append (ne_of_mem_symbol op), ihr hr _ _ (Text.le_nestingFrom ..),
      Text.nestingFrom_rightParen, depth]
    omega
  | group inner ih =>
    have htext : display (.group inner) ++ rest = '(' :: (display inner ++ ')' :: rest) := by
      simp only [display_group, List.cons_append, List.append_assoc, List.nil_append]
    rw [htext, Text.nestingFrom_leftParen, ih h _ _ (Text.le_nestingFrom ..),
      Text.nestingFrom_rightParen, depth]
    omega
  | name text =>
    rw [isPlain, isName, Bool.and_eq_true] at h
    rw [display, Text.nestingFrom_append (ne_of_isWord h.1)]
    exact (Nat.max_eq_right hle).symm
  | boolean b =>
    rw [display, Text.nestingFrom_append (ne_of_isWord (by cases b <;> decide))]
    exact (Nat.max_eq_right hle).symm
  | string text =>
    have hplain := fun c hc => (Text.ne_of_isPlainChar (List.all_eq_true.1 h c hc)).1
    rw [display, Text.quoted_of_isPlainChar h, List.cons_append, List.append_assoc]
    exact (Text.nestingFrom_quoted hplain start rest).trans (Nat.max_eq_right hle).symm
  | _ => cases h

/-- **The parentheses of a plain expression** are nested as deep as its operators and groups are. -/
theorem nesting_display {e : Expr Q} (h : e.isPlain = true) :
    Text.nesting (display e) = depth e := by
  have hall := nestingFrom_display h 0 []
  rw [List.append_nil] at hall
  rw [Text.nesting, hall]
  simp [Text.nestingFrom]

end Expr
end Condition
