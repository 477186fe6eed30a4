import Condition.Json.Numbers
import Condition.Pattern.Automata
import Condition.Proofs.ArrayLiterals
import Condition.Proofs.BracketPaths
import Condition.Proofs.JsonTexts
import Condition.Proofs.RoundTrip

/-! # Arrays as operands

A JSON array of strings or numbers is an operand as it is written: the bracket is looked into for
the segment of a path, what was looked at is put back, and the passage up to the closing bracket is
the array. Only an array with one unsigned integer in it is a path (`IsLoneInteger`).

* `begins_array_of_piece`, `begins_array_of_integer`: arrays as tokens, by what stands first in
  them.
* `IsArray.exists_isAsWritten_of_string`, `IsArray.exists_isAsWritten_of_number`: JSON arrays as
  such tokens.
* `ofText_member_array`, `ofText_member_integer`: conditions with brackets as their right
  operand. -/

namespace Condition

open Json

/-! ### Arrays as tokens -/

namespace Token

open Lookahead Source

/-- The rest of an array: a piece that is no bracket, and the passage behind it. -/
theorem exists_arrayRest {s : Lookahead} {text piece more rest : Text} {kind : Lexeme.Kind}
    (hs : StandsAt s text) (hc : Cut (text.dropWhile Text.isBlank) kind piece (more ++ ']' :: rest))
    (hk : kind ∉ [.endOfText, .single ']', .single '[']) (hm : IsPassage more) (taken : Text)
    (opening : Lexeme) :
    ∃ left, arrayRest taken opening s = .ok (.array (taken ++ piece ++ more)) left ∧
      StandsAt left rest := by
  obtain ⟨first, t, ht, hkind, htext, hslot, hrest⟩ := hs.exists_delivered hc
  obtain ⟨left, hbody, hleft⟩ := exists_takeBalanced hslot hrest hm (by decide) .arrayLiteral
    opening.position
  simp only [List.mem_cons, List.not_mem_nil, or_false, not_or] at hk
  have hend : ¬ first.isEnd = true := by simpa [Lexeme.isEnd, hkind] using hk.1
  have hclosing : ¬ first.isSingle ']' = true := by simpa [Lexeme.isSingle, hkind] using hk.2.1
  have hopening : ¬ first.isSingle '[' = true := by simpa [Lexeme.isSingle, hkind] using hk.2.2
  refine ⟨left, bind_eq_ok.2 ⟨first, t, ht, ?_⟩, hleft⟩
  rw [if_neg hend, if_neg hclosing, if_neg hopening, htext]
  exact bind_eq_ok.2 ⟨more, left, hbody, rfl⟩

/-- **An array** whose first piece is no segment of a path. -/
theorem begins_array_of_piece {text piece more rest : Text} {kind : Lexeme.Kind}
    (hc : Cut (text.dropWhile Text.isBlank) kind piece (more ++ ']' :: rest))
    (hk : kind ∈ [.quoted, .decimal, .single '-']) (hm : IsPassage more) :
    Begins ('[' :: text) (.array (piece ++ more)) rest := by
  have hkind : kind ≠ .word ∧ kind ≠ .integer ∧ kind ≠ .single '@' ∧
      kind ∉ [.endOfText, .single ']', .single '['] := by
    simp only [List.mem_cons, List.not_mem_nil, or_false] at hk
    rcases hk with rfl | rfl | rfl <;> decide
  obtain ⟨hword, hinteger, hat, hrest⟩ := hkind
  refine begins_of_cut (cut_single (by decide) text) fun opening s hopen _ hs => ?_
  obtain ⟨first, t, ht, hfirst, -⟩ := hs.exists_take hc
  obtain ⟨u, hu, hstands⟩ := hs.exists_putBack ht
  obtain ⟨left, harray, hleft⟩ := exists_arrayRest hstands hc hrest hm [] opening
  have hsingle : ¬ first.isSingle '@' = true := by simpa [Lexeme.isSingle, hfirst] using hat
  have hsegment : ¬ isSegment first = true := by
    simpa [isSegment, hfirst] using ⟨hword, hinteger⟩
  refine ⟨left, ?_, hleft⟩
  simp only [startingWith, hopen]
  refine bind_eq_ok.2 ⟨first, t, ht, ?_⟩
  rw [if_neg hsingle, if_neg hsegment]
  exact bind_eq_ok.2 ⟨(), u, hu, harray⟩

/-- What is read behind an opening bracket and a segment of a path. -/
def behindSegment (opening : Lexeme) (segment : Text) : Reading Token := do
  let closing ← take
  if closing.isSingle ']' then pathFrom opening [segment]
  else
    putBack
    arrayRest segment opening

/-- An integer that is first in brackets might be the segment of a path. -/
theorem begins_of_integer {text digits behind rest : Text} {token : Token}
    (hc : Cut (text.dropWhile Text.isBlank) .integer digits behind)
    (h : ∀ opening s, StandsAt s behind →
      ∃ left, behindSegment opening digits s = .ok token left ∧ StandsAt left rest) :
    Begins ('[' :: text) token rest := by
  refine begins_of_cut (cut_single (by decide) text) fun opening s hopen _ hs => ?_
  obtain ⟨first, t, ht, hfirst, htext, hbehind⟩ := hs.exists_take hc
  obtain ⟨left, hread, hleft⟩ := h opening t hbehind
  have hsingle : ¬ first.isSingle '@' = true := by simp [Lexeme.isSingle, hfirst]
  have hsegment : isSegment first = true := by simp [isSegment, hfirst]
  refine ⟨left, ?_, hleft⟩
  simp only [startingWith, hopen]
  refine bind_eq_ok.2 ⟨first, t, ht, ?_⟩
  rw [if_neg hsingle, if_pos hsegment, htext]
  exact hread

/-- **An array** that starts with an integer goes on with a comma. -/
theorem begins_array_of_integer {text digits behind more rest : Text}
    (hc : Cut (text.dropWhile Text.isBlank) .integer digits behind)
    (hb : behind.dropWhile Text.isBlank = ',' :: (more ++ ']' :: rest)) (hm : IsPassage more) :
    Begins ('[' :: text) (.array (digits ++ ',' :: more)) rest := by
  have hcomma : Cut (behind.dropWhile Text.isBlank) (.single ',') [','] (more ++ ']' :: rest) := by
    rw [hb]
    exact cut_single (by decide) _
  refine begins_of_integer hc fun opening s hs => ?_
  obtain ⟨comma, t, ht, hkind, -⟩ := hs.exists_take hcomma
  obtain ⟨u, hu, hstands⟩ := hs.exists_putBack ht
  obtain ⟨left, harray, hleft⟩ := exists_arrayRest hstands hcomma (by decide) hm digits opening
  have hclosing : ¬ comma.isSingle ']' = true := by simp [Lexeme.isSingle, hkind]
  rw [List.append_assoc] at harray
  refine ⟨left, bind_eq_ok.2 ⟨comma, t, ht, ?_⟩, hleft⟩
  rw [if_neg hclosing]
  exact bind_eq_ok.2 ⟨(), u, hu, harray⟩

end Token

/-! ### The parts of a JSON array -/

/-- **Brackets that are read as they stand**: nothing was lost that matters, and the token of the
array is what was put together of them. -/
structure Bracketed.IsAsWritten (b : Bracketed) : Prop where
  faithful : b.Faithful
  first : b.first = [] ∨ Numeral.IsDigits b.first
  begins : ∀ rest, Token.Begins ('[' :: (b.content ++ ']' :: rest)) (.array b.payload) rest

namespace Json

open Source

/-- **A single unsigned integer in brackets**, with spaces anywhere around it and the brackets. -/
def IsLoneInteger (text : Text) : Prop :=
  ∃ before lead digits gap behind, (∀ c ∈ before ++ lead ++ gap ++ behind, isSpace c = true) ∧
    Numeral.IsDigits digits ∧ text = before ++ '[' :: (lead ++ (digits ++ (gap ++ ']' :: behind)))

/-- Nothing else is in such a text than the spaces, the brackets and the digits. -/
theorem IsLoneInteger.of_mem {text : Text} {c : Char} (h : IsLoneInteger text) (hc : c ∈ text) :
    isSpace c = true ∨ c.isDigit = true ∨ c = '[' ∨ c = ']' := by
  obtain ⟨before, lead, digits, gap, behind, hs, hd, rfl⟩ := h
  simp only [List.mem_append, List.mem_cons] at hs hc
  rcases hc with hc | rfl | hc | hc | hc | rfl | hc
  · exact .inl (hs c (by simp [hc]))
  · exact .inr (.inr (.inl rfl))
  · exact .inl (hs c (by simp [hc]))
  · exact .inr (.inl (hd.2 c hc))
  · exact .inl (hs c (by simp [hc]))
  · exact .inr (.inr (.inr rfl))
  · exact .inl (hs c (by simp [hc]))

theorem not_isLoneInteger_of_quote {text : Text} (h : '"' ∈ text) : ¬ IsLoneInteger text := by
  intro hl
  exact absurd (hl.of_mem h) (by decide)

theorem isBlank_head_digits {digits : Text} (hd : Numeral.IsDigits digits) (behind : Text) :
    ∀ c, (digits ++ behind).head? = some c → Text.isBlank c = false := by
  obtain ⟨d, tail, rfl⟩ := List.exists_cons_of_ne_nil hd.1
  rintro c ⟨rfl⟩
  exact isBlank_of_isDigit (hd.2 d List.mem_cons_self)

theorem dropWhile_spaces {spaces text : Text} (hs : ∀ c ∈ spaces, isSpace c = true)
    (ht : ∀ c, text.head? = some c → Text.isBlank c = false) :
    (spaces ++ text).dropWhile Text.isBlank = text :=
  (Text.takeWhile_append_stop (fun c h => isBlank_of_isSpace (hs c h)) ht).2

/-- Brackets in which a piece stands first that is no segment of a path. -/
theorem exists_isAsWritten_of_piece {spaces piece more : Text} {c : Char} {kind : Lexeme.Kind}
    (hs : ∀ c ∈ spaces, isSpace c = true) (hc : Text.isBlank c = false ∧ c ≠ ']')
    (hk : kind ∈ [.quoted, .decimal, .single '-'])
    (hcut : ∀ rest, Cut (c :: piece ++ (more ++ ']' :: rest)) kind (c :: piece)
      (more ++ ']' :: rest))
    (hm : IsPassage more) :
    ∃ b : Bracketed, b.content = spaces ++ (c :: piece ++ more) ∧ b.IsAsWritten := by
  have hhead : ∀ behind d, (c :: behind).head? = some d → Text.isBlank d = false ∧ d ≠ ']' := by
    rintro behind d ⟨rfl⟩
    exact hc
  refine ⟨⟨spaces, [], [], c :: piece ++ more, fun d hd => isBlank_of_isSpace (hs d hd),
    by rintro d ⟨⟩, .inl rfl, fun _ => rfl, fun h => absurd rfl h, hhead _⟩, rfl,
    ⟨hs, by rintro d ⟨⟩, .inl rfl⟩, .inl rfl,
    fun rest => ?_⟩
  have hbegins : Token.Begins ('[' :: (spaces ++ (c :: piece ++ (more ++ ']' :: rest))))
      (.array (c :: piece ++ more)) rest := by
    have hdrop : (spaces ++ (c :: piece ++ (more ++ ']' :: rest))).dropWhile Text.isBlank =
        c :: piece ++ (more ++ ']' :: rest) := dropWhile_spaces hs fun d hd => (hhead _ d hd).1
    exact Token.begins_array_of_piece (by rw [hdrop]; exact hcut rest) hk hm
  simpa only [Bracketed.content, Bracketed.payload, List.nil_append,
    List.append_assoc] using hbegins

/-- Brackets in which an integer stands first, and a comma behind it. -/
theorem exists_isAsWritten_of_integer {spaces digits gap more : Text}
    (hs : ∀ c ∈ spaces, isSpace c = true) (hd : Numeral.IsDigits digits)
    (hg : ∀ c ∈ gap, isSpace c = true)
    (hcut : ∀ rest, Cut (digits ++ (gap ++ ',' :: (more ++ ']' :: rest))) .integer digits
      (gap ++ ',' :: (more ++ ']' :: rest)))
    (hm : IsPassage more) :
    ∃ b : Bracketed, b.content = spaces ++ (digits ++ (gap ++ ',' :: more)) ∧ b.IsAsWritten := by
  have hcomma : ∀ behind c, (',' :: behind).head? = some c → Text.isBlank c = false ∧ c ≠ ']' := by
    rintro behind c ⟨rfl⟩
    decide
  refine ⟨⟨spaces, digits, gap, ',' :: more, fun c h => isBlank_of_isSpace (hs c h),
    fun c h => isBlank_of_isSpace (hg c h), .inr (.inl hd), fun h => absurd h hd.1,
    fun _ => List.cons_ne_nil _ _, hcomma more⟩, rfl, ⟨hs, hg, .inr rfl⟩, .inr hd, fun rest => ?_⟩
  have hbegins : Token.Begins ('[' :: (spaces ++ (digits ++ (gap ++ ',' :: (more ++ ']' :: rest)))))
      (.array (digits ++ ',' :: more)) rest := by
    have hdrop :
        (spaces ++ (digits ++ (gap ++ ',' :: (more ++ ']' :: rest)))).dropWhile Text.isBlank =
          digits ++ (gap ++ ',' :: (more ++ ']' :: rest)) :=
      dropWhile_spaces hs (isBlank_head_digits hd _)
    exact Token.begins_array_of_integer (by rw [hdrop]; exact hcut rest)
      (dropWhile_spaces hg fun c hc => (hcomma _ c hc).1) hm
  simpa only [Bracketed.content, Bracketed.payload, List.append_assoc,
    List.cons_append] using hbegins

variable {convert : Conversion} {depth : Nat} {element others : Text} {items : List Json}

theorem IsArray.exists_isAsWritten_of_string {content : Text}
    (h : IsArray (reader convert depth) element others (.string content) items) :
    ∃ b : Bracketed, b.content = element ++ others ∧ b.IsAsWritten := by
  obtain ⟨spaces, body, hs, hopen, rfl⟩ := h.exists_string
  have hcut : ∀ rest, Cut ('"' :: (body ++ ['"']) ++ (others ++ ']' :: rest)) .quoted
      ('"' :: (body ++ ['"'])) (others ++ ']' :: rest) := fun rest =>
    .quoted (.inl rfl) (closeQuote_append_rest hopen.closeQuote_eq _)
  rw [List.append_assoc]
  exact exists_isAsWritten_of_piece hs (by decide) (by decide) hcut h.others_isPassage

/-- A number that is first in an array is no single unsigned integer if it has a sign, a fraction or
an exponent, or if another element follows. -/
theorem IsArray.exists_isAsWritten_of_number {number : Number}
    (h : IsArray (reader convert depth) element others (.number number) items)
    (hl : ∀ spaces digits, (∀ c ∈ spaces, isSpace c = true) → Numeral.IsDigits digits →
      element = spaces ++ digits → ¬ ∀ c ∈ others, isSpace c = true) :
    ∃ b : Bracketed, b.content = element ++ others ∧ b.IsAsWritten := by
  obtain ⟨spaces, sign, n, hs, hsigned, rfl⟩ := h.exists_number
  obtain ⟨c, tail, hc, hd⟩ := hsigned.exists_digit
  have hcut : ∀ rest, Cut (n.spelling ++ (others ++ ']' :: rest))
      (if n.isWhole then .integer else .decimal) n.spelling (others ++ ']' :: rest) := fun rest =>
    cut_numeral hsigned.formed hsigned.whole (h.stops rest)
  rw [List.append_assoc, List.append_assoc]
  rcases hsigned.sign with rfl | rfl
  · by_cases hwhole : n.isWhole = true
    · simp only [if_pos hwhole] at hcut
      have hdigits := (hcut []).isDigits
      rcases h.comma with hspaces | ⟨gap, more, hg, hm, rfl⟩
      · exact absurd hspaces (hl spaces n.spelling hs hdigits rfl)
      · refine exists_isAsWritten_of_integer hs hdigits hg (fun rest => ?_) hm
        simpa only [List.append_assoc, List.cons_append] using hcut rest
    · simp only [if_neg hwhole, hc] at hcut
      rw [List.nil_append, hc]
      refine exists_isAsWritten_of_piece hs ⟨isBlank_of_isDigit hd, ?_⟩ (by decide) hcut
        h.others_isPassage
      rintro rfl
      exact absurd hd (by decide)
  · have hm : IsPassage (n.spelling ++ others) :=
      (isPassage_numeral hsigned.formed).append h.others_isPassage
    exact exists_isAsWritten_of_piece hs (by decide) (by decide)
      (fun rest => cut_single (by decide) _) hm

/-- The strings among the elements, as values again, are the elements that are strings. -/
theorem map_filterMap_text? (items : List Json) :
    (items.filterMap text?).map .string = items.filter (·.kind = .string) := by
  induction items with
  | nil => rfl
  | cons item items ih =>
    cases item with
    | string text => exact congrArg (.string text :: ·) ih
    | null | boolean _ | number _ | array _ | object _ => exact ih

/-- The doubles among the elements are those of the elements that are numbers. -/
theorem exists_numbers (items : List Json) : ∃ numbers : List Number,
    items.filterMap double? = numbers.map Number.toDouble ∧
      numbers.map .number = items.filter (·.kind = .number) := by
  induction items with
  | nil => exact ⟨[], rfl, rfl⟩
  | cons item items ih =>
    obtain ⟨numbers, hdoubles, hnumbers⟩ := ih
    cases item with
    | number n =>
      exact ⟨n :: numbers, congrArg (n.toDouble :: ·) hdoubles,
        congrArg (Json.number n :: ·) hnumbers⟩
    | null | boolean _ | string _ | array _ | object _ => exact ⟨numbers, hdoubles, hnumbers⟩

end Json

/-! ### Conditions with an array -/

namespace Expr

open Source Token

/-- The text of the condition that asks for a name in an array. -/
def memberText (name array : Text) : Text := name ++ ' ' :: 'I' :: 'N' :: ' ' :: array

theorem listOf_memberText {name lead inside trail : Text} {token : Token} (hn : isName name = true)
    (hl : ∀ c ∈ lead, isSpace c = true) (ht : ∀ c ∈ trail, isSpace c = true)
    (hb : Begins ('[' :: inside) token trail) (hne : token ≠ .endOfInput) :
    listOf (memberText name (lead ++ '[' :: inside)) =
      .ok [.name name, .operator .member, token, .endOfInput] := by
  have htrail : ConsistsOf trail [.endOfInput] := by
    have h := consistsOf_nil.of_blanks fun c hc => isBlank_of_isSpace (ht c hc)
    rwa [List.append_nil] at h
  have hoperand := (htrail.cons hb hne).of_blanks fun c hc => isBlank_of_isSpace (hl c hc)
  have hequal : NoEqual (lead ++ '[' :: inside) := by
    refine ⟨.single '[', ['['], inside, ?_, by decide⟩
    rw [dropWhile_spaces hl (by rintro c ⟨rfl⟩; rfl)]
    exact cut_single (by decide) inside
  have hoperator := (hoperand.of_blank (by decide : Text.isBlank ' ' = true)).cons
    (begins_operator .member (hequal.of_blank (by decide : Text.isBlank ' ' = true))
      (Text.stopsWord_blank _)) (by simp)
  exact ((hoperator.of_blank (by decide : Text.isBlank ' ' = true)).cons
    (begins_name hn (Text.stopsWord_blank _)) (by simp)).listOf

section

variable [Pattern.Engine] [Json.Parser] {Q : Type} {settings : Settings Q}

theorem result_ofText_of_member {text name : Text} {token : Token} {right : Expr Q}
    (hl : listOf text = .ok [.name name, .operator .member, token, .endOfInput])
    (hr : IsLeaf settings token right) (hs : right.isString = false) :
    (ofText settings text).result = .ok (.binary .member (.name name) right) := by
  have htokens : Streams (ReadState.ofText text).tokens
      [.name name, .operator .member, token, .endOfInput] := streams_ofText hl
  obtain ⟨t, hfirst, ht⟩ := run_operandReader_of_isLeaf (.name name) htokens
  obtain ⟨u, hn, hu⟩ := takes_of_streams ht
  obtain ⟨v, hlast, hv⟩ := run_operandReader_of_isLeaf hr (hu (by simp))
  have hright : asRightOperand .member right = right := by
    cases right with
    | string text => cases hs
    | _ => rfl
  have hsteps := ReadsSteps.step hn hlast (.stop v)
  rw [hright] at hsteps
  have hresult := result_ofText_of_readsChain ⟨t, hfirst, hsteps⟩ hv
  rwa [insertAll_single settings.precedence rfl] at hresult

/-- **A single unsigned integer in brackets** is a name, and not an array. -/
theorem ofText_member_integer (settings : Settings Q) {name lead gap digits gap' trail : Text}
    (hn : isName name = true) (hl : ∀ c ∈ lead, isSpace c = true) (hg : ∀ c ∈ gap, isSpace c = true)
    (hd : Numeral.IsDigits digits) (hg' : ∀ c ∈ gap', isSpace c = true)
    (ht : ∀ c ∈ trail, isSpace c = true) :
    (ofText settings (memberText name
      (lead ++ '[' :: (gap ++ (digits ++ (gap' ++ ']' :: trail)))))).result =
        .ok (.binary .member (.name name) (.name digits)) := by
  have hend : trail.dropWhile Text.isBlank = [] := by
    have h := dropWhile_spaces ht (fun c (hc : ([] : Text).head? = some c) => by cases hc)
    rwa [List.append_nil] at h
  have hbegins := begins_path_of_segment (.inr hd) (fun c h => isBlank_of_isSpace (hg c h))
    (fun c h => isBlank_of_isSpace (hg' c h))
    ⟨.endOfText, [], [], by rw [hend]; exact .endOfText, by decide⟩
  exact result_ofText_of_member (listOf_memberText hn hl ht hbegins (by simp)) (.name digits) rfl

variable [Json.Parser.Standard]

/-- An array that is read as JSON is read as the list that its elements make. -/
theorem result_ofText_memberText {name array : Text} {items : List Json} {value : Json}
    {list : Expr Q}
    (hn : isName name = true) (hr : read? array = some (.array items)) (hl : ¬ IsLoneInteger array)
    (hh : items.head? = some value) (hv : value.kind = .string ∨ value.kind = .number)
    (hi : ofItems items = .ok list) :
    (ofText settings (memberText name array)).result = .ok (.binary .member (.name name) list) := by
  obtain ⟨dialect, hdialect⟩ := Parser.Standard.exists_dialect
  rw [hdialect] at hr
  obtain ⟨depth, lead, element, others, first, trail, hdepth, hlead, htrail, rfl, ha⟩ :=
    exists_isArray_of_read? hr (by rintro rfl; cases hh)
  obtain rfl : first = value := Option.some_inj.1 (ha.head.symm.trans hh)
  obtain ⟨b, hb, hw⟩ : ∃ b : Bracketed, b.content = element ++ others ∧ b.IsAsWritten := by
    cases first with
    | string content => exact ha.exists_isAsWritten_of_string
    | number n =>
      refine ha.exists_isAsWritten_of_number fun spaces digits hs hd he ho => hl ?_
      refine ⟨lead, spaces, digits, others, trail, ?_, hd, by rw [he, List.append_assoc]⟩
      simp only [List.forall_mem_append]
      exact ⟨⟨⟨hlead, hs⟩, ho⟩, htrail⟩
    | null | boolean _ | array _ | object _ => rcases hv with hv | hv <;> cases hv
  have hpayload : ofPayload b.payload = .ok list := by
    have hread := Bracketed.read?_content_of_faithful hw.faithful hw.first
    rw [hb, hdialect, ha.read?_eq hdepth] at hread
    unfold ofPayload
    rw [List.cons_append, ← hread]
    exact hi
  have hleaf : IsLeaf settings (.array b.payload) list := .array hpayload
  have hstring : list.isString = false := by
    rcases ofItems_eq_ok hi with ⟨texts, rfl⟩ | ⟨doubles, rfl⟩ <;> rfl
  rw [← List.append_assoc element, ← hb]
  exact result_ofText_of_member (listOf_memberText hn hlead htrail (hw.begins trail) (by simp))
    hleaf hstring

/-- **A JSON array as an operand**, whichever standard parser reads it, is read as it is written,
however its elements are spelled and spaced: if it starts with a string, it is the list of its
strings, and if it starts with a number, the list of the doubles of its numbers, in their order.
Only a single unsigned integer is no array. -/
theorem ofText_member_array (settings : Settings Q) {name array : Text} {items : List Json}
    (hn : isName name = true) (hr : read? array = some (.array items))
    (hl : ¬ IsLoneInteger array) : (∀ text, items.head? = some (.string text) → ∃ texts,
      (ofText settings (memberText name array)).result =
        .ok (.binary .member (.name name) (.strings texts)) ∧
      texts.map .string = items.filter (·.kind = .string)) ∧
    ∀ n, items.head? = some (.number n) → ∃ numbers : List Number,
      (ofText settings (memberText name array)).result =
        .ok (.binary .member (.name name) (.numbers (numbers.map Number.toDouble))) ∧
      numbers.map .number = items.filter (·.kind = .number) := by
  constructor
  · intro text hh
    have hi : (ofItems items : Except (Error Q) (Expr Q)) =
        .ok (.strings (items.filterMap text?)) := by
      rw [ofItems, hh]
    exact ⟨items.filterMap text?, result_ofText_memberText hn hr hl hh (.inl rfl) hi,
      map_filterMap_text? items⟩
  · intro n hh
    obtain ⟨numbers, hdoubles, hnumbers⟩ := exists_numbers items
    have hi : (ofItems items : Except (Error Q) (Expr Q)) =
        .ok (.numbers (numbers.map Number.toDouble)) := by
      rw [ofItems, hh, ← hdoubles]
    exact ⟨numbers, result_ofText_memberText hn hr hl hh (.inr rfl) hi, hnumbers⟩

end

theorem exists_items_of_check [Json.Parser] {array : Text} {check : List Json → Bool}
    (h : (match read? array with
      | some (.array items) => check items
      | _ => false) = true) : ∃ items, read? array = some (.array items) ∧ check items = true := by
  split at h
  · exact ⟨_, ‹_›, h⟩
  · cases h

/-- Brackets, quotes and a backslash in strings, an object with an array in it, and elements of
other kinds. -/
theorem ofText_member_array_of_brackets :
    let name : Text := ['x']
    let texts := " [ \"a]\\\"[\\\\\" , \x7b\"k\": [\"]\", 1]\x7d, 2, \"b\"] ".toList
    let numbers := "[ 1 , \"]\", -2.5e1]".toList
    isName name = true ∧ ¬ IsLoneInteger texts ∧ ¬ IsLoneInteger numbers ∧
      (ofText ({} : Settings Path) (memberText name texts)).result =
        .ok (.binary .member (.name name) (.strings ["a]\"[\\".toList, ['b']])) ∧
      ∃ found, (ofText ({} : Settings Path) (memberText name numbers)).result =
        .ok (.binary .member (.name name) (.numbers found)) ∧ found.length = 2 := by
  intro name texts numbers
  obtain ⟨items, hr, hcheck⟩ : ∃ items, read? texts = some (.array items) ∧
      decide (items.filterMap text? = ["a]\"[\\".toList, ['b']] ∧
        items.head?.bind text? = some "a]\"[\\".toList) = true :=
    exists_items_of_check (by decide +kernel)
  obtain ⟨others, hr', hcheck'⟩ : ∃ items, read? numbers = some (.array items) ∧
      decide ((items.filter (·.kind = .number)).length = 2 ∧
        items.head?.map kind = some .number) = true :=
    exists_items_of_check (by decide +kernel)
  obtain ⟨hall, hhead⟩ := of_decide_eq_true hcheck
  obtain ⟨hlength, hkind⟩ := of_decide_eq_true hcheck'
  have hn : isName name = true := by decide
  have hlone : ¬ IsLoneInteger texts := not_isLoneInteger_of_quote (by decide)
  have hlone' : ¬ IsLoneInteger numbers := not_isLoneInteger_of_quote (by decide)
  refine ⟨hn, hlone, hlone', ?_, ?_⟩
  · obtain ⟨first, hfirst, htext⟩ := Option.bind_eq_some_iff.1 hhead
    obtain ⟨text, rfl⟩ : ∃ text, first = .string text := by
      cases first with
      | string text => exact ⟨text, rfl⟩
      | null | boolean _ | number _ | array _ | object _ => cases htext
    obtain ⟨found, hresult, hfound⟩ := (ofText_member_array {} hn hr hlone).1 text hfirst
    rw [← map_filterMap_text?, hall] at hfound
    rw [(List.map_inj_right fun _ _ => Json.string.inj).1 hfound] at hresult
    exact hresult
  · obtain ⟨first, hfirst, hkind⟩ := Option.map_eq_some_iff.1 hkind
    obtain ⟨n, rfl⟩ : ∃ n, first = .number n := by
      cases first with
      | number n => exact ⟨n, rfl⟩
      | null | boolean _ | string _ | array _ | object _ => cases hkind
    obtain ⟨found, hresult, hfound⟩ := (ofText_member_array {} hn hr' hlone').2 n hfirst
    refine ⟨_, hresult, ?_⟩
    rw [List.length_map, ← hlength, ← hfound, List.length_map]

end Expr
end Condition
