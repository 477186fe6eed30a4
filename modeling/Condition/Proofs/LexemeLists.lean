import Condition.Proofs.Lexemes

/-! # The lexemes of a text

A text is read lexeme by lexeme, up to its end or up to a quote that nothing closes. Its lexemes lie
one behind the other with nothing but blanks in between (`Lies`), so no character is lost, repeated
or altered.

* `lies_lexemes`: how the lexemes of a source lie.
* `lexemes_lossless`: the lexemes of a text, and the gaps between them. -/

namespace Condition

/-! ### Lexemes and gaps -/

/-- The lexemes of a source up to the end of the text, or up to an error. -/
def Source.lexemes (source : Source) : List Lexeme × Option Lexeme.Error :=
  match _h : next source with
  | .error e _ => ([], some e)
  | .ok lexeme left =>
    if _hk : lexeme.kind = .endOfText then ([lexeme], none)
    else (lexeme :: (lexemes left).1, (lexemes left).2)
termination_by source.rest.length
decreasing_by
  all_goals
    have := Source.length_next _h
    have := Lexeme.length_pos _hk
    omega

/-- What stands in front of each lexeme, behind the one before it or behind a place. -/
def gaps (text : Text) : Nat → List Lexeme → List Text
  | _, [] => []
  | place, lexeme :: lexemes =>
    (text.drop place).take (lexeme.position - place) ::
      gaps text (lexeme.position + lexeme.text.length) lexemes

/-- Gaps and lexemes by turns. -/
def byTurns (gaps : List Text) (lexemes : List Lexeme) : Text :=
  (List.zipWith (fun gap lexeme => gap ++ lexeme.text) gaps lexemes).flatten

theorem byTurns_cons (gap : Text) (gaps : List Text) (lexeme : Lexeme) (lexemes : List Lexeme) :
    byTurns (gap :: gaps) (lexeme :: lexemes) = gap ++ (lexeme.text ++ byTurns gaps lexemes) :=
  List.append_assoc ..

/-- Nothing but blanks. -/
def IsGap (text : Text) : Prop := ∀ c ∈ text, Text.isBlank c = true

/-- **How lexemes lie in a text** that begins at a place: behind blanks, up to its end or up to a
quote that nothing closes. -/
inductive Lies : Nat → Text → List Lexeme → Option Lexeme.Error → Prop where
  | ends {place : Nat} {gap : Text} {lexeme : Lexeme} (hg : IsGap gap)
    (hk : lexeme.kind = .endOfText) (ht : lexeme.text = [])
    (hp : lexeme.position = place + gap.length) : Lies place gap [lexeme] none
  | stops {place : Nat} {gap rest : Text} {quote : Char} (hg : IsGap gap)
    (hq : quote = '"' ∨ quote = '\'') (hc : Source.closeQuote quote rest = none) :
    Lies place (gap ++ quote :: rest) []
      (some (.unterminated .stringLiteral (place + gap.length)))
  | goesOn {place : Nat} {gap rest : Text} {lexeme : Lexeme} {lexemes : List Lexeme}
    {stop : Option Lexeme.Error} (hg : IsGap gap) (hk : lexeme.kind ≠ .endOfText)
    (hp : lexeme.position = place + gap.length)
    (h : Lies (lexeme.position + lexeme.text.length) rest lexemes stop) :
    Lies place (gap ++ (lexeme.text ++ rest)) (lexeme :: lexemes) stop

theorem lies_lexemes (source : Source) :
    Lies source.position source.rest source.lexemes.1 source.lexemes.2 := by
  fun_induction Source.lexemes source with
  | case1 source e left h =>
    obtain ⟨gap, quote, rest, hg, hr, hq, hc, rfl⟩ := Source.next_error_spelling h
    rw [hr]
    exact .stops hg hq hc
  | case2 source lexeme left h hk =>
    obtain ⟨gap, hg, hr, hp, -⟩ := Source.next_spelling h
    obtain ⟨ht, hl⟩ := (hk ▸ (Source.cut_of_next h).1).eq_nil
    have hrest : source.rest = gap := by
      rw [hr, ht, hl, List.nil_append, List.append_nil]
    rw [hrest]
    exact .ends hg hk ht hp
  | case3 source lexeme left h hk ih =>
    obtain ⟨gap, hg, hr, hp, hl⟩ := Source.next_spelling h
    rw [hl] at ih
    rw [hr]
    exact .goesOn hg hk hp ih

namespace Lies

variable {place : Nat} {rest : Text} {lexemes : List Lexeme} {stop : Option Lexeme.Error}

/-! ### Lexemes in their places -/

/-- The lexemes behind a place begin there or later, and end in the text. -/
theorem bounds (h : Lies place rest lexemes stop) {lexeme : Lexeme} (hm : lexeme ∈ lexemes) :
    place ≤ lexeme.position ∧ lexeme.position + lexeme.text.length ≤ place + rest.length := by
  induction h with
  | ends hg hk ht hp =>
    obtain rfl := List.mem_singleton.1 hm
    rw [ht, hp]
    simp
  | stops => cases hm
  | goesOn hg hk hp h ih =>
    simp only [List.length_append]
    rcases List.mem_cons.1 hm with rfl | hm
    · omega
    · have := ih hm
      omega

/-- **A lexeme is a piece of the text**, at its place. -/
theorem exists_split (h : Lies place rest lexemes stop) {lexeme : Lexeme} (hm : lexeme ∈ lexemes) :
    ∃ before behind, rest = before ++ (lexeme.text ++ behind) ∧
      lexeme.position = place + before.length := by
  induction h with
  | @ends place gap last hg hk ht hp =>
    obtain rfl := List.mem_singleton.1 hm
    exact ⟨gap, [], by rw [ht, List.append_nil, List.append_nil], hp⟩
  | stops => cases hm
  | @goesOn place gap rest first lexemes stop hg hk hp h ih =>
    rcases List.mem_cons.1 hm with rfl | hm
    · exact ⟨gap, rest, rfl, hp⟩
    · obtain ⟨before, behind, rfl, hpos⟩ := ih hm
      refine ⟨gap ++ (first.text ++ before), behind, by simp only [List.append_assoc], ?_⟩
      rw [hpos, hp, List.length_append, List.length_append]
      omega

/-- **The end of the text** is at its end, and no other lexeme is. -/
theorem kind_eq_endOfText_iff (h : Lies place rest lexemes stop) {lexeme : Lexeme}
    (hm : lexeme ∈ lexemes) :
    lexeme.kind = .endOfText ↔ lexeme.position = place + rest.length := by
  induction h with
  | ends hg hk ht hp =>
    obtain rfl := List.mem_singleton.1 hm
    exact iff_of_true hk hp
  | stops => cases hm
  | @goesOn place gap rest first lexemes stop hg hk hp h ih =>
    simp only [List.length_append]
    rcases List.mem_cons.1 hm with rfl | hm
    · have := Lexeme.length_pos hk
      exact iff_of_false hk (by omega)
    · rw [ih hm]
      omega

/-- **Each lexeme ends** before the next one begins. -/
theorem pairwise (h : Lies place rest lexemes stop) :
    lexemes.Pairwise fun first second => first.position < second.position ∧
      first.position + first.text.length ≤ second.position := by
  induction h with
  | ends => exact List.pairwise_singleton ..
  | stops => exact .nil
  | goesOn hg hk hp h ih =>
    refine .cons (fun other hm => ?_) ih
    have := Lexeme.length_pos hk
    have := (h.bounds hm).1
    omega

/-- The end of the text is the last lexeme just where nothing stops the reading before. -/
theorem stop_eq_none_iff (h : Lies place rest lexemes stop) :
    stop = none ↔ ∃ last, lexemes.getLast? = some last ∧ last.kind = .endOfText := by
  induction h with
  | ends hg hk => exact iff_of_true rfl ⟨_, rfl, hk⟩
  | stops => exact iff_of_false nofun nofun
  | @goesOn place gap rest first lexemes stop hg hk hp h ih =>
    rw [ih]
    cases lexemes with
    | nil => exact iff_of_false nofun (by rintro ⟨_, ⟨rfl⟩, hl⟩; exact hk hl)
    | cons second lexemes => rw [List.getLast?_cons_cons]

/-! ### Gaps -/

section

variable {text front : Text}

/-- The first lexeme with the gap in front of it. -/
theorem gaps_cons {gap : Text} {lexeme : Lexeme} (ht : text = front ++ (gap ++ rest))
    (hf : front.length = place) (hp : lexeme.position = place + gap.length)
    (lexemes : List Lexeme) : gaps text place (lexeme :: lexemes) =
      gap :: gaps text (lexeme.position + lexeme.text.length) lexemes := by
  rw [gaps, ht, ← hf, List.drop_left, hp, hf, Nat.add_sub_cancel_left, List.take_left]

/-- The text behind the first lexeme. -/
theorem behind_first {gap : Text} {lexeme : Lexeme}
    (ht : text = front ++ (gap ++ (lexeme.text ++ rest))) (hf : front.length = place)
    (hp : lexeme.position = place + gap.length) :
    text = (front ++ (gap ++ lexeme.text)) ++ rest ∧
      (front ++ (gap ++ lexeme.text)).length = lexeme.position + lexeme.text.length := by
  refine ⟨by rw [ht]; simp only [List.append_assoc], ?_⟩
  rw [hp, List.length_append, List.length_append, hf, Nat.add_assoc]

/-- **Nothing but blanks** stands between the lexemes. -/
theorem isGap_of_mem_gaps (h : Lies place rest lexemes stop) (ht : text = front ++ rest)
    (hf : front.length = place) {gap : Text} (hm : gap ∈ gaps text place lexemes) : IsGap gap := by
  induction h generalizing front with
  | @ends place first lexeme hg hk _ hp =>
    rw [← List.append_nil first] at ht
    rw [gaps_cons ht hf hp] at hm
    obtain rfl := List.mem_singleton.1 hm
    exact hg
  | stops => cases hm
  | goesOn hg hk hp h ih =>
    rw [gaps_cons ht hf hp] at hm
    rcases List.mem_cons.1 hm with rfl | hm
    · exact hg
    · obtain ⟨ht, hf⟩ := behind_first ht hf hp
      exact ih ht hf hm

/-- **Nothing is lost**: what is read up to the end of the text is the text. -/
theorem byTurns_eq (h : Lies place rest lexemes stop) (hs : stop = none) (ht : text = front ++ rest)
    (hf : front.length = place) : byTurns (gaps text place lexemes) lexemes = rest := by
  -- the text in front grows by a gap and a lexeme at each step, so it is not fixed
  induction h generalizing front with
  | @ends place gap lexeme hg hk hempty hp =>
    rw [← List.append_nil gap] at ht
    rw [gaps_cons ht hf hp, byTurns_cons, hempty]
    exact List.append_nil gap
  | stops => cases hs
  | goesOn hg hk hp h ih =>
    obtain ⟨ht', hf'⟩ := behind_first ht hf hp
    rw [gaps_cons ht hf hp, byTurns_cons, ih hs ht' hf']

/-- **Where the reading stops** blanks follow what is read, and a quote that nothing closes. -/
theorem exists_open_quote (h : Lies place rest lexemes stop) {e : Lexeme.Error} (hs : stop = some e)
    (ht : text = front ++ rest) (hf : front.length = place) :
    ∃ gap quote tail, IsGap gap ∧ (quote = '"' ∨ quote = '\'') ∧
      Source.closeQuote quote tail = none ∧
      rest = byTurns (gaps text place lexemes) lexemes ++ (gap ++ quote :: tail) ∧
      e = .unterminated .stringLiteral
        (place + ((byTurns (gaps text place lexemes) lexemes).length + gap.length)) := by
  induction h generalizing front with
  | ends => cases hs
  | @stops place gap tail quote hg hq hc =>
    cases hs
    exact ⟨gap, quote, tail, hg, hq, hc, rfl, congrArg _ (congrArg _ (Nat.zero_add _).symm)⟩
  | @goesOn place gap rest lexeme lexemes stop hg hk hp h ih =>
    obtain ⟨ht', hf'⟩ := behind_first ht hf hp
    obtain ⟨last, quote, tail, hl, hq, hc, hr, he⟩ := ih hs ht' hf'
    rw [gaps_cons ht hf hp, byTurns_cons]
    refine ⟨last, quote, tail, hl, hq, hc, ?_, ?_⟩
    · simp only [List.append_assoc]
      rw [← hr]
    · rw [he, hp]
      simp only [List.length_append, Nat.add_assoc]

end

end Lies

/-- **Reading lexemes is lossless.** Each lexeme of a text is the piece of it at its place, and only
the end of the text, which is at the end, is empty. They lie in order without overlap, with nothing
but blanks in front of each, and gaps and lexemes by turns are the text again; where a quote stops
the reading, they are the text in front of that. -/
theorem lexemes_lossless (text : Text) :
    let lexemes := (Source.ofText text).lexemes.1
    let stop := (Source.ofText text).lexemes.2
    let read := byTurns (gaps text 0 lexemes) lexemes
    (∀ lexeme ∈ lexemes,
      lexeme.text = (text.drop lexeme.position).take lexeme.text.length ∧
      lexeme.position + lexeme.text.length ≤ text.length ∧
      (lexeme.kind ≠ .endOfText → lexeme.text ≠ []) ∧
      (lexeme.kind = .endOfText ↔ lexeme.position = text.length)) ∧
    lexemes.Pairwise (fun first second => first.position < second.position ∧
      first.position + first.text.length ≤ second.position) ∧
    (∀ gap ∈ gaps text 0 lexemes, IsGap gap) ∧
    (stop = none ↔ ∃ last, lexemes.getLast? = some last ∧ last.kind = .endOfText) ∧
    (stop = none → read = text) ∧
    ∀ e, stop = some e → ∃ gap quote tail, IsGap gap ∧ (quote = '"' ∨ quote = '\'') ∧
      Source.closeQuote quote tail = none ∧ text = read ++ (gap ++ quote :: tail) ∧
      e = .unterminated .stringLiteral (read.length + gap.length) := by
  intro lexemes stop read
  have h : Lies 0 text lexemes stop := lies_lexemes (Source.ofText text)
  have ht : text = [] ++ text := rfl
  refine ⟨fun lexeme hm => ⟨?_, ?_, lexeme.nonempty, ?_⟩, h.pairwise,
    fun gap hm => h.isGap_of_mem_gaps ht rfl hm, h.stop_eq_none_iff,
    fun hs => h.byTurns_eq hs ht rfl, fun e hs => ?_⟩
  · obtain ⟨before, behind, hsplit, hp⟩ := h.exists_split hm
    rw [hsplit, hp, Nat.zero_add, List.drop_left, List.take_left]
  · have := (h.bounds hm).2
    omega
  · have := h.kind_eq_endOfText_iff hm
    rwa [Nat.zero_add] at this
  · have := h.exists_open_quote hs ht rfl
    simpa only [Nat.zero_add] using this

/-- A point and an exponent without digits are lexemes of their own, and a backslash takes the quote
that would close the string along. -/
example : ((Source.ofText " 1. 3e 2E+5 '\\'".toList).lexemes.1.map Lexeme.text,
    (Source.ofText " 1. 3e 2E+5 '\\'".toList).lexemes.2) =
    ([['1'], ['.'], ['3'], ['e'], ['2', 'E', '+', '5']],
      some (.unterminated .stringLiteral 12)) := by
  decide +kernel

end Condition
