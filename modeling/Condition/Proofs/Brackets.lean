import Condition.Proofs.Placement

/-! # What stands in the brackets of an array

An array literal is put together again from what was looked at in it: a first lexeme that might have
been the segment of a path, and the rest as it stands. The blanks in front of both are lost
(`Bracketed`).

* `exists_bracketed`: the text of an array token, from its opening bracket to the closing one. -/

namespace Condition

open Lookahead

/-! ### The content of brackets -/

/-- **The content of brackets**: a word or an integer, if there is one at the front, and the rest.
Blanks may stand in front of each. -/
structure Bracketed where
  lead : Text
  first : Text
  gap : Text
  rest : Text
  lead_blank : ∀ c ∈ lead, Text.isBlank c = true
  gap_blank : ∀ c ∈ gap, Text.isBlank c = true
  first_cases : first = [] ∨ Numeral.IsDigits first ∨
    ∃ c, first.head? = some c ∧ Text.startsWord c = true
  gap_eq_nil : first = [] → gap = []
  rest_ne_nil : first ≠ [] → rest ≠ []
  rest_head : ∀ c, rest.head? = some c → Text.isBlank c = false ∧ c ≠ ']'

namespace Bracketed

/-- The content as it stands. -/
def content (b : Bracketed) : Text := b.lead ++ (b.first ++ (b.gap ++ b.rest))

/-- The content as the token has it, without the blanks. -/
def payload (b : Bracketed) : Text := b.first ++ b.rest

end Bracketed

/-! ### Lexemes that are taken again -/

theorem Lookahead.take_of_putBack {s t u : Lookahead} {lexeme : Lexeme} (h : take s = .ok lexeme t)
    (hp : putBack t = .ok () u) : take u = .ok lexeme t := by
  obtain ⟨hd, -⟩ := take_eq_ok h
  obtain ⟨other, ho, rfl⟩ := putBack_eq_ok hp
  rw [hd] at ho
  cases ho
  simp only [take, ← hd]

/-- Unless a lexeme waits, the next one is taken from the source. -/
theorem Lookahead.next_of_take {s t : Lookahead} {last lexeme : Lexeme}
    (hs : s.slot = .delivered last) (h : take s = .ok lexeme t) :
    Source.next s.source = .ok lexeme t.source := by
  unfold take at h
  rw [hs] at h
  obtain ⟨source, hn, rfl⟩ := eq_of_onSource_eq_ok h
  exact hn

theorem Lookahead.source_takeUntil {closing : Char} {what : Passage} {start : Nat}
    {s left : Lookahead} {body : Text} (h : takeUntil closing what start s = .ok body left) :
    Source.takeUntil closing what start s.source = .ok body left.source := by
  unfold takeUntil passage at h
  split at h
  · cases h
  · obtain ⟨source, hn, rfl⟩ := eq_of_onSource_eq_ok h
    exact hn

theorem Lookahead.source_takeBalanced {opening closing : Char} {depth : Nat} {what : Passage}
    {start : Nat} {s left : Lookahead} {body : Text}
    (h : takeBalanced opening closing depth what start s = .ok body left) :
    Source.takeBalanced opening closing depth what start s.source = .ok body left.source := by
  unfold takeBalanced passage at h
  split at h
  · cases h
  · obtain ⟨source, hn, rfl⟩ := eq_of_onSource_eq_ok h
    exact hn

namespace Token

/-! ### The rest of an array -/

theorem arrayRest_eq_ok {taken : Text} {opening : Lexeme} {s left : Lookahead} {token : Token}
    (h : arrayRest taken opening s = .ok token left) : ∃ first t, take s = .ok first t ∧
      first.kind ≠ .endOfText ∧
      ((first.kind = .single ']' ∧ token = .array taken ∧ left = t) ∨
        (first.kind ≠ .single ']' ∧ ∃ depth body,
          Source.takeBalanced '[' ']' depth .arrayLiteral opening.position t.source =
            .ok body left.source ∧ token = .array (taken ++ (first.text ++ body)))) := by
  obtain ⟨first, t, ht, h⟩ := bind_eq_ok.1 h
  refine ⟨first, t, ht, ?_⟩
  split at h
  · cases h
  · rename_i he
    refine ⟨by simpa [Lexeme.isEnd] using he, ?_⟩
    split at h
    · rename_i hc
      cases h
      exact .inl ⟨by simpa [Lexeme.isSingle] using hc, rfl, rfl⟩
    · rename_i hc
      obtain ⟨body, u, hb, h⟩ := bind_eq_ok.1 h
      cases h
      refine .inr ⟨by simpa [Lexeme.isSingle] using hc, _, body, source_takeBalanced hb, ?_⟩
      rw [List.append_assoc]

/-- What starts with a lexeme that is no closing bracket starts with neither that nor a blank. -/
theorem head_of_next {source behind : Source} {first : Lexeme}
    (h : Source.next source = .ok first behind) (hend : first.kind ≠ .endOfText)
    (hk : first.kind ≠ .single ']') (text : Text) :
    ∀ c, (first.text ++ text).head? = some c → Text.isBlank c = false ∧ c ≠ ']' := by
  intro c hc
  have hcut := (Source.cut_of_next h).1
  obtain ⟨d, more, hd⟩ := List.exists_cons_of_ne_nil (hcut.ne_nil hend)
  have hc : first.text.head? = some c := by
    rw [hd] at hc ⊢
    exact hc
  refine ⟨Source.isBlank_head_next h hc, ?_⟩
  rintro rfl
  rw [hcut.head?_eq] at hc
  exact hk (hcut.kind_eq_single hc (by decide))

/-- Behind the bracket, or the lexeme looked at first, the rest of an array stands behind blanks. -/
theorem arrayRest_spelling {taken : Text} {opening last first : Lexeme} {s t u left : Lookahead}
    {token : Token} (hs : s.slot = .delivered last) (ht : take s = .ok first t)
    (hu : putBack t = .ok () u) (h : arrayRest taken opening u = .ok token left) :
    ∃ blanks rest, token = .array (taken ++ rest) ∧ (∀ c ∈ blanks, Text.isBlank c = true) ∧
      s.source.rest = blanks ++ (rest ++ ']' :: left.source.rest) ∧
      left.source.position = s.source.position + (blanks.length + rest.length + 1) ∧
      (∀ c, rest.head? = some c → Text.isBlank c = false ∧ c ≠ ']') ∧
      (first.kind ≠ .single ']' → rest ≠ []) := by
  obtain ⟨again, t', ht', hend, hc⟩ := arrayRest_eq_ok h
  rw [take_of_putBack ht hu] at ht'
  cases ht'
  have hnext := next_of_take hs ht
  have hcut := (Source.cut_of_next hnext).1
  obtain ⟨blanks, hb, hr, hp, hl⟩ := Source.next_spelling hnext
  rcases hc with ⟨hk, rfl, rfl⟩ | ⟨hk, depth, body, hbal, rfl⟩
  · have htext : first.text = [']'] := (hk ▸ hcut).eq_singleton
    refine ⟨blanks, [], by rw [List.append_nil], hb, ?_, ?_, by rintro c ⟨⟩, absurd hk⟩
    · rw [hr, htext]
      rfl
    · rw [hl, hp, htext]
      simp only [List.length_cons, List.length_nil]
      omega
  · obtain ⟨hrest, hpos⟩ := Source.takeBalanced_spelling hbal
    refine ⟨blanks, first.text ++ body, rfl, hb, ?_, ?_, head_of_next hnext hend hk body,
      fun _ => List.append_ne_nil_of_left_ne_nil (hcut.ne_nil hend) body⟩
    · rw [hr, hrest, List.append_assoc]
    · rw [hpos, hl, hp, List.length_append]
      omega

/-- A path is no array. -/
theorem pathFrom_ne_array {opening : Lexeme} {segments : List Text} {s left : Lookahead}
    {payload : Text} : pathFrom opening segments s ≠ .ok (.array payload) left := by
  intro h
  let other : Lexeme := ⟨.endOfText, [], 0, fun h => absurd rfl h⟩
  have hm : MadeFrom (fun _ => True) other (.array payload) :=
    ((ensures_pathFrom kept_true opening segments).ok trivial h).2
  cases hm

/-- A segment of a path is a word or an integer. -/
theorem first_of_isSegment {text behind : Text} {first : Lexeme}
    (h : Source.Cut text first.kind first.text behind) (hs : isSegment first = true) :
    first.text ≠ [] ∧ (Numeral.IsDigits first.text ∨
      ∃ c, first.text.head? = some c ∧ Text.startsWord c = true) := by
  simp only [isSegment, Bool.or_eq_true, beq_iff_eq] at hs
  rcases hs with hk | hk
  · refine ⟨h.ne_nil (by rw [hk]; simp), .inr ?_⟩
    rw [h.head?_eq]
    exact (hk ▸ h).startsWord
  · exact ⟨h.ne_nil (by rw [hk]; simp), .inl (hk ▸ h).isDigits⟩

/-- **What an array is put together from**, behind its opening bracket. -/
theorem behindBracket_spelling {opening last : Lexeme} {s left : Lookahead} {payload : Text}
    (hs : s.slot = .delivered last) (h : behindBracket opening s = .ok (.array payload) left) :
    ∃ b : Bracketed, payload = b.payload ∧ s.source.rest = b.content ++ ']' :: left.source.rest ∧
      left.source.position = s.source.position + (b.content.length + 1) := by
  obtain ⟨first, t, ht, h⟩ := bind_eq_ok.1 h
  have ht' : t.slot = .delivered first := (take_eq_ok ht).1
  split at h
  · obtain ⟨closing, u, -, h⟩ := bind_eq_ok.1 h
    split at h
    · exact absurd h pathFrom_ne_array
    · cases h
  · split at h
    · rename_i hseg
      obtain ⟨closing, u, hu, h⟩ := bind_eq_ok.1 h
      split at h
      · exact absurd h pathFrom_ne_array
      · rename_i hc
        obtain ⟨_, v, hv, h⟩ := bind_eq_ok.1 h
        have hnext := next_of_take hs ht
        obtain ⟨lead, hlead, hr, hp, hl⟩ := Source.next_spelling hnext
        obtain ⟨gap, rest, htoken, hgap, hrest, hpos, hhead, hne⟩ := arrayRest_spelling ht' hu hv h
        cases htoken
        have hc : closing.kind ≠ .single ']' := by simpa [Lexeme.isSingle] using hc
        obtain ⟨hfne, hfirst⟩ := first_of_isSegment (Source.cut_of_next hnext).1 hseg
        refine ⟨⟨lead, first.text, gap, rest, hlead, hgap, .inr hfirst, fun hn => absurd hn hfne,
          fun _ => hne hc, hhead⟩, rfl, ?_, ?_⟩
        · rw [hr, hrest]
          simp only [Bracketed.content, List.append_assoc]
        · rw [hpos, hl, hp]
          simp only [Bracketed.content, List.length_append]
          omega
    · obtain ⟨_, v, hv, h⟩ := bind_eq_ok.1 h
      obtain ⟨lead, rest, htoken, hlead, hrest, hpos, hhead, -⟩ := arrayRest_spelling hs ht hv h
      cases htoken
      refine ⟨⟨lead, [], [], rest, hlead, by rintro c ⟨⟩, .inl rfl, fun _ => rfl,
        fun hn => absurd rfl hn, hhead⟩, rfl, ?_, ?_⟩
      · rw [hrest]
        simp only [Bracketed.content, List.nil_append, List.append_assoc]
      · rw [hpos]
        simp only [Bracketed.content, List.nil_append, List.length_append]

/-- **An array token** stands in the text between brackets, from the place where it starts to the
one where the source is behind it. -/
theorem exists_bracketed {text : Text} {s left : Lookahead} {payload : Text} {position : Nat}
    (h : Reached text s) (hn : next s = .ok (.array payload, position) left) :
    ∃ before, ∃ b : Bracketed, payload = b.payload ∧
      text = before ++ '[' :: (b.content ++ ']' :: left.source.rest) ∧
      position = before.length ∧ left.source.position = before.length + (b.content.length + 2) := by
  obtain ⟨opening, t, ht, hn⟩ := bind_eq_ok.1 hn
  obtain ⟨token, u, hc, hp⟩ := bind_eq_ok.1 hn
  cases hp
  have hm : MadeFrom (fun _ => True) opening (.array payload) :=
    ((ensures_startingWith kept_true trivial).ok trivial hc).2
  have hk : opening.kind = .single '[' := hm
  have hb : behindBracket opening t = .ok (.array payload) left := by
    unfold startingWith at hc
    rw [hk] at hc
    exact hc
  obtain ⟨b, hpay, hrest, hpos⟩ := behindBracket_spelling (take_eq_ok ht).1 hb
  have hne : t.source.rest ≠ [] := by
    rw [hrest]
    exact List.append_ne_nil_of_right_ne_nil _ (List.cons_ne_nil _ _)
  obtain ⟨before, htext, hstart, hplace⟩ := exists_split_of_take (placed_of_reached h) ht hk hne
  refine ⟨before, b, hpay, ?_, hstart, ?_⟩
  · rw [htext, hrest]
  · rw [hpos, hplace]
    omega

end Token
end Condition
