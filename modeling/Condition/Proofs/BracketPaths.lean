import Condition.Proofs.LexemeLists
import Condition.Proofs.TokenTexts

/-! # Paths in brackets

A name may be written as its segments, each a word or digits in brackets of its own, with blanks
anywhere between the pieces and maybe `[@]` in front (`SpellsPath`). The reading goes on as long as
another bracket follows; what it looked at behind the last segment it puts back.

* `exists_pathFrom`, `exists_of_pathFrom`: the further segments of a path, from their text and back.
* `joined_injective`: the segments can be told from the name.
* `path_of_brackets`: the texts that are read as such a name, and what is left behind them. -/

namespace Condition

open Lexeme Lookahead Source

/-! ### Lexemes behind blanks -/

namespace Source

theorem Cut.isWord {text taken behind : Text} (h : Cut text .word taken behind) :
    Text.isWord taken = true := by
  cases h with
  | word h =>
    simp only [Text.isWord, h, Bool.true_and, List.all_eq_true]
    exact fun _ => Text.mem_takeWhile

end Source

namespace Lookahead

/-- **What is taken** is the piece that stands in front, behind blanks, and the rest then stands in
front. -/
theorem StandsAt.exists_cut {s left : Lookahead} {text : Text} {lexeme : Lexeme}
    (h : StandsAt s text)
    (ht : take s = .ok lexeme left) :
    ∃ gap behind, IsGap gap ∧ text = gap ++ (lexeme.text ++ behind) ∧
      Cut (text.dropWhile Text.isBlank) lexeme.kind lexeme.text behind ∧ StandsAt left behind := by
  obtain ⟨t, hfront, hslot, rfl⟩ := h
  rw [hfront, take_eq_onSource hslot] at ht
  obtain ⟨source, hn, rfl⟩ := eq_of_onSource_eq_ok ht
  obtain ⟨gap, hg, hr, -⟩ := next_spelling hn
  exact ⟨gap, source.rest, hg, hr, (cut_of_next hn).1, standsAt_of_slot rfl⟩

end Lookahead

namespace Token

/-- The first piece of a text is no opening bracket. -/
def NoBracket (text : Text) : Prop :=
  ∃ kind taken behind, Cut (text.dropWhile Text.isBlank) kind taken behind ∧ kind ≠ .single '['

/-! ### Segments -/

/-- **A segment of a path**: a word, or digits. -/
def IsPathSegment (text : Text) : Prop := Text.isWord text = true ∨ Numeral.IsDigits text

theorem isPathSegment_of_isSegment {text behind : Text} {lexeme : Lexeme}
    (hs : isSegment lexeme = true) (hc : Cut text lexeme.kind lexeme.text behind) :
    IsPathSegment lexeme.text := by
  simp only [isSegment, Bool.or_eq_true, beq_iff_eq] at hs
  rcases hs with hk | hk
  · exact .inl (hk ▸ hc).isWord
  · exact .inr (hk ▸ hc).isDigits

/-- What follows a segment in its brackets ends it. -/
theorem stopsWord_gap {gap : Text} (hg : IsGap gap) (rest : Text) :
    Text.StopsWord (gap ++ ']' :: rest) := by
  cases gap with
  | nil =>
    rintro c ⟨⟩
    decide
  | cons d gap =>
    rintro c ⟨⟩
    exact Text.continuesWord_of_isBlank (hg d List.mem_cons_self)

theorem stops_gap {gap : Text} (hg : IsGap gap) (rest : Text) :
    Numeral.Stops (gap ++ ']' :: rest) := by
  cases gap with
  | nil =>
    rintro c ⟨⟩
    decide
  | cons d gap => exact Json.stops_of_isBlank (hg d List.mem_cons_self) _

/-- **A segment is taken** from behind its blanks, in front of the bracket that closes it. -/
theorem exists_take_segment {s : Lookahead} {lead segment gap rest : Text}
    (hs : StandsAt s (lead ++ (segment ++ (gap ++ ']' :: rest)))) (hl : IsGap lead)
    (hp : IsPathSegment segment) (hg : IsGap gap) :
    ∃ lexeme left, take s = .ok lexeme left ∧ isSegment lexeme = true ∧ lexeme.text = segment ∧
      StandsAt left (gap ++ ']' :: rest) := by
  have hcut : ∃ kind, (kind = .word ∨ kind = .integer) ∧
      Cut ((segment ++ (gap ++ ']' :: rest)).dropWhile Text.isBlank) kind segment
        (gap ++ ']' :: rest) := by
    rcases hp with hw | hd
    · exact ⟨.word, .inl rfl, cut_word_dropWhile hw (stopsWord_gap hg rest)⟩
    · obtain ⟨c, digits, rfl⟩ := List.exists_cons_of_ne_nil hd.1
      have hblank : Text.isBlank c = false := by
        cases hb : Text.isBlank c with
        | false => rfl
        | true =>
          have hdigit := hd.2 c List.mem_cons_self
          rw [Json.isDigit_of_isBlank hb] at hdigit
          cases hdigit
      rw [List.cons_append, List.dropWhile_cons, hblank]
      exact ⟨.integer, .inr rfl, cut_digits hd (stops_gap hg rest)⟩
  obtain ⟨kind, hkind, hcut⟩ := hcut
  obtain ⟨lexeme, left, ht, hk, htext, hleft⟩ := (hs.of_blanks hl).exists_take hcut
  exact ⟨lexeme, left, ht, by rcases hkind with rfl | rfl <;> simp [isSegment, hk], htext, hleft⟩

/-! ### Segments in brackets -/

/-- **Segments in brackets**, one behind the other, with blanks in front of each bracket and
segment. -/
inductive InBrackets : List Text → Text → Prop where
  | nil : InBrackets [] []
  | cons {segment before lead gap text : Text} {segments : List Text} (hs : IsPathSegment segment)
    (hb : IsGap before) (hl : IsGap lead) (hg : IsGap gap) (h : InBrackets segments text) :
    InBrackets (segment :: segments) (before ++ '[' :: (lead ++ (segment ++ (gap ++ ']' :: text))))

/-- **How a path is spelled**: its segments in brackets, maybe behind an `@` in brackets. -/
inductive SpellsPath : List Text → Text → Prop where
  | plain {segments : List Text} {text : Text} (h : InBrackets segments text) :
    SpellsPath segments text
  | behindAt {segments : List Text} {before lead gap text : Text} (hb : IsGap before)
    (hl : IsGap lead) (hg : IsGap gap) (h : InBrackets segments text) :
    SpellsPath segments (before ++ '[' :: (lead ++ '@' :: (gap ++ ']' :: text)))

variable {opening : Lexeme} {s left : Lookahead} {segments taken : List Text} {text rest : Text}
  {token : Token}

/-- A path goes on with a segment in brackets. -/
theorem pathFrom_of_segment {s₁ s₂ s₃ : Lookahead} {bracket segment closing : Lexeme}
    (h₁ : take s = .ok bracket s₁) (hb : bracket.isSingle '[' = true)
    (h₂ : take s₁ = .ok segment s₂) (hs : isSegment segment = true) (h₃ : take s₂ = .ok closing s₃)
    (hc : closing.isSingle ']' = true) :
    pathFrom opening taken s = pathFrom opening (segment.text :: taken) s₃ := by
  rw [pathFrom]
  split <;> rename_i h <;> rw [h₁] at h <;> cases h
  rw [dif_pos hb]
  split <;> rename_i h <;> rw [h₂] at h <;> cases h
  rw [if_pos hs]
  split <;> rename_i h <;> rw [h₃] at h <;> cases h
  rw [if_pos hc]

/-- A path with a segment ends where no bracket follows, and what was looked at is put back. -/
theorem exists_pathFrom_of_end (hs : StandsAt s rest) (hr : NoBracket rest) (hne : taken ≠ [])
    (opening : Lexeme) : ∃ left,
      pathFrom opening taken s = .ok (.name (Text.joined ['.'] taken.reverse)) left ∧
      StandsAt left rest := by
  obtain ⟨kind, piece, behind, hcut, hk⟩ := hr
  obtain ⟨lexeme, t, ht, hkind, -, -⟩ := hs.exists_take hcut
  obtain ⟨left, hp, hleft⟩ := hs.exists_putBack ht
  have hsingle : ¬ lexeme.isSingle '[' = true := fun h => hk (hkind ▸ isSingle_iff.1 h)
  refine ⟨left, ?_, hleft⟩
  rw [pathFrom]
  split <;> rename_i h <;> rw [ht] at h <;> cases h
  rw [dif_neg hsingle, if_neg (by simpa using hne)]
  exact bind_eq_ok.2 ⟨(), left, hp, rfl⟩

/-- **The further segments of a path** are read behind those that were taken. -/
theorem exists_pathFrom (opening : Lexeme) (taken : List Text) (h : InBrackets segments text)
    (hr : NoBracket rest) (hne : taken.reverse ++ segments ≠ []) (hs : StandsAt s (text ++ rest)) :
    ∃ left, pathFrom opening taken s =
        .ok (.name (Text.joined ['.'] (taken.reverse ++ segments))) left ∧ StandsAt left rest := by
  induction h generalizing s taken with
  | nil =>
    rw [List.append_nil] at hne ⊢
    exact exists_pathFrom_of_end hs hr (by simpa using hne) opening
  | @cons segment before lead gap text segments hseg hb hl hg _ ih =>
    simp only [List.append_assoc, List.cons_append] at hs
    obtain ⟨bracket, s₁, h₁, hbracket, hs₁⟩ := (hs.of_blanks hb).exists_take_single rfl (by decide)
    obtain ⟨lexeme, s₂, h₂, hlexeme, rfl, hs₂⟩ := exists_take_segment hs₁ hl hseg hg
    obtain ⟨closing, s₃, h₃, hclosing, hs₃⟩ := (hs₂.of_blanks hg).exists_take_single rfl (by decide)
    rw [pathFrom_of_segment h₁ (isSingle_iff.2 hbracket) h₂ hlexeme h₃ (isSingle_iff.2 hclosing)]
    have hsegments : (lexeme.text :: taken).reverse ++ segments =
        taken.reverse ++ lexeme.text :: segments := by simp
    rw [← hsegments]
    exact ih (lexeme.text :: taken) (by rwa [hsegments]) hs₃

/-- A bracket, a piece and a bracket that are taken one behind the other. -/
theorem exists_of_closed {s₁ s₂ : Lookahead} {first closing : Lexeme} (hs : StandsAt s text)
    (h₁ : take s = .ok first s₁) (h₂ : take s₁ = .ok closing s₂)
    (hc : closing.isSingle ']' = true) : ∃ lead gap behind, IsGap lead ∧ IsGap gap ∧
      text = lead ++ (first.text ++ (gap ++ ']' :: behind)) ∧ StandsAt s₂ behind := by
  obtain ⟨lead, more, hl, rfl, -, hs₁⟩ := hs.exists_cut h₁
  obtain ⟨gap, behind, hg, rfl, hcut, hs₂⟩ := hs₁.exists_cut h₂
  rw [isSingle_iff.1 hc] at hcut
  rw [hcut.eq_singleton]
  exact ⟨lead, gap, behind, hl, hg, rfl, hs₂⟩

/-- **A path that was read** has further segments in brackets, and no bracket follows them. -/
theorem exists_of_pathFrom (h : pathFrom opening taken s = .ok token left) (hs : StandsAt s text) :
    ∃ segments path rest, InBrackets segments path ∧ taken.reverse ++ segments ≠ [] ∧
      text = path ++ rest ∧ NoBracket rest ∧
      token = .name (Text.joined ['.'] (taken.reverse ++ segments)) ∧ StandsAt left rest := by
  fun_induction pathFrom opening taken s generalizing text with
  | case1 | case2 | case3 | case5 | case6 => cases h
  | case4 taken s bracket s₁ h₁ hb segment s₂ h₂ hseg closing s₃ h₃ hc ih =>
    obtain ⟨before, more, hbefore, rfl, hcut, hs₁⟩ := hs.exists_cut h₁
    rw [isSingle_iff.1 hb] at hcut
    rw [hcut.eq_singleton]
    obtain ⟨lead', more', hl', hmore, hsegment, -⟩ := hs₁.exists_cut h₂
    obtain ⟨lead, gap, behind, hl, hg, rfl, hs₃⟩ := exists_of_closed hs₁ h₂ h₃ hc
    obtain ⟨segments, path, rest, hpath, hne, rfl, hr, rfl, hleft⟩ := ih h hs₃
    refine ⟨segment.text :: segments,
      before ++ '[' :: (lead ++ (segment.text ++ (gap ++ ']' :: path))), rest,
      .cons (isPathSegment_of_isSegment hseg hsegment) hbefore hl hg hpath, by simp, by simp, hr,
      by simp, hleft⟩
  | case7 taken s bracket s₁ h₁ hb =>
    obtain ⟨gap, behind, -, rfl, hcut, -⟩ := hs.exists_cut h₁
    obtain ⟨u, hu, hstands⟩ := hs.exists_putBack h₁
    obtain ⟨_, v, hv, h⟩ := bind_eq_ok.1 h
    obtain rfl : u = v := by
      rw [hu] at hv
      cases hv
      rfl
    have hk : bracket.kind ≠ .single '[' := fun hk => hb (isSingle_iff.2 hk)
    split at h
    · cases h
    · rename_i hne
      cases h
      exact ⟨[], [], _, .nil, by simpa using hne, rfl, ⟨_, _, _, hcut, hk⟩, by simp, hstands⟩

/-! ### Paths and their names -/

theorem InBrackets.isPathSegment (h : InBrackets segments text) {segment : Text}
    (hm : segment ∈ segments) : IsPathSegment segment := by
  induction h with
  | nil => cases hm
  | cons hs _ _ _ _ ih =>
    rcases List.mem_cons.1 hm with rfl | hm
    · exact hs
    · exact ih hm

/-- No segment has a point in it. -/
theorem IsPathSegment.point_notMem (h : IsPathSegment text) : '.' ∉ text := by
  intro hm
  rcases h with hw | hd
  · cases text with
    | nil => cases hm
    | cons c word =>
      simp only [Text.isWord, Bool.and_eq_true, List.all_eq_true] at hw
      rcases List.mem_cons.1 hm with rfl | hm
      · exact absurd hw.1 (by decide)
      · exact absurd (hw.2 _ hm) (by decide)
  · exact absurd (hd.2 _ hm) (by decide)

/-- **The segments of a path** can be told from its name. -/
theorem joined_injective {segments others : List Text} (hne : segments ≠ []) (hne' : others ≠ [])
    (hs : ∀ segment ∈ segments, IsPathSegment segment)
    (ho : ∀ segment ∈ others, IsPathSegment segment)
    (h : Text.joined ['.'] segments = Text.joined ['.'] others) : segments = others := by
  have key : ∀ parts : List Text, parts ≠ [] → (∀ part ∈ parts, IsPathSegment part) →
      (Text.joined ['.'] parts).splitOn '.' = parts := fun parts hn hp =>
    List.splitOn_intercalate '.' (fun part hm => (hp part hm).point_notMem) hn
  rw [← key segments hne hs, h, key others hne' ho]

/-! ### Brackets that are paths -/

/-- The rest of an array makes no name. -/
theorem arrayRest_ne_name {taken name : Text} :
    arrayRest taken opening s ≠ .ok (.name name) left := by
  intro h
  obtain ⟨first, t, -, -, ⟨-, htoken, -⟩ | ⟨-, depth, body, -, htoken⟩⟩ := arrayRest_eq_ok h <;>
    cases htoken

/-- **A path in brackets** is a token where no bracket follows it. -/
theorem begins_path (h : SpellsPath segments text) (hne : segments ≠ []) (hr : NoBracket rest) :
    Begins (text ++ rest) (.name (Text.joined ['.'] segments)) rest := by
  -- what is read behind the bracket that opens the path
  have key : ∀ {before inside : Text}, IsGap before →
      (∀ opening s, StandsAt s inside → ∃ left, behindBracket opening s =
        .ok (.name (Text.joined ['.'] segments)) left ∧ StandsAt left rest) →
      Begins (before ++ '[' :: inside) (.name (Text.joined ['.'] segments)) rest := by
    intro before inside hb hinside
    refine Begins.of_blanks (begins_of_cut (cut_single (by decide) _) fun opening s hk _ hs => ?_)
      hb
    simp only [startingWith, hk]
    exact hinside opening s hs
  cases h with
  | plain h =>
    cases h with
    | nil => exact absurd rfl hne
    | @cons segment before lead gap text segments hseg hb hl hg h =>
      simp only [List.append_assoc, List.cons_append]
      refine key hb fun opening s hs => ?_
      obtain ⟨first, s₁, h₁, hfirst, rfl, hs₁⟩ := exists_take_segment hs hl hseg hg
      obtain ⟨closing, s₂, h₂, hclosing, hs₂⟩ :=
        (hs₁.of_blanks hg).exists_take_single rfl (by decide)
      obtain ⟨left, hpath, hleft⟩ :=
        exists_pathFrom opening [first.text] h hr (List.cons_ne_nil _ _) hs₂
      have hat : ¬ first.isSingle '@' = true := by
        intro hat
        rw [isSegment, isSingle_iff.1 hat] at hfirst
        cases hfirst
      refine ⟨left, bind_eq_ok.2 ⟨first, s₁, h₁, ?_⟩, hleft⟩
      rw [if_neg hat, if_pos hfirst]
      refine bind_eq_ok.2 ⟨closing, s₂, h₂, ?_⟩
      rw [if_pos (isSingle_iff.2 hclosing)]
      exact hpath
  | @behindAt before lead gap text hb hl hg h =>
    simp only [List.append_assoc, List.cons_append]
    refine key hb fun opening s hs => ?_
    obtain ⟨first, s₁, h₁, hfirst, hs₁⟩ :=
      (hs.of_blanks hl).exists_take_single rfl (by decide)
    obtain ⟨closing, s₂, h₂, hclosing, hs₂⟩ := (hs₁.of_blanks hg).exists_take_single rfl (by decide)
    obtain ⟨left, hpath, hleft⟩ := exists_pathFrom opening [] h hr hne hs₂
    refine ⟨left, bind_eq_ok.2 ⟨first, s₁, h₁, ?_⟩, hleft⟩
    rw [if_pos (isSingle_iff.2 hfirst)]
    refine bind_eq_ok.2 ⟨closing, s₂, h₂, ?_⟩
    rw [if_pos (isSingle_iff.2 hclosing)]
    exact hpath

/-- A path of one segment has the name of that segment. -/
theorem begins_path_of_segment {lead segment gap : Text} (hs : IsPathSegment segment)
    (hl : IsGap lead) (hg : IsGap gap) (hr : NoBracket rest) :
    Begins ('[' :: (lead ++ (segment ++ (gap ++ ']' :: rest)))) (.name segment) rest := by
  have hbefore : IsGap [] := nofun
  have h := begins_path (.plain (.cons hs hbefore hl hg .nil)) (List.cons_ne_nil segment []) hr
  have hjoined : Text.joined ['.'] [segment] = segment := by simp [Text.joined]
  simpa only [hjoined, List.nil_append, List.cons_append, List.append_assoc] using h

/-- Behind a bracket that starts a name stand the segments of that name. -/
theorem exists_of_behindBracket {before name : Text} (hb : IsGap before)
    (h : behindBracket opening s = .ok (.name name) left) (hs : StandsAt s text) :
    ∃ segments path rest, SpellsPath segments path ∧ segments ≠ [] ∧
      before ++ '[' :: text = path ++ rest ∧ NoBracket rest ∧ name = Text.joined ['.'] segments ∧
      StandsAt left rest := by
  obtain ⟨first, s₁, h₁, h⟩ := bind_eq_ok.1 h
  obtain ⟨_, _, -, -, hcut, -⟩ := hs.exists_cut h₁
  split at h
  · rename_i hat
    rw [isSingle_iff.1 hat] at hcut
    obtain ⟨closing, s₂, h₂, h⟩ := bind_eq_ok.1 h
    split at h
    · rename_i hc
      obtain ⟨lead, gap, behind, hl, hg, rfl, hs₂⟩ := exists_of_closed hs h₁ h₂ hc
      obtain ⟨segments, path, rest, hpath, hne, rfl, hr, htoken, hleft⟩ := exists_of_pathFrom h hs₂
      cases htoken
      rw [hcut.eq_singleton]
      exact ⟨segments, before ++ '[' :: (lead ++ '@' :: (gap ++ ']' :: path)), rest,
        .behindAt hb hl hg hpath, hne, by simp, hr, rfl, hleft⟩
    · cases h
  · split at h
    · rename_i hseg
      obtain ⟨closing, s₂, h₂, h⟩ := bind_eq_ok.1 h
      split at h
      · rename_i hc
        obtain ⟨lead, gap, behind, hl, hg, rfl, hs₂⟩ := exists_of_closed hs h₁ h₂ hc
        obtain ⟨segments, path, rest, hpath, -, rfl, hr, htoken, hleft⟩ := exists_of_pathFrom h hs₂
        cases htoken
        exact ⟨first.text :: segments,
          before ++ '[' :: (lead ++ (first.text ++ (gap ++ ']' :: path))), rest,
          .plain (.cons (isPathSegment_of_isSegment hseg hcut) hb hl hg hpath),
          List.cons_ne_nil _ _, by simp, hr, rfl, hleft⟩
      · obtain ⟨_, u, -, h⟩ := bind_eq_ok.1 h
        exact absurd h arrayRest_ne_name
    · obtain ⟨_, u, -, h⟩ := bind_eq_ok.1 h
      exact absurd h arrayRest_ne_name

/-- **Paths in brackets are their segments.** A list of words and digits, each in brackets and maybe
behind `[@]`, with blanks anywhere between the pieces, is one name in front of whatever is no
further bracket, and that is left to be read next. Its text is the segments with points between
them, so that different segments make different names. A bracket makes a name only where such a path
stands. -/
theorem path_of_brackets :
    (∀ segments text rest, SpellsPath segments text → segments ≠ [] → NoBracket rest →
      Begins (text ++ rest) (.name (Text.joined ['.'] segments)) rest) ∧
    (∀ segments others text other, SpellsPath segments text → SpellsPath others other →
      segments ≠ [] → others ≠ [] →
      Text.joined ['.'] segments = Text.joined ['.'] others → segments = others) ∧
    ∀ s text name position left, StandsAt s text →
      (text.dropWhile Text.isBlank).head? = some '[' → next s = .ok (.name name, position) left →
      ∃ segments path rest, SpellsPath segments path ∧ segments ≠ [] ∧ text = path ++ rest ∧
        NoBracket rest ∧ name = Text.joined ['.'] segments ∧ StandsAt left rest := by
  refine ⟨fun segments text rest h hne hr => begins_path h hne hr, ?_, ?_⟩
  · intro segments others text other h h' hne hne' hjoined
    have key : ∀ {segments : List Text} {text : Text}, SpellsPath segments text →
        ∀ segment ∈ segments, IsPathSegment segment := by
      rintro segments text (h | ⟨-, -, -, h⟩) segment hm
      · exact h.isPathSegment hm
      · exact h.isPathSegment hm
    exact joined_injective hne hne' (key h) (key h') hjoined
  · intro s text name position left hs hhead h
    obtain ⟨opening, s₁, h₁, h⟩ := bind_eq_ok.1 h
    obtain ⟨token, u, h₂, h⟩ := bind_eq_ok.1 h
    cases h
    obtain ⟨before, behind, hb, rfl, hcut, hs₁⟩ := hs.exists_cut h₁
    have hk := hcut.kind_eq_single hhead (by decide)
    rw [hk] at hcut
    simp only [startingWith, hk] at h₂
    rw [hcut.eq_singleton]
    exact exists_of_behindBracket hb h₂ hs₁

/-- Behind `[@]`, with blanks in the brackets and between them, and a name of one segment beside
it. -/
theorem path_of_brackets_behind_at :
    let text : Text := "[@] [ a ][12\t]".toList
    let rest : Text := " == 1".toList
    let segments : List Text := [['a'], ['1', '2']]
    let others : List Text := [['a', '1', '2']]
    let name : Text := ['a', '.', '1', '2']
    NoBracket rest ∧ Begins (text ++ rest) (.name name) rest ∧
      Text.joined ['.'] segments ≠ Text.joined ['.'] others ∧
      ∃ position left, StandsAt left rest ∧
        next (Lookahead.ofText (text ++ rest)) = .ok (.name name, position) left ∧
        ∃ found path behind, SpellsPath found path ∧ found ≠ [] ∧ text ++ rest = path ++ behind ∧
          NoBracket behind ∧ name = Text.joined ['.'] found ∧ StandsAt left behind := by
  intro text rest segments others name
  have hgap : IsGap [] ∧ IsGap [' '] ∧ IsGap ['\t'] :=
    ⟨List.all_eq_true.1 rfl, List.all_eq_true.1 rfl, List.all_eq_true.1 rfl⟩
  have hlast : InBrackets [['1', '2']] "[12\t]".toList :=
    .cons (.inr ⟨List.cons_ne_nil _ _, List.all_eq_true.1 rfl⟩) hgap.1 hgap.1 hgap.2.2 .nil
  have hpath : SpellsPath segments text :=
    .behindAt hgap.1 hgap.1 hgap.1 (.cons (.inl (by decide)) hgap.2.1 hgap.2.1 hgap.2.1 hlast)
  have hother : SpellsPath others "[a12]".toList :=
    .plain (.cons (.inl (by decide)) hgap.1 hgap.1 hgap.1 .nil)
  have hr : NoBracket rest := ⟨_, _, _, cut_single (by decide) _, by decide⟩
  have hbegins : Begins (text ++ rest) (.name name) rest :=
    path_of_brackets.1 segments text rest hpath (by decide) hr
  obtain ⟨position, left, hn, hleft⟩ := hbegins _ (standsAt_ofText _)
  refine ⟨hr, hbegins, fun h => ?_, position, left, hleft, hn, ?_⟩
  · exact absurd (path_of_brackets.2.1 segments others _ _ hpath hother (by decide) (by decide) h)
      (by decide)
  · exact path_of_brackets.2.2 _ _ name position left (standsAt_ofText _) (by decide) hn

end Token
end Condition
