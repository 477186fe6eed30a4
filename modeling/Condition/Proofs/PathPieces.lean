import Condition.Proofs.MemberPaths
import Condition.Proofs.QueryTexts

/-! # Pieces of paths

A step that was read is a piece of its text: the reading takes the same piece wherever it stands, as
long as what follows starts as it did (`Cuts`), and a step in brackets whatever follows
(`CutsFirmly`). No piece has a parenthesis or a bar in it, but in a quoted name (`Flat`).

* `cuts_readFirst`, `cuts_readSteps`: the steps of a path, which may also end at the end of a text,
  or where neither a name nor a step goes on. -/

namespace Condition.Path

/-! ### Flat texts -/

/-- The characters that open or close strings and groups, and the bar. -/
def delimiters : List Char := ['"', '\'', '(', ')', '|']

/-- **Texts without groups and bars**, but for those in quoted names. -/
inductive Flat : Text → Prop where
  | nil : Flat []
  | cons {c : Char} {text : Text} (hc : c ∉ delimiters) (h : Flat text) : Flat (c :: text)
  | quoted {body text : Text} (hb : Source.closeQuote '"' body = some (body, [])) (h : Flat text) :
    Flat ('"' :: (body ++ text))

theorem Flat.append {text rest : Text} (h : Flat text) (hr : Flat rest) : Flat (text ++ rest) := by
  induction h with
  | nil => exact hr
  | cons hc _ ih => exact .cons hc ih
  | quoted hb _ ih =>
    rw [List.cons_append, List.append_assoc]
    exact .quoted hb ih

/-- Characters of a class without delimiters make a flat text. -/
theorem flat_of_class {f : Char → Bool} {text : Text} (h : ∀ c ∈ text, f c = true)
    (hf : delimiters.any f = false) : Flat text := by
  induction text with
  | nil => exact .nil
  | cons c text ih =>
    refine .cons (Json.notMem_of_class (h c List.mem_cons_self) hf) (ih fun d hd => ?_)
    exact h d (List.mem_cons_of_mem c hd)

theorem flat_blanks {text : Text} (h : ∀ c ∈ text, Text.isBlank c = true) : Flat text :=
  flat_of_class h (by decide)

theorem takes_skipBlanks_append {blanks rest : Text} (h : ∀ c ∈ blanks, Text.isBlank c = true)
    (hr : ∀ c, rest.head? = some c → Text.isBlank c = false) :
    Takes skipBlanks (blanks ++ rest) () rest := by
  obtain ⟨htake, hdrop⟩ := Text.takeWhile_append_stop h hr
  intro offset
  refine ⟨offset + Text.utf8Length blanks, ?_⟩
  simp only [skipBlanks, htake, hdrop]
  rfl

/-! ### What a reading takes whatever follows -/

/-- A text starts as another one does, or both are empty. -/
def StartsAs (left rest : Text) : Prop := rest.head? = left.head?

/-- A text starts as another one does, or goes on with no path. -/
def StartsAsOrStops (left rest : Text) : Prop := StartsAs left rest ∨ StopsPath rest

/-- **A reading cuts a piece** from the front of its text, and takes the same piece in front of
whatever may stand there instead of what it left. -/
def Cuts (may : Text → Text → Prop) {α : Type} (read : Reading α) : Prop :=
  ∀ (cursor left : Cursor) (a : α), read cursor = .ok a left →
    ∃ piece, cursor.rest = piece ++ left.rest ∧ Flat piece ∧
      ∀ rest, may left.rest rest → Takes read (piece ++ rest) a rest

/-- A reading cuts a piece that is not empty, and takes it whatever follows. -/
def CutsFirmly {α : Type} (read : Reading α) : Prop :=
  ∀ (cursor left : Cursor) (a : α), read cursor = .ok a left →
    ∃ piece, piece ≠ [] ∧ cursor.rest = piece ++ left.rest ∧ Flat piece ∧
      ∀ rest, Takes read (piece ++ rest) a rest

section

variable {α β : Type} {read : Reading α} {next : α → Reading β}

theorem startsAs_append (piece : Text) {left rest : Text} (h : StartsAs left rest) :
    StartsAs (piece ++ left) (piece ++ rest) := by
  cases piece with
  | nil => exact h
  | cons c piece => rfl

theorem startsAsOrStops_append (piece : Text) {left rest : Text} (h : StartsAsOrStops left rest) :
    StartsAsOrStops (piece ++ left) (piece ++ rest) := by
  cases piece with
  | nil => exact h
  | cons c piece => exact .inl rfl

theorem CutsFirmly.cuts (h : CutsFirmly read) (may : Text → Text → Prop) : Cuts may read := by
  intro cursor left a hr
  obtain ⟨piece, -, htext, hf, ht⟩ := h cursor left a hr
  exact ⟨piece, htext, hf, fun rest _ => ht rest⟩

theorem Cuts.map {may : Text → Text → Prop} (h : Cuts may read) (f : α → β) :
    Cuts may (f <$> read) := by
  intro cursor left b hr
  obtain ⟨a, ha, rfl⟩ := map_eq_ok.1 hr
  obtain ⟨piece, htext, hf, ht⟩ := h cursor left a ha
  exact ⟨piece, htext, hf, fun rest hm => (ht rest hm).map f⟩

theorem CutsFirmly.map (h : CutsFirmly read) (f : α → β) : CutsFirmly (f <$> read) := by
  intro cursor left b hr
  obtain ⟨a, ha, rfl⟩ := map_eq_ok.1 hr
  obtain ⟨piece, hne, htext, hf, ht⟩ := h cursor left a ha
  exact ⟨piece, hne, htext, hf, fun rest => (ht rest).map f⟩

theorem CutsFirmly.bind (h : Cuts StartsAs read) (hn : ∀ a, CutsFirmly (next a)) :
    CutsFirmly (read >>= next) := by
  intro cursor left b hr
  obtain ⟨a, t, ha, hb⟩ := bind_eq_ok.1 hr
  obtain ⟨piece, htext, hf, ht⟩ := h cursor t a ha
  obtain ⟨more, hne, hmore, hf', ht'⟩ := hn a t left b hb
  refine ⟨piece ++ more, by simp [hne], ?_, hf.append hf', fun rest => ?_⟩
  · rw [htext, hmore, List.append_assoc]
  · rw [List.append_assoc]
    refine (ht _ ?_).bind (ht' rest)
    obtain ⟨c, more, rfl⟩ := List.exists_cons_of_ne_nil hne
    rw [hmore]
    rfl

/-- What follows the second of two pieces starts as it did, so what follows the first one does. -/
theorem Cuts.bind (h : Cuts StartsAsOrStops read) (hn : ∀ a, Cuts StartsAsOrStops (next a)) :
    Cuts StartsAsOrStops (read >>= next) := by
  intro cursor left b hr
  obtain ⟨a, t, ha, hb⟩ := bind_eq_ok.1 hr
  obtain ⟨piece, htext, hf, ht⟩ := h cursor t a ha
  obtain ⟨more, hmore, hf', ht'⟩ := hn a t left b hb
  refine ⟨piece ++ more, ?_, hf.append hf', fun rest hm => ?_⟩
  · rw [htext, hmore, List.append_assoc]
  · rw [List.append_assoc]
    refine (ht _ ?_).bind (ht' rest hm)
    rw [hmore]
    exact startsAsOrStops_append more hm

end

theorem cuts_skipBlanks : Cuts StartsAs skipBlanks := by
  intro cursor left _ h
  cases h
  refine ⟨cursor.rest.takeWhile Text.isBlank, List.takeWhile_append_dropWhile.symm,
    flat_blanks fun c => Text.mem_takeWhile, fun rest hm => ?_⟩
  refine takes_skipBlanks_append (fun c => Text.mem_takeWhile) fun c hc => ?_
  have hdrop : (cursor.rest.dropWhile Text.isBlank).head? = some c := hm ▸ hc
  exact Text.head?_dropWhile_eq_false hdrop

theorem cutsFirmly_expectNext {wanted : Char} (hw : wanted ∉ delimiters) :
    CutsFirmly (expectNext wanted) := by
  intro cursor left _ h
  unfold expectNext at h
  split at h
  · cases h
  · rename_i c rest hr
    split at h
    · rename_i hc
      subst hc
      cases h
      exact ⟨[c], by simp, hr, .cons hw .nil, takes_expectNext c⟩
    · cases h

theorem cutsFirmly_expect {wanted : Char} (hw : wanted ∉ delimiters) : CutsFirmly (expect wanted) :=
  .bind cuts_skipBlanks fun _ => cutsFirmly_expectNext hw

/-! ### Names and indices -/

/-- The content of a quoted name ends at the quote that closes it. -/
theorem exists_content {offset : Nat} {text found : Text} {left : Cursor}
    (h : contentFrom offset text = .ok found left) :
    ∃ body, text = body ++ left.rest ∧ Source.closeQuote '"' body = some (body, []) ∧
      ∀ rest, Takes readContent (body ++ rest) found rest := by
  -- by the characters taken, two at a time behind a backslash
  fun_induction contentFrom offset text generalizing found with
  | case1 | case3 | case6 => cases h
  | case2 =>
    cases h
    exact ⟨['"'], rfl, rfl, takes_readContent_quote⟩
  | case4 =>
    cases h
    exact ⟨['"'], rfl, rfl, takes_readContent_quote⟩
  | case5 offset d rest plain hp hq ih =>
    obtain ⟨content, hr⟩ := consFound_eq_ok h
    rw [hr] at h
    cases h
    obtain ⟨body, rfl, hclose, ht⟩ := ih hr
    refine ⟨'\\' :: d :: body, rfl, ?_, fun rest => takes_readContent_escape hp (ht rest)⟩
    simp only [Source.closeQuote, if_neg (by decide : ¬ '\\' = '"'), if_true, hclose,
      Option.map_some]
  | case7 offset c d rest hq hb ih =>
    obtain ⟨content, hr⟩ := consFound_eq_ok h
    rw [hr] at h
    cases h
    obtain ⟨body, htext, hclose, ht⟩ := ih hr
    refine ⟨c :: body, by rw [htext]; rfl, ?_,
      fun rest => takes_readContent_cons (not_or.2 ⟨hq, hb⟩) (ht rest)⟩
    cases body with
    | nil => cases hclose
    | cons e body => simp only [Source.closeQuote, if_neg hq, if_neg hb, hclose, Option.map_some]

theorem cutsFirmly_readQuoted : CutsFirmly readQuoted := by
  intro cursor left name h
  obtain ⟨_, t, hquote, hcontent⟩ := bind_eq_ok.1 h
  unfold expectNext at hquote
  split at hquote
  · cases hquote
  · rename_i c rest hr
    split at hquote
    · rename_i hc
      subst hc
      cases hquote
      obtain ⟨body, hbody, hclose, ht⟩ := exists_content hcontent
      have hflat := Flat.quoted hclose .nil
      rw [List.append_nil] at hflat
      refine ⟨'"' :: body, by simp, ?_, hflat, fun rest => (takes_expectNext '"' _).bind (ht rest)⟩
      rw [hr]
      exact congrArg _ hbody
    · cases hquote

/-- A word is a name where nothing continues it. -/
theorem takes_readName_word {c : Char} {word rest : Text} (hc : Text.startsWord c = true)
    (hw : ∀ d ∈ word, Text.continuesWord d = true)
    (hr : ∀ d, rest.head? = some d → Text.continuesWord d = false) :
    Takes readName (c :: (word ++ rest)) (c :: word) rest := by
  have hquote : ¬ c = '"' := by
    rintro rfl
    exact absurd hc (by decide)
  obtain ⟨htake, hdrop⟩ := Text.takeWhile_append_stop hw hr
  intro offset
  refine ⟨offset + Text.utf8Length (c :: word), ?_⟩
  simp only [readName, if_neg hquote, if_pos hc, htake, hdrop]
  rfl

theorem cuts_readName : Cuts StartsAsOrStops readName := by
  intro cursor left name h
  unfold readName at h
  split at h
  · cases h
  · rename_i c rest hr
    split at h
    · rename_i hc
      obtain ⟨piece, hne, htext, hf, ht⟩ := cutsFirmly_readQuoted cursor left name h
      refine ⟨piece, htext, hf, fun more _ offset => ?_⟩
      obtain ⟨d, piece, rfl⟩ := List.exists_cons_of_ne_nil hne
      obtain rfl : d = '"' := by
        rw [hr, List.cons_append, List.cons.injEq] at htext
        exact htext.1.symm.trans hc
      simp only [readName, List.cons_append, if_true]
      exact ht more offset
    · split at h
      · rename_i hw
        cases h
        have hword : ∀ d ∈ rest.takeWhile Text.continuesWord, Text.continuesWord d = true :=
          fun d => Text.mem_takeWhile
        have hall : ∀ d ∈ c :: rest.takeWhile Text.continuesWord, Text.continuesWord d = true :=
          List.forall_mem_cons.2 ⟨Text.continuesWord_of_startsWord hw, hword⟩
        refine ⟨c :: rest.takeWhile Text.continuesWord, ?_, flat_of_class hall (by decide),
          fun more hm => takes_readName_word hw hword fun d hd => ?_⟩
        · rw [hr, List.cons_append]
          exact congrArg _ List.takeWhile_append_dropWhile.symm
        · rcases hm with hm | hm
          · exact Text.head?_dropWhile_eq_false
              (hm ▸ hd : (rest.dropWhile Text.continuesWord).head? = some d)
          · exact (hm d hd).1
      · cases h

/-- The text of an index: digits, maybe behind a minus sign. -/
def indexText (negative : Bool) (digits : Text) : Text := if negative then '-' :: digits else digits

/-- An index is taken where no digit goes on. -/
theorem takes_readIndex {negative : Bool} {digits rest : Text} {place : Int}
    (hd : ∀ c ∈ digits, c.isDigit = true) (hp : indexOf? negative digits = some place)
    (hr : ∀ c, rest.head? = some c → c.isDigit = false) :
    Takes readIndex (indexText negative digits ++ rest) place rest := by
  have hne : digits ≠ [] := by
    rintro rfl
    cases hp
  obtain ⟨d, more, rfl⟩ := List.exists_cons_of_ne_nil hne
  have hminus : (d == '-') = false := by
    rw [beq_eq_false_iff_ne]
    rintro rfl
    exact absurd (hd '-' List.mem_cons_self) (by decide)
  obtain ⟨htake, hdrop⟩ := Text.takeWhile_append_stop hd hr
  rw [List.cons_append] at htake hdrop
  intro offset
  refine ⟨offset + Text.utf8Length (indexText negative (d :: more)), ?_⟩
  cases negative with
  | true =>
    simp only [readIndex, indexText, if_true, List.cons_append, List.head?_cons, beq_self_eq_true,
      List.tail_cons, htake, hdrop, hp]
    rfl
  | false =>
    have hhead : ((some d : Option Char) == some '-') = false := hminus
    simp only [readIndex, indexText, Bool.false_eq_true, if_false, List.cons_append,
      List.head?_cons, hhead, htake, hdrop, hp]
    rfl

theorem indexText_append (negative : Bool) (digits rest : Text) :
    indexText negative (digits ++ rest) = indexText negative digits ++ rest := by
  cases negative <;> rfl

theorem flat_indexText (negative : Bool) {digits : Text} (hd : ∀ c ∈ digits, c.isDigit = true) :
    Flat (indexText negative digits) := by
  have hflat : Flat digits := flat_of_class hd (by decide)
  cases negative with
  | true => exact .cons (by decide) hflat
  | false => exact hflat

theorem cuts_readIndex : Cuts StartsAs readIndex := by
  intro cursor left place h
  unfold readIndex at h
  dsimp only at h
  split at h
  · rename_i place' hp
    cases h
    generalize hn : (cursor.rest.head? == some '-') = negative at hp ⊢
    have hbody : cursor.rest =
        indexText negative (if negative then cursor.rest.tail else cursor.rest) := by
      cases negative with
      | true =>
        rw [beq_iff_eq] at hn
        exact List.eq_cons_of_mem_head? hn
      | false => rfl
    generalize (if negative then cursor.rest.tail else cursor.rest) = body at hp hbody ⊢
    have hd : ∀ c ∈ body.takeWhile Char.isDigit, c.isDigit = true := fun c => Text.mem_takeWhile
    refine ⟨indexText negative (body.takeWhile Char.isDigit), ?_, flat_indexText negative hd,
      fun rest hm => takes_readIndex hd hp fun c hc => ?_⟩
    · rw [hbody, ← indexText_append]
      exact congrArg _ List.takeWhile_append_dropWhile.symm
    · exact Text.head?_dropWhile_eq_false (hm ▸ hc : (body.dropWhile Char.isDigit).head? = some c)
  · cases h

/-! ### Steps -/

section

variable {α : Type} {read read' : Reading α} {may : Text → Text → Prop}

/-- A reading that does what another one does where the text starts in a certain way cuts what the
other one cuts, if the text with the piece still starts in this way. -/
theorem Cuts.exists_piece {P : Option Char → Prop} (h : Cuts may read')
    (heq : ∀ cursor : Cursor, P cursor.rest.head? → read cursor = read' cursor)
    {cursor left : Cursor} {a : α} (hp : P cursor.rest.head?) (hr : read cursor = .ok a left)
    (hhead : ∀ piece rest, cursor.rest = piece ++ left.rest → may left.rest rest →
      P (piece ++ rest).head?) :
    ∃ piece, cursor.rest = piece ++ left.rest ∧ Flat piece ∧
      ∀ rest, may left.rest rest → Takes read (piece ++ rest) a rest := by
  rw [heq cursor hp] at hr
  obtain ⟨piece, htext, hf, ht⟩ := h cursor left a hr
  refine ⟨piece, htext, hf, fun rest hm offset => ?_⟩
  rw [heq ⟨piece ++ rest, offset⟩ (hhead piece rest htext hm)]
  exact ht rest hm offset

theorem cuts_pure (a : α) (may : Text → Text → Prop) : Cuts may (Pure.pure a : Reading α) := by
  intro cursor left b h
  change EStateM.Result.ok a cursor = .ok b left at h
  cases h
  exact ⟨[], rfl, .nil, fun rest _ => Takes.pure a rest⟩

/-- What starts a piece that is not empty starts the text. -/
theorem head?_piece {cursor left : Cursor} (hl : left.rest.length < cursor.rest.length)
    {piece : Text} (h : cursor.rest = piece ++ left.rest) (rest : Text) :
    (piece ++ rest).head? = cursor.rest.head? := by
  cases piece with
  | nil =>
    rw [h] at hl
    exact absurd hl (Nat.lt_irrefl _)
  | cons c piece =>
    rw [h]
    rfl

end

theorem readInBrackets_of_head {cursor : Cursor} {c : Char} (h : cursor.rest.head? = some c) :
    readInBrackets cursor =
      if c = ']' then .ok .iterate cursor
      else if c = '"' then (.field <$> readQuoted) cursor
      else if c = '-' ∨ c.isDigit then (.index <$> readIndex) cursor
      else fail (.unexpectedInBrackets c) cursor := by
  obtain ⟨rest, hrest⟩ := List.head?_eq_some_iff.1 h
  simp only [readInBrackets, hrest]

theorem cuts_readInBrackets : Cuts StartsAs readInBrackets := by
  intro cursor left step h
  cases hr : cursor.rest with
  | nil =>
    simp only [readInBrackets, hr] at h
    cases h
  | cons c text =>
    have hc : cursor.rest.head? = some c := by rw [hr]; rfl
    rw [← hr]
    -- the first character tells which step it is, and stays the first
    have key : ∀ {read' : Reading Path}, Cuts StartsAs read' →
        (∀ cursor : Cursor, cursor.rest.head? = some c → readInBrackets cursor = read' cursor) →
        ∃ piece, cursor.rest = piece ++ left.rest ∧ Flat piece ∧
          ∀ rest, StartsAs left.rest rest → Takes readInBrackets (piece ++ rest) step rest := by
      intro read' hcuts heq
      refine hcuts.exists_piece (P := (· = some c)) heq hc h fun piece rest htext hm => ?_
      rw [← hc, htext]
      exact startsAs_append piece hm
    by_cases hb : c = ']'
    · refine key (cuts_pure .iterate StartsAs) fun cursor hcursor => ?_
      rw [readInBrackets_of_head hcursor, if_pos hb]
      rfl
    · by_cases hq : c = '"'
      · refine key ((cutsFirmly_readQuoted.map .field).cuts StartsAs) fun cursor hcursor => ?_
        rw [readInBrackets_of_head hcursor, if_neg hb, if_pos hq]
      · by_cases hi : c = '-' ∨ c.isDigit = true
        · refine key (cuts_readIndex.map .index) fun cursor hcursor => ?_
          rw [readInBrackets_of_head hcursor, if_neg hb, if_neg hq, if_pos hi]
        · rw [readInBrackets_of_head hc, if_neg hb, if_neg hq, if_neg hi] at h
          cases h

theorem cutsFirmly_readBracket : CutsFirmly readBracket := by
  have hclose : ∀ step : Path, CutsFirmly (expect ']' >>= fun _ => Pure.pure step) := by
    intro step
    rw [bind_pure_comp]
    exact (cutsFirmly_expect (by decide)).map fun _ => step
  exact .bind ((cutsFirmly_expectNext (by decide)).cuts StartsAs) fun _ =>
    .bind cuts_skipBlanks fun _ => .bind cuts_readInBrackets hclose

theorem cuts_readDotted : Cuts StartsAsOrStops readDotted := by
  intro cursor left step h
  by_cases hb : cursor.rest.head? = some '['
  · refine (cutsFirmly_readBracket.cuts StartsAsOrStops).exists_piece (P := (· = some '['))
      (fun cursor hcursor => by rw [readDotted, if_pos hcursor]) hb h fun piece rest htext _ => ?_
    rw [head?_piece (length_readDotted h) htext, hb]
  · refine (cuts_readName.map .field).exists_piece (P := (· ≠ some '['))
      (fun cursor hcursor => by rw [readDotted, if_neg hcursor]) hb h fun piece rest htext _ => ?_
    rwa [head?_piece (length_readDotted h) htext]

/-- A reading that takes nothing here takes nothing where the text starts in the same way, and
nothing where it does so in front of every text that goes on with no path. -/
theorem exists_piece_of_unmoved {α : Type} {read : Reading α} {cursor : Cursor} {a : α}
    (h : ∀ rest, StartsAsOrStops cursor.rest rest → Takes read rest a rest) :
    ∃ piece, cursor.rest = piece ++ cursor.rest ∧ Flat piece ∧
      ∀ rest, StartsAsOrStops cursor.rest rest → Takes read (piece ++ rest) a rest :=
  ⟨[], rfl, .nil, h⟩

theorem stopsPath_of_end {left rest : Text} (hl : left = []) (h : StartsAsOrStops left rest) :
    StopsPath rest := by
  subst hl
  rcases h with h | h
  · rw [List.head?_eq_none_iff.1 h]
    exact stopsPath_nil
  · exact h

theorem readFirst_of_head {cursor : Cursor} {c : Char} (h : cursor.rest.head? = some c) :
    readFirst cursor =
      if c = '[' ∨ c = '"' ∨ Text.startsWord c = true then readDotted cursor
      else .ok .identity cursor := by
  obtain ⟨rest, hrest⟩ := List.head?_eq_some_iff.1 h
  simp only [readFirst, hrest]

/-- **The first step** of a path, behind the point that starts it. -/
theorem cuts_readFirst : Cuts StartsAsOrStops readFirst := by
  intro cursor left step h
  cases hr : cursor.rest with
  | nil =>
    simp only [readFirst, hr] at h
    cases h
    rw [← hr]
    exact exists_piece_of_unmoved fun rest hm => takes_readFirst_of_stops (stopsPath_of_end hr hm)
  | cons c text =>
    have hc : cursor.rest.head? = some c := by rw [hr]; rfl
    rw [← hr]
    by_cases hs : c = '[' ∨ c = '"' ∨ Text.startsWord c = true
    · have hdotted : ∀ cursor : Cursor, cursor.rest.head? = some c →
          readFirst cursor = readDotted cursor := by
        intro cursor hcursor
        rw [readFirst_of_head hcursor, if_pos hs]
      refine cuts_readDotted.exists_piece (P := (· = some c)) hdotted hc h fun piece rest htext _ =>
        ?_
      rw [head?_piece (length_readDotted ((hdotted cursor hc).symm.trans h)) htext, hc]
    · rw [readFirst_of_head hc, if_neg hs] at h
      cases h
      refine exists_piece_of_unmoved fun rest hm => ?_
      rcases hm with hm | hm
      · intro offset
        have hhead : (⟨rest, offset⟩ : Cursor).rest.head? = some c := hm.trans hc
        exact ⟨offset, by rw [readFirst_of_head hhead, if_neg hs]⟩
      · exact takes_readFirst_of_stops hm

/-- **The further steps** of a path. -/
theorem cuts_readSteps (steps : List Path) : Cuts StartsAsOrStops (readSteps steps) := by
  intro cursor left path h
  -- by the steps: each is a piece in front of the pieces of the others
  fun_induction readSteps steps cursor with
  | case1 steps cursor hr =>
    cases h
    exact exists_piece_of_unmoved fun rest hm =>
      takes_readSteps_of_stops (stopsPath_of_end hr hm) steps
  | case2 steps cursor rest step behind hb hr ih =>
    obtain ⟨piece, hne, htext, hf, ht⟩ := cutsFirmly_readBracket cursor behind step hb
    obtain ⟨more, hmore, hf', ht'⟩ := ih h
    obtain ⟨c, piece, rfl⟩ := List.exists_cons_of_ne_nil hne
    obtain ⟨rfl, -⟩ : '[' = c ∧ rest = piece ++ behind.rest := List.cons.inj (hr.symm.trans htext)
    refine ⟨('[' :: piece) ++ more, ?_, hf.append hf', fun last hm => ?_⟩
    · rw [htext, hmore, List.append_assoc]
    · rw [List.append_assoc]
      exact takes_readSteps_bracket (ht _) (ht' last hm)
  | case3 => cases h
  | case4 steps cursor rest hr hc ih =>
    obtain ⟨more, hmore, hf', ht'⟩ := ih h
    refine ⟨'?' :: more, ?_, .cons (by decide) hf', fun last hm => takes_readSteps_mark
      (ht' last hm)⟩
    rw [hr]
    exact congrArg _ hmore
  | case5 steps cursor rest step behind hr hc hq hb ih =>
    obtain ⟨piece, htext, hf, ht⟩ := cuts_readDotted _ behind step hb
    obtain ⟨more, hmore, hf', ht'⟩ := ih h
    have htext : rest = piece ++ behind.rest := htext
    refine ⟨'.' :: (piece ++ more), ?_, .cons (by decide) (hf.append hf'), fun last hm => ?_⟩
    · rw [hr, htext, hmore, List.cons_append, List.append_assoc]
    · rw [List.cons_append, List.append_assoc]
      refine takes_readSteps_point (ht _ ?_) (ht' last hm)
      rw [hmore]
      exact startsAsOrStops_append more hm
  | case6 => cases h
  | case7 steps cursor c rest hr hb hq hd =>
    cases h
    refine exists_piece_of_unmoved fun last hm => ?_
    rcases hm with hm | hm
    · exact takes_readSteps_of_head ⟨hb, hq, hd⟩ (by rw [hm, hr]; rfl) steps
    · exact takes_readSteps_of_stops hm steps

end Condition.Path
