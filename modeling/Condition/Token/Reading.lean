import Condition.Lexeme.Lookahead
import Condition.Token.Basic

/-!
# Reading tokens

A token takes one lexeme or several: operators of two characters, numbers with a minus sign, the
forms of `NOT`, paths in brackets, array literals and queries. Where a reading has to look one
lexeme too far it puts that lexeme back.

`Token.next` delivers a token with its place. A token other than the end of the input leaves less
unread (`unread_next_lt`), so a text has finitely many tokens, and `Token.listOf` lists them.
-/

namespace Condition.Token

open Lookahead

/-- Refuses a lexeme that starts no token or does not go on with one. -/
def refuse {α : Type} (lexeme : Lexeme) : Reading α :=
  throw (.illegal lexeme.text lexeme.position)

/-- An operator that may end in `=`. -/
def comparison (alone withEqual : Operator) : Reading Token := do
  let next ← take
  if next.isSingle '=' then return .operator withEqual
  else
    putBack
    return .operator alone

/-- An operator whose second character has to be `=` or `~`. -/
def equalOrTilde (withEqual withTilde : Operator) : Reading Token := do
  let next ← take
  if next.isSingle '=' then return .operator withEqual
  else if next.isSingle '~' then return .operator withTilde
  else refuse next

/-- A number behind a minus sign; its own text must not have another one. -/
def negativeNumber : Reading Token := do
  let next ← take
  if next.text.contains '-' || !next.isNumber then refuse next
  else return .number ('-' :: next.text)

/-- The mode of a query in brackets, if there is one. -/
def queryMode (position : Nat) : Reading (Option Text) := do
  let opening ← take
  if opening.isSingle '[' then
    let mode ← take
    if mode.isSingle ']' then return none
    else
      let closing ← take
      if closing.isSingle ']' then return some mode.text
      else throw (.malformedSubQuery .openMode position)
  else
    putBack
    return none

/-- A query with its mode. -/
def query (position : Nat) : Reading Token := do
  let mode ← queryMode position
  let opening ← take
  if opening.isSingle '(' then
    let query ← takeBalanced '(' ')' 1 .subQuery opening.position
    return .subQuery query mode
  else throw (.malformedSubQuery .noBody position)

/-- What follows a dollar sign: a number makes a name, the word `jq` a query. -/
def behindDollar (dollar : Lexeme) : Reading Token := do
  let next ← take
  if next.kind = .integer then return .name ('$' :: next.text)
  else if next.kind = .word ∧ Text.upper next.text = ['J', 'Q'] then query dollar.position
  else throw (.illegal ('$' :: next.text) dollar.position)

/-- What the word `NOT` makes with the one behind it. -/
def behindNot (word : Lexeme) : Reading Token := do
  let next ← take
  match Text.upper next.text with
  | ['I', 'N'] => return .operator .notMember
  | ['T', 'R', 'U', 'E'] => return .boolean false
  | ['F', 'A', 'L', 'S', 'E'] => return .boolean true
  | _ =>
    putBack
    refuse word

/-- A keyword in whatever case, or a name. -/
def ofWord (word : Lexeme) : Reading Token :=
  match Text.upper word.text with
  | ['A', 'N', 'D'] => return .operator .and
  | ['N', 'A', 'N', 'D'] => return .operator .nand
  | ['O', 'R'] => return .operator .or
  | ['X', 'O', 'R'] => return .operator .xor
  | ['I', 'N'] => return .operator .member
  | ['T', 'R', 'U', 'E'] => return .boolean true
  | ['F', 'A', 'L', 'S', 'E'] => return .boolean false
  | ['N', 'O', 'T'] => behindNot word
  | _ => return .name word.text

/-- The rest of an array literal, behind what was taken of it already; one lexeme waits. -/
def arrayRest (taken : Text) (opening : Lexeme) : Reading Token := do
  let first ← take
  if first.isEnd then throw (.unterminated .arrayLiteral opening.position)
  else if first.isSingle ']' then return .array taken
  else
    let depth := if first.isSingle '[' then 2 else 1
    let body ← takeBalanced '[' ']' depth .arrayLiteral opening.position
    return .array (taken ++ first.text ++ body)

/-- Whether a lexeme is a segment of a path. -/
def isSegment (lexeme : Lexeme) : Bool := lexeme.kind == .word || lexeme.kind == .integer

/-- The further segments of a path, each in its brackets, behind the segments taken so far (the last
one first). A path without any segment is refused. -/
def pathFrom (opening : Lexeme) (segments : List Text) : Reading Token := fun s =>
  match _h₁ : take s with
  | .error e s₁ => .error e s₁
  | .ok next s₁ =>
    if _hn : next.isSingle '[' = true then
      match _h₂ : take s₁ with
      | .error e s₂ => .error e s₂
      | .ok segment s₂ =>
        if isSegment segment then
          match _h₃ : take s₂ with
          | .error e s₃ => .error e s₃
          | .ok closing s₃ =>
            if closing.isSingle ']' then pathFrom opening (segment.text :: segments) s₃
            else refuse closing s₃
        else refuse segment s₂
    else
      (do
        putBack
        if segments.isEmpty then refuse opening
        else return .name (Text.joined ['.'] segments.reverse) : Reading Token) s₁
termination_by s => s.unread
decreasing_by
  have := unread_take _h₁
  have := unread_take _h₂
  have := unread_take _h₃
  have := Lexeme.length_pos_of_isSingle _hn
  omega

/-- What an opening bracket starts: a path of segments, of which the first may be `@` and then does
not count, or else an array literal. -/
def behindBracket (opening : Lexeme) : Reading Token := do
  let first ← take
  if first.isSingle '@' then
    let closing ← take
    if closing.isSingle ']' then pathFrom opening []
    else refuse closing
  else if isSegment first then
    let closing ← take
    if closing.isSingle ']' then pathFrom opening [first.text]
    else
      putBack
      arrayRest first.text opening
  else
    putBack
    arrayRest [] opening

/-- The token that starts with a lexeme. -/
def startingWith (first : Lexeme) : Reading Token :=
  match first.kind with
  | .endOfText => return .endOfInput
  | .integer => return .number first.text
  | .decimal => return .number first.text
  | .quoted => return .string first.text
  | .word => ofWord first
  | .single c =>
    match c with
    | '(' => return .leftParen
    | ')' => return .rightParen
    | '-' => negativeNumber
    | '$' => behindDollar first
    | '!' => equalOrTilde .notEqual .notMatching
    | '=' => equalOrTilde .equal .matching
    | '>' => comparison .greater .atLeast
    | '<' => comparison .less .atMost
    | '/' => do
      let pattern ← takeUntil '/' .pattern first.position
      return .string ('/' :: pattern ++ ['/'])
    | '[' => behindBracket first
    | _ => return .string first.text

/-- The next token, with the place where it starts. -/
def next : Reading (Token × Nat) := do
  let first ← take
  let token ← startingWith first
  return (token, first.position)

/-! ### What a reading leaves unread -/

/-- A reading that never leaves more unread than there was, even if the last lexeme is put back
where one could have been put back before. -/
structure Consumes {α : Type} (read : Reading α) : Prop where
  unread : ∀ {s left : Lookahead} {a : α}, read s = .ok a left → left.unread ≤ s.unread
  held : ∀ {s left : Lookahead} {a : α}, read s = .ok a left → left.held ≤ s.held

theorem Consumes.pure {α : Type} (a : α) : Consumes (Pure.pure a : Reading α) := by
  have key : ∀ {s left : Lookahead} {b : α}, (Pure.pure a : Reading α) s = .ok b left →
      left = s := by
    intro s left b h
    change EStateM.Result.ok a s = .ok b left at h
    simp only [EStateM.Result.ok.injEq] at h
    exact h.2.symm
  exact ⟨fun h => Nat.le_of_eq (by rw [key h]), fun h => Nat.le_of_eq (by rw [key h])⟩

theorem Consumes.throw {α : Type} (e : Lexeme.Error) :
    Consumes (MonadExcept.throw e : Reading α) := by
  have key : ∀ {s left : Lookahead} {b : α}, (MonadExcept.throw e : Reading α) s ≠ .ok b left := by
    intro s left b h
    change EStateM.Result.error e s = .ok b left at h
    cases h
  exact ⟨fun h => absurd h key, fun h => absurd h key⟩

theorem Consumes.bind {α β : Type} {read : Reading α} {next : α → Reading β} (hr : Consumes read)
    (hn : ∀ a, Consumes (next a)) : Consumes (read >>= next) := by
  constructor
  · intro s left b h
    obtain ⟨a, t, ha, hb⟩ := bind_eq_ok.1 h
    exact Nat.le_trans ((hn a).unread hb) (hr.unread ha)
  · intro s left b h
    obtain ⟨a, t, ha, hb⟩ := bind_eq_ok.1 h
    exact Nat.le_trans ((hn a).held hb) (hr.held ha)

theorem Consumes.ite {α : Type} {p : Prop} [Decidable p] {a b : Reading α} (ha : Consumes a)
    (hb : Consumes b) : Consumes (if p then a else b) := by
  split <;> assumption

/-- A reading that holds less behind it than was unread in front of it. -/
theorem Consumes.of_held {α : Type} {read : Reading α}
    (h : ∀ {s left : Lookahead} {a : α}, read s = .ok a left → left.held ≤ s.unread) :
    Consumes read :=
  ⟨fun hr => Nat.le_trans (unread_le_held _) (h hr),
    fun hr => Nat.le_trans (h hr) (unread_le_held _)⟩

theorem consumes_take : Consumes take := .of_held held_take

theorem consumes_takeUntil (closing : Char) (what : Passage) (start : Nat) :
    Consumes (takeUntil closing what start) :=
  .of_held fun h => Nat.le_of_lt (held_takeUntil h)

theorem consumes_takeBalanced (opening closing : Char) (depth : Nat) (what : Passage)
    (start : Nat) : Consumes (takeBalanced opening closing depth what start) :=
  .of_held fun h => Nat.le_of_lt (held_takeBalanced h)

theorem consumes_refuse {α : Type} (lexeme : Lexeme) : Consumes (refuse lexeme : Reading α) :=
  Consumes.throw _

/-- A lexeme that is put back is unread again, so taking it and putting it back count together. -/
theorem Consumes.take_bind {α : Type} {body : Lexeme → Reading α}
    (h : ∀ lexeme, Consumes (body lexeme) ∨
      ∃ after : Reading α, Consumes after ∧ body lexeme = (do putBack; after)) :
    Consumes (take >>= body) := by
  refine .of_held fun {s left a} ha => ?_
  obtain ⟨lexeme, t, hs, hb⟩ := bind_eq_ok.1 ha
  rcases h lexeme with hc | ⟨after, hc, he⟩
  · exact Nat.le_trans (hc.held hb) (held_take hs)
  · rw [he] at hb
    obtain ⟨_, u, hu, hb⟩ := bind_eq_ok.1 hb
    exact Nat.le_trans (hc.held hb) ((held_putBack hu).1 ▸ held_take hs)

theorem consumes_comparison (alone withEqual : Operator) :
    Consumes (comparison alone withEqual) := by
  refine Consumes.take_bind fun lexeme => ?_
  split
  · exact .inl (Consumes.pure _)
  · exact .inr ⟨_, Consumes.pure _, rfl⟩

theorem consumes_equalOrTilde (withEqual withTilde : Operator) :
    Consumes (equalOrTilde withEqual withTilde) :=
  consumes_take.bind fun _ =>
    (Consumes.pure _).ite ((Consumes.pure _).ite (consumes_refuse _))

theorem consumes_negativeNumber : Consumes negativeNumber :=
  consumes_take.bind fun _ => (consumes_refuse _).ite (Consumes.pure _)

theorem consumes_queryMode (position : Nat) : Consumes (queryMode position) := by
  refine Consumes.take_bind fun lexeme => ?_
  split
  · exact .inl (consumes_take.bind fun _ => (Consumes.pure _).ite
      (consumes_take.bind fun _ => (Consumes.pure _).ite (Consumes.throw _)))
  · exact .inr ⟨_, Consumes.pure _, rfl⟩

theorem consumes_query (position : Nat) : Consumes (query position) :=
  (consumes_queryMode position).bind fun _ => consumes_take.bind fun _ =>
    ((consumes_takeBalanced _ _ _ _ _).bind fun _ => Consumes.pure _).ite (Consumes.throw _)

theorem consumes_behindDollar (dollar : Lexeme) : Consumes (behindDollar dollar) :=
  consumes_take.bind fun _ =>
    (Consumes.pure _).ite ((consumes_query _).ite (Consumes.throw _))

theorem consumes_behindNot (word : Lexeme) : Consumes (behindNot word) := by
  refine Consumes.take_bind fun lexeme => ?_
  split
  · exact .inl (Consumes.pure _)
  · exact .inl (Consumes.pure _)
  · exact .inl (Consumes.pure _)
  · exact .inr ⟨_, consumes_refuse _, rfl⟩

theorem consumes_ofWord (word : Lexeme) : Consumes (ofWord word) := by
  unfold ofWord
  split
  case h_8 => exact consumes_behindNot word
  all_goals exact Consumes.pure _

theorem consumes_arrayRest (taken : Text) (opening : Lexeme) :
    Consumes (arrayRest taken opening) :=
  consumes_take.bind fun _ => (Consumes.throw _).ite ((Consumes.pure _).ite
    ((consumes_takeBalanced _ _ _ _ _).bind fun _ => Consumes.pure _))

theorem held_pathFrom {opening : Lexeme} {segments : List Text} {s left : Lookahead} {token : Token}
    (h : pathFrom opening segments s = .ok token left) : left.held ≤ s.unread := by
  fun_induction pathFrom opening segments s with
  | case1 => cases h
  | case2 => cases h
  | case3 => cases h
  | case4 segments s next s₁ h₁ hn segment s₂ h₂ hseg closing s₃ h₃ hc ih =>
    have := ih h
    have := unread_take h₁
    have := unread_take h₂
    have := unread_take h₃
    omega
  | case5 => cases h
  | case6 => cases h
  | case7 segments s next s₁ h₁ hn =>
    obtain ⟨_, u, hu, hb⟩ := bind_eq_ok.1 h
    refine Nat.le_trans (((consumes_refuse opening).ite (Consumes.pure _)).held hb) ?_
    exact (held_putBack hu).1 ▸ held_take h₁

theorem consumes_pathFrom (opening : Lexeme) (segments : List Text) :
    Consumes (pathFrom opening segments) :=
  .of_held held_pathFrom

theorem consumes_behindBracket (opening : Lexeme) : Consumes (behindBracket opening) := by
  refine Consumes.take_bind fun first => ?_
  split
  · exact .inl (consumes_take.bind fun _ => (consumes_pathFrom _ _).ite (consumes_refuse _))
  · split
    · refine .inl (Consumes.take_bind fun closing => ?_)
      split
      · exact .inl (consumes_pathFrom _ _)
      · exact .inr ⟨_, consumes_arrayRest _ _, rfl⟩
    · exact .inr ⟨_, consumes_arrayRest _ _, rfl⟩

theorem consumes_startingWith (first : Lexeme) : Consumes (startingWith first) := by
  unfold startingWith
  split
  · exact Consumes.pure _
  · exact Consumes.pure _
  · exact Consumes.pure _
  · exact Consumes.pure _
  · exact consumes_ofWord first
  · split
    · exact Consumes.pure _
    · exact Consumes.pure _
    · exact consumes_negativeNumber
    · exact consumes_behindDollar first
    · exact consumes_equalOrTilde _ _
    · exact consumes_equalOrTilde _ _
    · exact consumes_comparison _ _
    · exact consumes_comparison _ _
    · exact (consumes_takeUntil _ _ _).bind fun _ => Consumes.pure _
    · exact consumes_behindBracket first
    · exact Consumes.pure _

/-- Only the end of the text makes the token for the end of the input. -/
theorem eq_endOfInput_of_isEnd {first : Lexeme} {token : Token} {s left : Lookahead}
    (h : first.kind = .endOfText) (hc : startingWith first s = .ok token left) :
    token = .endOfInput := by
  unfold startingWith at hc
  rw [h] at hc
  change EStateM.Result.ok Token.endOfInput s = .ok token left at hc
  simp only [EStateM.Result.ok.injEq] at hc
  exact hc.1.symm

/-- Behind a token, what is held is what was unread in front of it at most. -/
theorem held_next {s left : Lookahead} {found : Token × Nat} (h : next s = .ok found left) :
    left.held ≤ s.unread := by
  obtain ⟨first, t, hs, h⟩ := bind_eq_ok.1 h
  exact Nat.le_trans (((consumes_startingWith first).bind fun _ => Consumes.pure _).held h)
    (held_take hs)

/-- A token other than the end of the input takes something away. -/
theorem unread_next_lt {s left : Lookahead} {token : Token} {position : Nat}
    (h : next s = .ok (token, position) left) (hne : token ≠ .endOfInput) :
    left.unread < s.unread := by
  obtain ⟨first, t, hs, h⟩ := bind_eq_ok.1 h
  obtain ⟨found, u, hc, h⟩ := bind_eq_ok.1 h
  change EStateM.Result.ok (found, first.position) u = .ok (token, position) left at h
  simp only [EStateM.Result.ok.injEq, Prod.mk.injEq] at h
  obtain ⟨⟨rfl, -⟩, rfl⟩ := h
  have hpos : 0 < first.text.length :=
    Lexeme.length_pos fun hk => hne (eq_endOfInput_of_isEnd hk hc)
  have := unread_take hs
  have := (consumes_startingWith first).unread hc
  omega

/-! ### All tokens of a text -/

/-- The tokens from a lookahead on, up to the end of the input, or the first error. -/
def listFrom (s : Lookahead) : Except Lexeme.Error (List Token) :=
  match _h : next s with
  | .error e _ => .error e
  | .ok (token, _) left =>
    if _he : token = .endOfInput then .ok [token]
    else (listFrom left).map (token :: ·)
termination_by s.unread
decreasing_by exact unread_next_lt _h _he

/-- The tokens of a text, the last of which is the end of the input. -/
def listOf (text : Text) : Except Lexeme.Error (List Token) := listFrom (Lookahead.ofText text)

end Condition.Token
