import Condition.Proofs.ByteCuts
import Condition.Query.Path.Reading

/-! # Walks over the text of a path

The text of a path can be read by a position in bytes alone: whenever a character is looked at, the
text is cut at the position, and a name or an index is the piece between two positions. Such a walk
gets stuck where the text cannot be cut, and where a loop or the depth of parentheses goes beyond
the length of the text. A trail has the positions that the walk passed.

* `Walk.whole`: the walk over a whole text.
* `Walk.Goes`: what a walk does from a cursor. It does not get stuck, and where it ends with an
  error, the error has the position that was reached. There is one rule for each way to put walks
  together. -/

namespace Condition.Path

/-- **Where a walk stands**: its position in bytes, and the positions it has left, the last one
first. -/
structure Trail where
  position : Nat
  passed : List Nat

/-- A walk over a text: its result with the trail behind it, or nothing if it got stuck. -/
abbrev Walk := ReaderT Text (ExceptT Query.Error (StateT Trail Option))

namespace Walk

variable {α β : Type}

/-! ### Characters and positions -/

/-- Gets stuck. -/
def stuck : Walk α := fun _ _ => none

/-- Ends a walk with a fault at its position. -/
def fail (fault : Query.Fault) : Walk α := fun _ trail =>
  some (.error (.malformed fault trail.position), trail)

/-- The character at the position, if the text does not end there. -/
def look : Walk (Option Char) := fun text trail =>
  (text.cutAt? trail.position).map fun rest => (.ok rest.head?, trail)

/-- Goes on by the bytes of a character. -/
def pass (c : Char) : Walk Unit := fun _ trail =>
  some (.ok (), ⟨trail.position + c.utf8Size, trail.position :: trail.passed⟩)

/-- Takes the character at the position, if the text does not end there. -/
def next : Walk (Option Char) := do
  match ← look with
  | none => return none
  | some c => do
    pass c
    return some c

/-- The position. -/
def here : Walk Nat := fun _ trail => some (.ok trail.position, trail)

/-- The text from a position on. -/
def since (start : Nat) : Walk Text := fun text trail =>
  (text.slice? start trail.position).map fun piece => (.ok piece, trail)

/-- The text that a walk goes over. -/
def spelled (walk : Walk Unit) : Walk Text := do
  let start ← here
  walk
  since start

/-- A walk with the length of the text as a bound for its loop or its depth. -/
def bounded (walk : Nat → Walk α) : Walk α := fun text => walk (text.length + 1) text

/-! ### The pieces of a path -/

/-- Takes the characters of a class at the front. -/
def passWhile (p : Char → Bool) : Nat → Walk Unit
  | 0 => stuck
  | bound + 1 => do
    match ← look with
    | none => return ()
    | some c =>
      if p c then do
        pass c
        passWhile p bound
      else return ()

/-- Takes the blanks at the front. -/
def skipBlanks : Walk Unit := bounded (passWhile Text.isBlank)

/-- Takes a character that has to be the next one. -/
def expectNext (wanted : Char) : Walk Unit := do
  match ← look with
  | none => fail (.expected wanted none)
  | some c => if c = wanted then pass c else fail (.expected wanted (some c))

/-- Takes a character that has to be the next one behind blanks. -/
def expect (wanted : Char) : Walk Unit := do
  skipBlanks
  expectNext wanted

/-- The content of a quoted name, behind its opening quote. -/
def content : Nat → Walk Text
  | 0 => stuck
  | bound + 1 => do
    match ← next with
    | none => fail .openString
    | some c =>
      if c = '"' then return []
      else if c = '\\' then do
        match ← next with
        | none => fail .openString
        | some d =>
          match unescaped? d with
          | none => fail (.invalidEscape d)
          | some plain => List.cons plain <$> content bound
      else List.cons c <$> content bound

/-- A quoted name. -/
def quoted : Walk Text := do
  expectNext '"'
  bounded content

/-- The characters of a word. -/
def word : Walk Unit := do
  match ← look with
  | none => fail (.expectedName none)
  | some c =>
    if Text.startsWord c then do
      pass c
      bounded (passWhile Text.continuesWord)
    else fail (.expectedName (some c))

/-- A name: quoted, or a word. -/
def name : Walk Text := do
  if (← look) = some '"' then quoted else spelled word

/-- The characters of an index: digits, maybe behind a minus sign. -/
def numeral : Walk Unit := do
  if (← look) = some '-' then do
    pass '-'
    bounded (passWhile Char.isDigit)
  else bounded (passWhile Char.isDigit)

/-- The integer that a text spells, if it is one of 64 bits. -/
def integer? : Text → Option Int
  | '-' :: digits => indexOf? true digits
  | digits => indexOf? false digits

/-- An index. -/
def index : Walk Int := do
  let text ← spelled numeral
  match integer? text with
  | none => fail (.invalidIndex text)
  | some place => return place

/-- What stands between brackets: nothing, a quoted name or an index. -/
def inBrackets : Walk Path := do
  match ← look with
  | none => fail .openBracket
  | some c =>
    if c = ']' then return .iterate
    else if c = '"' then .field <$> quoted
    else if c = '-' ∨ c.isDigit then .index <$> index
    else fail (.unexpectedInBrackets c)

/-- A step in brackets. -/
def bracket : Walk Path := do
  expectNext '['
  skipBlanks
  let step ← inBrackets
  expect ']'
  return step

/-- The step behind a point: in brackets, or by name. -/
def dotted : Walk Path := do
  if (← look) = some '[' then bracket else .field <$> name

/-- The first step behind the point that starts a path, which may be missing. -/
def first : Walk Path := do
  match ← look with
  | none => return .identity
  | some c => if c = '[' ∨ c = '"' ∨ Text.startsWord c then dotted else return .identity

/-- The further steps of a path, behind the steps taken so far (the last one first). -/
def stepsBehind : Nat → List Path → Walk Path
  | 0, _ => stuck
  | bound + 1, taken => do
    match ← look with
    | none => return sequence taken.reverse
    | some c =>
      if c = '[' then do
        let step ← bracket
        stepsBehind bound (step :: taken)
      else if c = '?' then do
        pass c
        stepsBehind bound (markOptional taken)
      else if c = '.' then do
        pass c
        let step ← dotted
        stepsBehind bound (step :: taken)
      else return sequence taken.reverse

/-- A step, and the further steps of its path. -/
def steps (step : Path) : Walk Path := bounded fun bound => stepsBehind bound [step]

/-! ### Paths -/

/-- Further items, each behind a separator, behind the items taken so far (the last one first). -/
def itemsBehind (separator : Char) (item : Walk Path) : Nat → List Path → Walk (List Path)
  | 0, _ => stuck
  | bound + 1, taken => do
    skipBlanks
    if (← look) = some separator then do
      pass separator
      let path ← item
      itemsBehind separator item bound (path :: taken)
    else return taken

/-- Items with a separator between neighbours, the last one first. -/
def items (separator : Char) (item : Walk Path) : Walk (List Path) := do
  let path ← item
  bounded fun bound => itemsBehind separator item bound [path]

/-- Paths beside one another, with commas between them. -/
def branches (item : Walk Path) : Walk Path :=
  (fun paths => choice paths.reverse) <$> items ',' item

/-- Paths in sequence, with bars between them. -/
def stages (item : Walk Path) : Walk Path :=
  (fun paths => sequence paths.reverse) <$> items '|' (branches item)

/-- A path, with a bound for the depth of its parentheses. -/
def path : Nat → Walk Path
  | 0 => stuck
  | depth + 1 => do
    skipBlanks
    match ← look with
    | none => fail (.expected '.' none)
    | some c =>
      if c = '(' then do
        pass c
        let inner ← stages (path depth)
        expect ')'
        steps inner
      else if c = '.' then do
        pass c
        let step ← first
        steps step
      else fail (.expected '.' (some c))

/-- **The walk over a whole text.** -/
def whole : Walk Path := do
  let found ← stages (bounded path)
  skipBlanks
  match ← look with
  | none => return found
  | some c => fail (.unexpected c)

/-! ### What a walk does -/

/-- **A trail stands at a cursor** of a text, and the text can be cut wherever the trail has
been. -/
structure Stands (text : Text) (trail : Trail) (cursor : Cursor) : Prop where
  position : trail.position = cursor.offset
  cut : text.cutAt? cursor.offset = some cursor.rest
  passed : ∀ position ∈ trail.passed, (text.cutAt? position).isSome

theorem Stands.exists_front {text : Text} {trail : Trail} {cursor : Cursor}
    (h : Stands text trail cursor) :
    ∃ front, text = front ++ cursor.rest ∧ cursor.offset = Text.utf8Length front :=
  Text.cutAt?_eq_some_iff.1 h.cut

theorem Stands.length_le {text : Text} {trail : Trail} {cursor : Cursor}
    (h : Stands text trail cursor) : cursor.rest.length ≤ text.length := by
  obtain ⟨front, htext, -⟩ := h.exists_front
  rw [htext, List.length_append]
  omega

theorem Stands.isSome_cutAt? {text : Text} {trail : Trail} {cursor : Cursor}
    (h : Stands text trail cursor) {position : Nat}
    (hp : position ∈ trail.position :: trail.passed) : (text.cutAt? position).isSome := by
  rcases List.mem_cons.1 hp with rfl | hp
  · rw [h.position, h.cut]
    rfl
  · exact h.passed position hp

theorem Stands.start (text : Text) : Stands text ⟨0, []⟩ ⟨text, 0⟩ :=
  ⟨rfl, Text.cutAt?_append [] text, by simp⟩

/-- **What a walk does from a cursor**, in any text and behind any trail: it does not get stuck, and
what then holds of its value and the cursor behind it, or of its error, which has the position of
the cursor behind it. -/
def Goes (cursor : Cursor) (walk : Walk α) (post : α → Cursor → Prop)
    (fails : Query.Error → Prop) : Prop :=
  ∀ text trail, Stands text trail cursor → ∃ behind left, Stands text behind left ∧
    ((∃ a, walk text trail = some (.ok a, behind) ∧ post a left) ∨
      ∃ fault, walk text trail = some (.error (.malformed fault left.offset), behind) ∧
        fails (.malformed fault left.offset))

theorem bind_of_ok {walk : Walk α} (more : α → Walk β) {text : Text} {trail left : Trail} {a : α}
    (h : walk text trail = some (.ok a, left)) : (walk >>= more) text trail = more a text left := by
  change (walk text trail).bind _ = _
  rw [h]
  rfl

theorem bind_of_error {walk : Walk α} (more : α → Walk β) {text : Text} {trail left : Trail}
    {e : Query.Error} (h : walk text trail = some (.error e, left)) :
    (walk >>= more) text trail = some (.error e, left) := by
  change (walk text trail).bind _ = _
  rw [h]
  rfl

namespace Goes

variable {cursor : Cursor} {walk : Walk α} {post : α → Cursor → Prop} {after : β → Cursor → Prop}
  {fails : Query.Error → Prop} {c : Char} {rest : Text}

theorem pure {a : α} (h : post a cursor) : Goes cursor (Pure.pure a) post fails :=
  fun _ trail hs => ⟨trail, cursor, hs, .inl ⟨a, rfl, h⟩⟩

theorem fail {fault : Query.Fault} (h : fails (.malformed fault cursor.offset)) :
    Goes cursor (Walk.fail fault) post fails := by
  intro text trail hs
  exact ⟨trail, cursor, hs, .inr ⟨fault, by rw [Walk.fail, hs.position], h⟩⟩

theorem bind {more : α → Walk β} (h : Goes cursor walk post fails)
    (hm : ∀ a left, post a left → Goes left (more a) after fails) :
    Goes cursor (walk >>= more) after fails := by
  intro text trail hs
  obtain ⟨behind, left, hleft, ⟨a, hw, ha⟩ | ⟨fault, hw, hf⟩⟩ := h text trail hs
  · obtain ⟨behind, left, hleft, hends⟩ := hm a left ha text behind hleft
    rw [← bind_of_ok more hw] at hends
    exact ⟨behind, left, hleft, hends⟩
  · exact ⟨behind, left, hleft, .inr ⟨fault, bind_of_error _ hw, hf⟩⟩

theorem map {f : α → β} (h : Goes cursor walk post fails)
    (hf : ∀ a left, post a left → after (f a) left) : Goes cursor (f <$> walk) after fails :=
  (h.bind fun a left ha => .pure (hf a left ha) :
    Goes cursor (walk >>= fun a => Pure.pure (f a)) _ _)

theorem imp {post' : α → Cursor → Prop} (h : Goes cursor walk post fails)
    (hp : ∀ a left, post a left → post' a left) : Goes cursor walk post' fails := by
  intro text trail hs
  obtain ⟨behind, left, hleft, ⟨a, hw, ha⟩ | hfault⟩ := h text trail hs
  · exact ⟨behind, left, hleft, .inl ⟨a, hw, hp a left ha⟩⟩
  · exact ⟨behind, left, hleft, .inr hfault⟩

theorem imp_fails {fails' : Query.Error → Prop} (h : Goes cursor walk post fails)
    (hf : ∀ e, fails e → fails' e) : Goes cursor walk post fails' := by
  intro text trail hs
  obtain ⟨behind, left, hleft, hok | ⟨fault, hw, he⟩⟩ := h text trail hs
  · exact ⟨behind, left, hleft, .inl hok⟩
  · exact ⟨behind, left, hleft, .inr ⟨fault, hw, hf _ he⟩⟩

/-- Looking at a character leaves the walk where it stands: the text can be cut there. -/
theorem look {more : Option Char → Walk β} (h : Goes cursor (more cursor.rest.head?) after fails) :
    Goes cursor (Walk.look >>= more) after fails := by
  intro text trail hs
  have hlook : Walk.look text trail = some (.ok cursor.rest.head?, trail) := by
    rw [Walk.look, hs.position, hs.cut]
    rfl
  obtain ⟨behind, left, hleft, hends⟩ := h text trail hs
  rw [← bind_of_ok more hlook] at hends
  exact ⟨behind, left, hleft, hends⟩

theorem look_nil {more : Option Char → Walk β} (hr : cursor.rest = [])
    (h : Goes cursor (more none) after fails) : Goes cursor (Walk.look >>= more) after fails :=
  look (by rw [hr]; exact h)

theorem look_cons {more : Option Char → Walk β} (hr : cursor.rest = c :: rest)
    (h : Goes cursor (more (some c)) after fails) : Goes cursor (Walk.look >>= more) after fails :=
  look (by rw [hr]; exact h)

/-- The position behind a character is one where the text can be cut. -/
theorem pass (hr : cursor.rest = c :: rest) :
    Goes cursor (Walk.pass c) (fun _ left => left = cursor.past [c] rest) fails := by
  intro text trail hs
  obtain ⟨front, htext, hoffset⟩ := hs.exists_front
  refine ⟨⟨trail.position + c.utf8Size, trail.position :: trail.passed⟩, cursor.past [c] rest,
    ⟨?_, ?_, ?_⟩, .inl ⟨(), rfl, rfl⟩⟩
  · rw [hs.position]
    rfl
  · refine Text.cutAt?_eq_some_iff.2 ⟨front ++ [c], ?_, ?_⟩
    · rw [htext, hr, List.append_assoc]
      rfl
    · rw [Text.utf8Length_append, ← hoffset]
      rfl
  · exact fun position => hs.isSome_cutAt?

theorem pass_bind {more : Unit → Walk β} (hr : cursor.rest = c :: rest)
    (h : Goes (cursor.past [c] rest) (more ()) after fails) :
    Goes cursor (Walk.pass c >>= more) after fails :=
  (pass hr).bind fun _ _ hleft => hleft ▸ h

theorem next_nil {more : Option Char → Walk β} (hr : cursor.rest = [])
    (h : Goes cursor (more none) after fails) : Goes cursor (Walk.next >>= more) after fails :=
  (look_nil hr (.pure ⟨rfl, rfl⟩) :
    Goes cursor Walk.next (fun a left => a = none ∧ left = cursor) _).bind
      fun _ _ ⟨ha, hleft⟩ => by rw [ha, hleft]; exact h

theorem next_cons {more : Option Char → Walk β} (hr : cursor.rest = c :: rest)
    (h : Goes (cursor.past [c] rest) (more (some c)) after fails) :
    Goes cursor (Walk.next >>= more) after fails :=
  (look_cons hr (pass_bind hr (.pure ⟨rfl, rfl⟩)) :
    Goes cursor Walk.next (fun a left => a = some c ∧ left = cursor.past [c] rest) _).bind
    fun _ _ ⟨ha, hleft⟩ => by rw [ha, hleft]; exact h

/-- No more characters are left than the text has, so its length is a bound. -/
theorem bounded {walk : Nat → Walk α}
    (h : ∀ bound, cursor.rest.length < bound → Goes cursor (walk bound) post fails) :
    Goes cursor (Walk.bounded walk) post fails :=
  fun text trail hs => h _ (Nat.lt_succ_of_le hs.length_le) text trail hs

/-- The piece between the positions in front of a walk and behind it is what the walk went over. -/
theorem spelled {walk : Walk Unit} {post : Text → Cursor → Prop}
    (h : Goes cursor walk (fun _ left => ∃ piece rest, cursor.rest = piece ++ rest ∧
      left = cursor.past piece rest ∧ post piece left) fails) :
    Goes cursor (Walk.spelled walk) post fails := by
  intro text trail hs
  have hhere : ∀ more : Nat → Walk Text, (here >>= more) text trail =
      more trail.position text trail :=
    fun more => bind_of_ok more rfl
  rw [Walk.spelled, hhere]
  obtain ⟨behind, left, hleft, ⟨_, hw, piece, rest, hpiece, rfl, hp⟩ | ⟨fault, hw, hf⟩⟩ :=
    h text trail hs
  · refine ⟨behind, _, hleft, .inl ⟨piece, ?_, hp⟩⟩
    obtain ⟨front, htext, hfront⟩ := hs.exists_front
    rw [bind_of_ok _ hw, since, hs.position, hleft.position, Cursor.past, hfront,
      ← Text.utf8Length_append, htext, hpiece, Text.slice?_append]
    rfl
  · exact ⟨behind, left, hleft, .inr ⟨fault, bind_of_error _ hw, hf⟩⟩

end Goes

end Walk

end Condition.Path
