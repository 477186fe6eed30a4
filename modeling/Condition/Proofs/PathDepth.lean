import Condition.Json.Numbers
import Condition.Pattern.Automata
import Condition.Proofs.PathGrammar
import Condition.Proofs.Trees

/-! # How deep paths are

A path is as deep as pipes, comma lists and optional paths stand in one another in it (`depth`). Its
text says how deep it may be: a parenthesis adds three levels at most, and a question mark one. No
other limit holds: parentheses and question marks in a query are no groups of the condition, so the
limit on groups does not count them.

* `depth_le_of_ofText`: the depth of a path from its text.
* `ofText_nestedText`, `ofText_markedText`: paths of every depth, by parentheses and by question
  marks.
* `query_depth`: the depth of the queries in a condition. -/

namespace Condition

namespace Path

/-! ### Depth -/

mutual

/-- **How deep a path is**: the pipes, comma lists and optional paths around one of its steps, and
that step. -/
def depth : Path → Nat
  | .optional path => depth path + 1
  | .pipe stages => depths stages + 1
  | .comma branches => depths branches + 1
  | _ => 1

/-- The greatest depth among paths. -/
def depths : List Path → Nat
  | [] => 0
  | path :: rest => max (depth path) (depths rest)

end

theorem depths_le_iff {paths : List Path} {bound : Nat} :
    depths paths ≤ bound ↔ ∀ path ∈ paths, depth path ≤ bound := by
  induction paths with
  | nil => simp [depths]
  | cons path paths ih => rw [depths, Nat.max_le, ih, List.forall_mem_cons]

theorem depths_reverse_le {paths : List Path} {bound : Nat} (h : depths paths ≤ bound) :
    depths paths.reverse ≤ bound :=
  depths_le_iff.2 fun path hm => depths_le_iff.1 h path (List.mem_reverse.1 hm)

theorem depth_sequence_le (paths : List Path) : depth (sequence paths) ≤ depths paths + 1 := by
  unfold sequence
  split
  · rw [depths, depths]
    omega
  · rw [depth]

theorem depth_choice_le (paths : List Path) : depth (choice paths) ≤ depths paths + 1 := by
  unfold choice
  split
  · rw [depths, depths]
    omega
  · rw [depth]

/-! ### Steps -/

theorem IsStep.depth {path : Path} (h : IsStep path) : depth path = 1 := by
  cases path with
  | optional | pipe | comma => cases h
  | _ => rfl

theorem depths_markOptional_le (steps : List Path) :
    depths (markOptional steps) ≤ depths steps + 1 := by
  cases steps with
  | nil => exact Nat.zero_le _
  | cons step steps =>
    simp only [markOptional, depths, depth]
    omega

/-- How many levels the parentheses and the question marks of a text can add to a path. -/
def weight (text : Text) : Nat := 3 * text.count '(' + text.count '?'

theorem weight_le_of_suffix {text rest : Text} (h : rest <:+ text) : weight rest ≤ weight text := by
  have hparens := h.sublist.count_le '('
  have hmarks := h.sublist.count_le '?'
  unfold weight
  omega

theorem weight_paren (rest : Text) : weight ('(' :: rest) = weight rest + 3 := by
  rw [weight, weight, List.count_cons_self, List.count_cons_of_ne (by decide)]
  omega

theorem weight_mark (rest : Text) : weight ('?' :: rest) = weight rest + 1 := by
  rw [weight, weight, List.count_cons_self, List.count_cons_of_ne (by decide)]
  omega

/-- **Steps** make a path one level deeper than the deepest of them, and each question mark one
level more. -/
theorem depth_readSteps {steps : List Path} {cursor left : Cursor} {path : Path}
    (h : readSteps steps cursor = .ok path left) : left.rest <:+ cursor.rest ∧
      depth path + weight left.rest ≤ max (depths steps) 1 + 1 + weight cursor.rest := by
  have ends : ∀ {steps : List Path}, depth (sequence steps.reverse) ≤ max (depths steps) 1 + 1 := by
    intro steps
    have := depth_sequence_le steps.reverse
    have := depths_reverse_le (Nat.le_refl (depths steps))
    omega
  -- on the text: what is taken is in front of what is left
  fun_induction readSteps steps cursor with
  | case1 steps cursor hr =>
    cases h
    exact ⟨List.suffix_rfl, Nat.add_le_add_right ends _⟩
  | case2 steps cursor rest step behind hb hr ih =>
    obtain ⟨hs, hstep⟩ := leaves_readBracket.of_ok hb
    obtain ⟨hleft, hle⟩ := ih h
    have hweight := weight_le_of_suffix hs
    rw [depths, hstep.depth] at hle
    exact ⟨hleft.trans hs, by omega⟩
  | case3 => cases h
  | case4 steps cursor rest hr hc ih =>
    obtain ⟨hleft, hle⟩ := ih h
    have hmark := depths_markOptional_le steps
    refine ⟨hleft.trans (hr ▸ List.suffix_cons _ rest), ?_⟩
    change depth path + weight left.rest ≤ _ + weight rest at hle
    rw [hr, weight_mark]
    omega
  | case5 steps cursor rest step behind hr hc hq hb ih =>
    obtain ⟨hs, hstep⟩ := leaves_readDotted.of_ok hb
    obtain ⟨hleft, hle⟩ := ih h
    have hs : behind.rest <:+ cursor.rest := hs.trans (hr ▸ List.suffix_cons _ rest)
    have hweight := weight_le_of_suffix hs
    rw [depths, hstep.depth] at hle
    exact ⟨hleft.trans hs, by omega⟩
  | case6 => cases h
  | case7 =>
    cases h
    exact ⟨List.suffix_rfl, Nat.add_le_add_right ends _⟩

/-! ### Frames -/

/-- The paths in a frame are no deeper than a bound, and the stages no deeper than a comma list of
such. -/
def Frame.Within (bound : Nat) (frame : Frame) : Prop :=
  depths frame.branches ≤ bound ∧ depths frame.stages ≤ bound + 1

/-- The frames around one with a bound; what a frame holds is three levels deeper when it closes. -/
def OuterWithin (bound : Nat) : List Frame → Prop
  | [] => True
  | frame :: outer => frame.Within (bound + 3) ∧ OuterWithin (bound + 3) outer

theorem Frame.Within.mono {bound bound' : Nat} (h : bound ≤ bound') {frame : Frame}
    (hf : frame.Within bound) : frame.Within bound' :=
  ⟨Nat.le_trans hf.1 h, Nat.le_trans hf.2 (Nat.succ_le_succ h)⟩

theorem OuterWithin.mono {bound bound' : Nat} (h : bound ≤ bound') {outer : List Frame}
    (ho : OuterWithin bound outer) : OuterWithin bound' outer := by
  induction outer generalizing bound bound' with
  | nil => trivial
  | cons frame outer ih =>
    have hle : bound + 3 ≤ bound' + 3 := Nat.add_le_add_right h 3
    exact ⟨ho.1.mono hle, ih hle ho.2⟩

theorem Frame.within_empty (bound : Nat) : Frame.empty.Within bound :=
  ⟨Nat.zero_le _, Nat.zero_le _⟩

theorem Frame.Within.withBranch {bound : Nat} {frame : Frame} {path : Path} (h : frame.Within bound)
    (hp : depth path ≤ bound) : (frame.withBranch path).Within bound :=
  ⟨Nat.max_le.2 ⟨hp, h.1⟩, h.2⟩

theorem Frame.Within.withBar {bound : Nat} {frame : Frame} (h : frame.Within bound) :
    frame.withBar.Within bound := by
  have hchoice := depth_choice_le frame.branches.reverse
  have hbranches := depths_reverse_le h.1
  exact ⟨Nat.zero_le _, Nat.max_le.2 ⟨by omega, h.2⟩⟩

theorem Frame.Within.depth_path {bound : Nat} {frame : Frame} (h : frame.Within bound) :
    depth frame.path ≤ bound + 2 := by
  have hsequence := depth_sequence_le frame.withBar.stages.reverse
  have hstages := depths_reverse_le h.withBar.2
  change depth (sequence frame.withBar.stages.reverse) ≤ bound + 2
  omega

/-- Behind blanks and a character no more stands than there was. -/
theorem weight_past_le {cursor start : Cursor} {c : Char} {rest : Text}
    (hs : skipBlanks cursor = .ok () start) (hr : start.rest = c :: rest) :
    weight rest ≤ weight (c :: rest) ∧ weight (c :: rest) ≤ weight cursor.rest :=
  ⟨weight_le_of_suffix (List.suffix_cons c rest),
    weight_le_of_suffix (hr ▸ (leaves_skipBlanks.of_ok hs).1)⟩

/-- **What the frames come to** is deeper than what they hold by three levels for each parenthesis,
open or still to come, and by one for each question mark. -/
theorem Reads.depth_le {phase : Phase} {outer : List Frame} {frame : Frame} {cursor : Cursor}
    {path : Path} (h : Reads phase outer frame cursor path) {bound : Nat} (hb : 2 ≤ bound)
    (hf : frame.Within bound) (ho : OuterWithin bound outer) :
    depth path ≤ bound + 2 + 3 * outer.length + weight cursor.rest := by
  -- by the rules; the bound grows with the question marks taken, and where a frame closes
  induction h generalizing bound with
  | @opening outer frame cursor start rest path hs hr _ ih =>
    obtain ⟨-, hweight⟩ := weight_past_le hs hr
    have hle := ih hb (Frame.within_empty bound)
      ⟨hf.mono (Nat.le_add_right ..), ho.mono (Nat.le_add_right ..)⟩
    rw [weight_paren] at hweight
    rw [List.length_cons] at hle
    change depth path ≤ _ + weight rest at hle
    omega
  | @point outer frame cursor start behind left rest step branch path hs hr hfirst hp _ ih =>
    obtain ⟨hrest, hweight⟩ := weight_past_le hs hr
    obtain ⟨hbehind, hstep⟩ := leaves_readFirst.of_ok hfirst
    obtain ⟨hleft, hbranch⟩ := depth_readSteps hp
    have hbehind : weight behind.rest ≤ weight rest := weight_le_of_suffix hbehind
    have hleft := weight_le_of_suffix hleft
    rw [depths, depths, hstep.depth] at hbranch
    have hgrown : 2 ≤ bound + (weight behind.rest - weight left.rest) := by omega
    have hle := ih hgrown ((hf.mono (Nat.le_add_right ..)).withBranch (by omega))
      (ho.mono (Nat.le_add_right ..))
    omega
  | @comma outer frame cursor start rest path hs hr _ ih =>
    obtain ⟨hrest, hweight⟩ := weight_past_le hs hr
    have hle := ih hb hf ho
    change depth path ≤ _ + weight rest at hle
    omega
  | @bar outer frame cursor start rest path hs hr _ ih =>
    obtain ⟨hrest, hweight⟩ := weight_past_le hs hr
    have hle := ih hb hf.withBar ho
    change depth path ≤ _ + weight rest at hle
    omega
  | @closing outer frame enclosing cursor start left rest branch path hs hr hp _ ih =>
    obtain ⟨hrest, hweight⟩ := weight_past_le hs hr
    obtain ⟨hleft, hbranch⟩ := depth_readSteps hp
    obtain ⟨henclosing, houter⟩ := ho
    have hleft : weight left.rest ≤ weight rest := weight_le_of_suffix hleft
    have hpath := hf.depth_path
    rw [depths, depths] at hbranch
    change depth branch + weight left.rest ≤ _ + weight rest at hbranch
    have hgrown : 2 ≤ bound + 3 + (weight rest - weight left.rest) := by omega
    have hle := ih hgrown ((henclosing.mono (Nat.le_add_right ..)).withBranch (by omega))
      (houter.mono (Nat.le_add_right ..))
    rw [List.length_cons]
    omega
  | ends =>
    have hpath := hf.depth_path
    omega

/-- **The depth of a path** is bounded by the parentheses and the question marks of its text. -/
theorem depth_le_of_ofText {text : Text} {path : Path} (h : ofText text = .ok path) :
    depth path ≤ 3 * text.count '(' + text.count '?' + 4 := by
  have hle := (ofText_eq_ok_iff.1 h).depth_le (Nat.le_refl 2) (Frame.within_empty 2) trivial
  change depth path ≤ 2 + 2 + 3 * 0 + (3 * text.count '(' + text.count '?') at hle
  omega

/-! ### Deep paths -/

/-- A point in a number of parentheses, in each of which a point follows behind a bar. -/
def nestedText : Nat → Text
  | 0 => ['.']
  | n + 1 => '(' :: (nestedText n ++ ['|', '.', ')'])

/-- The path that such a text spells. -/
def nested : Nat → Path
  | 0 => .identity
  | n + 1 => .pipe [nested n, .identity]

/-- A point with a number of question marks. -/
def markedText (n : Nat) : Text := '.' :: List.replicate n '?'

/-- The path that such a text spells. -/
def marked (n : Nat) : Path := Nat.iterate .optional n .identity

theorem depth_nested (n : Nat) : depth (nested n) = n + 1 := by
  induction n with
  | zero => rfl
  | succ n ih =>
    simp only [nested, depth, depths, ih]
    omega

theorem depth_iterate_optional (n : Nat) (path : Path) :
    depth (Nat.iterate .optional n path) = depth path + n := by
  induction n generalizing path with
  | zero => rfl
  | succ n ih =>
    change depth (Nat.iterate .optional n (.optional path)) = _
    rw [ih, depth]
    omega

theorem depth_marked (n : Nat) : depth (marked n) = n + 1 := by
  rw [marked, depth_iterate_optional]
  exact Nat.add_comm 1 n

/-- **Parentheses in one another** are read as pipes in one another. -/
theorem readsText_nested (n : Nat) {outer : List Frame} {frame : Frame} {rest : Text} {path : Path}
    (hr : StopsPath rest) (h : ReadsText .behind outer (frame.withBranch (nested n)) rest path) :
    ReadsText .path outer frame (nestedText n ++ rest) path := by
  induction n generalizing outer frame rest with
  | zero => exact readsText_point (takes_readFirst_of_stops hr) (takes_readSteps_of_stops hr _) h
  | succ n ih =>
    have hbar : StopsPath ('|' :: '.' :: ')' :: rest) := stopsPath_cons (by decide) _
    have hparen : StopsPath (')' :: rest) := stopsPath_cons (by decide) _
    have hclose : ReadsText .behind (frame :: outer)
        ((Frame.empty.withBranch (nested n)).withBar.withBranch .identity) (')' :: rest) path :=
      readsText_closing (takes_readSteps_of_stops hr _) h
    have hpoint := readsText_point (takes_readFirst_of_stops hparen)
      (takes_readSteps_of_stops hparen _) hclose
    rw [nestedText, List.cons_append, List.append_assoc]
    exact readsText_opening (ih hbar (readsText_bar hpoint))

theorem ofText_nestedText (n : Nat) : ofText (nestedText n) = .ok (nested n) := by
  have h : ReadsText .path [] .empty (nestedText n ++ []) (nested n) :=
    readsText_nested n stopsPath_nil readsText_ends
  rw [List.append_nil] at h
  exact ofText_of_readsText h

theorem ofText_markedText (n : Nat) : ofText (markedText n) = .ok (marked n) := by
  have hfirst : Takes readFirst (List.replicate n '?') .identity (List.replicate n '?') := by
    intro offset
    cases n with
    | zero | succ n => exact ⟨offset, rfl⟩
  have hmarks : Takes (readSteps [.identity]) (List.replicate n '?' ++ []) (marked n) [] :=
    takes_readSteps_marks n (takes_readSteps_nil [marked n])
  rw [List.append_nil] at hmarks
  exact ofText_of_readsText (readsText_point hfirst hmarks readsText_ends)

/-! ### The texts of deep paths -/

theorem balanced_nestedText (n : Nat) : Text.Balanced (nestedText n) :=
  balanced_of_ofText (ofText_nestedText n)

theorem balanced_markedText (n : Nat) : Text.Balanced (markedText n) :=
  balanced_of_ofText (ofText_markedText n)

theorem count_nestedText (n : Nat) : (nestedText n).count '?' = 0 := by
  induction n with
  | zero => rfl
  | succ n ih =>
    rw [nestedText, List.count_cons_of_ne (by decide), List.count_append, ih]
    rfl

theorem count_markedText (n : Nat) : (markedText n).count '(' = 0 := by
  rw [markedText, List.count_cons_of_ne (by decide), List.count_replicate]
  rfl

end Path

/-! ### Queries in conditions -/

namespace Expr

section

variable [Pattern.Engine] [Json.Parser]

/-- A text that spells a path is the query of a condition, whatever the limit on groups is. -/
theorem mem_queries_of_ofText (settings : Settings Path) {text : Text} {path : Path}
    (hb : Text.Balanced text) (h : Path.ofText text = .ok path) :
    ∃ tree, (ofText { settings with engine := some Path.ofText } (queryText text)).result =
      .ok tree ∧ (text, .first, path) ∈ queries tree :=
  ⟨_, result_ofText_query rfl hb h, List.mem_singleton_self _⟩

/-- **How deep queries are**: the parentheses and question marks in the text of a query bound the
depth of its path, and the limit on groups does not; with every limit there are conditions with
queries of every depth, by parentheses alone and by question marks alone. -/
theorem query_depth (settings : Settings Path) :
    (∀ (text : Text) (tree : Expr Path),
      (ofText { settings with engine := some Path.ofText } text).result = .ok tree →
      ∀ source mode path, (source, mode, path) ∈ queries tree →
        path.depth ≤ 3 * source.count '(' + source.count '?' + 4) ∧
    (∀ n, ∃ text tree source mode path,
      (ofText { settings with engine := some Path.ofText } text).result = .ok tree ∧
        (source, mode, path) ∈ queries tree ∧ source.count '?' = 0 ∧ path.depth = n + 1) ∧
    ∀ n, ∃ text tree source mode path,
      (ofText { settings with engine := some Path.ofText } text).result = .ok tree ∧
        (source, mode, path) ∈ queries tree ∧ source.count '(' = 0 ∧ path.depth = n + 1 := by
  refine ⟨fun text tree h source mode path hm => ?_, fun n => ?_, fun n => ?_⟩
  · obtain ⟨engine, he, hc⟩ := (arises_of_ofText h).engine_of_mem_queries hm
    cases he
    exact Path.depth_le_of_ofText hc
  · obtain ⟨tree, ht, hm⟩ :=
      mem_queries_of_ofText settings (Path.balanced_nestedText n) (Path.ofText_nestedText n)
    exact ⟨_, tree, _, _, _, ht, hm, Path.count_nestedText n, Path.depth_nested n⟩
  · obtain ⟨tree, ht, hm⟩ :=
      mem_queries_of_ofText settings (Path.balanced_markedText n) (Path.ofText_markedText n)
    exact ⟨_, tree, _, _, _, ht, hm, Path.count_markedText n, Path.depth_marked n⟩

end

/-- A query with parentheses three deep, in a condition that may have no group. -/
theorem query_depth_of_three_parens :
    ∃ (tree : Expr Path) (source : Text) (mode : Query.Mode) (path : Path),
      (ofText { maxNesting := 0, engine := some Path.ofText }
        "$jq((((.a | .b) | .c) | .d)) == 1".toList).result = .ok tree ∧
      (source, mode, path) ∈ queries tree ∧ path.depth = 4 ∧
      path.depth ≤ 3 * source.count '(' + source.count '?' + 4 := by
  have hdepth : (ofText { maxNesting := 0, engine := some Path.ofText }
      "$jq((((.a | .b) | .c) | .d)) == 1".toList).result.toOption.any
        (fun tree => (queries tree).any fun query => query.2.2.depth == 4) = true := by
          decide +kernel
  obtain ⟨tree, htree, hany⟩ := exists_ofText_of_any hdepth
  obtain ⟨⟨source, mode, path⟩, hm, hpath⟩ := List.any_eq_true.1 hany
  exact ⟨tree, source, mode, path, htree, hm, eq_of_beq hpath,
    (query_depth { maxNesting := 0 }).1 _ _ htree _ _ _ hm⟩

/-- The limit on groups gives no bound for the depth of queries. -/
theorem no_query_depth_of_maxNesting : ¬ ∃ bound : Nat → Nat,
    ∀ (settings : Settings Path) (text : Text) (tree : Expr Path), settings.engine =
      some Path.ofText → (ofText settings text).result = .ok tree → ∀ source mode path,
        (source, mode, path) ∈ queries tree → path.depth ≤ bound settings.maxNesting := by
  rintro ⟨bound, h⟩
  -- a query one level deeper than the bound for conditions without groups
  obtain ⟨tree, ht, hm⟩ := mem_queries_of_ofText { maxNesting := 0 }
    (Path.balanced_nestedText (bound 0)) (Path.ofText_nestedText (bound 0))
  have hle := h _ _ tree rfl ht _ _ _ hm
  rw [Path.depth_nested] at hle
  exact absurd hle (Nat.not_succ_le_self _)

end Expr
end Condition
