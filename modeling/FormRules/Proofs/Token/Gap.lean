import FormRules.Proofs.Token.Kinds

/-!
Contract: what may stand between two tokens.

Owns:
- gaps as blanks and comments, without the reader that passes them;
- the reader passes a gap, counts its lines, and stops at what is no gap.

Does not own: the lexemes between the gaps.
-/

namespace FormRules.Token

open FormRules.Text

/-! ## Gaps -/

def lineOpeners : List (List Char) :=
  [['/', '/'], ['#']]

def blockOpener : List Char :=
  ['/', '*']

def blockCloser : List Char :=
  ['*', '/']

/-- Blanks and comments that stand in front of the given text.  A line comment
ends before a line feed or at the end of the source; only at the end of the
source may a block comment be left open. -/
inductive IsGap (follow : List Char) : List Char → Prop where
  | nil : IsGap follow []
  | blank {first : Char} {gap : List Char} (isBlank : isBlank first = true)
      (more : IsGap follow gap) :
      IsGap follow (first :: gap)
  | lineComment {opener body gap : List Char} (opens : opener ∈ lineOpeners)
      (oneLine : '\n' ∉ body) (ends : ∀ next ∈ (gap ++ follow).head?, next = '\n')
      (more : IsGap follow gap) :
      IsGap follow (opener ++ (body ++ gap))
  | blockComment {body gap : List Char} (inside : ¬blockCloser <:+: body)
      (more : IsGap follow gap) :
      IsGap follow (blockOpener ++ (body ++ (blockCloser ++ gap)))
  | openComment {body : List Char} (last : follow = []) (inside : ¬blockCloser <:+: body) :
      IsGap follow (blockOpener ++ body)

/-! ## Lines -/

@[simp]
theorem lineFeeds_nil : lineFeeds [] = 0 := rfl

@[simp]
theorem lineFeeds_append (left right : List Char) :
    lineFeeds (left ++ right) = lineFeeds left + lineFeeds right :=
  List.count_append

/-- Passing a character counts it if it is a line feed. -/
theorem lineAfter_add_lineFeeds (line : Nat) (first : Char) (rest : List Char) :
    lineAfter line first + lineFeeds rest = line + lineFeeds (first :: rest) := by
  unfold lineAfter lineFeeds
  rw [List.count_cons]
  by_cases feed : first = '\n'
  · simp only [feed, beq_self_eq_true, if_true]
    omega
  · simp [feed]

theorem lineFeeds_cons_of_ne {first : Char} (rest : List Char) (visible : first ≠ '\n') :
    lineFeeds (first :: rest) = lineFeeds rest :=
  List.count_cons_of_ne visible

/-! ## Reading a gap -/

theorem not_infix_tail {first : Char} {rest : List Char}
    (inside : ¬blockCloser <:+: first :: rest) : ¬blockCloser <:+: rest :=
  fun within => inside (within.trans (List.suffix_cons first rest).isInfix)

/-- A character that does not start the closing sign is passed inside a block
comment. -/
theorem skipGap_blockComment_cons {first : Char} {rest : List Char} (line : Nat)
    (goesOn : ¬blockCloser <+: first :: rest) :
    skipGap .blockComment line (first :: rest) =
      skipGap .blockComment (lineAfter line first) rest := by
  rw [skipGap]
  rintro tail rfl rfl
  exact goesOn ⟨tail, rfl⟩

theorem skipGap_blockComment_append {body : List Char} (line : Nat) (rest : List Char)
    (inside : ¬blockCloser <:+: body) :
    skipGap .blockComment line (body ++ (blockCloser ++ rest)) =
      skipGap .between (line + lineFeeds body) rest := by
  induction body generalizing line with
  | nil => simp [blockCloser, skipGap]
  | cons first more inductionHypothesis =>
      have goesOn : ¬blockCloser <+: first :: (more ++ (blockCloser ++ rest)) := by
        rintro ⟨tail, same⟩
        obtain ⟨rfl, sameTail⟩ := List.cons.inj same
        cases more with
        | nil => exact absurd (List.cons.inj sameTail).1 (by decide)
        | cons second others =>
            obtain ⟨rfl, _⟩ := List.cons.inj sameTail
            exact inside (List.prefix_append blockCloser others).isInfix
      rw [List.cons_append, skipGap_blockComment_cons line goesOn,
        inductionHypothesis _ (not_infix_tail inside), lineAfter_add_lineFeeds]

theorem skipGap_blockComment_open {body : List Char} (line : Nat)
    (inside : ¬blockCloser <:+: body) :
    skipGap .blockComment line body = ⟨line + lineFeeds body, []⟩ := by
  induction body generalizing line with
  | nil => simp [skipGap]
  | cons first more inductionHypothesis =>
      rw [skipGap_blockComment_cons line fun begins => inside begins.isInfix,
        inductionHypothesis _ (not_infix_tail inside), lineAfter_add_lineFeeds]

/-- The text of a line comment is passed up to the line feed behind it, which
is then passed as a blank. -/
theorem skipGap_lineComment_append {body rest : List Char} (line : Nat) (oneLine : '\n' ∉ body)
    (ends : ∀ next ∈ rest.head?, next = '\n') :
    skipGap .lineComment line (body ++ rest) = skipGap .between line rest := by
  induction body with
  | nil =>
      cases rest with
      | nil => rfl
      | cons next tail =>
          obtain rfl := ends next rfl
          rw [List.nil_append, skipGap_of_isBlank tail line (by decide), skipGap, if_pos rfl]
  | cons first more inductionHypothesis =>
      have noFeed : first ≠ '\n' := fun same => oneLine (same ▸ List.mem_cons_self)
      rw [List.cons_append, skipGap, if_neg noFeed, lineAfter, if_neg noFeed]
      exact inductionHypothesis fun within => oneLine (List.mem_cons_of_mem first within)

theorem skipGap_lineOpener {opener : List Char} (line : Nat) (rest : List Char)
    (opens : opener ∈ lineOpeners) :
    skipGap .between line (opener ++ rest) = skipGap .lineComment line rest := by
  simp only [lineOpeners, List.mem_cons, List.not_mem_nil, or_false] at opens
  rcases opens with rfl | rfl <;> simp [skipGap]

theorem lineFeeds_lineOpener {opener : List Char} (opens : opener ∈ lineOpeners) :
    lineFeeds opener = 0 := by
  simp only [lineOpeners, List.mem_cons, List.not_mem_nil, or_false] at opens
  rcases opens with rfl | rfl <;> rfl

theorem skipGap_blockOpener (line : Nat) (rest : List Char) :
    skipGap .between line (blockOpener ++ rest) = skipGap .blockComment line rest := by
  simp [blockOpener, skipGap]

theorem skipGap_of_isGap {follow gap : List Char} (isGap : IsGap follow gap) (line : Nat) :
    skipGap .between line (gap ++ follow) =
      skipGap .between (line + lineFeeds gap) follow := by
  induction isGap generalizing line with
  | nil => rfl
  | blank isBlank more inductionHypothesis =>
      rw [List.cons_append, skipGap_of_isBlank _ line isBlank, inductionHypothesis,
        lineAfter_add_lineFeeds]
  | @lineComment opener body gap opens oneLine ends more inductionHypothesis =>
      have noFeeds : lineFeeds body = 0 := List.count_eq_zero.2 oneLine
      rw [List.append_assoc, List.append_assoc, skipGap_lineOpener line _ opens,
        skipGap_lineComment_append line oneLine ends, inductionHypothesis, lineFeeds_append,
        lineFeeds_append, lineFeeds_lineOpener opens, noFeeds, Nat.zero_add, Nat.zero_add]
  | @blockComment body gap inside more inductionHypothesis =>
      have noFeeds : lineFeeds blockOpener = 0 ∧ lineFeeds blockCloser = 0 := by decide
      simp only [List.append_assoc, skipGap_blockOpener, skipGap_blockComment_append _ _ inside,
        inductionHypothesis, lineFeeds_append, noFeeds, Nat.zero_add, Nat.add_assoc]
  | @openComment body last inside =>
      have noFeeds : lineFeeds blockOpener = 0 := by decide
      subst last
      rw [List.append_nil, skipGap_blockOpener, skipGap_blockComment_open line inside,
        lineFeeds_append, noFeeds, Nat.zero_add]
      rfl

/-! ## What the reader has passed -/

/-- What the reader of a gap passes when it starts in the given mode, in front
of the given text. -/
def PassedIn (follow : List Char) : GapMode → List Char → Prop
  | .between, gap => IsGap follow gap
  | .lineComment, gap => ∃ body more, gap = body ++ more ∧ '\n' ∉ body ∧
      (∀ next ∈ (more ++ follow).head?, next = '\n') ∧ IsGap follow more
  | .blockComment, gap =>
      (∃ body more, gap = body ++ (blockCloser ++ more) ∧ ¬blockCloser <:+: body ∧
        IsGap follow more) ∨
      (follow = [] ∧ ¬blockCloser <:+: gap)

theorem passedIn_nil (mode : GapMode) : PassedIn [] mode [] := by
  cases mode with
  | between => exact .nil
  | lineComment => exact ⟨[], [], rfl, by simp, by simp, .nil⟩
  | blockComment => exact .inr ⟨rfl, by decide⟩

theorem IsGap.of_lineOpener {follow opener gap : List Char} (opens : opener ∈ lineOpeners)
    (passed : PassedIn follow .lineComment gap) :
    IsGap follow (opener ++ gap) := by
  obtain ⟨body, more, rfl, oneLine, ends, isGap⟩ := passed
  exact .lineComment opens oneLine ends isGap

theorem IsGap.of_blockOpener {follow gap : List Char}
    (passed : PassedIn follow .blockComment gap) :
    IsGap follow (blockOpener ++ gap) := by
  rcases passed with ⟨body, more, rfl, inside, isGap⟩ | ⟨last, inside⟩
  · exact .blockComment inside isGap
  · exact .openComment last inside

/-- A line comment goes on to its line feed, which is a blank of the gap. -/
theorem passedIn_lineComment_cons {follow gap : List Char} {first : Char}
    (passed : PassedIn follow (if first = '\n' then .between else .lineComment) gap) :
    PassedIn follow .lineComment (first :: gap) := by
  by_cases feed : first = '\n'
  · rw [if_pos feed] at passed
    refine ⟨[], first :: gap, rfl, by simp, ?_, .blank (by rw [feed]; decide) passed⟩
    intro next isNext
    exact Option.some.inj isNext ▸ feed
  · rw [if_neg feed] at passed
    obtain ⟨body, more, rfl, oneLine, ends, isGap⟩ := passed
    refine ⟨first :: body, more, rfl, ?_, ends, isGap⟩
    intro member
    rcases List.mem_cons.1 member with same | within
    · exact feed same.symm
    · exact oneLine within

/-- A block comment goes on past a character that does not start its closing
sign. -/
theorem passedIn_blockComment_cons {follow gap : List Char} {first : Char}
    (goesOn : ¬blockCloser <+: first :: (gap ++ follow))
    (passed : PassedIn follow .blockComment gap) :
    PassedIn follow .blockComment (first :: gap) := by
  rcases passed with ⟨body, more, rfl, inside, isGap⟩ | ⟨last, inside⟩
  · refine .inl ⟨first :: body, more, rfl, ?_, isGap⟩
    intro within
    rcases List.infix_cons_iff.1 within with begins | later
    · refine goesOn (begins.trans ?_)
      simp
    · exact inside later
  · refine .inr ⟨last, ?_⟩
    intro within
    rcases List.infix_cons_iff.1 within with begins | later
    · exact goesOn (begins.trans (by simp))
    · exact inside later

/-- The reader of a gap passes exactly a gap, and counts its line feeds. -/
theorem exists_passed (mode : GapMode) (line : Nat) (source : List Char) :
    ∃ gap, source = gap ++ (skipGap mode line source).rest ∧
      (skipGap mode line source).line = line + lineFeeds gap ∧
      PassedIn (skipGap mode line source).rest mode gap := by
  fun_induction skipGap mode line source with
  | case1 mode line => exact ⟨[], rfl, rfl, passedIn_nil mode⟩
  | case2 line rest inductionHypothesis =>
      obtain ⟨gap, split, counted, passed⟩ := inductionHypothesis
      have isGap : IsGap _ (['/', '/'] ++ gap) := .of_lineOpener (by decide) passed
      exact ⟨'/' :: '/' :: gap, congrArg (fun text => '/' :: '/' :: text) split, counted, isGap⟩
  | case3 line rest inductionHypothesis =>
      obtain ⟨gap, split, counted, passed⟩ := inductionHypothesis
      exact ⟨'/' :: '*' :: gap, congrArg (fun text => '/' :: '*' :: text) split, counted,
        .of_blockOpener passed⟩
  | case4 line rest inductionHypothesis =>
      obtain ⟨gap, split, counted, passed⟩ := inductionHypothesis
      have isGap : IsGap _ (['#'] ++ gap) := .of_lineOpener (by decide) passed
      exact ⟨'#' :: gap, congrArg (List.cons '#') split, counted, isGap⟩
  | case5 line character rest _ _ _ blank inductionHypothesis =>
      obtain ⟨gap, split, counted, passed⟩ := inductionHypothesis
      refine ⟨character :: gap, congrArg (List.cons character) split, ?_, .blank blank passed⟩
      rw [counted, lineAfter_add_lineFeeds]
  | case6 line character rest => exact ⟨[], rfl, rfl, .nil⟩
  | case7 line character rest inductionHypothesis =>
      obtain ⟨gap, split, counted, passed⟩ := inductionHypothesis
      refine ⟨character :: gap, congrArg (List.cons character) split, ?_,
        passedIn_lineComment_cons passed⟩
      rw [counted, lineAfter_add_lineFeeds]
  | case8 line rest inductionHypothesis =>
      obtain ⟨gap, split, counted, passed⟩ := inductionHypothesis
      exact ⟨'*' :: '/' :: gap, congrArg (fun text => '*' :: '/' :: text) split, counted,
        .inl ⟨[], gap, rfl, by decide, passed⟩⟩
  | case9 line character rest notCloser inductionHypothesis =>
      obtain ⟨gap, split, counted, passed⟩ := inductionHypothesis
      refine ⟨character :: gap, congrArg (List.cons character) split, ?_, ?_⟩
      · rw [counted, lineAfter_add_lineFeeds]
      · refine passedIn_blockComment_cons ?_ passed
        rw [← split]
        rintro ⟨tail, same⟩
        obtain ⟨rfl, rfl⟩ := List.cons.inj same
        exact notCloser tail rfl rfl

def commentOpeners : List (List Char) :=
  blockOpener :: lineOpeners

/-- The reader of a gap stops at the end, or before a character that is neither
blank nor opens a comment. -/
theorem stop_skipGap {mode : GapMode} {line : Nat} {source tail : List Char} {first : Char}
    (stopped : (skipGap mode line source).rest = first :: tail) :
    isBlank first = false ∧ ∀ opener ∈ commentOpeners, ¬opener <+: first :: tail := by
  fun_induction skipGap mode line source with
  | case1 => cases stopped
  | case6 line character rest notLine notBlock notHash visible =>
      cases stopped
      refine ⟨by simpa using visible, ?_⟩
      intro opener member begins
      obtain ⟨after, same⟩ := begins
      simp only [commentOpeners, lineOpeners, List.mem_cons, List.not_mem_nil, or_false] at member
      rcases member with rfl | rfl | rfl
      · obtain ⟨rfl, rfl⟩ := List.cons.inj same
        exact notBlock after rfl rfl
      · obtain ⟨rfl, rfl⟩ := List.cons.inj same
        exact notLine after rfl rfl
      · obtain ⟨rfl, rfl⟩ := List.cons.inj same
        exact notHash rfl
  | _ => rename_i inductionHypothesis; exact inductionHypothesis stopped

theorem skipGap_of_stop {first : Char} {tail : List Char} (line : Nat)
    (visible : isBlank first = false)
    (noComment : ∀ opener ∈ commentOpeners, ¬opener <+: first :: tail) :
    skipGap .between line (first :: tail) = ⟨line, first :: tail⟩ := by
  rw [skipGap]
  · rw [if_neg (by simp [visible])]
  · rintro rest rfl rfl
    exact noComment ['/', '/'] (by decide) ⟨rest, rfl⟩
  · rintro rest rfl rfl
    exact noComment ['/', '*'] (by decide) ⟨rest, rfl⟩
  · rintro rfl
    exact noComment ['#'] (by decide) ⟨tail, rfl⟩

end FormRules.Token
