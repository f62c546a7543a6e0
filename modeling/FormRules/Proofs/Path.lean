import FormRules.FileTree.Walk
import FormRules.Path
import FormRules.Proofs.Text.Split

/-!
Contract: path texts and the names they are made of.

Owns:
- the pieces of a joined path;
- the parent of a path: its names, and its text as a beginning of the path;
- the paths above a path, one after the other.

Does not own: whether there is anything at a path.
-/

namespace FormRules

open FormRules.Text

theorem Route.names_ofText (path : String) :
    (ofText path).names = (splitAt '/' path).filter (· != "") :=
  rfl

theorem Route.endsOpen_ofText (path : String) :
    (ofText path).endsOpen = ((splitAt '/' path).getLast? == some "") :=
  rfl

namespace Path

/-! ## Idle pieces at the end -/

theorem exists_dropIdleEnd (pieces : List String) :
    ∃ trailing, pieces = dropIdleEnd pieces ++ trailing ∧ ∀ piece ∈ trailing, isIdle piece = true := by
  refine ⟨(pieces.reverse.takeWhile isIdle).reverse, ?_, ?_⟩
  · rw [dropIdleEnd, ← List.reverse_append, List.takeWhile_append_dropWhile, List.reverse_reverse]
  · intro piece member
    exact List.all_eq_true.1 List.all_takeWhile piece (List.mem_reverse.1 member)

theorem dropIdleEnd_concat {piece : String} (busy : isIdle piece = false) (pieces : List String) :
    dropIdleEnd (pieces ++ [piece]) = pieces ++ [piece] := by
  simp [dropIdleEnd, busy]

/-- Either everything is idle, or there is a last piece that is not. -/
theorem dropIdleEnd_cases (pieces : List String) :
    dropIdleEnd pieces = [] ∨
      ∃ initial last, dropIdleEnd pieces = initial ++ [last] ∧ isIdle last = false := by
  rcases List.eq_nil_or_concat (dropIdleEnd pieces) with none | ⟨initial, last, ends⟩
  · exact .inl none
  · rw [List.concat_eq_append] at ends
    refine .inr ⟨initial, last, ends, ?_⟩
    have first : (pieces.reverse.dropWhile isIdle).head? = some last := by
      rw [← List.getLast?_reverse]
      show (dropIdleEnd pieces).getLast? = some last
      rw [ends]
      simp
    have busy := List.head?_dropWhile_not isIdle pieces.reverse
    rw [first] at busy
    simpa using busy

theorem beforeLast?_concat {piece : String} (busy : isIdle piece = false) (pieces : List String) :
    beforeLast? (pieces ++ [piece]) = some (dropIdleEnd pieces) := by
  rw [beforeLast?, dropIdleEnd_concat busy]
  cases pieces with
  | nil => rfl
  | cons first rest =>
      show some (dropIdleEnd (first :: rest ++ [piece]).dropLast) = _
      rw [List.dropLast_concat]

/-- What is left before the last piece are pieces at the beginning. -/
theorem exists_of_beforeLast? {pieces kept : List String} (before : beforeLast? pieces = some kept) :
    ∃ front, front <+: pieces ∧ kept = dropIdleEnd front := by
  unfold beforeLast? at before
  split at before
  next => cases before
  next first rest ends =>
    obtain ⟨trailing, split, _⟩ := exists_dropIdleEnd pieces
    rw [ends] at split
    refine ⟨(first :: rest).dropLast, ?_, (Option.some_inj.1 before).symm⟩
    rw [split]
    exact (List.dropLast_prefix _).trans (List.prefix_append _ _)

/-! ## Parents -/

/-- The path with some pieces, less those at the end that lead nowhere new.  A
first piece is kept if it says where the path starts. -/
def tidy : List String → String
  | "" :: rest => "/" ++ "/".intercalate (dropIdleEnd rest)
  | "." :: rest => "/".intercalate ("." :: dropIdleEnd rest)
  | pieces => "/".intercalate (dropIdleEnd pieces)

theorem tidy_of_plain {pieces : List String} (notRoot : pieces.head? ≠ some "")
    (notDot : pieces.head? ≠ some ".") : tidy pieces = "/".intercalate (dropIdleEnd pieces) := by
  rw [tidy]
  · intro rest started
    exact notRoot (by rw [started]; rfl)
  · intro rest started
    exact notDot (by rw [started]; rfl)

theorem parent?_of_plain {path : String} (notRoot : (splitAt '/' path).head? ≠ some "")
    (notDot : (splitAt '/' path).head? ≠ some ".") :
    parent? path = (beforeLast? (splitAt '/' path)).map fun pieces => "/".intercalate pieces := by
  rw [parent?]
  split
  next rest started => exact absurd (by rw [started]; rfl) notRoot
  next rest started => exact absurd (by rw [started]; rfl) notDot
  next => rfl

theorem parent?_of_concat {path piece : String} {pieces : List String}
    (split : splitAt '/' path = pieces ++ [piece]) (busy : isIdle piece = false) :
    parent? path = some (tidy pieces) := by
  have start : piece ≠ "" ∧ piece ≠ "." := by simpa [isIdle] using busy
  cases pieces with
  | nil =>
      rw [parent?_of_plain (by rw [split]; simpa using start.1) (by rw [split]; simpa using start.2),
        split, beforeLast?_concat busy]
      rfl
  | cons first rest =>
      by_cases root : first = ""
      · subst root
        rw [parent?, split, List.cons_append, tidy]
        simp [beforeLast?_concat busy]
      by_cases dot : first = "."
      · subst dot
        rw [parent?, split, List.cons_append, tidy]
        simp [beforeLast?_concat busy]
      rw [parent?_of_plain (by rw [split]; simpa using root) (by rw [split]; simpa using dot),
        split, beforeLast?_concat busy,
        tidy_of_plain (by simpa using root) (by simpa using dot)]
      rfl

section Tidy

variable {pieces : List String} (whole : ∀ piece ∈ pieces, '/' ∉ piece.toList)

include whole

theorem whole_dropIdleEnd : ∀ piece ∈ dropIdleEnd pieces, '/' ∉ piece.toList := by
  obtain ⟨trailing, split, _⟩ := exists_dropIdleEnd pieces
  intro piece member
  apply whole
  rw [split]
  exact List.mem_append_left _ member

/-- A path is cut into the pieces it is made of. -/
theorem splitAt_join_pieces (filled : pieces ≠ []) :
    splitAt '/' ("/".intercalate pieces) = pieces :=
  splitAt_intercalate filled whole

theorem splitAt_rooted (filled : pieces ≠ []) :
    splitAt '/' ("/" ++ "/".intercalate pieces) = "" :: pieces := by
  have empty : splitAt '/' "" = [""] := rfl
  have cut := splitAt_append '/' "" ("/".intercalate pieces)
  rw [splitAt_join_pieces whole filled, empty] at cut
  simpa using cut

theorem splitAt_tidy_concat {last : String} (busy : isIdle last = false)
    (lastWhole : '/' ∉ last.toList) :
    splitAt '/' (tidy (pieces ++ [last])) = pieces ++ [last] := by
  have allWhole : ∀ piece ∈ pieces ++ [last], '/' ∉ piece.toList := by
    intro piece member
    rcases List.mem_append.1 member with inPieces | isLast
    · exact whole piece inPieces
    · rw [List.mem_singleton.1 isLast]
      exact lastWhole
  cases pieces with
  | nil =>
      have start : last ≠ "" ∧ last ≠ "." := by simpa [isIdle] using busy
      rw [tidy_of_plain (by simpa using start.1) (by simpa using start.2),
        dropIdleEnd_concat busy]
      exact splitAt_join_pieces allWhole (by simp)
  | cons first rest =>
      have restWhole : ∀ piece ∈ rest ++ [last], '/' ∉ piece.toList := by
        intro piece member
        exact allWhole piece (List.mem_cons_of_mem first member)
      by_cases root : first = ""
      · subst root
        rw [List.cons_append, tidy, dropIdleEnd_concat busy]
        exact splitAt_rooted restWhole (by simp)
      by_cases dot : first = "."
      · subst dot
        rw [List.cons_append, tidy, dropIdleEnd_concat busy]
        exact splitAt_join_pieces allWhole (by simp)
      rw [tidy_of_plain (by simpa using root) (by simpa using dot), dropIdleEnd_concat busy]
      exact splitAt_join_pieces allWhole (by simp)

theorem names_join_pieces :
    (Route.ofText ("/".intercalate pieces)).names = pieces.filter (· != "") := by
  cases pieces with
  | nil => rfl
  | cons first rest =>
      show (splitAt '/' _).filter _ = _
      rw [splitAt_join_pieces whole (List.cons_ne_nil _ _)]

theorem names_rooted :
    (Route.ofText ("/" ++ "/".intercalate pieces)).names = pieces.filter (· != "") := by
  cases pieces with
  | nil => rfl
  | cons first rest =>
      show (splitAt '/' _).filter _ = _
      rw [splitAt_rooted whole (List.cons_ne_nil _ _)]
      rfl

/-- A tidy path is a bare start, or it ends in a piece that leads somewhere. -/
theorem tidy_cases :
    tidy pieces = "" ∨ tidy pieces = "/" ∨ tidy pieces = "." ∨
      ∃ initial last, tidy pieces = tidy (initial ++ [last]) ∧ isIdle last = false ∧
        ∀ piece ∈ initial ++ [last], '/' ∉ piece.toList := by
  have ofEnd : ∀ (front rest : List String), pieces = front ++ rest →
      dropIdleEnd rest = [] ∨ ∃ initial last, dropIdleEnd rest = initial ++ [last] ∧
        isIdle last = false ∧ ∀ piece ∈ front ++ initial ++ [last], '/' ∉ piece.toList := by
    intro front rest split
    rcases dropIdleEnd_cases rest with none | ⟨initial, last, ends, busy⟩
    · exact .inl none
    · refine .inr ⟨initial, last, ends, busy, ?_⟩
      intro piece member
      obtain ⟨trailing, restSplit, _⟩ := exists_dropIdleEnd rest
      apply whole
      rw [split, restSplit, ends, ← List.append_assoc, ← List.append_assoc]
      exact List.mem_append_left _ member
  by_cases root : pieces.head? = some ""
  · obtain ⟨rest, rfl⟩ := List.head?_eq_some_iff.1 root
    rcases ofEnd [""] rest rfl with none | ⟨initial, last, ends, busy, lastWhole⟩
    · refine .inr (.inl ?_)
      rw [tidy, none]
      rfl
    · refine .inr (.inr (.inr ⟨"" :: initial, last, ?_, busy, lastWhole⟩))
      rw [List.cons_append, tidy, tidy, ends, dropIdleEnd_concat busy]
  by_cases dot : pieces.head? = some "."
  · obtain ⟨rest, rfl⟩ := List.head?_eq_some_iff.1 dot
    rcases ofEnd ["."] rest rfl with none | ⟨initial, last, ends, busy, lastWhole⟩
    · refine .inr (.inr (.inl ?_))
      rw [tidy, none]
      rfl
    · refine .inr (.inr (.inr ⟨"." :: initial, last, ?_, busy, lastWhole⟩))
      rw [List.cons_append, tidy, tidy, ends, dropIdleEnd_concat busy]
  rcases ofEnd [] pieces rfl with none | ⟨initial, last, ends, busy, lastWhole⟩
  · refine .inl ?_
    rw [tidy_of_plain root dot, none]
    rfl
  · refine .inr (.inr (.inr ⟨initial, last, ?_, busy, lastWhole⟩))
    obtain ⟨trailing, split, _⟩ := exists_dropIdleEnd pieces
    have sameHead : (initial ++ [last]).head? = pieces.head? := by
      rw [split, ends]
      cases initial <;> rfl
    rw [tidy_of_plain root dot, tidy_of_plain (sameHead ▸ root) (sameHead ▸ dot), ends,
      dropIdleEnd_concat busy]

/-- The names of a tidy path are those of its pieces, less some dots at the
end. -/
theorem names_tidy :
    ∃ dots, (∀ dot ∈ dots, dot = ".") ∧
      pieces.filter (· != "") = (Route.ofText (tidy pieces)).names ++ dots := by
  have ofEnd : ∀ rest : List String, ∃ dots, (∀ dot ∈ dots, dot = ".") ∧
      rest.filter (· != "") = (dropIdleEnd rest).filter (· != "") ++ dots := by
    intro rest
    obtain ⟨trailing, split, idle⟩ := exists_dropIdleEnd rest
    refine ⟨trailing.filter (· != ""), ?_, ?_⟩
    · intro dot member
      obtain ⟨inTrailing, filled⟩ := List.mem_filter.1 member
      have isDot := idle dot inTrailing
      simp only [isIdle, Bool.or_eq_true, beq_iff_eq] at isDot
      rcases isDot with empty | isDot
      · simp [empty] at filled
      · exact isDot
    · rw [← List.filter_append, ← split]
  by_cases root : pieces.head? = some ""
  · obtain ⟨rest, rfl⟩ := List.head?_eq_some_iff.1 root
    obtain ⟨dots, areDots, split⟩ := ofEnd rest
    refine ⟨dots, areDots, ?_⟩
    rw [tidy, names_rooted (whole_dropIdleEnd fun piece member =>
      whole piece (List.mem_cons_of_mem _ member)), ← split]
    rfl
  by_cases dot : pieces.head? = some "."
  · obtain ⟨rest, rfl⟩ := List.head?_eq_some_iff.1 dot
    obtain ⟨dots, areDots, split⟩ := ofEnd rest
    refine ⟨dots, areDots, ?_⟩
    rw [tidy, names_join_pieces]
    · show "." :: rest.filter _ = "." :: (dropIdleEnd rest).filter _ ++ dots
      rw [split]
      rfl
    · intro piece member
      rcases List.mem_cons.1 member with rfl | inRest
      · decide
      · exact whole_dropIdleEnd (fun piece member =>
          whole piece (List.mem_cons_of_mem _ member)) piece inRest
  obtain ⟨dots, areDots, split⟩ := ofEnd pieces
  refine ⟨dots, areDots, ?_⟩
  rw [tidy_of_plain root dot, names_join_pieces (whole_dropIdleEnd whole), ← split]

theorem absolute_join_pieces (notRoot : pieces.head? ≠ some "") :
    (Route.ofText ("/".intercalate pieces)).absolute = false := by
  show (("/".intercalate pieces).toList.head? == some '/') = false
  rw [beq_eq_false_iff_ne]
  cases pieces with
  | nil => simp
  | cons first rest =>
      obtain ⟨head, tail, characters⟩ : ∃ head tail, first.toList = head :: tail := by
        apply List.exists_cons_of_ne_nil
        intro empty
        exact notRoot (by simpa using empty)
      have notSlash : head ≠ '/' := by
        rintro rfl
        exact whole first List.mem_cons_self (by simp [characters])
      cases rest with
      | nil => simpa [characters] using notSlash
      | cons second more => simpa [String.intercalate_cons_cons, characters] using notSlash

theorem absolute_tidy :
    (Route.ofText (tidy pieces)).absolute = (pieces.head? == some "") := by
  by_cases root : pieces.head? = some ""
  · obtain ⟨rest, rfl⟩ := List.head?_eq_some_iff.1 root
    simp [tidy, Route.ofText]
  by_cases dot : pieces.head? = some "."
  · obtain ⟨rest, rfl⟩ := List.head?_eq_some_iff.1 dot
    rw [tidy, absolute_join_pieces]
    · rfl
    · intro piece member
      rcases List.mem_cons.1 member with rfl | inRest
      · decide
      · exact whole_dropIdleEnd (fun piece member =>
          whole piece (List.mem_cons_of_mem _ member)) piece inRest
    · simp
  · have sameHead : (dropIdleEnd pieces).head? ≠ some "" := by
      obtain ⟨trailing, split, _⟩ := exists_dropIdleEnd pieces
      intro first
      apply root
      rw [split, List.head?_append, first]
      rfl
    rw [tidy_of_plain root dot, absolute_join_pieces (whole_dropIdleEnd whole) sameHead]
    simpa using root

end Tidy

/-! ## The path above a path -/

section Parent

variable {path last : String} {pieces : List String}
  (split : splitAt '/' path = pieces ++ [last]) (busy : isIdle last = false)

include split

theorem eq_join_pieces : path = "/".intercalate (pieces ++ [last]) := by
  rw [← split]
  exact (intercalate_splitAt '/' path).symm

theorem whole_of_split : ∀ piece ∈ pieces, '/' ∉ piece.toList := by
  intro piece member
  have inPath : piece ∈ splitAt '/' path := by
    rw [split]
    exact List.mem_append_left _ member
  exact notMem_of_mem_splitAt inPath

include busy

theorem names_of_split :
    ∃ dots, (∀ dot ∈ dots, dot = ".") ∧
      (Route.ofText path).names = (Route.ofText (tidy pieces)).names ++ dots ++ [last] := by
  obtain ⟨dots, areDots, names⟩ := names_tidy (whole_of_split split)
  refine ⟨dots, areDots, ?_⟩
  have filled : (last != "") = true := by
    simp only [isIdle, Bool.or_eq_false_iff] at busy
    simp [bne, busy.1]
  show (splitAt '/' path).filter _ = _
  rw [split, List.filter_append, names]
  simp [filled]

theorem absolute_of_split :
    (Route.ofText path).absolute = (Route.ofText (tidy pieces)).absolute := by
  rw [absolute_tidy (whole_of_split split)]
  have inPath : last ∈ splitAt '/' path := by
    rw [split]
    simp
  have lastWhole := notMem_of_mem_splitAt inPath
  have filled : last ≠ "" := by
    rintro rfl
    cases busy
  cases pieces with
  | nil =>
      rw [eq_join_pieces split, absolute_join_pieces]
      · rfl
      · simpa using lastWhole
      · simpa using filled
  | cons first rest =>
      by_cases root : first = ""
      · rw [eq_join_pieces split, root]
        obtain ⟨second, more, next⟩ : ∃ second more, rest ++ [last] = second :: more :=
          List.exists_cons_of_ne_nil (by simp)
        rw [List.cons_append, next, String.intercalate_cons_cons]
        simp [Route.ofText]
      · rw [eq_join_pieces split, absolute_join_pieces]
        · simpa using root
        · intro piece member
          rcases List.mem_append.1 member with inPieces | isLast
          · exact whole_of_split split piece inPieces
          · rw [List.mem_singleton.1 isLast]
            exact lastWhole
        · simpa using root

omit busy in
/-- The path above is a beginning of the path. -/
theorem tidy_prefix : (tidy pieces).toList <+: path.toList := by
  have beginning : ∀ front rest : List String,
      ("/".intercalate (front ++ dropIdleEnd rest)).toList <+:
        ("/".intercalate (front ++ rest ++ [last])).toList := by
    intro front rest
    obtain ⟨trailing, restSplit, _⟩ := exists_dropIdleEnd rest
    have whole : front ++ rest ++ [last] =
        (front ++ dropIdleEnd rest) ++ (trailing ++ [last]) := by
      rw [List.append_assoc, List.append_assoc, ← List.append_assoc (dropIdleEnd rest),
        ← restSplit]
    rw [whole]
    generalize front ++ dropIdleEnd rest = kept
    cases kept with
    | nil => simp
    | cons first more =>
        rw [String.intercalate_append_of_ne_nil (List.cons_ne_nil _ _) (by simp),
          String.toList_append, String.toList_append, List.append_assoc]
        exact List.prefix_append _ _
  rw [eq_join_pieces split]
  by_cases root : pieces.head? = some ""
  · obtain ⟨rest, rfl⟩ := List.head?_eq_some_iff.1 root
    obtain ⟨second, more, next⟩ : ∃ second more, rest ++ [last] = second :: more :=
      List.exists_cons_of_ne_nil (by simp)
    have rooted : "/".intercalate ("" :: rest ++ [last]) = "/" ++ "/".intercalate (rest ++ [last]) := by
      rw [List.cons_append, next, String.intercalate_cons_cons]
      simp
    rw [tidy, rooted, String.toList_append, String.toList_append]
    exact List.prefix_append_right_inj _ |>.2 (beginning [] rest)
  by_cases dot : pieces.head? = some "."
  · obtain ⟨rest, rfl⟩ := List.head?_eq_some_iff.1 dot
    exact beginning ["."] rest
  rw [tidy_of_plain root dot]
  exact beginning [] pieces

theorem length_tidy_lt : (tidy pieces).length < path.length := by
  have isPrefix := tidy_prefix split
  have shorter : (tidy pieces).toList ≠ path.toList := by
    intro same
    obtain ⟨dots, _, names⟩ := names_of_split split busy
    rw [String.toList_inj.1 same] at names
    have lengths := congrArg List.length names
    simp at lengths
  rw [← String.length_toList, ← String.length_toList]
  apply Nat.lt_of_le_of_ne isPrefix.length_le
  intro sameLength
  exact shorter (isPrefix.eq_of_length sameLength)

end Parent

/-! ## All paths above a path -/

/-- A path without anything idle at its end. -/
def IsTidy (path : String) : Prop :=
  ∃ pieces, (∀ piece ∈ pieces, '/' ∉ piece.toList) ∧ path = tidy pieces

/-- The second path is the first one without its last name, and without the
dots before it. -/
structure StepUp (path parent : String) : Prop where
  tidy : IsTidy parent
  beginning : parent.toList <+: path.toList
  shorter : parent.length < path.length
  absolute : (Route.ofText path).absolute = (Route.ofText parent).absolute
  names : ∃ dots last, (∀ dot ∈ dots, dot = ".") ∧
    (Route.ofText path).names = (Route.ofText parent).names ++ dots ++ [last] ∧
    (isIdle last = false ∨ parent = "")

theorem stepUp_of_split {path last : String} {pieces : List String}
    (split : splitAt '/' path = pieces ++ [last]) (busy : isIdle last = false) :
    StepUp path (tidy pieces) where
  tidy := ⟨pieces, whole_of_split split, rfl⟩
  beginning := tidy_prefix split
  shorter := length_tidy_lt split busy
  absolute := absolute_of_split split busy
  names := by
    obtain ⟨dots, areDots, names⟩ := names_of_split split busy
    exact ⟨dots, last, areDots, names, .inl busy⟩

theorem parent?_bare : parent? "" = none ∧ parent? "/" = none ∧ parent? "." = some "" :=
  ⟨rfl, rfl, rfl⟩

theorem stepUp_dot : StepUp "." "" where
  tidy := ⟨[], by simp, rfl⟩
  beginning := by decide
  shorter := by decide
  absolute := rfl
  names := ⟨[], ".", by simp, rfl, .inr rfl⟩

/-- There is nothing above the two bare starts, and one step up from every
other tidy path. -/
theorem IsTidy.parent?_cases {path : String} (tidied : IsTidy path) :
    (path = "" ∨ path = "/") ∧ parent? path = none ∨
      ∃ parent, parent? path = some parent ∧ StepUp path parent := by
  obtain ⟨pieces, whole, rfl⟩ := tidied
  rcases tidy_cases whole with empty | root | dot | ⟨initial, last, same, busy, lastWhole⟩
  · exact .inl ⟨.inl empty, by rw [empty, parent?_bare.1]⟩
  · exact .inl ⟨.inr root, by rw [root, parent?_bare.2.1]⟩
  · exact .inr ⟨"", by rw [dot, parent?_bare.2.2], by rw [dot]; exact stepUp_dot⟩
  · have split : splitAt '/' (Path.tidy (initial ++ [last])) = initial ++ [last] :=
      splitAt_tidy_concat (fun piece member => lastWhole piece (by simp [member])) busy
        (lastWhole last (by simp))
    rw [same]
    exact .inr ⟨_, parent?_of_concat split busy, stepUp_of_split split busy⟩

/-- Whatever a path ends in, the path above it is tidy. -/
theorem isTidy_of_parent? {path parent : String} (above : parent? path = some parent) :
    IsTidy parent := by
  have whole : ∀ front, front <+: splitAt '/' path → ∀ piece ∈ front, '/' ∉ piece.toList :=
    fun front beginning piece member => notMem_of_mem_splitAt (beginning.subset member)
  by_cases root : (splitAt '/' path).head? = some ""
  · obtain ⟨rest, started⟩ := List.head?_eq_some_iff.1 root
    rw [parent?, started] at above
    simp only [Option.ite_none_left_eq_some, Option.map_eq_some_iff] at above
    obtain ⟨_, kept, before, rfl⟩ := above
    obtain ⟨front, beginning, rfl⟩ := exists_of_beforeLast? before
    refine ⟨"" :: front, whole _ ?_, rfl⟩
    rw [started]
    exact (List.prefix_cons_inj "").2 beginning
  by_cases dot : (splitAt '/' path).head? = some "."
  · obtain ⟨rest, started⟩ := List.head?_eq_some_iff.1 dot
    rw [parent?, started] at above
    simp only at above
    split at above
    next kept before =>
        cases above
        obtain ⟨front, beginning, rfl⟩ := exists_of_beforeLast? before
        refine ⟨"." :: front, whole _ ?_, rfl⟩
        rw [started]
        exact (List.prefix_cons_inj ".").2 beginning
    next =>
        cases above
        exact ⟨[], by simp, rfl⟩
  · rw [parent?_of_plain root dot, Option.map_eq_some_iff] at above
    obtain ⟨kept, before, rfl⟩ := above
    obtain ⟨front, beginning, rfl⟩ := exists_of_beforeLast? before
    refine ⟨front, whole _ beginning, ?_⟩
    cases front with
    | nil => rfl
    | cons first rest =>
        obtain ⟨tail, split⟩ := beginning
        rw [← split] at root dot
        rw [tidy_of_plain]
        · exact root
        · exact dot

theorem IsTidy.stepUp {path parent : String} (tidied : IsTidy path)
    (above : parent? path = some parent) : StepUp path parent := by
  rcases tidied.parent?_cases with ⟨_, none⟩ | ⟨other, found, step⟩
  · rw [none] at above
    cases above
  · rw [found] at above
    cases above
    exact step

theorem ancestorsWithin_of_le {fuel : Nat} {path : String} (tidied : IsTidy path)
    (enough : path.length ≤ fuel) : ancestorsWithin fuel path = ancestors path := by
  induction fuel using Nat.strongRecOn generalizing path with
  | ind fuel inductionHypothesis =>
      cases length : path.length with
      | zero =>
          have empty : path = "" := by simpa using length
          subst empty
          cases fuel <;> rfl
      | succ shorter =>
          obtain ⟨less, rfl⟩ : ∃ less, fuel = less + 1 := ⟨fuel - 1, by omega⟩
          rw [ancestors, length, ancestorsWithin, ancestorsWithin]
          cases above : parent? path with
          | none => rfl
          | some parent =>
              have step := tidied.stepUp above
              have parentShorter := step.shorter
              show path :: ancestorsWithin less parent = path :: ancestorsWithin shorter parent
              rw [inductionHypothesis less (by omega) step.tidy (by omega),
                inductionHypothesis shorter (by omega) step.tidy (by omega)]

theorem ancestors_eq {path : String} (tidied : IsTidy path) :
    ancestors path =
      path :: match parent? path with
        | some parent => ancestors parent
        | none => [] := by
  have enough : path.length ≤ path.length + 1 := by omega
  rw [← ancestorsWithin_of_le tidied enough, ancestorsWithin]
  cases above : parent? path with
  | none => rfl
  | some parent =>
      have step := tidied.stepUp above
      have parentShorter := step.shorter
      show path :: ancestorsWithin _ parent = path :: ancestors parent
      rw [ancestorsWithin_of_le step.tidy (by omega)]

theorem ancestors_of_above {path parent : String} (tidied : IsTidy path)
    (above : parent? path = some parent) : ancestors path = path :: ancestors parent := by
  rw [ancestors_eq tidied, above]

/-- Every tidy path is reached from a bare start, step by step. -/
theorem tidy_induction {motive : (path : String) → IsTidy path → Prop}
    (top : ∀ path tidied, (path = "" ∨ path = "/") → ancestors path = [path] →
      motive path tidied)
    (below : ∀ path parent tidied (step : StepUp path parent),
      ancestors path = path :: ancestors parent → motive parent step.tidy → motive path tidied)
    {path : String} (tidied : IsTidy path) : motive path tidied := by
  induction length : path.length using Nat.strongRecOn generalizing path with
  | ind size inductionHypothesis =>
      have parts := ancestors_eq tidied
      rcases tidied.parent?_cases with ⟨bare, none⟩ | ⟨parent, above, step⟩
      · rw [none] at parts
        exact top path tidied bare parts
      · rw [above] at parts
        have shorter := step.shorter
        exact below path parent tidied step parts
          (inductionHypothesis parent.length (by omega) step.tidy rfl)

theorem exists_ancestors (path : String) : ∃ above, ancestors path = path :: above := by
  rw [ancestors]
  cases path.length with
  | zero => exact ⟨[], rfl⟩
  | succ fuel => exact ⟨_, rfl⟩

theorem StepUp.ne_empty {path parent : String} (step : StepUp path parent) : path ≠ "" := by
  rintro rfl
  exact Nat.not_lt_zero _ step.shorter

theorem StepUp.ne_parent {path parent : String} (step : StepUp path parent) : path ≠ parent := by
  rintro rfl
  exact Nat.lt_irrefl _ step.shorter

theorem StepUp.noUp {path parent : String} (step : StepUp path parent)
    (noUp : ".." ∉ (Route.ofText path).names) : ".." ∉ (Route.ofText parent).names := by
  obtain ⟨dots, last, _, names, _⟩ := step.names
  rw [names, List.append_assoc] at noUp
  exact fun up => noUp (List.mem_append_left _ up)

/-! ## Joined paths -/

/-- The pieces that a base puts before those of a path. -/
def stem (base : String) : List String :=
  if base = "" then []
  else if base.toList.getLast? = some '/' then (splitAt '/' base).dropLast
  else splitAt '/' base

theorem exists_of_endsOpen {base : String} (endsOpen : base.toList.getLast? = some '/') :
    ∃ initial, base = initial ++ String.ofList ['/'] ∧
      splitAt '/' base = splitAt '/' initial ++ [""] := by
  obtain ⟨initial, ends⟩ := List.getLast?_eq_some_iff.1 endsOpen
  have split : base = String.ofList initial ++ String.ofList ['/'] := by
    rw [← String.toList_inj, String.toList_append, ends]
    simp
  refine ⟨String.ofList initial, split, ?_⟩
  have cut := splitAt_append '/' (String.ofList initial) ""
  rw [String.append_empty, ← split] at cut
  exact cut

section Join

variable (base : String) {path : String} (relative : isAbsolute path = false)

theorem names_stem : (stem base).filter (· != "") = (Route.ofText base).names := by
  show _ = (splitAt '/' base).filter _
  rw [stem]
  split
  next empty =>
    rw [empty]
    rfl
  next =>
    split
    next endsOpen =>
      obtain ⟨initial, _, cut⟩ := exists_of_endsOpen endsOpen
      rw [cut, List.dropLast_concat, List.filter_append]
      simp
    next => rfl

include relative

theorem splitAt_join : splitAt '/' (join base path) = stem base ++ splitAt '/' path := by
  rw [join, if_neg (by rw [relative]; exact Bool.false_ne_true), stem]
  by_cases empty : base = ""
  · simp [empty]
  rw [if_neg empty]
  by_cases endsOpen : base.toList.getLast? = some '/'
  · obtain ⟨initial, split, cut⟩ := exists_of_endsOpen endsOpen
    rw [if_pos (by simp [endsOpen]), if_pos endsOpen, cut, List.dropLast_concat, split]
    exact splitAt_append '/' initial path
  · rw [if_neg (by simpa using ⟨empty, endsOpen⟩), if_neg endsOpen]
    exact splitAt_append '/' base path

theorem names_join :
    (Route.ofText (join base path)).names =
      (Route.ofText base).names ++ (Route.ofText path).names := by
  show (splitAt '/' _).filter _ = _
  rw [splitAt_join base relative, List.filter_append, names_stem]
  rfl

theorem absolute_join : (Route.ofText (join base path)).absolute = (Route.ofText base).absolute := by
  have noSlash : path.toList.head? ≠ some '/' := by simpa [isAbsolute] using relative
  show ((join base path).toList.head? == some '/') = (base.toList.head? == some '/')
  rw [join, if_neg (by rw [relative]; exact Bool.false_ne_true)]
  by_cases empty : base = ""
  · simpa [empty] using noSlash
  · obtain ⟨head, tail, characters⟩ : ∃ head tail, base.toList = head :: tail :=
      List.exists_cons_of_ne_nil (by simpa using empty)
    split <;> simp [characters]

theorem endsOpen_join : (Route.ofText (join base path)).endsOpen = (Route.ofText path).endsOpen := by
  show ((splitAt '/' _).getLast? == _) = ((splitAt '/' path).getLast? == _)
  rw [splitAt_join base relative, List.getLast?_append,
    List.getLast?_eq_some_getLast (splitAt_ne_nil '/' path)]
  rfl

end Join

end Path

end FormRules
