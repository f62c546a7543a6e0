import FormRules.Proofs.Generation.Write
import FormRules.Proofs.Naming
import FormRules.Request.File

/-!
Contract: the place of a generated file below the output directory.

Owns:
- the pieces of its path, which are plain names;
- the directory it is in, at the output directory or right below it;
- that the output path leads to the same directory without anything idle at its
  end;
- that two files with one name are at one place.

Does not own: what is in the file.
-/

namespace FormRules

open FormRules.Text

namespace Path

theorem notMem_stem (base : String) : ∀ piece ∈ stem base, '/' ∉ piece.toList := by
  intro piece member
  rw [stem] at member
  split at member
  next => cases member
  next =>
    split at member
    next => exact notMem_of_mem_splitAt ((List.dropLast_sublist _).subset member)
    next => exact notMem_of_mem_splitAt member

theorem absolute_tidy_stem (base : String) :
    (Route.ofText (tidy (stem base))).absolute = (Route.ofText base).absolute := by
  have relative : isAbsolute "name" = false := by decide
  have split : splitAt '/' (join base "name") = stem base ++ ["name"] :=
    splitAt_join base relative
  rw [← absolute_of_split split (by decide), absolute_join base relative]

end Path

/-- Without the slash and the dots at its end, a path leads to the same
directory. -/
theorem FileTree.StandsAt.of_tidy_stem {tree : FileTree} {base : String} {location : Location}
    (stands : tree.StandsAt (Path.tidy (Path.stem base)) location) :
    tree.StandsAt base location := by
  obtain ⟨dots, areDots, names⟩ := Path.names_tidy (Path.notMem_stem base)
  rw [Path.names_stem] at names
  rw [StandsAt, walk_eq, start, ← Path.absolute_tidy_stem, names]
  cases dots with
  | nil =>
      rw [List.append_nil]
      exact stands
  | cons dot dots =>
      obtain ⟨left, further⟩ := walkFrom_append_of_existing stands.walkFrom
      have passed := walkFrom_dots areDots stands.directory true left []
      rw [List.append_nil] at passed
      refine (further true _ (List.cons_ne_nil dot dots)).trans (passed.trans ?_)
      rw [walkFrom_nil, stands.directory]

namespace Request

variable (request : Request)

theorem path_file : request.file.path = request.relativePath := by
  rw [file]

/-- The last name of the path. -/
def fileName : String :=
  request.requestName ++ "." ++ request.format.name

theorem notMem_className (mark : Char) (isMark : mark ∈ Naming.marks) :
    mark ∉ request.className.toList := fun member =>
  Naming.notMem_marks_className request.table mark member isMark

theorem toList_fileName : request.fileName.toList =
    request.className.toList ++ ("Request.".toList ++ request.format.name.toList) := by
  show (Naming.requestName request.table ++ "." ++ request.format.name).toList = _
  rw [Naming.requestName]
  simp only [String.toList_append, List.append_assoc]
  rfl

theorem slash_notMem_fileName : '/' ∉ request.fileName.toList := by
  rw [toList_fileName]
  intro member
  rcases List.mem_append.1 member with inClass | inEnd
  · exact request.notMem_className _ (by decide) inClass
  · cases format : request.format <;> rw [format] at inEnd <;> revert inEnd <;> decide

theorem fileName_ne (name : String) (short : name.toList.length ≤ 8) :
    request.fileName ≠ name := by
  rintro rfl
  have named : 0 < request.format.name.toList.length := by cases request.format <;> decide
  have ending : "Request.".toList.length = 8 := rfl
  rw [toList_fileName, List.length_append, List.length_append] at short
  omega

theorem busy_fileName : Path.isIdle request.fileName = false := by
  rw [Path.isIdle, Bool.or_eq_false_iff, beq_eq_false_iff_ne, beq_eq_false_iff_ne]
  exact ⟨request.fileName_ne _ (by decide), request.fileName_ne _ (by decide)⟩

theorem busy_className (filled : request.className ≠ "") :
    Path.isIdle request.className = false := by
  rw [Path.isIdle, Bool.or_eq_false_iff, beq_eq_false_iff_ne, beq_eq_false_iff_ne]
  refine ⟨filled, ?_⟩
  intro dot
  apply request.notMem_className '.' (by decide)
  rw [dot]
  decide

theorem isAbsolute_fileName : Path.isAbsolute request.fileName = false := by
  rw [Path.isAbsolute, beq_eq_false_iff_ne]
  intro starts
  exact request.slash_notMem_fileName (List.mem_of_mem_head? starts)

/-- The file is in a directory that is called like the class, unless there is no
name for the class. -/
theorem splitAt_relativePath : splitAt '/' request.relativePath =
    (if request.className = "" then [] else [request.className]) ++ [request.fileName] := by
  have ownPieces := splitAt_of_notMem request.slash_notMem_fileName
  show splitAt '/' (Path.join request.className request.fileName) = _
  rw [Path.splitAt_join _ request.isAbsolute_fileName, ownPieces, Path.stem]
  by_cases empty : request.className = ""
  · rw [if_pos empty, if_pos empty]
  · rw [if_neg empty, if_neg empty, if_neg,
      splitAt_of_notMem (request.notMem_className _ (by decide))]
    intro ends
    exact request.notMem_className '/' (by decide) (List.mem_of_mem_getLast? ends)

theorem isAbsolute_relativePath : Path.isAbsolute request.relativePath = false := by
  have likeClass := Path.absolute_join request.className request.isAbsolute_fileName
  show (Route.ofText (Path.join request.className request.fileName)).absolute = false
  rw [likeClass]
  show (request.className.toList.head? == some '/') = false
  rw [beq_eq_false_iff_ne]
  intro starts
  exact request.notMem_className '/' (by decide) (List.mem_of_mem_head? starts)

/-- The pieces of the full path before the file name. -/
def leading (base : String) : List String :=
  Path.stem base ++ if request.className = "" then [] else [request.className]

theorem splitAt_join_relativePath (base : String) :
    splitAt '/' (Path.join base request.relativePath) =
      request.leading base ++ [request.fileName] := by
  rw [Path.splitAt_join base request.isAbsolute_relativePath, splitAt_relativePath, leading,
    List.append_assoc]

theorem getLast?_names (base : String) :
    (Route.ofText (Path.join base request.relativePath)).names.getLast? =
      some request.fileName := by
  have filled : (request.fileName != "") = true := by
    simpa using request.fileName_ne "" (by decide)
  rw [Route.names_ofText, splitAt_join_relativePath, List.filter_append,
    List.filter_cons_of_pos (by exact filled), List.filter_nil, List.getLast?_concat]

theorem leaf (base : String) :
    Path.Leaf (Path.join base request.relativePath) (Path.tidy (request.leading base)) where
  above := Path.parent?_of_concat (request.splitAt_join_relativePath base) request.busy_fileName
  step := Path.stepUp_of_split (request.splitAt_join_relativePath base) request.busy_fileName
  endsClosed := by
    rw [Route.endsOpen_ofText, splitAt_join_relativePath, List.getLast?_concat]
    simpa using request.fileName_ne "" (by decide)
  notDot := by
    rw [getLast?_names]
    simpa using request.fileName_ne "." (by decide)
  notUp := by
    rw [getLast?_names]
    simpa using request.fileName_ne ".." (by decide)

/-- A directory that is called like the class is right below the output
directory. -/
theorem below (base : String) (filled : request.className ≠ "") :
    Path.IsTidy (Path.tidy (request.leading base)) ∧
      Path.parent? (Path.tidy (request.leading base)) = some (Path.tidy (Path.stem base)) ∧
      (Route.ofText (Path.tidy (request.leading base))).names.getLast? =
        some request.className := by
  rw [leading, if_neg filled]
  have noSlash := request.notMem_className '/' (by decide)
  have busy := request.busy_className filled
  have split := Path.splitAt_tidy_concat (Path.notMem_stem base) busy noSlash
  refine ⟨⟨_, ?_, rfl⟩, Path.parent?_of_concat split busy, ?_⟩
  · intro piece member
    rcases List.mem_append.1 member with before | last
    · exact Path.notMem_stem base piece before
    · rw [List.mem_singleton.1 last]
      exact noSlash
  · rw [Route.names_ofText, split, List.filter_append,
      List.filter_cons_of_pos (by simpa using filled), List.filter_nil, List.getLast?_concat]

theorem isAt (base : String) :
    FileTree.IsAt (Path.tidy (Path.stem base)) (Path.tidy (request.leading base)) := by
  by_cases empty : request.className = ""
  · rw [leading, if_pos empty, List.append_nil]
    exact .itself ⟨_, Path.notMem_stem base, rfl⟩
  · obtain ⟨tidied, above, isLast⟩ := request.below base empty
    exact .below tidied above isLast (request.notMem_className _ (by decide))

/-- Files of one name are at one place. -/
theorem relativePath_of_fileName {request other : Request}
    (format : other.format = request.format) (same : other.fileName = request.fileName) :
    other.relativePath = request.relativePath := by
  have texts := congrArg String.toList same
  rw [toList_fileName, toList_fileName, format] at texts
  have classes := String.toList_inj.1 (List.append_cancel_right texts)
  show Path.join other.className other.fileName = Path.join request.className request.fileName
  rw [classes, same]

end Request
end FormRules
