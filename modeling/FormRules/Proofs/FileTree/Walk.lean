import FormRules.FileTree.Walk
import FormRules.Proofs.FileTree.Change

/-!
Contract: walks along names, from one name to the next.

Owns:
- the passage of a single name, and the walk as a chain of passages;
- walks along names that are put together from two parts;
- what a walk still finds in a tree that has grown.

Does not own: the names of a path.
-/

namespace FormRules.FileTree

/-! ## One name -/

/-- Where a name leads from a location. -/
inductive Passage where
  | refused (fault : FileFault)
  /-- There is nothing by this name in the directory. -/
  | free
  | onward (location : Location)
  | link (target : String)

def passage (tree : FileTree) (location : Location) (name : String) : Passage :=
  match tree.get? location with
  | none => .refused .noSuchEntry
  | some .directory =>
      if name = "." then .onward location
      else if name = ".." then .onward location.dropLast
      else if Route.longestName < name.utf8ByteSize then .refused .nameTooLong
      else
        match tree.get? (location ++ [name]) with
        | none => .free
        | some (.link target) => .link target
        | some _ => .onward (location ++ [name])
  | some _ => .refused .notDirectory

theorem walkFrom_nil (tree : FileTree) (followLast : Bool) (links : Nat) (location : Location) :
    tree.walkFrom followLast links location [] =
      match tree.get? location with
      | some entry => .ok (.existing location entry)
      | none => .error .noSuchEntry := by
  rw [walkFrom, stretch]
  cases tree.get? location <;> rfl

theorem walkFrom_cons (tree : FileTree) (followLast : Bool) (links : Nat) (location : Location)
    (name : String) (rest : List String) :
    tree.walkFrom followLast links location (name :: rest) =
      match tree.passage location name with
      | .refused fault => .error fault
      | .free => if rest.isEmpty then .ok (.vacant location name) else .error .noSuchEntry
      | .onward next => tree.walkFrom followLast links next rest
      | .link target =>
          if rest.isEmpty && !followLast then
            .ok (.existing (location ++ [name]) (.link target))
          else
            match links with
            | 0 => .error .tooManyLinks
            | links + 1 =>
                tree.walkFrom followLast links
                  (if (Route.ofText target).absolute then [] else location)
                  ((Route.ofText target).through ++ rest) := by
  rw [walkFrom, stretch, passage]
  cases tree.get? location with
  | none => rfl
  | some entry =>
      cases entry with
      | file | link => rfl
      | directory =>
          simp only
          by_cases dot : name = "."
          · simp only [if_pos dot]
            rw [walkFrom]
          by_cases up : name = ".."
          · simp only [if_neg dot, if_pos up]
            rw [walkFrom]
          by_cases long : Route.longestName < name.utf8ByteSize
          · simp only [if_neg dot, if_neg up, if_pos long]
          simp only [if_neg dot, if_neg up, if_neg long]
          cases tree.get? (location ++ [name]) with
          | none => cases rest <;> rfl
          | some child =>
              cases child with
              | link target =>
                  simp only
                  by_cases last : (rest.isEmpty && !followLast) = true
                  · simp only [if_pos last]
                  · cases links <;> simp only [if_neg last]
              | file | directory =>
                  simp only
                  rw [walkFrom]

/-- Each passage leaves fewer names, or fewer links that may be followed. -/
theorem walk_induction (tree : FileTree) {motive : Nat → Location → List String → Prop}
    (nil : ∀ links location, motive links location [])
    (cons : ∀ links location name rest,
      (∀ next, tree.passage location name = .onward next → motive links next rest) →
      (∀ target fewer, tree.passage location name = .link target → links = fewer + 1 →
        motive fewer (if (Route.ofText target).absolute then [] else location)
          ((Route.ofText target).through ++ rest)) →
      motive links location (name :: rest))
    (links : Nat) (location : Location) (names : List String) : motive links location names := by
  induction links using Nat.strongRecOn generalizing location names with
  | ind links fewerLinks =>
      induction names generalizing location with
      | nil => exact nil links location
      | cons name rest fewerNames =>
          apply cons
          · intro next _
            exact fewerNames next
          · intro target fewer _ counted
            exact fewerLinks fewer (by omega) _ _

section Passage

variable {tree : FileTree} {location : Location} {name : String}

theorem directory_of_passage
    (passes : ∀ fault, tree.passage location name ≠ .refused fault) :
    tree.get? location = some .directory := by
  unfold passage at passes
  split at passes
  next => exact absurd rfl (passes .noSuchEntry)
  next there => exact there
  next => exact absurd rfl (passes .notDirectory)

/-- A passage other than the two dots and a refusal is that of an entry of the
directory. -/
theorem passage_of_plain (there : tree.get? location = some .directory)
    (notDot : name ≠ ".") (notUp : name ≠ "..") :
    tree.passage location name =
      if Route.longestName < name.utf8ByteSize then .refused .nameTooLong
      else
        match tree.get? (location ++ [name]) with
        | none => .free
        | some (.link target) => .link target
        | some _ => .onward (location ++ [name]) := by
  rw [passage, there]
  simp only [if_neg notDot, if_neg notUp]

theorem passage_dot (there : tree.get? location = some .directory) :
    tree.passage location "." = .onward location := by
  rw [passage, there]
  rfl

theorem free_of_passage (free : tree.passage location name = .free) :
    tree.get? (location ++ [name]) = none ∧ name ≠ "." ∧ name ≠ ".." := by
  have there : tree.get? location = some .directory :=
    directory_of_passage fun fault refused => by rw [free] at refused; cases refused
  have notDot : name ≠ "." := by
    intro dot
    rw [dot, passage_dot there] at free
    cases free
  have notUp : name ≠ ".." := by
    intro up
    rw [passage, there, up] at free
    cases free
  rw [passage_of_plain there notDot notUp] at free
  refine ⟨?_, notDot, notUp⟩
  split at free
  · cases free
  · split at free
    next absent => exact absent
    next => cases free
    next => cases free

theorem link_of_passage {target : String} (link : tree.passage location name = .link target) :
    tree.get? (location ++ [name]) = some (.link target) := by
  unfold passage at link
  split at link
  · cases link
  · split at link
    · cases link
    · split at link
      · cases link
      · split at link
        · cases link
        · split at link
          next => cases link
          next there =>
              cases link
              exact there
          next => cases link
  · cases link

end Passage

/-! ## Walks -/

section Walks

variable {tree : FileTree} {followLast : Bool} {links : Nat} {location : Location}
  {names : List String}

theorem get?_of_existing {found : Location} {entry : Entry}
    (walked : tree.walkFrom followLast links location names = .ok (.existing found entry)) :
    tree.get? found = some entry := by
  induction links, location, names using walk_induction tree with
  | nil links location =>
      rw [walkFrom_nil] at walked
      cases there : tree.get? location with
      | none => simp [there] at walked
      | some entry =>
          simp only [there, Except.ok.injEq, Place.existing.injEq] at walked
          obtain ⟨rfl, rfl⟩ := walked
          exact there
  | cons links location name rest onward byLink =>
      rw [walkFrom_cons] at walked
      cases passed : tree.passage location name with
      | refused fault => simp [passed] at walked
      | free =>
          simp only [passed] at walked
          split at walked <;> cases walked
      | onward next =>
          simp only [passed] at walked
          exact onward next passed walked
      | link target =>
          simp only [passed] at walked
          split at walked
          · cases walked
            exact link_of_passage passed
          · cases links with
            | zero => cases walked
            | succ fewer => exact byLink target fewer passed rfl walked

theorem passage_of_vacant {directory : Location} {name : String}
    (walked : tree.walkFrom followLast links location names = .ok (.vacant directory name)) :
    tree.passage directory name = .free := by
  induction links, location, names using walk_induction tree with
  | nil links location =>
      rw [walkFrom_nil] at walked
      cases there : tree.get? location <;> simp [there] at walked
  | cons links location name rest onward byLink =>
      rw [walkFrom_cons] at walked
      cases passed : tree.passage location name with
      | refused fault => simp [passed] at walked
      | free =>
          simp only [passed] at walked
          split at walked
          · cases walked
            exact passed
          · cases walked
      | onward next =>
          simp only [passed] at walked
          exact onward next passed walked
      | link target =>
          simp only [passed] at walked
          split at walked
          · cases walked
          · cases links with
            | zero => cases walked
            | succ fewer => exact byLink target fewer passed rfl walked

/-- The two ways to treat a link in the last place part only there. -/
theorem walkFrom_true_of_false {answer : Except FileFault Place}
    (walked : tree.walkFrom false links location names = answer)
    (noLink : ∀ found target, answer ≠ .ok (.existing found (.link target))) :
    tree.walkFrom true links location names = answer := by
  induction links, location, names using walk_induction tree with
  | nil links location =>
      rw [walkFrom_nil] at walked ⊢
      exact walked
  | cons links location name rest onward byLink =>
      rw [walkFrom_cons] at walked ⊢
      cases passed : tree.passage location name with
      | refused fault => simpa only [passed] using walked
      | free => simpa only [passed] using walked
      | onward next =>
          simp only [passed] at walked ⊢
          exact onward next passed walked
      | link target =>
          simp only [passed] at walked ⊢
          cases rest with
          | nil => exact absurd walked.symm (noLink _ _)
          | cons second more =>
              cases links with
              | zero => exact walked
              | succ fewer => exact byLink target fewer passed rfl walked

/-! ## Walks in two parts -/

/-- The first part of a walk either leads to a location that the rest starts
from, whatever the rest is, or stops it for good. -/
theorem walkFrom_append (tree : FileTree) (links : Nat) (location : Location)
    (names : List String) :
    (∃ left reached,
      (∀ followLast rest, rest ≠ [] → tree.walkFrom followLast links location (names ++ rest) =
        tree.walkFrom followLast left reached rest) ∧
      tree.walkFrom true links location names = tree.walkFrom true left reached []) ∨
    ∃ fault,
      (∀ followLast rest, rest ≠ [] →
        tree.walkFrom followLast links location (names ++ rest) = .error fault) ∧
      (tree.walkFrom true links location names = .error fault ∨
        fault = .noSuchEntry ∧ ∃ directory name,
          tree.walkFrom true links location names = .ok (.vacant directory name)) := by
  induction links, location, names using walk_induction tree with
  | nil links location => exact .inl ⟨links, location, fun _ _ _ => rfl, rfl⟩
  | cons links location name names onward byLink =>
      have goesOn : ∀ rest : List String, rest ≠ [] → (names ++ rest).isEmpty = false := by
        intro rest more
        simp [more]
      simp only [List.cons_append, walkFrom_cons]
      cases passed : tree.passage location name with
      | refused fault => exact .inr ⟨fault, fun _ _ _ => rfl, .inl rfl⟩
      | free =>
          refine .inr ⟨.noSuchEntry, ?_, ?_⟩
          · intro followLast rest more
            simp [goesOn rest more]
          · cases names with
            | nil => exact .inr ⟨rfl, location, name, rfl⟩
            | cons second more => exact .inl rfl
      | onward next => exact onward next passed
      | link target =>
          cases links with
          | zero =>
              refine .inr ⟨.tooManyLinks, ?_, .inl (by simp)⟩
              intro followLast rest more
              simp [goesOn rest more]
          | succ fewer =>
              have through := byLink target fewer passed rfl
              simp only [List.append_assoc] at through
              rcases through with ⟨left, reached, further, here⟩ | ⟨fault, further, here⟩
              · refine .inl ⟨left, reached, ?_, ?_⟩
                · intro followLast rest more
                  simp only [goesOn rest more, Bool.false_and, Bool.false_eq_true, if_false]
                  exact further followLast rest more
                · simpa using here
              · refine .inr ⟨fault, ?_, ?_⟩
                · intro followLast rest more
                  simp only [goesOn rest more, Bool.false_and, Bool.false_eq_true, if_false]
                  exact further followLast rest more
                · simpa using here

/-- From an entry that has been reached, a walk goes on at its location. -/
theorem walkFrom_append_of_existing {found : Location} {entry : Entry}
    (walked : tree.walkFrom true links location names = .ok (.existing found entry)) :
    ∃ left, ∀ followLast rest, rest ≠ [] →
      tree.walkFrom followLast links location (names ++ rest) =
        tree.walkFrom followLast left found rest := by
  rcases walkFrom_append tree links location names with
    ⟨left, reached, further, here⟩ | ⟨fault, further, here⟩
  · rw [here, walkFrom_nil] at walked
    cases there : tree.get? reached with
    | none => simp [there] at walked
    | some entry =>
        simp only [there, Except.ok.injEq, Place.existing.injEq] at walked
        exact ⟨left, by rw [← walked.1]; exact further⟩
  · rcases here with here | ⟨_, directory, name, here⟩ <;> rw [here] at walked <;> cases walked

/-- A walk that gets anywhere passes a directory after each of its parts. -/
theorem exists_directory_of_append {rest : List String} (more : rest ≠ []) {place : Place}
    (walked : tree.walkFrom followLast links location (names ++ rest) = .ok place) :
    ∃ directory, tree.walkFrom true links location names = .ok (.existing directory .directory) := by
  rcases walkFrom_append tree links location names with
    ⟨left, reached, further, here⟩ | ⟨fault, further, here⟩
  · rw [further followLast rest more] at walked
    obtain ⟨name, others, rfl⟩ := List.exists_cons_of_ne_nil more
    have passes : ∀ fault, tree.passage reached name ≠ .refused fault := by
      intro fault refused
      rw [walkFrom_cons, refused] at walked
      cases walked
    exact ⟨reached, by rw [here, walkFrom_nil, directory_of_passage passes]⟩
  · rw [further followLast rest more] at walked
    cases walked

end Walks

/-! ## Names in a later tree -/

section Evolution

variable {tree later : FileTree} (evolves : Evolves tree later)

include evolves

/-- A name leads where it has led before, unless something was missing or a file
has replaced a link. -/
theorem passage_of_evolves (location : Location) (name : String) :
    tree.passage location name = .refused .noSuchEntry ∨
    later.passage location name = tree.passage location name ∨
    (tree.passage location name = .free ∧
      ∃ entry, later.get? (location ++ [name]) = some entry ∧ (∀ target, entry ≠ .link target) ∧
        later.passage location name = .onward (location ++ [name])) ∨
    ((∃ target, tree.passage location name = .link target) ∧
      ∃ content, later.get? (location ++ [name]) = some (.file content) ∧
        later.passage location name = .onward (location ++ [name])) := by
  cases there : tree.get? location with
  | none => exact .inl (by rw [passage, there])
  | some entry =>
      cases entry with
      | file content =>
          obtain ⟨other, thereLater⟩ := evolves.file there
          exact .inr (.inl (by rw [passage, passage, there, thereLater]))
      | link target =>
          refine .inr (.inl ?_)
          rcases evolves.link there with kept | ⟨content, replaced⟩
          · rw [passage, passage, there, kept]
          · rw [passage, passage, there, replaced]
      | directory =>
          have thereLater := evolves.directory there
          by_cases dot : name = "."
          · rw [dot, passage_dot there, passage_dot thereLater]
            exact .inr (.inl rfl)
          by_cases up : name = ".."
          · exact .inr (.inl (by rw [passage, passage, there, thereLater]; simp [up]))
          rw [passage_of_plain there dot up, passage_of_plain thereLater dot up]
          by_cases long : Route.longestName < name.utf8ByteSize
          · exact .inr (.inl (by rw [if_pos long, if_pos long]))
          rw [if_neg long, if_neg long]
          have turns := evolves.turns (location ++ [name])
          cases child : tree.get? (location ++ [name]) with
          | none =>
              rw [child] at turns
              rcases turns.of_none with absent | made | ⟨content, written⟩
              · exact .inr (.inl (by rw [absent]))
              · rw [made]
                exact .inr (.inr (.inl ⟨rfl, .directory, rfl, by simp, rfl⟩))
              · rw [written]
                exact .inr (.inr (.inl ⟨rfl, .file content, rfl, by simp, rfl⟩))
          | some entry =>
              rw [child] at turns
              cases entry with
              | directory => exact .inr (.inl (by rw [turns.of_directory]))
              | file content =>
                  obtain ⟨other, written⟩ := turns.of_file
                  exact .inr (.inl (by rw [written]))
              | link target =>
                  rcases turns.of_link with kept | ⟨content, replaced⟩
                  · exact .inr (.inl (by rw [kept]))
                  · rw [replaced]
                    exact .inr (.inr (.inr ⟨⟨target, rfl⟩, content, rfl, rfl⟩))

end Evolution

/-- Nothing is below a file. -/
theorem walkFrom_of_file {tree : FileTree} {location : Location} {content : Content}
    (there : tree.get? location = some (.file content)) (followLast : Bool) (links : Nat)
    (names : List String) :
    tree.walkFrom followLast links location names =
      if names.isEmpty then .ok (.existing location (.file content))
      else .error .notDirectory := by
  cases names with
  | nil =>
      rw [walkFrom_nil, there]
      rfl
  | cons name rest =>
      rw [walkFrom_cons, passage, there]
      rfl

/-! ## Walks to what is still there -/

/-- The walk ends where something is missing. -/
def Missing (answer : Except FileFault Place) : Prop :=
  answer = .error .noSuchEntry ∨ ∃ directory name, answer = .ok (.vacant directory name)

theorem missing_of_free {tree : FileTree} {location : Location} {name : String}
    (free : tree.passage location name = .free) (followLast : Bool) (links : Nat)
    (rest : List String) :
    Missing (tree.walkFrom followLast links location (name :: rest)) := by
  rw [walkFrom_cons, free]
  cases rest with
  | nil => exact .inr ⟨location, name, rfl⟩
  | cons second more => exact .inl rfl

section Evolution

variable {tree later : FileTree} (evolves : Evolves tree later)

include evolves

/-- A walk that leads to a directory in the end has led there before, as far as
there was a way. -/
theorem walkFrom_before {found : Location} {links : Nat} {location : Location}
    {names : List String}
    (walked : later.walkFrom true links location names = .ok (.existing found .directory)) :
    tree.walkFrom true links location names = .ok (.existing found .directory) ∨
      Missing (tree.walkFrom true links location names) := by
  induction links, location, names using walk_induction tree with
  | nil links location =>
      rw [walkFrom_nil] at walked ⊢
      cases there : later.get? location with
      | none => simp [there] at walked
      | some entry =>
          simp only [there, Except.ok.injEq, Place.existing.injEq] at walked
          obtain ⟨rfl, rfl⟩ := walked
          rcases evolves.directory_before there with before | absent
          · rw [before]
            exact .inl rfl
          · rw [absent]
            exact .inr (.inl rfl)
  | cons links location name rest onward byLink =>
      rcases passage_of_evolves evolves location name with
        absent | same | ⟨free, _⟩ | ⟨_, content, replaced, passed⟩
      · rw [walkFrom_cons, absent]
        exact .inr (.inl rfl)
      · rw [walkFrom_cons, same] at walked
        cases passed : tree.passage location name with
        | refused fault => simp [passed] at walked
        | free => exact .inr (missing_of_free passed true links rest)
        | onward next =>
            rw [walkFrom_cons, passed]
            simp only [passed] at walked
            exact onward next passed walked
        | link target =>
            rw [walkFrom_cons, passed]
            simp only [passed, Bool.not_true, Bool.and_false, Bool.false_eq_true,
              if_false] at walked ⊢
            cases links with
            | zero => cases walked
            | succ fewer => exact byLink target fewer passed rfl walked
      · exact .inr (missing_of_free free true links rest)
      · rw [walkFrom_cons, passed] at walked
        simp only [walkFrom_of_file replaced] at walked
        split at walked <;> cases walked

/-- What has been there is never missing. -/
theorem not_missing_of_existing {found : Location} {entry : Entry} {followLast : Bool}
    {links : Nat} {location : Location} {names : List String}
    (walked : tree.walkFrom followLast links location names = .ok (.existing found entry)) :
    ¬ Missing (later.walkFrom followLast links location names) := by
  induction links, location, names using walk_induction tree with
  | nil links location =>
      rw [walkFrom_nil] at walked ⊢
      cases there : later.get? location with
      | none =>
          rw [evolves.none_before there] at walked
          cases walked
      | some entry => simp [Missing]
  | cons links location name rest onward byLink =>
      rw [walkFrom_cons] at walked ⊢
      rcases passage_of_evolves evolves location name with
        absent | same | ⟨free, _⟩ | ⟨_, content, replaced, passed⟩
      · simp [absent] at walked
      · rw [same]
        cases passed : tree.passage location name with
        | refused fault => simp [passed] at walked
        | free =>
            simp only [passed] at walked
            split at walked <;> cases walked
        | onward next =>
            simp only [passed] at walked
            exact onward next passed walked
        | link target =>
            simp only [passed] at walked ⊢
            split at walked
            next last =>
                rw [if_pos last]
                simp [Missing]
            next further =>
                rw [if_neg further]
                cases links with
                | zero => cases walked
                | succ fewer => exact byLink target fewer passed rfl walked
      · simp only [free] at walked
        split at walked <;> cases walked
      · rw [passed]
        simp only [walkFrom_of_file replaced]
        split <;> simp [Missing]

end Evolution

/-! ## Walks in a tree that has grown -/

/-- What an answer becomes in a later tree: what was found is found again, a
free name may have been taken, and only a missing entry may turn up. -/
inductive Lasts (later : FileTree) : Except FileFault Place → Except FileFault Place → Prop where
  | existing {location : Location} {entry other : Entry}
      (there : later.get? location = some other) (shape : other.shape = entry.shape) :
      Lasts later (.ok (.existing location entry)) (.ok (.existing location other))
  | vacant (directory : Location) (name : String) :
      Lasts later (.ok (.vacant directory name)) (.ok (.vacant directory name))
  | taken {directory : Location} {name : String} {entry : Entry}
      (there : later.get? (directory ++ [name]) = some entry)
      (noLink : ∀ target, entry ≠ .link target) :
      Lasts later (.ok (.vacant directory name)) (.ok (.existing (directory ++ [name]) entry))
  | refused {fault : FileFault} (final : fault ≠ .noSuchEntry) :
      Lasts later (.error fault) (.error fault)
  | missing (answer : Except FileFault Place) : Lasts later (.error .noSuchEntry) answer

namespace Lasts

variable {later : FileTree} {answer : Except FileFault Place} {location : Location}

theorem of_directory (lasts : Lasts later (.ok (.existing location .directory)) answer) :
    answer = .ok (.existing location .directory) := by
  cases lasts with
  | existing there shape => rw [Entry.shape_eq_directory.1 shape]

theorem of_link {target : String}
    (lasts : Lasts later (.ok (.existing location (.link target))) answer) :
    answer = .ok (.existing location (.link target)) := by
  cases lasts with
  | existing there shape => rw [Entry.shape_eq_link.1 shape]

theorem of_file {content : Content}
    (lasts : Lasts later (.ok (.existing location (.file content))) answer) :
    ∃ other, answer = .ok (.existing location (.file other)) ∧
      later.get? location = some (.file other) := by
  cases lasts with
  | existing there shape =>
      obtain ⟨other, rfl⟩ := Entry.shape_eq_file.1 shape
      exact ⟨other, rfl, there⟩

theorem missing_before {before : Except FileFault Place} (lasts : Lasts later before answer)
    (missing : Missing answer) : Missing before := by
  cases lasts with
  | existing => simp [Missing] at missing
  | vacant directory name | taken => exact .inr ⟨_, _, rfl⟩
  | refused final => exact absurd missing (by simp [Missing, final])
  | missing => exact .inl rfl

theorem of_error {fault : FileFault} (lasts : Lasts later (.error fault) answer)
    (final : fault ≠ .noSuchEntry) : answer = .error fault := by
  cases lasts with
  | refused => rfl
  | missing => exact absurd rfl final

end Lasts

/-- A name that was free leads to what has been put there. -/
theorem Lasts.of_vacant {later : FileTree} {followLast : Bool} {links : Nat}
    {start directory : Location} {names : List String} {name : String} {entry : Entry}
    (lasts : Lasts later (.ok (.vacant directory name))
      (later.walkFrom followLast links start names))
    (there : later.get? (directory ++ [name]) = some entry) :
    later.walkFrom followLast links start names = .ok (.existing (directory ++ [name]) entry) := by
  generalize walked : later.walkFrom followLast links start names = answer at lasts
  cases lasts with
  | vacant =>
      have absent := (free_of_passage (passage_of_vacant walked)).1
      rw [absent] at there
      cases there
  | taken found =>
      rw [found] at there
      rw [Option.some.inj there]

section Growth

variable {tree later : FileTree} (extended : Extends tree later)

include extended

theorem passage_of_extends (location : Location) (name : String) :
    tree.passage location name = .refused .noSuchEntry ∨
    later.passage location name = tree.passage location name ∨
    tree.passage location name = .free ∧
      ∃ entry, later.get? (location ++ [name]) = some entry ∧ (∀ target, entry ≠ .link target) ∧
        later.passage location name = .onward (location ++ [name]) := by
  rcases passage_of_evolves extended.toEvolves location name with
    absent | same | taken | ⟨⟨target, link⟩, content, replaced, _⟩
  · exact .inl absent
  · exact .inr (.inl same)
  · exact .inr (.inr taken)
  · rw [extended.keepsLinks _ _ (link_of_passage link)] at replaced
    cases replaced

theorem walkFrom_lasts (followLast : Bool) (links : Nat) (location : Location)
    (names : List String) :
    Lasts later (tree.walkFrom followLast links location names)
      (later.walkFrom followLast links location names) := by
  induction links, location, names using walk_induction tree with
  | nil links location =>
      rw [walkFrom_nil, walkFrom_nil]
      cases there : tree.get? location with
      | none => exact .missing _
      | some entry =>
          obtain ⟨other, thereLater, shape⟩ := extended.existing there
          rw [thereLater]
          exact .existing thereLater shape
  | cons links location name rest onward byLink =>
      rw [walkFrom_cons, walkFrom_cons]
      rcases passage_of_extends extended location name with
        absent | same | ⟨free, entry, there, noLink, passedLater⟩
      · rw [absent]
        exact .missing _
      · rw [same]
        cases passed : tree.passage location name with
        | refused fault =>
            by_cases final : fault = .noSuchEntry
            · rw [final]
              exact .missing _
            · exact .refused final
        | free =>
            simp only
            split
            · exact .vacant location name
            · exact .missing _
        | onward next => exact onward next passed
        | link target =>
            simp only
            split
            · have there := link_of_passage passed
              exact .existing (extended.keepsLinks _ _ there) rfl
            · cases links with
              | zero => exact .refused (by decide)
              | succ fewer => exact byLink target fewer passed rfl
      · rw [free, passedLater]
        cases rest with
        | nil =>
            have arrived : later.walkFrom followLast links (location ++ [name]) [] =
                .ok (.existing (location ++ [name]) entry) := by
              rw [walkFrom_nil, there]
            simp only [arrived]
            exact .taken there noLink
        | cons second more => exact .missing _

end Growth

end FormRules.FileTree
