import TemplateCompiler.Proofs.Path.Canonical

/-! # Refining a path in parts

Refining walks along the segments of a path with a stack, and walks on from where the first part of
the path has led (`Path.stack?_append_slash`). The stack after a path can be read off its normal
form, unless nothing is left of the path (`Path.stack?_of_refine`). So the first part of a path may
be refined before the rest is put behind it (`Path.toOption_refine_append_slash`).

The empty text is a directory too, the one that paths start in; `Path.place?` is the stack after a
directory, and `Path.below` a path as it is seen from one.
-/

namespace TemplateCompiler

theorem Text.split_append_cons {p : Char → Bool} {c : Char} (separator : p c = true)
    (cs more : List Char) : split p (cs ++ c :: more) = split p cs ++ split p more := by
  simp only [split_eq_splitOnP]
  exact List.splitOnP_append_cons _ _ separator

namespace Path

variable {allowEscape : Bool} {stack : List (List Char)}
  {path first rest result : String}

/-- The segments of an include path. -/
def pieces (path : String) : List (List Char) := Text.split isSeparator path.toList

theorem pieces_append_slash (first rest : String) :
    pieces (first ++ "/" ++ rest) = pieces first ++ pieces rest := by
  have apart : (first ++ "/" ++ rest).toList = first.toList ++ '/' :: rest.toList := by simp
  rw [pieces, apart]
  exact Text.split_append_cons rfl _ _

theorem walk?_append (stack segments more : List (List Char)) :
    walk? allowEscape stack (segments ++ more) =
      (walk? allowEscape stack segments).bind (walk? allowEscape · more) := by
  induction segments generalizing stack with
  | nil => rfl
  | cons segment segments ih =>
      simp only [List.cons_append, walk?]
      split_ifs
      · cases stepBack? allowEscape stack with
        | none => rfl
        | some below => exact ih below
      · exact ih stack
      · exact ih (segment :: stack)

/-- A path that does not start with a separator is walked from nothing. -/
theorem stack?_of_unrooted (unrooted : Unrooted path) (nonempty : path ≠ "") :
    stack? allowEscape path = walk? allowEscape [] (pieces path) := by
  unfold stack? pieces
  cases characters : path.toList with
  | nil => exact absurd (String.toList_eq_nil_iff.mp characters) nonempty
  | cons c cs =>
      have head : isSeparator c = false := unrooted c (by rw [characters]; rfl)
      obtain ⟨piece, rest, split⟩ := Text.split_of_head head cs
      rw [split]

/-- **Walking goes on** from where the first part of a path has led. -/
theorem stack?_append_slash (first rest : String) :
    stack? allowEscape (first ++ "/" ++ rest) =
      (stack? allowEscape first).bind (walk? allowEscape · (pieces rest)) := by
  have whole := pieces_append_slash first rest
  unfold stack?
  rw [← pieces, whole]
  cases split : pieces first with
  | nil => exact absurd split (Text.split_ne_nil _ _)
  | cons segment segments =>
      rw [show Text.split isSeparator first.toList = segment :: segments from split]
      cases segment with
      | nil => exact walk?_append [[]] segments (pieces rest)
      | cons c segment => exact walk?_append [] ((c :: segment) :: segments) (pieces rest)

theorem toOption_refine (allowEscape : Bool) (path : String) :
    (refine path allowEscape).toOption =
      (stack? allowEscape path).map fun stack => textOfSegments stack.reverse := by
  rw [refine, normalSegments?_eq]
  cases stack? allowEscape path <;> rfl

theorem exists_stack_of_refine (refined : refine path allowEscape = .ok result) :
    ∃ stack, stack? allowEscape path = some stack ∧ result = textOfSegments stack.reverse := by
  have written := toOption_refine allowEscape path
  rw [refined] at written
  obtain ⟨stack, walked, same⟩ := Option.map_eq_some_iff.mp written.symm
  exact ⟨stack, walked, same.symm⟩

/-- A stack from its first segment on: a start, and segments that lead down. -/
theorem IsStack.exists_reverse (isStack : IsStack allowEscape stack) :
    ∃ start inner, IsStart allowEscape start ∧ (∀ segment ∈ inner, IsInner segment) ∧
      stack.reverse = start ++ inner := by
  obtain ⟨inner, start, rfl, leadsDown, isStart⟩ := isStack
  refine ⟨start, inner.reverse, isStart, by simpa using leadsDown, ?_⟩
  rw [List.reverse_append, isStart.reverse_eq]

theorem IsStack.writtenSegments_eq (isStack : IsStack allowEscape stack) :
    writtenSegments (textOfSegments stack.reverse) = stack.reverse := by
  obtain ⟨start, inner, isStart, leadsDown, order⟩ := isStack.exists_reverse
  rw [order, writtenSegments_textOfSegments isStart leadsDown]

/-- The stack of a normal form is the one it is written from. -/
theorem stack?_textOfSegments (isStack : IsStack allowEscape stack)
    (nonempty : textOfSegments stack.reverse ≠ "") :
    stack? allowEscape (textOfSegments stack.reverse) = some stack := by
  have written := isStack.writtenSegments_eq
  rw [writtenSegments, if_neg nonempty] at written
  split_ifs at written with root
  · rw [root, ← List.reverse_reverse stack, ← written]
    rfl
  · obtain ⟨start, inner, isStart, leadsDown, order⟩ := isStack.exists_reverse
    have filled : start ++ inner ≠ [] := order ▸ written ▸ Text.split_ne_nil _ _
    have normal := normalSegments?_of_split isStart leadsDown filled (written.trans order)
    rw [normalSegments?_eq, ← order] at normal
    obtain ⟨found, walked, same⟩ := Option.map_eq_some_iff.mp normal
    rw [walked, List.reverse_injective same]

/-- **The stack after a path is that after its normal form**, where anything is left of it. -/
theorem stack?_of_refine (refined : refine path allowEscape = .ok result)
    (nonempty : result ≠ "") : stack? allowEscape result = stack? allowEscape path := by
  obtain ⟨stack, walked, rfl⟩ := exists_stack_of_refine refined
  rw [walked, stack?_textOfSegments (isStack_of_stack? walked) nonempty]

/-- **Refining composes**: what stands in front may be refined first. -/
theorem toOption_refine_append_slash (refined : refine first allowEscape = .ok result)
    (nonempty : result ≠ "") (rest : String) :
    (refine (first ++ "/" ++ rest) allowEscape).toOption =
      (refine (result ++ "/" ++ rest) allowEscape).toOption := by
  rw [toOption_refine, toOption_refine, stack?_append_slash, stack?_append_slash,
    stack?_of_refine refined nonempty]

/-! ## Directories -/

theorem directory_of_unbroken (unbroken : ∀ c ∈ path.toList, isSeparator c = false) :
    directory path = "" := by
  have none : path.toList.reverse.dropWhile (!isSeparator ·) = [] := by
    rw [List.dropWhile_eq_nil_iff]
    intro c member
    rw [unbroken c (List.mem_reverse.mp member)]
    rfl
  rw [directory, none]
  rfl

/-- What stands in front of a slash stands in front of the directory of the rest. -/
theorem directory_append_slash (first rest : String) :
    directory (first ++ "/" ++ rest) = first ++ directory ("/" ++ rest) := by
  have whole : (first ++ "/" ++ rest).toList.reverse =
      ("/" ++ rest).toList.reverse ++ first.toList.reverse := by simp
  have found : ("/" ++ rest).toList.reverse.dropWhile (!isSeparator ·) ≠ [] := by
    rw [ne_eq, List.dropWhile_eq_nil_iff]
    intro all
    exact absurd (all '/' (by simp)) (by decide)
  rw [← String.toList_inj, directory, directory, whole, List.dropWhile_append,
    if_neg (by simpa using found), List.drop_append_of_le_length (List.length_pos_iff.mpr found)]
  simp

theorem directory_append_slash_of_unbroken (first : String) {rest : String}
    (unbroken : ∀ c ∈ rest.toList, isSeparator c = false) :
    directory (first ++ "/" ++ rest) = first := by
  have found : ("/" ++ rest).toList.reverse.dropWhile (!isSeparator ·) = ['/'] := by
    have behind : (!isSeparator '/') = false := rfl
    rw [String.toList_append, List.reverse_append, List.dropWhile_append_of_pos]
    · simp [behind]
    · intro c member
      rw [unbroken c (List.mem_reverse.mp member)]
      rfl
  rw [directory_append_slash, directory, found]
  simp

/-- The directory of a path with one segment in front is empty or starts with the slash. -/
theorem directory_slash_cases (rest : String) :
    directory ("/" ++ rest) = "" ∨ ∃ inner, directory ("/" ++ rest) = "/" ++ inner := by
  have front := directory_isPrefix ("/" ++ rest)
  rw [String.toList_append] at front
  cases characters : (directory ("/" ++ rest)).toList with
  | nil => exact .inl (String.toList_eq_nil_iff.mp characters)
  | cons c inner =>
      rw [characters] at front
      obtain rfl : c = '/' := (List.cons_prefix_cons.mp front).1
      exact .inr ⟨String.ofList inner, by rw [← String.toList_inj, characters]; simp⟩

theorem joinSegments_concat {front : List (List Char)} (nonempty : front ≠ [])
    (last : List Char) : joinSegments (front ++ [last]) = joinSegments front ++ '/' :: last := by
  induction front with
  | nil => exact absurd rfl nonempty
  | cons segment front ih =>
      cases front with
      | nil => simp [joinSegments]
      | cons next front =>
          have later := ih (List.cons_ne_nil _ _)
          simp only [joinSegments, List.cons_append, List.intercalate_cons_cons] at later ⊢
          simp only [later, List.append_assoc]

/-- The directory of a path that is written from segments is written from those in front of the
last. -/
theorem directory_joinSegments {front : List (List Char)} {last : List Char} {suffix : String}
    (unbroken : ∀ c ∈ last, isSeparator c = false)
    (plain : ∀ c ∈ suffix.toList, isSeparator c = false) :
    directory (String.ofList (joinSegments (front ++ [last])) ++ suffix) =
      String.ofList (joinSegments front) := by
  have behind : ∀ c ∈ (String.ofList last ++ suffix).toList, isSeparator c = false := by
    intro c member
    rw [String.toList_append, String.toList_ofList, List.mem_append] at member
    exact member.elim (unbroken c) (plain c)
  by_cases single : front = []
  · subst single
    have alone : joinSegments ([] ++ [last]) = last := by simp [joinSegments]
    rw [alone, directory_of_unbroken behind]
    rfl
  · have apart : String.ofList (joinSegments (front ++ [last])) ++ suffix =
        String.ofList (joinSegments front) ++ "/" ++ (String.ofList last ++ suffix) := by
      rw [← String.toList_inj]
      simp [joinSegments_concat single]
    rw [apart, directory_append_slash_of_unbroken _ behind]

/-- The stack after a directory. The empty text is the directory that paths start in. -/
def place? (allowEscape : Bool) (directory : String) : Option (List (List Char)) :=
  if directory = "" then some [] else stack? allowEscape directory

/-- A path that does not start with a separator is walked without a root marker. -/
theorem nil_not_mem_of_place? {directory : String} (unrooted : Unrooted directory)
    (found : place? false directory = some stack) : [] ∉ stack := by
  unfold place? at found
  split_ifs at found with empty
  · cases found
    exact List.not_mem_nil
  · rw [stack?_of_unrooted unrooted empty] at found
    intro marker
    rcases mem_of_walk? found [] marker with nothing | ⟨_, name⟩
    · cases nothing
    · exact name.1 rfl

/-- A path as it is seen from a directory. -/
def below (directory path : String) : String :=
  if directory = "" ∨ directory = "." then path else directory ++ "/" ++ path

/-- A path that is seen from a directory is walked from where the directory has led. -/
theorem stack?_below (directory : String) (unrooted : Unrooted path) (nonempty : path ≠ "") :
    stack? allowEscape (below directory path) =
      (place? allowEscape directory).bind (walk? allowEscape · (pieces path)) := by
  unfold below place?
  by_cases empty : directory = ""
  · rw [if_pos (.inl empty), if_pos empty, stack?_of_unrooted unrooted nonempty, Option.bind_some]
  · rw [if_neg empty]
    split_ifs with top
    · have current : directory = "." := top.resolve_left empty
      have stays : stack? allowEscape "." = some [] := rfl
      rw [stack?_of_unrooted unrooted nonempty, current, stays, Option.bind_some]
    · exact stack?_append_slash directory path

/-- A normal form leads to its stack. -/
theorem place?_textOfSegments (isStack : IsStack false stack) :
    place? false (textOfSegments stack.reverse) = some stack := by
  rw [place?]
  split_ifs with top
  · have nothing := isStack.writtenSegments_eq
    rw [top] at nothing
    rw [List.reverse_eq_nil_iff.mp nothing.symm]
  · exact stack?_textOfSegments isStack top

/-- **The directory of a normal form is one step back**, whatever is put behind the last name,
unless the path stands at the root marker, of which its directory keeps nothing. -/
theorem place?_directory {suffix : String} (isStack : IsStack false stack) (some : stack ≠ [])
    (plain : ∀ c ∈ suffix.toList, isSeparator c = false)
    (placed : [] ∉ stack ∨ directory (textOfSegments stack.reverse ++ suffix) ≠ "") :
    place? false (directory (textOfSegments stack.reverse ++ suffix)) = stepBack? false stack := by
  obtain ⟨inner, start, rfl, leadsDown, isStart⟩ := isStack
  cases inner with
  | nil =>
      cases isStart with
      | parents count allowed => simp [allowed rfl] at some
      | root =>
          -- Nothing leads back from the root; a file at the root has the empty directory.
          have atRoot : textOfSegments (([] : List (List Char)) ++ [[]]).reverse ++ suffix =
              "" ++ "/" ++ suffix := rfl
          rw [atRoot, directory_append_slash_of_unbroken "" plain] at placed
          simp at placed
  | cons top inner =>
      have down := leadsDown top (List.mem_cons_self ..)
      have later := fun segment member => leadsDown segment (List.mem_cons_of_mem top member)
      have isBelow : IsStack false (inner ++ start) := ⟨inner, start, rfl, later, isStart⟩
      have back : stepBack? false (top :: inner ++ start) = .some (inner ++ start) := by
        simp [stepBack?, down.notParent, down.filled]
      have order : (top :: inner ++ start).reverse = (inner ++ start).reverse ++ [top] := by simp
      have several : (inner ++ start).reverse ++ [top] ≠ [[]] := by
        intro marker
        exact down.filled (List.append_eq_singleton_iff.mp marker |>.elim (by simp) (by simp))
      rw [back]
      rw [order, textOfSegments, if_neg several,
        directory_joinSegments down.unbroken plain] at placed ⊢
      by_cases marker : (inner ++ start).reverse = [[]]
      · have root : [] ∈ inner ++ start := by
          rw [← List.mem_reverse, marker]
          exact List.mem_singleton_self []
        rw [marker] at placed
        rcases placed with free | written
        · exact absurd (List.mem_cons_of_mem top root) free
        · exact absurd rfl written
      · have written : String.ofList (joinSegments (inner ++ start).reverse) =
            textOfSegments (inner ++ start).reverse := by rw [textOfSegments, if_neg marker]
        rw [written, place?_textOfSegments isBelow]

end Path

end TemplateCompiler
