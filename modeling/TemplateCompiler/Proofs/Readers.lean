import Mathlib.Algebra.Group.Action.Defs
import Mathlib.Algebra.Order.BigOperators.Group.List
import Mathlib.Algebra.Order.Ring.Nat
import TemplateCompiler.Proofs.Markup.Reading
import TemplateCompiler.Reader

/-! # What a reader tells about its text

A reader is asked for characters, holds some of them back and is asked for them again. What its
calls have told so far can be put down as the visits that it has paid to the characters of the text
(`Reader.visits`): one visit to each character, however often that has been yielded. The visits go
to the first characters of the text, and all that the reader says of its place is said of these
(`Reader.account_of_calls`). Where no character is held back twice, the text has been read to its
end after two steps for each character.
-/

namespace TemplateCompiler.Reader

/-- A call of a reader. -/
inductive Call where
  | next
  | hold
  | endedWith (ending : String)
deriving DecidableEq, Repr

/-- What comes of a call. -/
inductive Event where
  /-- A character is yielded. -/
  | yielded (c : Char)
  /-- There is no character left. -/
  | exhausted
  | held
  | answered (ending : String) (answer : Bool)
deriving DecidableEq, Repr

/-- Makes a call. -/
def perform (reader : Reader) : Call → Event × Reader
  | .next => (reader.next.1.elim .exhausted .yielded, reader.next.2)
  | .hold => (.held, reader.hold)
  | .endedWith ending => (.answered ending (reader.endedWith ending), reader)

/-- Makes calls one after the other. -/
def performAll (reader : Reader) : List Call → List Event × Reader
  | [] => ([], reader)
  | call :: calls =>
    let later := (reader.perform call).2.performAll calls
    ((reader.perform call).1 :: later.1, later.2)

/-! ## Visits -/

/-- What has been told about one character of a text. -/
structure Visit where
  char : Char
  /-- How often the character has been yielded. -/
  yields : Nat
  /-- How often it has been held back. -/
  holds : Nat
  /-- Whether it has been held back since it was yielded last. -/
  waits : Bool
deriving DecidableEq, Repr

namespace Visit

/-- The visit to a character that is yielded for the first time. -/
def first (c : Char) : Visit := ⟨c, 1, 0, false⟩

/-- The visit after its character has been yielded again. -/
def again (visit : Visit) : Visit := { visit with yields := visit.yields + 1, waits := false }

/-- The visit after its character has been held back. -/
def held (visit : Visit) : Visit := { visit with holds := visit.holds + 1, waits := true }

/-- A character is yielded once, and once more at most for each time that it has been held back. -/
def IsBounded (visit : Visit) : Prop :=
  visit.yields + visit.waits.toNat ≤ visit.holds + 1

end Visit

/-- Whether the character that has been visited last is to be yielded again. -/
def waits (visits : List Visit) : Bool := visits.head?.any Visit.waits

/-- The visits after one more event, the latest first. A character that is yielded is another one,
unless the latest has been held back. -/
def note (visits : List Visit) : Event → List Visit
  | .yielded c => if waits visits then visits.modifyHead Visit.again else .first c :: visits
  | .held => visits.modifyHead Visit.held
  | .exhausted | .answered .. => visits

/-- The visits that events tell of, the latest first. -/
def visits (events : List Event) : List Visit := events.foldl note []

/-- The characters of visits, the earliest first. -/
def characters (visits : List Visit) : List Char := visits.reverse.map Visit.char

/-- Whether a character is yielded. -/
def Event.isYield : Event → Bool
  | .yielded _ => true
  | _ => false

/-- How many steps have been made: how often a character has been yielded. -/
def steps (events : List Event) : Nat := events.countP Event.isYield

section Visits

variable {visits : List Visit}

@[simp] theorem waits_cons (visit : Visit) (earlier : List Visit) :
    waits (visit :: earlier) = visit.waits := rfl

@[simp] theorem characters_cons (visit : Visit) (earlier : List Visit) :
    characters (visit :: earlier) = characters earlier ++ [visit.char] := by
  simp [characters]

@[simp] theorem length_characters (visits : List Visit) :
    (characters visits).length = visits.length := by
  simp [characters]

/-- A character waits only where one has been visited. -/
theorem exists_of_waits (waiting : waits visits = true) :
    ∃ visit earlier, visits = visit :: earlier ∧ visit.waits = true := by
  cases visits with
  | nil => cases waiting
  | cons visit earlier => exact ⟨visit, earlier, rfl, waiting⟩

/-- No event takes a visit out of its bounds. -/
theorem isBounded_note (bounded : ∀ visit ∈ visits, visit.IsBounded) (event : Event) :
    ∀ visit ∈ note visits event, visit.IsBounded := by
  cases event with
  | yielded c =>
      unfold note
      split_ifs with waiting
      · obtain ⟨latest, earlier, rfl, waits⟩ := exists_of_waits waiting
        obtain ⟨first, others⟩ := List.forall_mem_cons.mp bounded
        refine List.forall_mem_cons.mpr ⟨?_, others⟩
        simpa [Visit.IsBounded, Visit.again, waits] using first
      · exact List.forall_mem_cons.mpr ⟨by simp [Visit.IsBounded, Visit.first], bounded⟩
  | held =>
      cases visits with
      | nil => exact bounded
      | cons latest earlier =>
          obtain ⟨first, others⟩ := List.forall_mem_cons.mp bounded
          refine List.forall_mem_cons.mpr ⟨?_, others⟩
          simp only [Visit.IsBounded, Visit.held, Bool.toNat_true] at first ⊢
          omega
  | exhausted => exact bounded
  | answered ending answer => exact bounded

/-- Every step is put down with one visit. -/
theorem sum_yields_note (visits : List Visit) (event : Event) :
    ((note visits event).map Visit.yields).sum =
      (visits.map Visit.yields).sum + event.isYield.toNat := by
  cases event with
  | yielded c =>
      unfold note
      split_ifs with waiting
      · obtain ⟨latest, earlier, rfl, _⟩ := exists_of_waits waiting
        simp [Visit.again, Event.isYield]
        omega
      · simp [Visit.first, Event.isYield, Nat.add_comm]
  | held => cases visits <;> simp [note, Visit.held, Event.isYield]
  | exhausted => rfl
  | answered ending answer => rfl

theorem isBounded_of_visits (events : List Event) : ∀ visit ∈ Reader.visits events,
    visit.IsBounded := by
  induction events using List.reverseRecOn with
  | nil => exact nofun
  | append_singleton events event ih =>
      rw [Reader.visits, List.foldl_append]
      exact isBounded_note ih event

/-- The steps that have been made are the yields of all visits. -/
theorem sum_yields (events : List Event) :
    ((Reader.visits events).map Visit.yields).sum = steps events := by
  induction events using List.reverseRecOn with
  | nil => rfl
  | append_singleton events event ih =>
      rw [Reader.visits, List.foldl_append, List.foldl_cons, List.foldl_nil, sum_yields_note,
        ← Reader.visits, ih, steps, steps, List.countP_append]
      cases event <;> rfl

/-- Where no character is held back twice, there are two steps at most for each character. -/
theorem steps_le {events : List Event}
    (once : ∀ visit ∈ Reader.visits events, visit.holds ≤ 1) :
    steps events ≤ 2 * (Reader.visits events).length := by
  have twice : ∀ yields ∈ (Reader.visits events).map Visit.yields, yields ≤ 2 := by
    intro yields member
    obtain ⟨visit, inside, rfl⟩ := List.mem_map.mp member
    have bounded : visit.yields + visit.waits.toNat ≤ visit.holds + 1 :=
      isBounded_of_visits events visit inside
    have held := once visit inside
    omega
  have total := List.sum_le_card_nsmul _ 2 twice
  rwa [sum_yields, List.length_map, smul_eq_mul, Nat.mul_comm] at total

end Visits

/-! ## Readers in a text -/

theorem next_of_end {reader : Reader} (free : reader.held = false) (ended : reader.ahead = []) :
    reader.next = (none, reader) := by
  rw [next, free, ended]
  rfl

theorem next_of_ahead {reader : Reader} {c : Char} {rest : List Char}
    (free : reader.held = false) (ahead : reader.ahead = c :: rest) :
    reader.next = (some c, ⟨reader.cursor.advance c, rest, false⟩) := by
  rw [next, free, ahead]
  rfl

/-- A reader has paid visits to the first characters of a text, and the others are ahead. -/
structure Visited (text : List Char) (reader : Reader) (visits : List Visit) : Prop where
  split : characters visits ++ reader.ahead = text
  cursor : reader.cursor = Cursor.start.advanceBy (characters visits)
  held : reader.held = waits visits

namespace Visited

variable {text : List Char} {reader : Reader} {visits : List Visit}

theorem behind (visited : Visited text reader visits) :
    reader.cursor.behind = visits.map Visit.char := by
  rw [visited.cursor, Cursor.advanceBy_behind, characters, ← List.map_reverse, List.reverse_reverse]
  exact List.append_nil _

theorem current? (visited : Visited text reader visits) :
    reader.current? = visits.head?.map Visit.char := by
  rw [Reader.current?, Cursor.current?, visited.behind, List.head?_map]

/-- A reader yields the character that waits, or else the first of those ahead. -/
theorem next (visited : Visited text reader visits) :
    reader.next.1 = if waits visits then reader.current? else reader.ahead.head? := by
  rw [Reader.next, visited.held]
  split_ifs with again
  · rfl
  · cases reader.ahead <;> rfl

/-- A character that waits is yielded again, and nothing else changes. -/
theorem next_of_waits {latest : Visit} {earlier : List Visit}
    (visited : Visited text reader (latest :: earlier)) (waiting : latest.waits = true) :
    reader.next = (some latest.char, { reader with held := false }) := by
  rw [Reader.next, visited.held, waits_cons, if_pos waiting, visited.current?]
  rfl

theorem perform_next (visited : Visited text reader visits) :
    Visited text (reader.perform .next).2 (note visits (reader.perform .next).1) := by
  by_cases waiting : waits visits = true
  · obtain ⟨latest, earlier, rfl, waits⟩ := exists_of_waits waiting
    simp only [Reader.perform, visited.next_of_waits waits, Option.elim, note, waiting, if_true,
      List.modifyHead]
    exact ⟨by simpa [Visit.again] using visited.split,
      by simpa [Visit.again] using visited.cursor, rfl⟩
  · have free : reader.held = false := visited.held.trans (Bool.eq_false_iff.mpr waiting)
    cases ahead : reader.ahead with
    | nil => simpa only [Reader.perform, next_of_end free ahead, Option.elim, note] using visited
    | cons c rest =>
        simp only [Reader.perform, next_of_ahead free ahead, Option.elim, note, if_neg waiting]
        refine ⟨?_, ?_, rfl⟩
        · rw [← visited.split, ahead, characters_cons, List.append_assoc]
          rfl
        · rw [characters_cons, Cursor.advanceBy_append, ← visited.cursor]
          rfl

theorem perform_hold (visited : Visited text reader visits) :
    Visited text (reader.perform .hold).2 (note visits (reader.perform .hold).1) := by
  simp only [Reader.perform, note]
  cases visits with
  | nil =>
      -- before the first character there is nothing to hold back
      have nothing : reader.hold = reader := by simp [Reader.hold, visited.current?]
      rw [nothing]
      exact visited
  | cons latest earlier =>
      have holds : reader.hold = { reader with held := true } := by
        simp [Reader.hold, visited.current?]
      rw [holds]
      exact ⟨by simpa [Visit.held] using visited.split,
        by simpa [Visit.held] using visited.cursor, rfl⟩

/-- **A call keeps the visits in step with the reader.** -/
theorem perform (visited : Visited text reader visits) (call : Call) :
    Visited text (reader.perform call).2 (note visits (reader.perform call).1) := by
  cases call with
  | next => exact visited.perform_next
  | hold => exact visited.perform_hold
  | endedWith ending => exact visited

/-- **Calls keep the visits in step with the reader.** -/
theorem performAll (visited : Visited text reader visits) (calls : List Call) :
    Visited text (reader.performAll calls).2
      ((reader.performAll calls).1.foldl note visits) := by
  induction calls generalizing reader visits with
  | nil => exact visited
  | cons call calls ih => exact ih (visited.perform call)

/-- At the start of a text nothing has been visited. -/
theorem ofText (source : String) : Visited source.toList (Reader.ofText source) [] := ⟨rfl, rfl, rfl⟩

theorem position (visited : Visited text reader visits) : reader.position = visits.length := by
  rw [Reader.position, Cursor.position, visited.behind, List.length_map]

theorem take_position (visited : Visited text reader visits) :
    text.take reader.position = characters visits := by
  rw [← visited.split, visited.position, ← length_characters, List.take_left]

theorem getElem?_position (visited : Visited text reader visits) :
    text[reader.position]? = reader.ahead.head? := by
  rw [← visited.split, visited.position, ← length_characters,
    List.getElem?_append_right (Nat.le_refl _), Nat.sub_self, List.head?_eq_getElem?]

/-- The text before the character that has been visited last, and this character. -/
theorem before_position {latest : Visit} {earlier : List Visit}
    (visited : Visited text reader (latest :: earlier)) :
    text.take (reader.position - 1) = characters earlier ∧
      text[reader.position - 1]? = some latest.char := by
  have place : reader.position - 1 = (characters earlier).length := by
    rw [visited.position, length_characters, List.length_cons, Nat.add_sub_cancel]
  have whole : characters earlier ++ latest.char :: reader.ahead = text := by
    rw [← visited.split, characters_cons, List.append_assoc]
    rfl
  rw [place, ← whole]
  exact ⟨List.take_left, by simp⟩

/-- The most recent character is the one before the position. -/
theorem current?_eq (visited : Visited text reader visits) :
    reader.current? = if reader.position = 0 then none else text[reader.position - 1]? := by
  rw [visited.current?, visited.position]
  cases visits with
  | nil => rfl
  | cons latest earlier =>
      rw [← visited.position, visited.before_position.2, visited.position]
      rfl

/-- The location is that of the character before the position. -/
theorem location_eq (visited : Visited text reader visits) :
    reader.location = if reader.position = 0 then ⟨1, 0⟩
      else Markup.locationBehind (text.take (reader.position - 1)) := by
  rw [Reader.location, visited.cursor]
  cases visits with
  | nil =>
      rw [visited.position]
      rfl
  | cons latest earlier =>
      rw [visited.before_position.1, characters_cons, Markup.location_advanceBy,
        visited.position, List.length_cons, if_neg (Nat.succ_ne_zero _)]

/-- What the reader says that its text so far ends with is a suffix of this. -/
theorem endedWith_iff (visited : Visited text reader visits) (ending : String) :
    reader.endedWith ending = true ↔ ending.toList <:+ text.take reader.position := by
  rw [visited.take_position, Reader.endedWith, Cursor.endedWith, visited.behind,
    List.isPrefixOf_iff_prefix, characters, ← List.reverse_prefix, ← List.map_reverse,
    List.reverse_reverse]

end Visited

/-! ## Runs of calls -/

/-- Each time that a character is asked for, one is yielded or there is none left. -/
theorem count_next (reader : Reader) (calls : List Call) :
    calls.count .next = steps (reader.performAll calls).1 +
      (reader.performAll calls).1.count .exhausted := by
  induction calls generalizing reader with
  | nil => rfl
  | cons call calls ih =>
      rw [List.count_cons, ih (reader.perform call).2, performAll, steps, steps, List.countP_cons,
        List.count_cons]
      cases call with
      | next =>
          cases found : reader.next.1 with
          | none => simp [perform, found, Event.isYield, Nat.add_assoc]
          | some c => simp [perform, found, Event.isYield, Nat.add_right_comm]
      | hold => simp [perform, Event.isYield]
      | endedWith ending => simp [perform, Event.isYield]

/-- What holds of a reader of a text after calls, and of the events that these have led to. -/
structure Account (source : String) (calls : List Call) (events : List Event) (reader : Reader) :
    Prop where
  /-- The position counts the characters that have been visited. -/
  position : reader.position = (visits events).length
  /-- These are the first characters of the text, each of them once. -/
  characters : characters (visits events) = source.toList.take reader.position
  /-- The most recent character is the last of them. -/
  current : reader.current? =
    if reader.position = 0 then none else source.toList[reader.position - 1]?
  /-- Its row and its column are counted from the characters before it. -/
  location : reader.location =
    if reader.position = 0 then ⟨1, 0⟩
    else Markup.locationBehind (source.toList.take (reader.position - 1))
  endedWith : ∀ ending, reader.endedWith ending = true ↔
    ending.toList <:+ source.toList.take reader.position
  /-- A character that has been held back comes next, otherwise the one behind the position. -/
  next : reader.next.1 =
    if waits (visits events) then reader.current? else source.toList[reader.position]?
  /-- Where no character is held back twice, there are two steps at most for each character. -/
  steps_le : (∀ visit ∈ visits events, visit.holds ≤ 1) → steps events ≤ 2 * source.length
  /-- One who asks more often is told that there is no character left. -/
  exhausted : (∀ visit ∈ visits events, visit.holds ≤ 1) →
    2 * source.length < calls.count .next → .exhausted ∈ events

/-- **A reader keeps account of its text.** After any calls, also before the first character and
behind the last one, its position, its most recent character, its location and what it ends with
are those of the characters that it has yielded, without those that it has yielded again. These are
the first characters of the text. A loop that holds no character back twice ends, after two steps
at most for each character. -/
theorem account_of_calls (source : String) (calls : List Call) :
    Account source calls ((ofText source).performAll calls).1
      ((ofText source).performAll calls).2 := by
  have visited : Visited source.toList ((ofText source).performAll calls).2
      (visits ((ofText source).performAll calls).1) := (Visited.ofText source).performAll calls
  have few : (visits ((ofText source).performAll calls).1).length ≤ source.length := by
    rw [← length_characters, ← visited.take_position, ← String.length_toList]
    exact List.length_take_le' _ _
  have bounded (once : ∀ visit ∈ visits ((ofText source).performAll calls).1, visit.holds ≤ 1) :
      steps ((ofText source).performAll calls).1 ≤ 2 * source.length :=
    Nat.le_trans (Reader.steps_le once) (Nat.mul_le_mul_left 2 few)
  refine ⟨visited.position, visited.take_position.symm, visited.current?_eq, visited.location_eq,
    visited.endedWith_iff, visited.getElem?_position ▸ visited.next, bounded, fun once more => ?_⟩
  have asked := count_next (ofText source) calls
  have steps := bounded once
  exact List.count_pos_iff.mp (by omega)

/-- A text of two characters, each of them held back once, with the most steps that there can be. -/
example : ((ofText "a\n").performAll [.hold, .next, .hold, .next, .next, .hold, .next, .next]).1 =
    [.held, .yielded 'a', .held, .yielded 'a', .yielded '\n', .held, .yielded '\n', .exhausted] := by
  decide +kernel

end TemplateCompiler.Reader
