import Mathlib.Data.List.Induction
import Mathlib.Tactic.SplitIfs
import TemplateCompiler.Draft

/-! # Reading markup by search

A reading of a template text that looks ahead as far as it likes, to be compared with the
steps of `Draft`. Literal text goes on to the first `<%`; a table tells the directive by the
text behind it; the body of a directive goes on to the first mark that no backslash escapes.
A reading stops at names and includes, which have a syntax of their own.
-/

namespace TemplateCompiler.Markup

/-- The text before the first mark and the text behind it, where there is a mark. -/
def splitAt? (mark : List Char) : List Char → Option (List Char × List Char)
  | [] => none
  | c :: rest =>
    if mark.isPrefixOf (c :: rest) then some ([], (c :: rest).drop mark.length)
    else (splitAt? mark rest).map fun found => (c :: found.1, found.2)

/-- What has been read of a body, with characters before it. -/
def put (written : List Char) (found : List Char × Option (List Char)) :
    List Char × Option (List Char) :=
  (written ++ found.1, found.2)

/-- The text of a directive body, and what stands behind the first mark that is not escaped.
An escaped close tag loses its backslash; every other escape is kept, and the character
behind `\%` may begin the mark. -/
def searchBody (mark : List Char) : List Char → List Char × Option (List Char)
  | [] => ([], none)
  | '\\' :: '%' :: '>' :: rest => put ['%', '>'] (searchBody mark rest)
  | '\\' :: '%' :: rest => put ['\\', '%'] (searchBody mark rest)
  | '\\' :: c :: rest => put ['\\', c] (searchBody mark rest)
  | c :: rest =>
    if mark.isPrefixOf (c :: rest) then ([], some ((c :: rest).drop mark.length))
    else put [c] (searchBody mark rest)

/-- What the markup behind `<%` opens. -/
inductive Opening where
  | body (region : Region)
  | name (kind : NameKind)
  | inclusion
deriving DecidableEq, Repr

/-- The markup behind `<%`, longer before shorter. A sigil that only stands for a helper opens
a raw block where no `=` follows, and so does any other text. -/
def openings : List (List Char × Opening) :=
  [(['@', '@'], .body .engineName),
    (['@', '\x60'], .name .className),
    (['$', '\x60'], .name .moduleName),
    (['!', '='], .body (.transform .fullUrlEncode)),
    (['#', '='], .body (.transform .htmlEncode)),
    (['~', '='], .body (.transform .htmlDecode)),
    (['$', '='], .body (.transform .md5)),
    (['?', '='], .body (.transform .urlEncode)),
    (['&', '='], .body (.transform .urlDecode)),
    (['^', '='], .body (.transform .fullUrlDecode)),
    ([':', '='], .body (.transform .base64Encode)),
    (['.', '='], .body (.transform .base64Decode)),
    (['@'], .body .dependency),
    (['!'], .body .externalCode),
    (['*'], .body .comment),
    (['#'], .inclusion),
    (['='], .body .write),
    (['~'], .body .function),
    (['$'], .body .block),
    (['?'], .body .block),
    (['&'], .body .block),
    (['^'], .body .block),
    ([':'], .body .block),
    (['.'], .body .block),
    ([], .body .block)]

/-- The end of the text leaves open which markup stands behind `<%`. -/
def isIncomplete (text : List Char) : Bool :=
  openings.any fun entry => text.isPrefixOf entry.1 && decide (text.length < entry.1.length)

/-- What the text behind `<%` opens, and the text behind the markup. -/
def opening? (text : List Char) : Option (Opening × List Char) :=
  if isIncomplete text then none
  else
    (openings.find? fun entry => entry.1.isPrefixOf text).map fun entry =>
      (entry.2, text.drop entry.1.length)

/-- The mark that ends a body. -/
def bodyMark (region : Region) : List Char :=
  if region = .comment then ['*', '%', '>'] else ['%', '>']

/-- The location of the character that stands behind a text. -/
def locationBehind (before : List Char) : Location :=
  ⟨before.count '\n' + 1, (before.reverse.takeWhile (· != '\n')).length + 1⟩

/-- A cursor counts rows and columns as they stand in the text. -/
theorem location_advanceBy (before : List Char) (c : Char) :
    (Cursor.start.advanceBy (before ++ [c])).location = locationBehind before := by
  induction before using List.reverseRecOn generalizing c with
  | nil => rfl
  | append_singleton before d ih =>
      have behind : (Cursor.start.advanceBy (before ++ [d])).behind.head? = some d := by
        rw [Cursor.advanceBy_behind, List.reverse_append]
        rfl
      have step : (Cursor.start.advanceBy (before ++ [d] ++ [c])).location =
          (locationBehind before).next (d == '\n') := by
        rw [Cursor.advanceBy_append, Cursor.advanceBy_cons, Cursor.advanceBy_nil, Cursor.advance,
          behind, ih]
        rfl
      rw [step]
      by_cases feed : d = '\n'
      · subst feed
        simp [locationBehind, Location.next]
      · simp [locationBehind, Location.next, feed]

/-- A part of a template text. -/
inductive Piece where
  | literal (text : List Char)
  | directive (region : Region) (body : List Char)
  /-- A name or an include. -/
  | other
deriving DecidableEq, Repr

/-- Where a text ends. -/
inductive Ending where
  | outside
  /-- In a body, or in markup that is not complete, with the location of the `%` of the `<%`
  before it. -/
  | inside (region? : Option Region) (opened : Location)
deriving DecidableEq, Repr

/-- The parts of a template text in document order, and where it ends. -/
structure Reading where
  pieces : List Piece
  ending : Ending
deriving DecidableEq, Repr

/-- A reading with pieces before it. -/
def Reading.after (reading : Reading) (pieces : List Piece) : Reading :=
  { reading with pieces := pieces ++ reading.pieces }

/-- A text with a mark is what stands before it, the mark, and what stands behind. -/
theorem splitAt?_eq_some {mark text before behind : List Char}
    (found : splitAt? mark text = some (before, behind)) : text = before ++ mark ++ behind := by
  induction text generalizing before with
  | nil => cases found
  | cons c rest ih =>
      unfold splitAt? at found
      split_ifs at found with start
      · obtain ⟨more, whole⟩ := List.isPrefixOf_iff_prefix.mp start
        cases found
        rw [← whole, List.drop_left, List.nil_append]
      · obtain ⟨inner, within, same⟩ := Option.map_eq_some_iff.mp found
        cases same
        rw [List.cons_append, List.cons_append, ← ih within]

theorem opening?_eq_some {text rest : List Char} {opening : Opening}
    (found : opening? text = some (opening, rest)) :
    ∃ markup, (markup, opening) ∈ openings ∧ text = markup ++ rest := by
  unfold opening? at found
  split_ifs at found
  obtain ⟨entry, first, same⟩ := Option.map_eq_some_iff.mp found
  have start : entry.1.isPrefixOf text = true := by simpa using List.find?_some first
  obtain ⟨more, whole⟩ := List.isPrefixOf_iff_prefix.mp start
  cases same
  refine ⟨entry.1, List.mem_of_find?_eq_some first, ?_⟩
  rw [← whole, List.drop_left]

/-- More characters before a body that ends stand before its mark as well. -/
theorem exists_raw_of_put {mark rest written s more : List Char}
    {found : List Char × Option (List Char)} (kept : '~' ∉ written → '~' ∉ s)
    (inner : ∃ raw, more = raw ++ mark ++ rest ∧ ('~' ∉ found.1 → '~' ∉ raw)) :
    ∃ raw, s ++ more = raw ++ mark ++ rest ∧ ('~' ∉ (put written found).1 → '~' ∉ raw) := by
  obtain ⟨raw, whole, plain⟩ := inner
  refine ⟨s ++ raw, by simp [whole], ?_⟩
  rw [put, List.mem_append, List.mem_append, not_or, not_or]
  exact fun absent => ⟨kept absent.1, plain absent.2⟩

/-- A body that ends stands before its mark, and what is written for it has every tilde that
it has. -/
theorem exists_raw_of_searchBody {mark text rest : List Char}
    (found : (searchBody mark text).2 = some rest) :
    ∃ raw, text = raw ++ mark ++ rest ∧ ('~' ∉ (searchBody mark text).1 → '~' ∉ raw) := by
  fun_induction searchBody mark text with
  | case1 => cases found
  | case2 more ih => exact exists_raw_of_put (s := ['\\', '%', '>']) (by simp) (ih found)
  | case3 more _ ih => exact exists_raw_of_put (s := ['\\', '%']) id (ih found)
  | case4 c more _ _ ih => exact exists_raw_of_put (s := ['\\', c]) id (ih found)
  | case5 c more _ _ _ start =>
      obtain ⟨behind, whole⟩ := List.isPrefixOf_iff_prefix.mp start
      rw [← whole, List.drop_left] at found
      cases found
      exact ⟨[], by rw [← whole]; rfl, id⟩
  | case6 c more _ _ _ _ ih => exact exists_raw_of_put (s := [c]) id (ih found)

theorem searchBody_escape (mark : List Char) {c : Char} (other : c ≠ '%') (rest : List Char) :
    searchBody mark ('\\' :: c :: rest) = put ['\\', c] (searchBody mark rest) := by
  rw [searchBody]
  · intro _ same
    exact absurd same other
  · exact other

/-- Raw blocks open without a tilde. -/
theorem tilde_not_mem_of_block {markup : List Char}
    (listed : (markup, Opening.body .block) ∈ openings) : '~' ∉ markup := by
  have all : ∀ entry ∈ openings, entry.2 = .body .block → '~' ∉ entry.1 := by decide
  exact all _ listed rfl

/-- The parts of a text that stands behind another one. -/
def read (before text : List Char) : Reading :=
  match _split : splitAt? ['<', '%'] text with
  | none => ⟨[.literal text], .outside⟩
  | some (literal, tag) =>
    let opened := locationBehind (before ++ literal ++ ['<'])
    match _opens : opening? tag with
    | none => ⟨[.literal literal], .inside none opened⟩
    | some (.body region, inner) =>
      match _closes : searchBody (bodyMark region) inner with
      | (_, none) => ⟨[.literal literal], .inside (some region) opened⟩
      | (body, some rest) =>
        (read (before ++ text.take (text.length - rest.length)) rest).after
          [.literal literal, .directive region body]
    | some _ => ⟨[.literal literal, .other], .outside⟩
termination_by text.length
decreasing_by
  obtain ⟨markup, _, tagged⟩ := opening?_eq_some _opens
  obtain ⟨raw, bodied, _⟩ := exists_raw_of_searchBody (congrArg Prod.snd _closes)
  have whole := splitAt?_eq_some _split
  rw [tagged, bodied] at whole
  rw [whole]
  simp only [List.length_append, List.length_cons]
  omega

section Read

variable {before text literal tag inner : List Char}

theorem read_of_untagged (untagged : splitAt? ['<', '%'] text = none) :
    read before text = ⟨[.literal text], .outside⟩ := by
  rw [read]
  split
  · rfl
  · simp_all

theorem read_of_incomplete (tagged : splitAt? ['<', '%'] text = some (literal, tag))
    (incomplete : opening? tag = none) :
    read before text =
      ⟨[.literal literal], .inside none (locationBehind (before ++ literal ++ ['<']))⟩ := by
  rw [read]
  split
  · simp_all
  · dsimp only
    split <;> simp_all

theorem read_of_other (tagged : splitAt? ['<', '%'] text = some (literal, tag))
    {opening : Opening} (opens : opening? tag = some (opening, inner))
    (other : ∀ region, opening ≠ .body region) :
    read before text = ⟨[.literal literal, .other], .outside⟩ := by
  rw [read]
  split
  · simp_all
  · dsimp only
    split <;> simp_all

theorem read_of_unclosed (tagged : splitAt? ['<', '%'] text = some (literal, tag))
    {region : Region} (opens : opening? tag = some (.body region, inner))
    (unclosed : (searchBody (bodyMark region) inner).2 = none) :
    read before text =
      ⟨[.literal literal], .inside region (locationBehind (before ++ literal ++ ['<']))⟩ := by
  rw [read]
  split
  · simp_all
  · dsimp only
    split
    · simp_all
    · split <;> simp_all
    · simp_all only [Option.some.injEq, Prod.mk.injEq]
      rename_i other same
      exact absurd same.symm (other _ _)

theorem read_of_closed (tagged : splitAt? ['<', '%'] text = some (literal, tag))
    {region : Region} (opens : opening? tag = some (.body region, inner)) {rest : List Char}
    (closed : (searchBody (bodyMark region) inner).2 = some rest) :
    read before text =
      (read (before ++ text.take (text.length - rest.length)) rest).after
        [.literal literal, .directive region (searchBody (bodyMark region) inner).1] := by
  rw [read]
  split
  · simp_all
  · dsimp only
    split
    · simp_all
    · split <;> simp_all
    · simp_all only [Option.some.injEq, Prod.mk.injEq]
      rename_i other same
      exact absurd same.symm (other _ _)

end Read

/-! ## What a reading stands for -/

/-- The region of a literal, comment, write, transform, dependency, external code or raw
block. -/
def isPlainRegion (region : Region) : Bool :=
  region != .function && region != .engineName

/-- A literal, or a directive with a plain region; there is no tilde in a raw block. -/
def Piece.isPlain : Piece → Bool
  | literal _ => true
  | directive region body => isPlainRegion region && (region != .block || !body.contains '~')
  | other => false

/-- A reading of plain pieces that ends outside or in a plain region. -/
def Reading.isPlain (reading : Reading) : Bool :=
  reading.pieces.all Piece.isPlain &&
    match reading.ending with
    | .outside | .inside none _ => true
    | .inside (some region) _ => isPlainRegion region

theorem isPlain_after (reading : Reading) (pieces : List Piece) :
    (reading.after pieces).isPlain = (pieces.all Piece.isPlain && reading.isPlain) := by
  rw [Reading.isPlain, Reading.isPlain, Reading.after, List.all_append, Bool.and_assoc]

/-- The fragments of a piece. Empty literals and raw blocks have none, nor have line breaks
where these are dropped. -/
def Piece.fragments (writer : Writer) : Piece → List Fragment
  | literal text =>
    let text := String.ofList text
    if text = "" ∨ writer.skipsLineBreaks ∧ (text = "\n" ∨ text = "\r\n") then []
    else [⟨.literal, text, writer.literal text⟩]
  | directive .write body =>
    let expression := Text.trim (String.ofList body)
    [⟨.value, expression, writer.value expression⟩]
  | directive (.transform transform) body =>
    let expression := Text.trim (String.ofList body)
    [⟨.transform transform, expression, writer.transform transform expression⟩]
  | directive .block body =>
    if body = [] then [] else [⟨.code, String.ofList body, String.ofList body⟩]
  | _ => []

/-- The dependency that a piece declares. -/
def Piece.dependency? : Piece → Option String
  | directive .dependency body => some (Text.trim (String.ofList body))
  | _ => none

/-- The external code of a piece. -/
def Piece.externalCode? : Piece → Option String
  | directive .externalCode body =>
    some (Text.trimBy (fun c => c == '\r' || c == '\n') (String.ofList body))
  | _ => none

/-- A template with the pieces of a text added to it in document order. -/
def extend (writer : Writer) (template : Template) (pieces : List Piece) : Template :=
  { template with
    body := template.body ++ pieces.flatMap (Piece.fragments writer)
    dependencies := (pieces.filterMap Piece.dependency?).foldl Text.addLine template.dependencies
    externalCode :=
      (pieces.filterMap Piece.externalCode?).foldl Text.addLine template.externalCode }

theorem extend_append (writer : Writer) (template : Template) (front back : List Piece) :
    extend writer template (front ++ back) =
      extend writer (extend writer template front) back := by
  simp [extend]

/-- One more piece adds its fragments, its dependency and its external code. -/
theorem extend_single (writer : Writer) (template : Template) (piece : Piece) :
    extend writer template [piece] = { template with
      body := template.body ++ piece.fragments writer
      dependencies := piece.dependency?.elim template.dependencies
        (Text.addLine template.dependencies)
      externalCode := piece.externalCode?.elim template.externalCode
        (Text.addLine template.externalCode) } := by
  cases dependency : piece.dependency? <;> cases externalCode : piece.externalCode? <;>
    simp [extend, dependency, externalCode]

/-- The template of a reading that ends outside, or the error of one that ends inside: the
family of the directive, at its opening. -/
def Reading.outcome (writer : Writer) (template : Template) (reading : Reading) :
    Except ParseError Template :=
  match reading.ending with
  | .outside => .ok (extend writer template reading.pieces)
  | .inside region? opened =>
    .error (.unterminatedTag ((region?.map Region.family).getD .tag) opened)

/-- Pieces before a reading are added before its own. -/
theorem outcome_after (writer : Writer) (template : Template) (reading : Reading)
    (pieces : List Piece) :
    (reading.after pieces).outcome writer template =
      reading.outcome writer (extend writer template pieces) := by
  unfold Reading.outcome Reading.after
  cases reading.ending with
  | outside => rw [extend_append]
  | inside region? opened => rfl

end TemplateCompiler.Markup
