import Mathlib.Logic.Equiv.Defs
import TemplateCompiler.Proofs.Comparisons.Renamed
import TemplateCompiler.Proofs.Comparisons.Swapped
import TemplateCompiler.Proofs.Markup.Splicing

/-! # The order of includes

Two include directives next to each other can trade places
(`Compiler.includeOrder_of_parse`): the two included trees are found in either order, with the ids
that they have been found with, and a template that takes in the one and then the other takes them
in the other way round. What is read behind goes along. So the generated names are the same where
the ids of the two trees trade places as well; and with any other fresh ids, the text can be parsed
where it can be with these.
-/

namespace TemplateCompiler

open Markup
open MonadAttach (CanReturn)

/-! ## Ids that trade places -/

/-- The numbers from a start on in another order: so many of them trade places with so many behind
them. -/
def exchangeBlocks (start first second : Nat) : Equiv.Perm Nat where
  toFun number :=
    if number < start then number
    else if number < start + second then number + first
    else if number < start + second + first then number - second
    else number
  invFun number :=
    if number < start then number
    else if number < start + first then number + second
    else if number < start + first + second then number - first
    else number
  left_inv number := by
    dsimp only
    split_ifs <;> omega
  right_inv number := by
    dsimp only
    split_ifs <;> omega

namespace Compiler

section Agreement

variable (ids : Nat → String) {start first second : Nat}

theorem agrees_before {created size : Nat} (before : created + size ≤ start) :
    Agrees ids (ids ∘ exchangeBlocks start first second) size created created := by
  intro index bounded
  refine congrArg ids ?_
  simp only [exchangeBlocks, Equiv.coe_fn_mk]
  split_ifs <;> omega

theorem agrees_behind {created : Nat} (behind : start + first + second ≤ created) (size : Nat) :
    Agrees ids (ids ∘ exchangeBlocks start first second) size created created := by
  intro index bounded
  refine congrArg ids ?_
  simp only [exchangeBlocks, Equiv.coe_fn_mk]
  split_ifs <;> omega

/-- The ids of the first block follow those of the second one. -/
theorem agrees_first :
    Agrees ids (ids ∘ exchangeBlocks start first second) first start (start + second) := by
  intro index bounded
  refine congrArg ids ?_
  simp only [exchangeBlocks, Equiv.coe_fn_mk]
  split_ifs <;> omega

/-- The ids of the second block precede those of the first one. -/
theorem agrees_second :
    Agrees ids (ids ∘ exchangeBlocks start first second) second (start + first) start := by
  intro index bounded
  refine congrArg ids ?_
  simp only [exchangeBlocks, Equiv.coe_fn_mk]
  split_ifs <;> omega

end Agreement

/-! ## Include sections -/

variable {compiler : Compiler Id} {call : Call} {draft next : Draft} {before : List Char}
  {path : List Char} {s : Section}

/-- The tree that an include section finds, with its literal text. -/
abbrev atEnd (compiler : Compiler Id) (draft : Draft) (literal : List Char) : IncludeTree :=
  draft.tree.withLiteral compiler.emitter.writer draft.mode literal

/-- A tree that has taken in another one is still that of the same template. -/
theorem atEnd_taking (compiler : Compiler Id) {emitter : Emitter} {parent child : IncludeTree}
    {dependencies : String}
    (grown : draft.tree = parent.taking emitter child dependencies) (literal : List Char) :
    (compiler.atEnd draft literal).template.settings = parent.template.settings ∧
      (compiler.atEnd draft literal).template.identity = parent.template.identity ∧
      (compiler.atEnd draft literal).size = parent.size + child.size := by
  have size : (compiler.atEnd draft literal).size = draft.tree.size :=
    IncludeTree.size_withTemplate ..
  refine ⟨?_, ?_, ?_⟩
  · change draft.tree.template.settings = _
    rw [grown]
    rfl
  · change draft.tree.template.identity = _
    rw [grown]
    rfl
  · rw [size, grown, IncludeTree.size_taking]

/-- An include section finds an included tree and takes it in. -/
theorem exists_finds_of_follow (between : draft.IsBetween before)
    (inclusion : s.directive = .inclusion path)
    (followed : CanReturn (compiler.follow call draft s) next) :
    ∃ child location, compiler.Finds call (compiler.atEnd draft s.literal) (String.ofList path)
        child ∧
      (compiler.atEnd draft s.literal).adopt compiler.emitter call.ancestors child location =
        .ok next.tree ∧
      next.mode = draft.mode := by
  rw [follow, Draft.follow_of_inclusion inclusion] at followed
  obtain ⟨tree, composed, rfl⟩ := Draft.exists_of_settle_inclusion followed
  rw [Draft.tree_atEnd _ between] at composed
  obtain ⟨child, finds, adopted⟩ := exists_finds_of_compose composed
  exact ⟨child, _, finds, adopted, rfl⟩

/-- An include section takes in the tree that it finds. -/
theorem exists_follow_of_finds (compiler : Compiler Id) (s : Section)
    (between : draft.IsBetween before)
    (inclusion : s.directive = .inclusion path) {child tree : IncludeTree} {location : Location}
    (finds : compiler.Finds call (compiler.atEnd draft s.literal) (String.ofList path) child)
    (adopted : (compiler.atEnd draft s.literal).adopt compiler.emitter call.ancestors child
      location = .ok tree) :
    ∃ next, CanReturn (compiler.follow call draft s) next ∧ next.tree = tree ∧
      next.mode = draft.mode := by
  refine ⟨{ draft.atEnd compiler.emitter.writer s with tree := tree }, ?_, rfl, rfl⟩
  rw [follow, Draft.follow_of_inclusion inclusion]
  refine Draft.settle_inclusion ?_
  rw [Draft.tree_atEnd _ between]
  exact finds.compose (IncludeTree.adopt_elsewhere adopted _)

/-- **Two includes next to each other** can be followed in either order, with the ids of the one
behind those of the other. -/
theorem exists_follow_swapped {first mid last : Draft} {literal between : List Char}
    {written laterWritten laterPath : List Char} (placed : first.IsBetween before)
    (followed : CanReturn (compiler.follow call first ⟨literal, written, .inclusion path⟩) mid)
    (follows :
      CanReturn (compiler.follow call mid ⟨between, laterWritten, .inclusion laterPath⟩) last) :
    ∃ front back : IncludeTree, ∀ (others : Nat → String) (second : Draft),
      first.Alongside (fun tree other => other = tree) second →
      Agrees compiler.ids others back.size (call.created + first.tree.size + front.size)
        (call.created + first.tree.size) →
      Agrees compiler.ids others front.size (call.created + first.tree.size)
        (call.created + first.tree.size + back.size) →
      ∃ otherMid otherLast,
        CanReturn ((compiler.withIds others).follow call second
          ⟨literal, laterWritten, .inclusion laterPath⟩) otherMid ∧
        CanReturn ((compiler.withIds others).follow call otherMid
          ⟨between, written, .inclusion path⟩) otherLast ∧
        last.Alongside (IncludeTree.Swapped compiler.emitter.rule first.tree.included front back)
          otherLast := by
  obtain ⟨front, location, finds, adopted, midMode⟩ :=
    exists_finds_of_follow placed rfl followed
  have midPlaced := Draft.isBetween_of_follow placed followed
  obtain ⟨back, later, findsLater, adopts, lastMode⟩ :=
    exists_finds_of_follow midPlaced rfl follows
  have lastPlaced := Draft.isBetween_of_follow midPlaced follows
  obtain ⟨midTree, lastTree, soon, late, swapped⟩ :=
    IncludeTree.exists_adopt_swapped adopted adopts location later
  obtain ⟨_, _, _, grown⟩ := IncludeTree.adopt_eq_ok_iff.mp adopted
  obtain ⟨_, _, _, otherGrown⟩ := IncludeTree.adopt_eq_ok_iff.mp soon
  obtain ⟨settings, identity, midSize⟩ := atEnd_taking compiler grown between
  have size : (compiler.atEnd first literal).size = first.tree.size :=
    IncludeTree.size_withTemplate ..
  refine ⟨front, back, fun others second alongside agreesBack agreesFront => ?_⟩
  obtain ⟨_, otherPlaced⟩ := alongside.otherBetween
  have start : compiler.atEnd second literal = compiler.atEnd first literal := by
    rw [atEnd, show second.tree = first.tree from alongside.trees, alongside.mode]
  have otherFinds := findsLater.elsewhere settings.symm identity.symm
    (by rw [midSize, size, ← Nat.add_assoc]; exact agreesBack)
  obtain ⟨otherMid, otherFollowed, otherMidTree, otherMidMode⟩ :=
    exists_follow_of_finds (compiler.withIds others)
      ⟨literal, laterWritten, .inclusion laterPath⟩ otherPlaced rfl (start ▸ otherFinds)
      (start ▸ soon)
  have otherMidPlaced := Draft.isBetween_of_follow otherPlaced otherFollowed
  obtain ⟨otherSettings, otherIdentity, otherMidSize⟩ :=
    atEnd_taking compiler (otherMidTree.trans otherGrown) between
  have mids : compiler.atEnd otherMid between =
      midTree.withLiteral compiler.emitter.writer mid.mode between := by
    rw [atEnd, otherMidTree, otherMidMode, alongside.mode, midMode]
  have otherFindsLater := finds.elsewhere otherSettings otherIdentity
    (by rw [otherMidSize, size, ← Nat.add_assoc]; exact agreesFront)
  obtain ⟨otherLast, otherFollows, otherLastTree, otherLastMode⟩ :=
    exists_follow_of_finds (compiler.withIds others) ⟨between, written, .inclusion path⟩
      otherMidPlaced rfl otherFindsLater (mids ▸ late)
  have otherLastPlaced := Draft.isBetween_of_follow otherMidPlaced otherFollows
  refine ⟨otherMid, otherLast, otherFollowed, otherFollows, ⟨_, lastPlaced⟩, ⟨_, otherLastPlaced⟩,
    ?_, ?_⟩
  · rw [otherLastMode, otherMidMode, alongside.mode, lastMode, midMode]
  · rw [otherLastTree]
    exact swapped

/-! ## Whole texts -/

/-- Sections lead on to the same tree where the ids are the same so far. -/
theorem meets_of_agreeing_sections {others : Nat → String} {rest : List Section}
    {first second last : Draft}
    (agrees : Agrees compiler.ids others last.tree.size call.created call.created)
    (alongside : first.Alongside (fun tree other => other = tree) second)
    (named : ∀ s ∈ rest, s.directive.IsNamed)
    (followed : CanReturn (rest.foldlM (compiler.follow call) first) last) :
    Meets (fun _ => False)
      (fun draft other : Draft => draft.Alongside (fun tree other => other = tree) other) last
      (rest.foldlM ((compiler.withIds others).follow call) second) := by
  refine meets_of_sections compiler (compiler.withIds others) call call rfl (.same call.ancestors)
    alongside named (fun _ _ => trivial) ?_ followed
  rintro _ parent path location elsewhere grown rfl bounded composed
  obtain ⟨child, finds, adopted⟩ := exists_finds_of_compose composed
  obtain ⟨_, _, _, rfl⟩ := IncludeTree.adopt_eq_ok_iff.mp adopted
  rw [IncludeTree.size_taking] at bounded
  have again := (finds.elsewhere rfl rfl (agrees.drop parent.size bounded)).compose
    (IncludeTree.adopt_elsewhere adopted elsewhere)
  rw [again]
  exact .pure rfl

/-- Sections lead on to swapped trees where the ids behind the trees that have traded places are the
same. -/
theorem meets_of_swapped_sections {others : Nat → String} {rest : List Section}
    {front : List IncludeTree} {one two : IncludeTree} {first second last : Draft}
    (agrees : ∀ created size, call.created + (1 + (IncludeTree.forestTemplates front).length) +
      one.size + two.size ≤ created → Agrees compiler.ids others size created created)
    (alongside : first.Alongside
      (IncludeTree.Swapped compiler.emitter.rule front one two) second)
    (named : ∀ s ∈ rest, s.directive.IsNamed)
    (followed : CanReturn (rest.foldlM (compiler.follow call) first) last) :
    Meets (fun _ => False) (fun draft other : Draft => draft.Alongside
        (IncludeTree.Swapped compiler.emitter.rule front one two) other) last
      (rest.foldlM ((compiler.withIds others).follow call) second) := by
  refine meets_of_sections compiler (compiler.withIds others) call call rfl
    (.swapped compiler.emitter.rule compiler.emitter.isPlain_rule front one two call.ancestors)
    alongside named (fun _ _ => trivial) ?_ followed
  rintro parent other path location elsewhere grown swapped _ composed
  obtain ⟨child, finds, adopted⟩ := exists_finds_of_compose composed
  obtain ⟨tree, adopts, after⟩ := swapped.exists_adopt adopted elsewhere
  have enough := swapped.le_size
  have behind : Agrees compiler.ids others child.size (call.created + parent.size)
      (call.created + other.size) := by
    rw [swapped.size_eq]
    exact agrees _ _ (by omega)
  have again := (finds.elsewhere swapped.settings_eq swapped.identity_eq behind).compose adopts
  rw [again]
  exact .pure after

/-- **Sections among which two includes trade places** lead on to swapped trees, with the ids in
another order. -/
theorem exists_swapped_sections (compiler : Compiler Id) (call : Call)
    {front back : List Section} {literal between : List Char}
    {written laterWritten laterPath : List Char} {first last : Draft}
    (placed : first.IsBetween before) (sections : List Section)
    (split : sections = front ++ ⟨literal, written, .inclusion path⟩ ::
      ⟨between, laterWritten, .inclusion laterPath⟩ :: back)
    (named : ∀ s ∈ sections, s.directive.IsNamed)
    (followed : CanReturn (sections.foldlM (compiler.follow call) first) last) :
    ∃ (order : Equiv.Perm Nat) (included : List IncludeTree) (one two : IncludeTree),
      order call.created = call.created ∧
      ∀ second, first.Alongside (fun tree other => other = tree) second →
        Meets (fun _ => False) (fun draft other : Draft => draft.Alongside
            (IncludeTree.Swapped compiler.emitter.rule included one two) other) last
          ((front ++ ⟨literal, laterWritten, .inclusion laterPath⟩ ::
            ⟨between, written, .inclusion path⟩ :: back).foldlM
              ((compiler.withIds (compiler.ids ∘ order)).follow call) second) := by
  subst split
  simp only [List.forall_mem_append, List.forall_mem_cons] at named
  obtain ⟨atIncludes, mid, atBack, readFront, readFirst, readSecond, readBack⟩ :=
    exists_of_foldlM_pair followed
  have atPlaced := foldlM_induction (fun _ (mid : Draft) => ∃ before, mid.IsBetween before)
    ⟨_, placed⟩ (fun _ _ _ _ _ _ ⟨_, between⟩ follows =>
      ⟨_, Draft.isBetween_of_follow between follows⟩) readFront
  obtain ⟨_, atPlaced⟩ := atPlaced
  obtain ⟨one, two, swaps⟩ := exists_follow_swapped atPlaced readFirst readSecond
  have positive : 0 < atIncludes.tree.size := by
    rw [IncludeTree.size, IncludeTree.templates_eq, List.length_cons]
    omega
  have whole : 1 + (IncludeTree.forestTemplates atIncludes.tree.included).length =
      atIncludes.tree.size := by
    rw [IncludeTree.size, IncludeTree.templates_eq, List.length_cons, Nat.add_comm]
    rfl
  refine ⟨exchangeBlocks (call.created + atIncludes.tree.size) one.size two.size,
    atIncludes.tree.included, one, two, ?_, fun second alongside => ?_⟩
  · simp only [exchangeBlocks, Equiv.coe_fn_mk]
    exact if_pos (Nat.lt_add_of_pos_right positive)
  · refine Meets.foldlM_pair
      (meets_of_agreeing_sections (agrees_before compiler.ids le_rfl) alongside named.1 readFront)
      (fun draft beside => ?_)
      fun draft beside => meets_of_swapped_sections (fun created size behind => ?_) beside
        named.2.2.2 readBack
    · obtain ⟨otherMid, otherBack, followsFirst, followsSecond, besideBack⟩ := swaps _ draft beside
        (agrees_second compiler.ids) (agrees_first compiler.ids)
      rw [show Compiler.follow _ call draft _ = pure otherMid from followsFirst, pure_bind,
        show Compiler.follow _ call otherMid _ = pure otherBack from followsSecond]
      exact .pure besideBack
    · rw [whole] at behind
      exact agrees_behind compiler.ids behind _

/-- **Where a text leads, it leads with two includes exchanged** and with the ids in another order,
to a tree in which the two included trees have traded places. -/
theorem exists_parse_swapped {laterPath : List Char} {source exchanged : String}
    {settings : Settings} {tree : IncludeTree}
    (exchanges : Exchanges (.inclusion path) (.inclusion laterPath) source.toList exchanged.toList)
    (returned : CanReturn (compiler.parse source settings) (.ok tree)) :
    ∃ (order : Equiv.Perm Nat) (front : List IncludeTree) (one two other : IncludeTree),
      CanReturn ((compiler.withIds (compiler.ids ∘ order)).parse exchanged settings) (.ok other) ∧
      IncludeTree.Swapped compiler.emitter.rule front one two tree other := by
  obtain ⟨front, literal, between, written, laterWritten, back, tail, split, otherSplit⟩ :=
    exchanges.sections_eq
  have parsed : CanReturn (compiler.parseCall ⟨0, [], settings, source⟩) (.ok tree) := returned
  have parses := parsed
  rw [parseCall_eq] at parses
  obtain ⟨_, last, reaches, _⟩ := exists_sections_of_parseWith parses
  obtain ⟨order, included, one, two, first, swaps⟩ := exists_swapped_sections
    compiler ⟨0, [], settings, source⟩ isBetween_startDraft _ (congrArg Prod.fst split)
    (fun s => isNamed_of_mem_sections) reaches
  have meets : Meets (fun _ => False)
      (IncludeTree.Swapped compiler.emitter.rule included one two) tree
      (ExceptT.mk ((compiler.withIds (compiler.ids ∘ order)).parseCall
        ⟨0, [], settings, exchanged⟩)) := by
    refine meets_of_parseCall compiler (compiler.withIds (compiler.ids ∘ order))
      ⟨0, [], settings, source⟩ ⟨0, [], settings, exchanged⟩ rfl
      (.swapped compiler.emitter.rule compiler.emitter.isPlain_rule included one two [])
      (by rw [split, otherSplit]) (fun end_ _ followed => ?_) parsed
    have same : end_ = last := by
      have reached : compiler.followAll ⟨0, [], settings, source⟩ (sections source.toList).1 =
        pure last := reaches
      have ended : compiler.followAll ⟨0, [], settings, source⟩ (sections source.toList).1 =
        pure end_ := followed
      exact Except.ok.inj (ended.symm.trans reached)
    have started : (compiler.withIds (compiler.ids ∘ order)).startDraft 0 settings =
        compiler.startDraft 0 settings :=
      startDraft_of_agrees (congrArg compiler.ids first) settings
    rw [same, otherSplit]
    refine swaps _ ?_
    change Draft.Alongside _ _ ((compiler.withIds (compiler.ids ∘ order)).startDraft 0 settings)
    rw [started]
    exact ⟨⟨_, isBetween_startDraft⟩, ⟨_, isBetween_startDraft⟩, rfl, rfl⟩
  obtain ⟨other, again, swapped⟩ := meets.exists_eq
  exact ⟨order, included, one, two, other, again, swapped⟩

/-- Exchanging directives does not change which names a text declares. -/
theorem IsFresh.exchanged {source exchanged : String} {ids : Nat → String}
    {first second : Directive}
    (fresh : compiler.IsFresh source ids)
    (exchanges : Exchanges first second source.toList exchanged.toList) :
    compiler.IsFresh exchanged ids where
  distinct := fresh.distinct
  configured := fresh.configured
  undeclared := by
    obtain ⟨front, literal, between, written, laterWritten, back, tail, split, otherSplit⟩ :=
      exchanges.sections_eq
    have sourceUndrawn := fresh.undeclared source (.inl rfl)
    rw [split] at sourceUndrawn
    rintro text (rfl | ⟨path, read⟩)
    · rw [otherSplit]
      simp only [List.forall_mem_append, List.forall_mem_cons] at sourceUndrawn ⊢
      obtain ⟨inFront, ofFirst, ofSecond, inBack⟩ := sourceUndrawn
      exact ⟨inFront, ofSecond, ofFirst, inBack⟩
    · exact fresh.undeclared text (.inr ⟨path, read⟩)

/-- A text that can be parsed can be parsed with two includes exchanged and with fresh ids, to a
tree with other generated names in which the two included trees have traded places. -/
theorem exists_parse_exchanged (compiler : Compiler Id) {others : Nat → String}
    {laterPath : List Char}
    {source exchanged : String} {settings : Settings} {tree : IncludeTree}
    (exchanges : Exchanges (.inclusion path) (.inclusion laterPath) source.toList exchanged.toList)
    (fresh : compiler.IsFresh exchanged others)
    (idsFit : ∀ created, FitsDeclaration (compiler.ids created))
    (othersFit : ∀ created, FitsDeclaration (others created))
    (returned : CanReturn (compiler.parse source settings) (.ok tree)) :
    ∃ (order : Equiv.Perm Nat) (front : List IncludeTree) (one two other again : IncludeTree),
      CanReturn ((compiler.withIds (compiler.ids ∘ order)).parse exchanged settings) (.ok other) ∧
      IncludeTree.Swapped compiler.emitter.rule front one two tree other ∧
      CanReturn ((compiler.withIds others).parse exchanged settings) (.ok again) ∧
      other.IsRenamed (compiler.withIds (compiler.ids ∘ order)) others 0 again := by
  obtain ⟨order, front, one, two, other, parsed, swapped⟩ :=
    exists_parse_swapped exchanges returned
  obtain ⟨again, parses, renamed⟩ :=
    exists_parse_of_fresh (compiler.withIds (compiler.ids ∘ order))
      ⟨fresh.distinct, fresh.configured, fresh.undeclared⟩ (fun created => idsFit (order created))
      othersFit parsed
  exact ⟨order, front, one, two, other, again, parsed, swapped, parses, renamed⟩

/-- **Two include directives next to each other can trade places.** With fresh ids, the text can be
parsed just where it could be. Where the ids are put into another order, so that each of the
templates keeps its own, the two trees have the same identities, dependency lines and fragments, and
they include the same trees, the two that the directives lead to exchanged. With any fresh ids, the
tree has the same fragments again, and the same identities but for the generated names. -/
theorem includeOrder_of_parse (compiler : Compiler Id) (others : Nat → String)
    {path laterPath : List Char} (source exchanged : String) (settings : Settings)
    (exchanges : Exchanges (.inclusion path) (.inclusion laterPath) source.toList exchanged.toList)
    (fresh : compiler.IsFresh source compiler.ids) (othersFresh : compiler.IsFresh source others)
    (fits : ∀ created, FitsDeclaration (compiler.ids created))
    (othersFit : ∀ created, FitsDeclaration (others created)) :
    ((∃ tree, CanReturn (compiler.parse source settings) (.ok tree)) ↔
      ∃ tree, CanReturn ((compiler.withIds others).parse exchanged settings) (.ok tree)) ∧
    ∀ tree, CanReturn (compiler.parse source settings) (.ok tree) →
      ∃ (order : Equiv.Perm Nat) (other again : IncludeTree),
        (CanReturn ((compiler.withIds (compiler.ids ∘ order)).parse exchanged settings)
            (.ok other) ∧
          other.identities.Perm tree.identities ∧
          (∀ line, line ∈ other.template.dependencyLines ↔
            line ∈ tree.template.dependencyLines) ∧
          (∃ dependencies externalCode, other.template = { tree.template with
            dependencies := dependencies, externalCode := externalCode }) ∧
          ∃ front first second back, tree.included = front ++ first :: second :: back ∧
            other.included = front ++ second :: first :: back) ∧
        CanReturn ((compiler.withIds others).parse exchanged settings) (.ok again) ∧
        List.Forall₂ (Identity.IsRenamed (compiler.ids ∘ order) others) other.identities
          again.identities ∧
        again.template.body = tree.template.body ∧
        again.template.functions = tree.template.functions := by
  refine ⟨⟨fun ⟨tree, returned⟩ => ?_, fun ⟨tree, returned⟩ => ?_⟩, fun tree returned => ?_⟩
  · obtain ⟨_, _, _, _, _, again, _, _, parsed, _⟩ :=
      exists_parse_exchanged compiler exchanges (othersFresh.exchanged exchanges) fits othersFit
        returned
    exact ⟨again, parsed⟩
  · obtain ⟨_, _, _, _, _, again, _, _, parsed, _⟩ :=
      exists_parse_exchanged (compiler.withIds others) exchanges.symm
        ⟨fresh.distinct, fresh.configured, fresh.undeclared⟩ othersFit fits returned
    exact ⟨again, parsed⟩
  · obtain ⟨order, front, first, second, other, again, parsed, swapped, parses, renamed⟩ :=
      exists_parse_exchanged compiler exchanges (othersFresh.exchanged exchanges) fits othersFit
        returned
    obtain ⟨dependencies, externalCode, template, lines⟩ := swapped.template
    obtain ⟨back, included, otherIncluded⟩ := swapped.included
    have sameLines (line : String) :
        line ∈ other.template.dependencyLines ↔ line ∈ tree.template.dependencyLines := by
      have injective : Function.Injective String.toList := fun _ _ => String.toList_injective
      rw [← List.mem_map_of_injective injective, ← List.mem_map_of_injective injective,
        Template.toList_dependencyLines, Template.toList_dependencyLines, template]
      exact lines.lines _
    refine ⟨order, other, again, ⟨parsed, swapped.identities_perm, sameLines,
      ⟨dependencies, externalCode, template⟩, front, first, second, back, included,
      otherIncluded⟩, parses, renamed.identities, ?_, ?_⟩
    · rw [renamed.template.body, template]
      rfl
    · rw [renamed.template.functions, template]
      rfl

/-- A page includes a template that names its class and one that names nothing. The two includes can
trade places. -/
theorem includeOrder_of_page :
    let compiler := Compiler.ofTexts .javaScript
      [("/site/nav.blade", "<%@\x60Nav\x60%>"), ("/site/foot.blade", "foot")]
    let settings : Settings := ⟨"home.blade", "/site", true, false⟩
    ∃ (order : Equiv.Perm Nat) (tree other : IncludeTree),
      CanReturn (compiler.parse "<%# 'nav' %><%# 'foot' %>" settings) (.ok tree) ∧
      tree.identities = [⟨"BladeModule", "BladeTemplate"⟩, ⟨"BladeModulei", "Nav"⟩,
        ⟨"BladeModuleii", "BladeTemplateii"⟩] ∧
      CanReturn ((compiler.withIds (compiler.ids ∘ order)).parse "<%# 'foot' %><%# 'nav' %>"
        settings) (.ok other) ∧
      other.identities.Perm tree.identities ∧
      ∃ again, CanReturn ((compiler.withIds fun created =>
          String.ofList (List.replicate created 'j')).parse "<%# 'foot' %><%# 'nav' %>" settings)
            (.ok again) ∧
        List.Forall₂ (Identity.IsRenamed (compiler.ids ∘ order) fun created =>
          String.ofList (List.replicate created 'j')) other.identities again.identities := by
  intro compiler settings
  have parsed : (compiler.parse "<%# 'nav' %><%# 'foot' %>" settings).toOption.map
      IncludeTree.identities = some [⟨"BladeModule", "BladeTemplate"⟩, ⟨"BladeModulei", "Nav"⟩,
        ⟨"BladeModuleii", "BladeTemplateii"⟩] := by decide +kernel
  obtain ⟨tree, result, identities⟩ := Option.map_eq_some_iff.mp parsed
  have fresh (stroke : Char) : compiler.IsFresh "<%# 'nav' %><%# 'foot' %>"
      fun created => String.ofList (List.replicate created stroke) :=
    isFresh_of_texts
      [("/site/nav.blade", "<%@\x60Nav\x60%>"), ("/site/foot.blade", "foot")]
      rfl (by rintro name ⟨⟩) (by decide +kernel) stroke
  have fits {stroke : Char} (solid : IsSolid stroke) (created : Nat) :
      FitsDeclaration (String.ofList (List.replicate created stroke)) := by
    intro c inside
    rw [String.toList_ofList] at inside
    exact List.eq_of_mem_replicate inside ▸ solid
  have literal : splitAt? ['<', '%'] (sections []).2 = none := by decide +kernel
  have exchanges : Exchanges (.inclusion "nav".toList) (.inclusion "foot".toList)
      "<%# 'nav' %><%# 'foot' %>".toList "<%# 'foot' %><%# 'nav' %>".toList :=
    .intro [] "<%# 'nav' %>".toList [] "<%# 'foot' %>".toList [] literal rfl
      ⟨_, rfl, by decide +kernel⟩ ⟨_, rfl, by decide +kernel⟩
  obtain ⟨order, other, again, ⟨swapped, same, _⟩, parses, renamed, _⟩ :=
    (compiler.includeOrder_of_parse _ _ _ settings exchanges (fresh 'i') (fresh 'j')
      (fits (by decide)) (fits (by decide))).2 tree (canReturn_of_toOption result)
  exact ⟨order, tree, other, canReturn_of_toOption result, identities, swapped, same, again, parses,
    renamed⟩

end Compiler

end TemplateCompiler
