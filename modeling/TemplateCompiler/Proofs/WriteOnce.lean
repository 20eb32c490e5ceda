import TemplateCompiler.Proofs.NameOrder

/-! # Calls on a template

Names are declared in a template and included templates are folded into it by calls that write to
it as they go (`Template.Call.write`), so an error could come when a part has been written. It does
not: a call is refused before it writes anything, and what it leaves behind is what
`Template.declare` and `Emitter.absorb` make of the template, or the template itself
(`Template.Call.run_eq`). Along a sequence of calls a slot holds the first name that its grammar
accepts (`Template.slot_after`), and no later call changes it (`Template.names_written_once`).
-/

namespace TemplateCompiler

/-! ## Slots -/

namespace NameSlot

/-- The slot once it may have been given a name. A declared name stays. -/
def settled (slot : NameSlot) : Option String → NameSlot
  | none => slot
  | some name => .explicit (slot.declared?.getD name)

variable {slot after : NameSlot} {kind : NameKind} {name : String} {cause : NameError}

@[simp] theorem settled_explicit (existing : String) (given? : Option String) :
    (explicit existing).settled given? = explicit existing := by
  cases given? <;> rfl

@[simp] theorem settled_none (slot : NameSlot) : slot.settled none = slot := rfl

theorem settled_some (free : slot.declared? = none) (name : String) :
    slot.settled (some name) = explicit name := by
  rw [settled, free]
  rfl

/-- Of two names, the slot holds the first. -/
theorem settled_settled (slot : NameSlot) (first? second? : Option String) :
    (slot.settled first?).settled second? = slot.settled (first?.or second?) := by
  cases first? with
  | none => rfl
  | some name => rw [settled, settled_explicit, Option.some_or, settled]

theorem eq_settled_of_declare (written : slot.declare kind name = .ok after) :
    after = slot.settled (some name) := by
  cases slot with
  | explicit existing =>
      rw [settled_explicit, eq_explicit_of_declare written]
      exact congrArg explicit ((declare_eq_ok_iff.mp written).1 existing rfl).symm
  | _ => exact eq_explicit_of_declare written

/-- A slot that refuses a name has one. -/
theorem settled_of_refused (refused : slot.declare kind name = .error cause) :
    slot.settled (some name) = slot := by
  cases slot with
  | explicit existing => rfl
  | _ => cases refused

end NameSlot

namespace Template

/-- The template with another slot for one of its names. -/
def withSlot (template : Template) (slot : NameSlot) : NameKind → Template
  | .className => { template with classSlot := slot }
  | .moduleName => { template with moduleSlot := slot }
  | .engineName => { template with engineSlot := slot }

variable {template : Template} {kind other : NameKind} {name : String} {slot : NameSlot}

@[simp] theorem withSlot_slot : template.withSlot (template.slot kind) kind = template := by
  cases kind <;> rfl

@[simp] theorem slot_withSlot : (template.withSlot slot kind).slot other =
    if other = kind then slot else template.slot other := by
  cases kind <;> cases other <;> rfl

@[simp] theorem grammar_withSlot :
    (template.withSlot slot kind).grammar other = template.grammar other := by
  cases kind <;> rfl

/-- A name is declared in its slot, where its grammar accepts it. -/
theorem declare_eq :
    template.declare kind name =
      if (template.grammar kind).accepts name then
        ((template.slot kind).declare kind name).map fun slot => template.withSlot slot kind
      else .error (.invalidIdentifier kind name) := by
  cases kind
  all_goals
    refine ite_congr rfl (fun _ => ?_) fun _ => rfl
    rw [Template.slot]
    generalize NameSlot.declare _ _ _ = written
    cases written <;> rfl

/-! ## Writing in place -/

/-- Why a call was refused. -/
inductive Refusal where
  | name (cause : NameError)
  | dependencies (cause : DependencyError)
deriving DecidableEq, Repr

/-- Steps that write to a template. What has been written before an error stays written. -/
abbrev Writing := ExceptT Refusal (StateM Template)

namespace Writing

/-- The answer of the steps and the template that they leave behind. -/
def perform (steps : Writing Unit) (template : Template) : Except Refusal Unit × Template :=
  Id.run (steps.run.run template)

variable (template : Template)

@[simp] theorem perform_pure : perform (pure ()) template = (.ok (), template) := rfl

@[simp] theorem perform_throw (refusal : Refusal) :
    perform (throw refusal) template = (.error refusal, template) := rfl

@[simp] theorem perform_get (next : Template → Writing Unit) :
    perform (get >>= next) template = (next template).perform template := rfl

end Writing

/-- A call that writes to a template. -/
inductive Call where
  /-- Declares a name. -/
  | declare (kind : NameKind) (name : String)
  /-- Folds an included template into the template. -/
  | absorb (emitter : Emitter) (child : Template)

namespace Call

/-- The steps of a call. A name is looked at by its grammar and by its slot, and then written. The
dependencies of both templates are merged and written, and then the code. -/
def write : Call → Writing Unit
  | declare kind name => do
    let template ← get
    if (template.grammar kind).accepts name then
      match template.slot kind with
      | .explicit existing =>
        if existing = name then pure () else throw (.name (.conflict kind existing name))
      | _ => set (template.withSlot (.explicit name) kind)
    else throw (.name (.invalidIdentifier kind name))
  | absorb emitter child => do
    let template ← get
    match emitter.rule.merge template.dependencies (emitter.broughtDependencies child) with
    | .error cause => throw (.dependencies cause)
    | .ok dependencies =>
      modify fun template => { template with dependencies := dependencies }
      modify fun template => template.addExternalCode (emitter.broughtCode child)

/-- The answer of a call and the template that it leaves behind. -/
def run (call : Call) (template : Template) : Except Refusal Unit × Template :=
  call.write.perform template

/-- The answer of a call. -/
def answer (call : Call) (template : Template) : Except Refusal Unit := (call.run template).1

/-- The template that a call leaves behind. -/
def leaves (call : Call) (template : Template) : Template := (call.run template).2

/-- What a call makes of a template. -/
def result : Call → Template → Except Refusal Template
  | declare kind name, template => (template.declare kind name).mapError .name
  | absorb emitter child, template => (emitter.absorb template child).mapError .dependencies

variable {call : Call} {refusal : Refusal}

/-- The steps of a declaration are those of its slot. -/
theorem run_declare :
    (declare kind name).run template =
      if (template.grammar kind).accepts name then
        match (template.slot kind).declare kind name with
        | .ok slot => (.ok (), template.withSlot slot kind)
        | .error cause => (.error (.name cause), template)
      else (.error (.name (.invalidIdentifier kind name)), template) := by
  simp only [run, write, Writing.perform_get]
  split_ifs with accepted
  · cases held : template.slot kind with
    | explicit existing =>
        by_cases same : existing = name
        · have kept : template.withSlot (.explicit existing) kind = template := by
            rw [← held, withSlot_slot]
          simp [NameSlot.declare, same, same ▸ kept]
        · simp [NameSlot.declare, same]
    | _ => rfl
  · rfl

/-- **A call is all or nothing**: it leaves behind what it makes of the template, or the template
as it was. -/
theorem run_eq (call : Call) (template : Template) :
    call.run template =
      match call.result template with
      | .ok made => (.ok (), made)
      | .error refusal => (.error refusal, template) := by
  cases call with
  | declare kind name =>
      rw [run_declare, result, declare_eq]
      split_ifs with accepted
      · cases (template.slot kind).declare kind name <;> rfl
      · rfl
  | absorb emitter child =>
      simp only [run, write, Writing.perform_get, result, Emitter.absorb]
      cases emitter.rule.merge template.dependencies (emitter.broughtDependencies child) <;> rfl

/-- A call that answers with an error has written nothing, and one that does not has written all. -/
structure AllOrNothing (call : Call) (template : Template) : Prop where
  refused : ∀ refusal, call.answer template = .error refusal →
    call.result template = .error refusal ∧ call.leaves template = template
  written : call.answer template = .ok () → call.result template = .ok (call.leaves template)

theorem allOrNothing (call : Call) (template : Template) : call.AllOrNothing template := by
  have ran := call.run_eq template
  cases made : call.result template with
  | error cause =>
      rw [made] at ran
      refine ⟨fun refusal answered => ?_, fun answered => ?_⟩
      · rw [answer, ran] at answered
        cases answered
        exact ⟨made, by rw [leaves, ran]⟩
      · rw [answer, ran] at answered
        cases answered
  | ok after =>
      rw [made] at ran
      refine ⟨fun refusal answered => ?_, fun _ => by rw [made, leaves, ran]⟩
      rw [answer, ran] at answered
      cases answered

/-- A declaration succeeds where the grammar accepts the name and no other one is declared. -/
theorem answer_declare_eq_ok_iff :
    (declare kind name).answer template = .ok () ↔
      (template.grammar kind).accepts name = true ∧
        ∀ existing ∈ (template.slot kind).declared?, existing = name := by
  rw [← exists_declare_iff, answer, run_eq, result]
  cases template.declare kind name with
  | error cause => simp [Except.mapError]
  | ok declared => simp [Except.mapError]

/-- A declaration changes nothing but its slot. -/
theorem leaves_declare :
    (declare kind name).leaves template =
      if (template.grammar kind).accepts name then
        template.withSlot ((template.slot kind).settled (some name)) kind
      else template := by
  rw [leaves, run_declare]
  split_ifs with accepted
  · cases written : (template.slot kind).declare kind name with
    | ok after => rw [NameSlot.eq_settled_of_declare written]
    | error cause => rw [NameSlot.settled_of_refused written, withSlot_slot]
  · rfl

/-- An included template changes nothing but the dependencies and the external code. -/
theorem exists_leaves_absorb (emitter : Emitter) (child template : Template) :
    ∃ dependencies externalCode,
      (absorb emitter child).leaves template =
        { template with dependencies := dependencies, externalCode := externalCode } := by
  simp only [leaves, run, write, Writing.perform_get]
  cases emitter.rule.merge template.dependencies (emitter.broughtDependencies child) with
  | error cause => exact ⟨template.dependencies, template.externalCode, rfl⟩
  | ok dependencies => exact ⟨dependencies, _, rfl⟩

/-- The name that a call gives for a slot, where the grammar accepts it. -/
def accepted? (grammar : Grammar) (kind : NameKind) : Call → Option String
  | declare other name => if other = kind ∧ grammar.accepts name then some name else none
  | absorb _ _ => none

theorem accepted?_eq_some_iff {grammar : Grammar} :
    call.accepted? grammar kind = some name ↔
      call = .declare kind name ∧ grammar.accepts name = true := by
  cases call with
  | declare other given =>
      simp only [accepted?, Option.ite_none_right_eq_some, Option.some.injEq, declare.injEq]
      constructor
      · rintro ⟨⟨rfl, fits⟩, rfl⟩
        exact ⟨⟨rfl, rfl⟩, fits⟩
      · rintro ⟨⟨rfl, rfl⟩, fits⟩
        exact ⟨⟨rfl, fits⟩, rfl⟩
  | absorb emitter child => simp [accepted?]

theorem accepted?_declare {grammar : Grammar} (fits : grammar.accepts name = true) :
    (declare kind name).accepted? grammar kind = some name :=
  accepted?_eq_some_iff.mpr ⟨rfl, fits⟩

@[simp] theorem grammar_leaves (call : Call) :
    (call.leaves template).grammar kind = template.grammar kind := by
  cases call with
  | declare other name =>
      rw [leaves_declare]
      split_ifs
      · exact grammar_withSlot
      · rfl
  | absorb emitter child =>
      obtain ⟨dependencies, externalCode, left⟩ := exists_leaves_absorb emitter child template
      rw [left]
      cases kind <;> rfl

/-- **A call gives a slot at most the name that it declares there.** -/
theorem slot_leaves (call : Call) :
    (call.leaves template).slot kind =
      (template.slot kind).settled (call.accepted? (template.grammar kind) kind) := by
  cases call with
  | declare other name =>
      rw [leaves_declare, accepted?]
      by_cases same : other = kind
      · subst same
        by_cases fits : (template.grammar other).accepts name = true
        · rw [if_pos fits, if_pos ⟨rfl, fits⟩, slot_withSlot, if_pos rfl]
        · simp [fits]
      · simp only [same, false_and, if_false, NameSlot.settled_none]
        split_ifs
        · rw [slot_withSlot, if_neg (Ne.symm same)]
        · rfl
  | absorb emitter child =>
      obtain ⟨dependencies, externalCode, left⟩ := exists_leaves_absorb emitter child template
      rw [left]
      cases kind <;> rfl

end Call

/-! ## Sequences of calls -/

/-- The template behind some calls. -/
def after (template : Template) (calls : List Call) : Template :=
  calls.foldl (fun template call => call.leaves template) template

variable {calls : List Call}

@[simp] theorem after_nil (template : Template) : template.after [] = template := rfl

@[simp] theorem after_cons (template : Template) (call : Call) (later : List Call) :
    template.after (call :: later) = (call.leaves template).after later := rfl

@[simp] theorem grammar_after (template : Template) (calls : List Call) (kind : NameKind) :
    (template.after calls).grammar kind = template.grammar kind := by
  induction calls generalizing template with
  | nil => rfl
  | cons call later ih => exact (ih (call.leaves template)).trans (call.grammar_leaves)

/-- **A slot holds the first name that its grammar accepts**, unless one is declared before. -/
theorem slot_after (template : Template) (calls : List Call) (kind : NameKind) :
    (template.after calls).slot kind =
      (template.slot kind).settled
        (calls.findSome? (Call.accepted? (template.grammar kind) kind)) := by
  induction calls generalizing template with
  | nil => rfl
  | cons call later ih =>
      calc ((call.leaves template).after later).slot kind
          = ((template.slot kind).settled (call.accepted? (template.grammar kind) kind)).settled
              (later.findSome? (Call.accepted? (template.grammar kind) kind)) := by
            rw [ih, call.grammar_leaves, call.slot_leaves]
        _ = (template.slot kind).settled
              ((call :: later).findSome? (Call.accepted? (template.grammar kind) kind)) := by
            rw [NameSlot.settled_settled, List.findSome?_cons]
            cases call.accepted? (template.grammar kind) kind <;> rfl

/-- **A declared name stays**, whatever is called, and it can be declared again, if its grammar
accepts it. -/
theorem explicit_after (held : template.slot kind = .explicit name) (calls : List Call) :
    (template.after calls).slot kind = .explicit name ∧
      ∀ given, (Call.declare kind given).answer (template.after calls) = .ok () ↔
        (template.grammar kind).accepts given = true ∧ given = name := by
  have stays : (template.after calls).slot kind = .explicit name := by
    rw [slot_after, held, NameSlot.settled_explicit]
  refine ⟨stays, fun given => ?_⟩
  rw [Call.answer_declare_eq_ok_iff, grammar_after, stays]
  refine and_congr_right fun _ => ⟨fun free => (free name rfl).symm, ?_⟩
  rintro rfl existing held
  exact (Option.some.inj held).symm

/-- Whatever is called, the slot holds the name, and it takes no other. -/
structure Settled (template : Template) (kind : NameKind) (name : String) : Prop where
  holds : ∀ calls, (template.after calls).slot kind = .explicit name
  takes_iff : ∀ calls given,
    (Call.declare kind given).answer (template.after calls) = .ok () ↔ given = name

/-- A slot with a name that its grammar accepts is settled. -/
theorem settled_of_slot (held : template.slot kind = .explicit name)
    (fits : (template.grammar kind).accepts name = true) : template.Settled kind name where
  holds calls := (explicit_after held calls).1
  takes_iff calls given := by
    rw [(explicit_after held calls).2]
    exact and_iff_right_of_imp fun same => same ▸ fits

/-- No call gives a name for the slot that its grammar accepts. -/
def Untouched (template : Template) (kind : NameKind) (calls : List Call) : Prop :=
  ∀ name, Call.declare kind name ∈ calls → (template.grammar kind).accepts name = false

theorem untouched_iff : template.Untouched kind calls ↔
    calls.findSome? (Call.accepted? (template.grammar kind) kind) = none := by
  rw [List.findSome?_eq_none_iff]
  constructor
  · intro untouched call member
    refine Option.eq_none_iff_forall_not_mem.mpr fun name accepted => ?_
    obtain ⟨rfl, fits⟩ := Call.accepted?_eq_some_iff.mp accepted
    exact absurd fits (Bool.eq_false_iff.mp (untouched name member))
  · intro refused name member
    refine Bool.eq_false_iff.mpr fun fits => ?_
    exact absurd (refused _ member) (by rw [Call.accepted?_declare fits]; exact nofun)

/-- How a slot stands when some calls have been made. -/
structure WrittenOnce (template : Template) (calls : List Call) (kind : NameKind) : Prop where
  /-- Only the first call with a name that the grammar accepts changes the slot, and that name
  stays. -/
  changed : ∀ call : Call,
    (call.leaves (template.after calls)).slot kind ≠ (template.after calls).slot kind →
      ∃ name, call = .declare kind name ∧ (template.grammar kind).accepts name = true ∧
        template.Untouched kind calls ∧ (call.leaves (template.after calls)).Settled kind name
  /-- Where no name has been declared before, the first that the grammar accepts is taken. -/
  first : (template.slot kind).declared? = none → template.Untouched kind calls →
    ∀ name, (template.grammar kind).accepts name = true →
      (Call.declare kind name).answer (template.after calls) = .ok () ∧
        ((Call.declare kind name).leaves (template.after calls)).Settled kind name
  /-- A name that has been declared before stays. -/
  declared : ∀ name, template.slot kind = .explicit name →
    (template.after calls).slot kind = .explicit name ∧
      ∀ given, (Call.declare kind given).answer (template.after calls) = .ok () ↔
        (template.grammar kind).accepts given = true ∧ given = name

/-- The first name that the grammar accepts settles a slot. -/
theorem settled_leaves (free : ((template.after calls).slot kind).declared? = none)
    (fits : (template.grammar kind).accepts name = true) :
    ((Call.declare kind name).leaves (template.after calls)).Settled kind name := by
  refine settled_of_slot ?_ (by rwa [Call.grammar_leaves, grammar_after])
  rw [Call.slot_leaves, grammar_after, Call.accepted?_declare fits, NameSlot.settled_some free]

/-- A slot without a declared name has not been given one. -/
theorem untouched_of_after (free : ((template.after calls).slot kind).declared? = none) :
    template.Untouched kind calls := by
  rw [slot_after] at free
  refine untouched_iff.mpr ?_
  cases first : calls.findSome? (Call.accepted? (template.grammar kind) kind) with
  | none => rfl
  | some name =>
      rw [first] at free
      cases free

theorem writtenOnce (template : Template) (calls : List Call) (kind : NameKind) :
    template.WrittenOnce calls kind where
  changed call change := by
    rw [Call.slot_leaves, grammar_after] at change
    cases accepted : call.accepted? (template.grammar kind) kind with
    | none => exact absurd (by rw [accepted, NameSlot.settled_none]) change
    | some name =>
        obtain ⟨rfl, fits⟩ := Call.accepted?_eq_some_iff.mp accepted
        cases held : (template.after calls).slot kind with
        | explicit existing => exact absurd (by rw [held, NameSlot.settled_explicit]) change
        | _ =>
            have free : ((template.after calls).slot kind).declared? = none := by rw [held]; rfl
            exact ⟨name, rfl, fits, untouched_of_after free, settled_leaves free fits⟩
  first free untouched name fits := by
    have unchanged : (template.after calls).slot kind = template.slot kind := by
      rw [slot_after, untouched_iff.mp untouched, NameSlot.settled_none]
    rw [← unchanged] at free
    refine ⟨?_, settled_leaves free fits⟩
    rw [Call.answer_declare_eq_ok_iff, grammar_after, free]
    exact ⟨fits, nofun⟩
  declared name held := explicit_after held calls

/-- **Names are written once, and calls are all or nothing.** Whatever has been called before, a
call that is refused leaves the whole template as it was, and one that folds an included template
in changes nothing but the dependencies and the external code. A slot changes with the first call
that gives a name which its grammar accepts, and from then on it takes this name alone. -/
theorem names_written_once (template : Template) (calls : List Call) :
    (∀ call : Call, call.AllOrNothing (template.after calls)) ∧
    (∀ emitter child, ∃ dependencies externalCode,
      (Call.absorb emitter child).leaves (template.after calls) =
        { template.after calls with dependencies := dependencies, externalCode := externalCode }) ∧
    ∀ kind, template.WrittenOnce calls kind :=
  ⟨fun call => call.allOrNothing _, fun emitter child => Call.exists_leaves_absorb emitter child _,
    template.writtenOnce calls⟩

/-- A class name that is no identifier and an included template whose imports cannot be read are
refused. Then the template is called `Page`, and an included template leaves it that name. -/
theorem names_written_once_page :
    let page := Template.empty ⟨"home", "/", true, false⟩ .dotted none "#0"
    let broken := Call.absorb (.default .java) (page.addDependency "import;")
    let nav := Call.absorb (.default .java) (page.addDependency "import java.util.*;")
    let refused := [.declare .className "1st", broken]
    let named := (Call.declare .className "Page").leaves (page.after refused)
    page.after refused = page ∧ named.slot .className = .explicit "Page" ∧
    nav.answer named = .ok () ∧ (nav.leaves named).slot .className = .explicit "Page" ∧
    (Call.declare .className "Page").answer (nav.leaves named) = .ok () ∧
    (Call.declare .className "Other").answer (nav.leaves named) ≠ .ok () := by
  intro page broken nav refused named
  have unnamed : (Call.declare .className "1st").answer page =
      .error (.name (.invalidIdentifier .className "1st")) := by decide +kernel
  have unread : broken.answer page = .error (.dependencies (.missingTarget "import")) := by
    decide +kernel
  have read : nav.answer named = .ok () := by decide +kernel
  have untouched : page.Untouched .className refused := untouched_iff.mpr (by decide +kernel)
  have nameless : (Call.declare .className "1st").leaves page = page :=
    (((page.names_written_once []).1 (.declare .className "1st")).refused _ unnamed).2
  have unfolded : broken.leaves page = page :=
    (((page.names_written_once []).1 broken).refused _ unread).2
  have slot := (page.names_written_once refused).2.2 .className
  obtain ⟨_, settled⟩ := slot.first rfl untouched "Page" (by decide +kernel)
  refine ⟨?_, settled.holds [], read, settled.holds [nav], ?_, ?_⟩
  · rw [after_cons, nameless, after_cons, unfolded, after_nil]
  · exact (settled.takes_iff [nav] "Page").mpr rfl
  · exact fun taken => absurd ((settled.takes_iff [nav] "Other").mp taken) (by decide)

end Template

end TemplateCompiler
