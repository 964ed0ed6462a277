import FeatureRunner.Library
import FeatureRunner.Proofs.Text.Numerals
import Mathlib.Data.List.Forall2

/-!
# What loading a library comes to

A module may expose anything in the place of its step definitions.  It is accepted exactly if there
is something to go through and every entry is a verb, a pattern and an action; the definitions are
then these entries as they are.  Otherwise the first entry that is no definition is named, with the
first check that it fails.

There are two gaps.  Something that is there and cannot be gone through is no fault of the library,
but a failure that is passed on.  And where the module cannot be loaded, the failure is asked for
its text; if this raises another failure, that one is passed on.  This file lists all ways of
loading a library, and proves that loading goes exactly these ways.
-/

namespace FeatureRunner

namespace Exposed

/-- The parts of a list or a tuple. -/
def parts? : Exposed → Option (List Exposed)
  | list items => some items
  | value (.list items) => some (items.map value)
  | _ => none

def ofPattern : PatternSource → Exposed
  | .text content => value (.text content)
  | .ready ready => pattern ready

def IsText (shown : Exposed) : Prop := ∃ content, shown = value (.text content)

def IsPattern (shown : Exposed) : Prop := ∃ source, shown = ofPattern source

def IsAction (shown : Exposed) : Prop := ∃ callable, shown = action callable

/-- An entry is a definition if it has three parts, a text, a text or a pattern, and an action. -/
def IsDefinition (entry : Exposed) : Prop :=
  ∃ first second third, entry.parts? = some [first, second, third] ∧ first.IsText ∧
    second.IsPattern ∧ third.IsAction

/-- An entry writes a step definition if the verb, the pattern and the action are its parts. -/
def Writes (entry : Exposed) (step : StepEntry) : Prop :=
  ∃ callable, step.handler = .action callable ∧
    entry.parts? = some [value (.text step.verb), ofPattern step.pattern, action callable]

/-- The first check that an entry fails. -/
inductive Fails (entry : Exposed) : EntryFlaw → Prop where
  | form (other : ∀ first second third, entry.parts? ≠ some [first, second, third]) :
      entry.Fails .form
  | verb {first second third : Exposed} (parts : entry.parts? = some [first, second, third])
      (other : ¬ first.IsText) : entry.Fails (.verb first.kindName)
  | pattern {first second third : Exposed} (parts : entry.parts? = some [first, second, third])
      (verb : first.IsText) (other : ¬ second.IsPattern) : entry.Fails .pattern
  | action {first second third : Exposed} (parts : entry.parts? = some [first, second, third])
      (verb : first.IsText) (pattern : second.IsPattern) (other : ¬ third.IsAction) :
      entry.Fails .action

variable {entry : Exposed}

theorem isDefinition_iff : entry.IsDefinition ↔ ∃ step, entry.Writes step := by
  constructor
  · rintro ⟨_, _, _, parts, ⟨verb, rfl⟩, ⟨source, rfl⟩, ⟨callable, rfl⟩⟩
    exact ⟨⟨verb, source, .action callable⟩, callable, rfl, parts⟩
  · rintro ⟨step, callable, -, parts⟩
    exact ⟨_, _, _, parts, ⟨step.verb, rfl⟩, ⟨step.pattern, rfl⟩, ⟨callable, rfl⟩⟩

theorem triple_of_parts {first second third : Exposed}
    (parts : entry.parts? = some [first, second, third]) :
    entry.triple = .ok (first, second, third) := by
  unfold parts? at parts
  split at parts
  · cases parts
    rfl
  · next items =>
    -- Only a list of three exposes three parts.
    rcases items with _ | ⟨_, _ | ⟨_, _ | ⟨_, _ | ⟨_, _⟩⟩⟩⟩ <;> cases parts
    rfl
  · cases parts

theorem triple_of_not_parts
    (other : ∀ first second third, entry.parts? ≠ some [first, second, third]) :
    entry.triple = .error .form := by
  unfold triple
  split
  · exact absurd rfl (other _ _ _)
  · exact absurd rfl (other _ _ _)
  · rfl

theorem asVerb_of_not_isText {shown : Exposed} (other : ¬ shown.IsText) :
    shown.asVerb = .error (.verb shown.kindName) := by
  unfold asVerb
  split
  · exact absurd ⟨_, rfl⟩ other
  · rfl

theorem asPattern_ofPattern (source : PatternSource) :
    (ofPattern source).asPattern = .ok source := by
  cases source <;> rfl

theorem asPattern_of_not_isPattern {shown : Exposed} (other : ¬ shown.IsPattern) :
    shown.asPattern = .error .pattern := by
  unfold asPattern
  split
  · exact absurd ⟨.text _, rfl⟩ other
  · exact absurd ⟨.ready _, rfl⟩ other
  · rfl

theorem asAction_of_not_isAction {shown : Exposed} (other : ¬ shown.IsAction) :
    shown.asAction = .error .action := by
  unfold asAction
  split
  · exact absurd ⟨_, rfl⟩ other
  · rfl

theorem isNull_of_ne {shown : Exposed} (different : shown ≠ .value .null) :
    shown.isNull = false := by
  unfold isNull
  split
  · exact absurd rfl different
  · rfl

/-- The parts of an entry are checked in order. -/
theorem stepEntry_of_parts {first second third : Exposed}
    (parts : entry.parts? = some [first, second, third]) :
    entry.stepEntry =
      first.asVerb >>= fun verb => second.asPattern >>= fun pattern =>
        third.asAction >>= fun callable => .ok ⟨verb, pattern, .action callable⟩ := by
  rw [stepEntry, triple_of_parts parts]
  rfl

theorem stepEntry_of_writes {step : StepEntry} (writes : entry.Writes step) :
    entry.stepEntry = .ok step := by
  obtain ⟨verb, pattern, handler⟩ := step
  obtain ⟨callable, handled, parts⟩ := writes
  obtain rfl : handler = .action callable := handled
  have verbRead : (value (.text verb)).asVerb = .ok verb := rfl
  have actionRead : (action callable).asAction = .ok callable := rfl
  rw [stepEntry_of_parts parts, verbRead, asPattern_ofPattern, actionRead]
  rfl

theorem stepEntry_of_fails {flaw : EntryFlaw} (fails : entry.Fails flaw) :
    entry.stepEntry = .error flaw := by
  cases fails with
  | form other =>
      rw [stepEntry, triple_of_not_parts other]
      rfl
  | verb parts other =>
      rw [stepEntry_of_parts parts, asVerb_of_not_isText other]
      rfl
  | pattern parts verb other =>
      obtain ⟨content, rfl⟩ := verb
      rw [stepEntry_of_parts parts, asPattern_of_not_isPattern other]
      rfl
  | action parts verb pattern other =>
      obtain ⟨content, rfl⟩ := verb
      obtain ⟨source, rfl⟩ := pattern
      rw [stepEntry_of_parts parts, asPattern_ofPattern, asAction_of_not_isAction other]
      rfl

/-- Every entry either is a definition or fails a check first. -/
theorem isDefinition_or_fails (entry : Exposed) :
    entry.IsDefinition ∨ ∃ flaw, entry.Fails flaw := by
  by_cases three : ∃ first second third, entry.parts? = some [first, second, third]
  · obtain ⟨first, second, third, parts⟩ := three
    by_cases verb : first.IsText
    · by_cases pattern : second.IsPattern
      · by_cases callable : third.IsAction
        · exact .inl ⟨first, second, third, parts, verb, pattern, callable⟩
        · exact .inr ⟨_, .action parts verb pattern callable⟩
      · exact .inr ⟨_, .pattern parts verb pattern⟩
    · exact .inr ⟨_, .verb parts verb⟩
  · exact .inr ⟨_, .form fun first second third parts => three ⟨first, second, third, parts⟩⟩

end Exposed

namespace StepModules

open Exposed

variable {module : Text}

theorem checkEntries_of_writes {entries : List Exposed} {steps : List StepEntry}
    (written : List.Forall₂ Exposed.Writes entries steps) (position : Nat) :
    checkEntries module position entries = .ok steps := by
  induction written generalizing position with
  | nil => rfl
  | cons writes _ ih =>
      rw [checkEntries, stepEntry_of_writes writes]
      simp only [ih]
      rfl

/-- The first entry that is no definition is told by its position. -/
theorem checkEntries_of_fails {before after : List Exposed} {entry : Exposed} {flaw : EntryFlaw}
    (accepted : ∀ earlier ∈ before, earlier.IsDefinition) (fails : entry.Fails flaw)
    (position : Nat) :
    checkEntries module position (before ++ entry :: after) =
      .error ⟨module, .entry (position + before.length) flaw⟩ := by
  -- The position is generalized, since every accepted entry moves it on by one.
  induction before generalizing position with
  | nil =>
      rw [List.nil_append, checkEntries, stepEntry_of_fails fails]
      rfl
  | cons first rest ih =>
      obtain ⟨here, others⟩ := List.forall_mem_cons.mp accepted
      obtain ⟨step, writes⟩ := isDefinition_iff.mp here
      have moved : position + 1 + rest.length = position + (first :: rest).length := by
        rw [List.length_cons]
        omega
      rw [List.cons_append, checkEntries, stepEntry_of_writes writes]
      simp only [ih others, moved]
      rfl

/-- Entries are definitions one by one, up to the end or up to one that fails. -/
theorem forall_isDefinition_or_fails (entries : List Exposed) :
    (∀ entry ∈ entries, entry.IsDefinition) ∨
      ∃ before entry after flaw, entries = before ++ entry :: after ∧
        (∀ earlier ∈ before, earlier.IsDefinition) ∧ entry.Fails flaw := by
  induction entries with
  | nil => exact .inl nofun
  | cons first rest ih =>
      rcases first.isDefinition_or_fails with here | ⟨flaw, fails⟩
      · rcases ih with all | ⟨before, entry, after, flaw, rfl, accepted, fails⟩
        · exact .inl (List.forall_mem_cons.mpr ⟨here, all⟩)
        · exact .inr ⟨first :: before, entry, after, flaw, rfl,
            List.forall_mem_cons.mpr ⟨here, accepted⟩, fails⟩
      · exact .inr ⟨[], first, rest, flaw, rfl, nofun, fails⟩

theorem exists_written_iff {entries : List Exposed} :
    (∃ steps, List.Forall₂ Exposed.Writes entries steps) ↔
      ∀ entry ∈ entries, entry.IsDefinition := by
  constructor
  · rintro ⟨steps, written⟩
    induction written with
    | nil => exact nofun
    | cons writes _ ih => exact List.forall_mem_cons.mpr ⟨isDefinition_iff.mpr ⟨_, writes⟩, ih⟩
  · intro accepted
    induction entries with
    | nil => exact ⟨[], .nil⟩
    | cons first rest ih =>
        obtain ⟨here, others⟩ := List.forall_mem_cons.mp accepted
        obtain ⟨step, writes⟩ := isDefinition_iff.mp here
        obtain ⟨steps, written⟩ := ih others
        exact ⟨step :: steps, .cons writes written⟩

/-- A module exposes entries if it loads and what it exposes can be gone through. -/
def Exposes (modules : StepModules) (name : Text) (entries : List Exposed) : Prop :=
  ∃ shown, modules.exposed name = .ok (some shown) ∧ shown.entries? = some entries

/-- A module exposes something, and not null, that cannot be gone through. -/
def ExposesOther (modules : StepModules) (name : Text) (shown : Exposed) : Prop :=
  modules.exposed name = .ok (some shown) ∧ shown ≠ .value .null ∧ shown.entries? = none

/-- A module cannot be loaded, and asking for the text of the failure raises another one. -/
def FailsUntold (modules : StepModules) (name : Text) (raised : Failure) : Prop :=
  ∃ failure, modules.exposed name = .error failure ∧ failure.role ≠ .exit ∧
    failure.wording = .error raised

/-- The failure of going through what cannot be gone through. -/
def notIterable (shown : Exposed) : Failure :=
  .ofMessage "TypeError" (['\''] ++ shown.fullKindName ++ "' object is not iterable".toList)

/-- The ways of loading a library. -/
inductive Loads (modules : StepModules) (name : Text) :
    Except LoadFailure (List StepEntry) → Prop where
  | accepted {entries : List Exposed} {steps : List StepEntry}
      (exposes : modules.Exposes name entries)
      (written : List.Forall₂ Exposed.Writes entries steps) : modules.Loads name (.ok steps)
  | flawed {before after : List Exposed} {entry : Exposed} {flaw : EntryFlaw}
      (exposes : modules.Exposes name (before ++ entry :: after))
      (earlier : ∀ other ∈ before, other.IsDefinition) (fails : entry.Fails flaw) :
      modules.Loads name (.error (.fault ⟨name, .entry before.length flaw⟩))
  | absent (exposes : modules.exposed name = .ok none) :
      modules.Loads name (.error (.fault ⟨name, .noSteps⟩))
  | null (exposes : modules.exposed name = .ok (some (.value .null))) :
      modules.Loads name (.error (.fault ⟨name, .noSteps⟩))
  | notLoaded {failure : Failure} {words : Text} (fails : modules.exposed name = .error failure)
      (ordinary : failure.role ≠ .exit) (told : failure.wording = .ok words) :
      modules.Loads name (.error (.fault ⟨name, .notLoaded failure⟩))
  | untold {raised : Failure} (fails : modules.FailsUntold name raised) :
      modules.Loads name (.error (.failure raised))
  | exit {failure : Failure} (fails : modules.exposed name = .error failure)
      (leaves : failure.role = .exit) : modules.Loads name (.error (.failure failure))
  | other {shown : Exposed} (exposes : modules.ExposesOther name shown) :
      modules.Loads name (.error (.failure (notIterable shown)))

variable {modules : StepModules} {name : Text}

theorem loadSteps_of_exposes {entries : List Exposed} (exposes : modules.Exposes name entries) :
    modules.loadSteps name = (checkEntries name 0 entries).mapError .fault := by
  obtain ⟨shown, exposed, through⟩ := exposes
  have notNull : shown.isNull = false := by
    refine isNull_of_ne ?_
    rintro rfl
    cases through
  rw [loadSteps, exposed]
  simp only [notNull, through, Bool.false_eq_true, if_false]

theorem notLoaded_of_exit {failure : Failure} (leaves : failure.role = .exit) :
    notLoaded name failure = .failure failure := by
  rw [notLoaded, leaves]

theorem notLoaded_of_told {failure : Failure} {words : Text} (ordinary : failure.role ≠ .exit)
    (told : failure.wording = .ok words) :
    notLoaded name failure = .fault ⟨name, .notLoaded failure⟩ := by
  cases role : failure.role with
  | exit => exact absurd role ordinary
  | pending | error => rw [notLoaded, role, told]

theorem notLoaded_of_untold {failure raised : Failure} (ordinary : failure.role ≠ .exit)
    (untold : failure.wording = .error raised) : notLoaded name failure = .failure raised := by
  cases role : failure.role with
  | exit => exact absurd role ordinary
  | pending | error => rw [notLoaded, role, untold]

/-- Loading goes every way that there is. -/
theorem Loads.loadSteps_eq {outcome : Except LoadFailure (List StepEntry)}
    (loads : modules.Loads name outcome) : modules.loadSteps name = outcome := by
  cases loads with
  | accepted exposes written =>
      rw [loadSteps_of_exposes exposes, checkEntries_of_writes written]
      rfl
  | flawed exposes earlier fails =>
      rw [loadSteps_of_exposes exposes, checkEntries_of_fails earlier fails, Nat.zero_add]
      rfl
  | absent exposes => rw [loadSteps, exposes]
  | null exposes =>
      rw [loadSteps, exposes]
      rfl
  | notLoaded fails ordinary told =>
      rw [loadSteps, fails]
      exact congrArg Except.error (notLoaded_of_told ordinary told)
  | untold fails =>
      obtain ⟨failure, fails, ordinary, untold⟩ := fails
      rw [loadSteps, fails]
      exact congrArg Except.error (notLoaded_of_untold ordinary untold)
  | exit fails leaves =>
      rw [loadSteps, fails]
      exact congrArg Except.error (notLoaded_of_exit leaves)
  | @other shown exposes =>
      obtain ⟨exposed, different, closed⟩ := exposes
      rw [loadSteps, exposed]
      simp only [isNull_of_ne different, closed, Bool.false_eq_true, if_false]
      rfl

/-- Loading ends in one of the ways. -/
theorem exists_loads (modules : StepModules) (name : Text) :
    ∃ outcome, modules.Loads name outcome := by
  cases exposed : modules.exposed name with
  | error failure =>
      by_cases leaves : failure.role = .exit
      · exact ⟨_, .exit exposed leaves⟩
      · cases told : failure.wording with
        | ok words => exact ⟨_, .notLoaded exposed leaves told⟩
        | error raised => exact ⟨_, .untold ⟨failure, exposed, leaves, told⟩⟩
  | ok shown? =>
      cases shown? with
      | none => exact ⟨_, .absent exposed⟩
      | some shown =>
          cases through : shown.entries? with
          | none =>
              by_cases null : shown = .value .null
              · exact ⟨_, .null (null ▸ exposed)⟩
              · exact ⟨_, .other ⟨exposed, null, through⟩⟩
          | some entries =>
              rcases forall_isDefinition_or_fails entries with
                all | ⟨before, entry, after, flaw, rfl, earlier, fails⟩
              · obtain ⟨steps, written⟩ := exists_written_iff.mpr all
                exact ⟨_, .accepted ⟨shown, exposed, through⟩ written⟩
              · exact ⟨_, .flawed ⟨shown, exposed, through⟩ earlier fails⟩

theorem loadSteps_eq_iff {outcome : Except LoadFailure (List StepEntry)} :
    modules.loadSteps name = outcome ↔ modules.Loads name outcome := by
  refine ⟨?_, Loads.loadSteps_eq⟩
  rintro rfl
  obtain ⟨outcome, loads⟩ := exists_loads modules name
  rw [loads.loadSteps_eq]
  exact loads

theorem exists_loadSteps_iff :
    (∃ steps, modules.loadSteps name = .ok steps) ↔
      ∃ entries, modules.Exposes name entries ∧ ∀ entry ∈ entries, entry.IsDefinition := by
  constructor
  · rintro ⟨steps, loaded⟩
    cases loadSteps_eq_iff.mp loaded with
    | accepted exposes written => exact ⟨_, exposes, exists_written_iff.mp ⟨_, written⟩⟩
  · rintro ⟨entries, exposes, all⟩
    obtain ⟨steps, written⟩ := exists_written_iff.mpr all
    exact ⟨steps, (Loads.accepted exposes written).loadSteps_eq⟩

/-- An ordinary failure is passed on exactly if there is something that cannot be gone through, or
if the text of the failure of loading the module cannot be made for an ordinary reason. -/
theorem exists_failure_iff :
    (∃ failure, modules.loadSteps name = .error (.failure failure) ∧ failure.role ≠ .exit) ↔
      (∃ shown, modules.ExposesOther name shown) ∨
        ∃ raised, modules.FailsUntold name raised ∧ raised.role ≠ .exit := by
  constructor
  · rintro ⟨failure, passed, ordinary⟩
    cases loadSteps_eq_iff.mp passed with
    | untold fails => exact .inr ⟨failure, fails, ordinary⟩
    | exit fails leaves => exact absurd leaves ordinary
    | other exposes => exact .inl ⟨_, exposes⟩
  · rintro (⟨shown, exposes⟩ | ⟨raised, fails, ordinary⟩)
    · exact ⟨notIterable shown, (Loads.other exposes).loadSteps_eq, nofun⟩
    · exact ⟨raised, (Loads.untold fails).loadSteps_eq, ordinary⟩

end StepModules

namespace LibraryFault

/-- The letter that the reason of a check begins with. -/
def initial : EntryFlaw → Char
  | .form => 'i'
  | .verb _ => 'v'
  | .pattern => 'p'
  | .action => 'a'

theorem head?_entryReason (flaw : EntryFlaw) : (entryReason flaw).head? = some (initial flaw) := by
  cases flaw with
  | form | pattern | action => decide +kernel
  | verb kind =>
      have front : "verb must be a string, got ".toList.head? = some 'v' := by decide +kernel
      unfold entryReason initial
      rw [List.head?_append, front, Option.some_or]

theorem entryReason_inj {first second : EntryFlaw} :
    entryReason first = entryReason second ↔ first = second := by
  constructor
  · intro same
    have initials : initial first = initial second := by
      have heads := congrArg List.head? same
      rw [head?_entryReason, head?_entryReason] at heads
      exact Option.some.inj heads
    cases first with
    | verb kind =>
        cases second with
        | verb other => exact congrArg EntryFlaw.verb (List.append_cancel_left same)
        | form | pattern | action => simp [initial] at initials
    | form | pattern | action => cases second <;> simp [initial] at initials ⊢
  · rintro rfl
    rfl

/-- The reason tells the position of the entry and the check that it fails. -/
theorem reason_entry_inj {module : Text} {position other : Nat} {flaw otherFlaw : EntryFlaw} :
    reason ⟨module, .entry position flaw⟩ = reason ⟨module, .entry other otherFlaw⟩ ↔
      position = other ∧ flaw = otherFlaw := by
  have reason_eq (place : Nat) (failed : EntryFlaw) :
      reason ⟨module, .entry place failed⟩ =
        "STEPS[".toList ++ (Text.ofNat place ++ ']' :: ' ' :: entryReason failed) := by
    simp [reason]
  rw [reason_eq, reason_eq, List.append_cancel_left_eq, Text.ofNat_append_inj (by decide),
    List.cons.injEq, entryReason_inj]
  simp

end LibraryFault

namespace StepModules

/-- What loading a library comes to.  It goes exactly the ways that there are; it returns exactly if
there are entries to go through and all of them are definitions; and an ordinary failure is passed
on exactly if there is something, other than null, that cannot be gone through, or if asking the
failure of loading the module for its text raises such a failure.  The reason that is told about an
entry tells which entry it is and which check it fails. -/
theorem loadSteps_goesItsWays (modules : StepModules) (name : Text) :
    (∀ outcome, modules.loadSteps name = outcome ↔ modules.Loads name outcome) ∧
    ((∃ steps, modules.loadSteps name = .ok steps) ↔
      ∃ entries, modules.Exposes name entries ∧ ∀ entry ∈ entries, entry.IsDefinition) ∧
    ((∃ failure, modules.loadSteps name = .error (.failure failure) ∧ failure.role ≠ .exit) ↔
      (∃ shown, modules.ExposesOther name shown) ∨
        ∃ raised, modules.FailsUntold name raised ∧ raised.role ≠ .exit) ∧
    ∀ (position other : Nat) (flaw otherFlaw : EntryFlaw),
      LibraryFault.reason ⟨name, .entry position flaw⟩ =
          LibraryFault.reason ⟨name, .entry other otherFlaw⟩ ↔
        position = other ∧ flaw = otherFlaw :=
  ⟨fun _ => loadSteps_eq_iff, exists_loadSteps_iff, exists_failure_iff,
    fun _ _ _ _ => LibraryFault.reason_entry_inj⟩

/-- A number in the place of the step definitions ends loading in a failure that is no fault of the
library. -/
theorem not_faultOfLibrary_of_number :
    ¬ ∀ (modules : StepModules) (name : Text) (failure : Failure),
      modules.loadSteps name = .error (.failure failure) →
        failure.role = .exit := by
  intro claimed
  have leaves := claimed [(['m'], .exposing (some (.value (.int 5))))] ['m']
    (notIterable (.value (.int 5))) rfl
  cases leaves

end StepModules

end FeatureRunner
