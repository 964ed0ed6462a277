import FeatureRunner.Proofs.Settings.Cache
import Mathlib.Data.List.Induction

/-!
# Readings of settings one after another

While settings are read, files and variables may change, and the cache may be emptied.  What a
reading gives can be told from this history alone: if it looks into the file, it uses the settings
that the first such reading since the cache was last emptied was able to load.  Loading directly,
and readings that a variable answers, have nothing to do with the cache.
-/

namespace FeatureRunner

inductive SettingsReading where
  | current
  | value (keys : List Text) (default : Value)
  | extraFields
  | logLevel

/-- What happens to settings.  A change of the surroundings is any change of files or variables. -/
inductive SettingsOp where
  | change (surroundings : Environment)
  | reset
  | load
  | read (reading : SettingsReading)

structure SettingsState where
  environment : Environment
  cache : Option Record

namespace SettingsReading

/-- The reading as the program does it, with what it gives as a value. -/
def perform (environment : Environment) : SettingsReading → SettingsM Value
  | current => return .record (← Settings.current environment)
  | value keys default => Settings.value environment keys default
  | extraFields => return .bool (← Settings.extraFields environment)
  | logLevel => return .text (← Settings.logLevel environment)

/-- What a variable replies to a reading, if one answers it. -/
def told? (environment : Environment) : SettingsReading → Option (Except SettingsFault Value)
  | current => none
  | value _ _ => none
  | extraFields =>
    (environment.value? "CUKERUN_EXTRA_FIELDS").map fun word =>
      .ok (.bool (decide ((Text.strip word).lower ∈ Settings.onWords)))
  | logLevel =>
    (environment.filledValue? "CUKERUN_LOG_LEVEL").map fun name =>
      (Settings.levelName (.text name)).map .text

def settingAt (settings : Record) (keys : List Text) (default : Value) : Value :=
  (Settings.descend (.record settings) keys).getD default

def answer (settings : Record) : SettingsReading → Except SettingsFault Value
  | current => .ok (.record settings)
  | value keys default => .ok (settingAt settings keys default)
  | extraFields =>
    match settingAt settings ["executor".toList, "extra_fields".toList] (.bool false) with
    | .bool enabled => .ok (.bool enabled)
    | other => .error (.ofValue .notBoolean other)
  | logLevel =>
    (Settings.levelName
      (settingAt settings ["logging".toList, "level".toList] (.text "WARNING".toList))).map .text

end SettingsReading

namespace Settings

theorem run_current (environment : Environment) (cache : Option Record) :
    (current environment).run cache =
      match cache with
      | some settings => (.ok settings, some settings)
      | none =>
        match load environment with
        | .ok settings => (.ok settings, some settings)
        | .error fault => (.error fault, none) := by
  cases cache with
  | some settings => rfl
  | none => exact run_current_none

end Settings

namespace SettingsReading

variable {environment : Environment} {reading : SettingsReading}

theorem perform_of_told {reply : Except SettingsFault Value}
    (told : reading.told? environment = some reply) :
    reading.perform environment = (reply : SettingsM Value) := by
  cases reading with
  | current | value => cases told
  | extraFields =>
      obtain ⟨word, found, rfl⟩ := Option.map_eq_some_iff.mp told
      rw [perform, Settings.extraFields, found]
      rfl
  | logLevel =>
      obtain ⟨name, found, rfl⟩ := Option.map_eq_some_iff.mp told
      rw [perform, Settings.logLevel, found]
      dsimp only
      cases Settings.levelName (.text name) <;> rfl

/-- A reading that no variable answers asks for the settings and takes its reply from them. -/
theorem perform_of_untold (untold : reading.told? environment = none) :
    reading.perform environment =
      Settings.current environment >>= fun settings =>
        (reading.answer settings : SettingsM Value) := by
  cases reading with
  | current => rfl
  | value keys default => rfl
  | extraFields =>
      rw [perform, Settings.extraFields, Option.map_eq_none_iff.mp untold]
      simp only [Settings.value, bind_assoc, pure_bind]
      congr 1
      funext settings
      rw [answer, settingAt]
      cases (Settings.descend (.record settings) _).getD (.bool false) <;> rfl
  | logLevel =>
      rw [perform, Settings.logLevel, Option.map_eq_none_iff.mp untold]
      simp only [Settings.value, bind_assoc, pure_bind]
      congr 1
      funext settings
      rw [answer, settingAt]
      cases Settings.levelName _ <;> rfl

/-- A reading that a variable answers cannot be told from one with other files around it. -/
theorem told?_eq_of_bindings {environment other : Environment}
    (same : other.bindings = environment.bindings) :
    reading.told? other = reading.told? environment := by
  have value (name : String) : other.value? name = environment.value? name := by
    rw [Environment.value?, same, Environment.value?]
  cases reading with
  | current | value => rfl
  | extraFields => rw [told?, value, told?]
  | logLevel =>
      rw [told?, Environment.filledValue?, value, told?, Environment.filledValue?]

end SettingsReading

namespace SettingsState

/-- What happens next: the reply, which is null where there is nothing to reply, and the state
afterwards. -/
def step (state : SettingsState) : SettingsOp → Except SettingsFault Value × SettingsState
  | .change surroundings => (.ok .null, { state with environment := surroundings })
  | .reset => (.ok .null, { state with cache := (Settings.reset.run state.cache).2 })
  | .load => ((Settings.load state.environment).map .record, state)
  | .read reading =>
    let (reply, cache) := (reading.perform state.environment).run state.cache
    (reply, { state with cache })

/-- The state after all that happened since a start with an empty cache. -/
def after (start : Environment) (ops : List SettingsOp) : SettingsState :=
  ops.foldl (fun state op => (state.step op).2) ⟨start, none⟩

theorem after_append (start : Environment) (before : List SettingsOp) (op : SettingsOp) :
    after start (before ++ [op]) = ((after start before).step op).2 := by
  rw [after, List.foldl_append]
  rfl

variable {state : SettingsState} {reading : SettingsReading}

theorem step_of_told {reply : Except SettingsFault Value}
    (told : reading.told? state.environment = some reply) :
    state.step (.read reading) = (reply, state) := by
  rw [step, SettingsReading.perform_of_told told]
  cases reply <;> rfl

theorem step_of_cached {settings : Record} (untold : reading.told? state.environment = none)
    (cached : state.cache = some settings) :
    state.step (.read reading) = (reading.answer settings, state) := by
  obtain ⟨environment, _⟩ := state
  cases cached
  rw [step, SettingsReading.perform_of_untold untold, run_bind, Settings.run_current]
  dsimp only
  cases reading.answer settings <;> rfl

theorem step_of_uncached (untold : reading.told? state.environment = none)
    (uncached : state.cache = none) :
    state.step (.read reading) =
      match Settings.load state.environment with
      | .ok settings => (reading.answer settings, { state with cache := some settings })
      | .error fault => (.error fault, state) := by
  obtain ⟨environment, _⟩ := state
  cases uncached
  rw [step, SettingsReading.perform_of_untold untold, run_bind, Settings.run_current]
  dsimp only
  cases Settings.load environment with
  | ok settings =>
      dsimp only
      cases reading.answer settings <;> rfl
  | error fault => rfl

end SettingsState

namespace SettingsOp

def surroundings (environment : Environment) : SettingsOp → Environment
  | change surroundings => surroundings
  | _ => environment

def surroundingsAfter (start : Environment) (ops : List SettingsOp) : Environment :=
  ops.foldl surroundings start

/-- Settings that a reading is able to load at a moment of a history, where the cache is not emptied
from then on. -/
def CouldLoad (start : Environment) (history moment : List SettingsOp) (settings : Record) :
    Prop :=
  ∃ reading later, history = moment ++ read reading :: later ∧ reset ∉ later ∧
    reading.told? (surroundingsAfter start moment) = none ∧
    Settings.load (surroundingsAfter start moment) = .ok settings

/-- The settings that a reading was able to load first since the cache was last emptied. -/
def IsFirstLoad (start : Environment) (history : List SettingsOp) (settings : Record) : Prop :=
  ∃ moment, CouldLoad start history moment settings ∧
    ∀ other loaded, CouldLoad start history other loaded → moment.length ≤ other.length

variable {start : Environment} {history moment : List SettingsOp} {op : SettingsOp}
  {settings : Record}

theorem surroundingsAfter_append (start : Environment) (before : List SettingsOp)
    (op : SettingsOp) :
    surroundingsAfter start (before ++ [op]) =
      surroundings (surroundingsAfter start before) op := by
  rw [surroundingsAfter, List.foldl_append]
  rfl

theorem environment_after (start : Environment) (history : List SettingsOp) :
    (SettingsState.after start history).environment = surroundingsAfter start history := by
  induction history using List.reverseRecOn with
  | nil => rfl
  | append_singleton before op ih =>
      rw [SettingsState.after_append, surroundingsAfter_append, ← ih]
      cases op <;> rfl

theorem CouldLoad.length_lt (could : CouldLoad start history moment settings) :
    moment.length < history.length := by
  obtain ⟨reading, later, rfl, -⟩ := could
  simp

/-- After one more thing has happened, the moments are the earlier ones, unless the cache was
emptied, and the last one if that was a reading that is able to load. -/
theorem couldLoad_append :
    CouldLoad start (history ++ [op]) moment settings ↔
      (op ≠ reset ∧ CouldLoad start history moment settings) ∨
      (moment = history ∧ ∃ reading, op = read reading ∧
        reading.told? (surroundingsAfter start history) = none ∧
        Settings.load (surroundingsAfter start history) = .ok settings) := by
  constructor
  · rintro ⟨reading, later, split, kept, untold, loaded⟩
    -- Either the reading is the last thing that happened, or something came after it.
    cases later using List.reverseRecOn with
    | nil =>
        obtain ⟨rfl, last⟩ := List.append_inj' split rfl
        cases last
        exact .inr ⟨rfl, reading, rfl, untold, loaded⟩
    | append_singleton later last =>
        rw [← List.cons_append, ← List.append_assoc] at split
        obtain ⟨rfl, same⟩ := List.append_inj' split rfl
        cases same
        rw [List.mem_append, not_or] at kept
        refine .inl ⟨?_, reading, later, rfl, kept.1, untold, loaded⟩
        rintro rfl
        exact kept.2 (List.mem_singleton_self _)
  · rintro (⟨unreset, reading, later, rfl, kept, untold, loaded⟩ |
      ⟨rfl, reading, rfl, untold, loaded⟩)
    · refine ⟨reading, later ++ [op], by simp, ?_, untold, loaded⟩
      rw [List.mem_append, not_or, List.mem_singleton]
      exact ⟨kept, unreset.symm⟩
    · exact ⟨reading, [], rfl, List.not_mem_nil, untold, loaded⟩

theorem IsFirstLoad.unique {other : Record} (first : IsFirstLoad start history settings)
    (second : IsFirstLoad start history other) : settings = other := by
  obtain ⟨moment, could, least⟩ := first
  obtain ⟨moment', could', least'⟩ := second
  -- Two least moments are equally long beginnings of one history, and so the same.
  have sameLength := Nat.le_antisymm (least _ _ could') (least' _ _ could)
  obtain ⟨_, _, split, -, -, loaded⟩ := could
  obtain ⟨_, _, split', -, -, loaded'⟩ := could'
  obtain ⟨rfl, -⟩ := List.append_inj (split.symm.trans split') sameLength
  rw [loaded] at loaded'
  exact Except.ok.inj loaded'

/-- What a history says of the cache: it holds the settings that were loaded first, and is empty if
no reading was able to load any. -/
def Explains (start : Environment) (history : List SettingsOp) : Option Record → Prop
  | none => ∀ moment settings, ¬ CouldLoad start history moment settings
  | some settings => IsFirstLoad start history settings

/-- Nothing is loaded by what neither empties the cache nor is a reading that looks into the
file. -/
theorem explains_append_of_silent {cache : Option Record} (before : Explains start history cache)
    (unreset : op ≠ reset)
    (silent : ∀ reading, op = read reading →
      reading.told? (surroundingsAfter start history) ≠ none) :
    Explains start (history ++ [op]) cache := by
  have same (moment : List SettingsOp) (settings : Record) :
      CouldLoad start (history ++ [op]) moment settings ↔
        CouldLoad start history moment settings := by
    rw [couldLoad_append]
    constructor
    · rintro (⟨-, could⟩ | ⟨-, reading, isRead, untold, -⟩)
      · exact could
      · exact absurd untold (silent reading isRead)
    · exact fun could => .inl ⟨unreset, could⟩
  cases cache with
  | none => exact fun moment settings could => before moment settings ((same _ _).mp could)
  | some settings =>
      obtain ⟨moment, could, least⟩ := before
      exact ⟨moment, (same _ _).mpr could, fun other loaded could' =>
        least other loaded ((same _ _).mp could')⟩

theorem explains_append_of_cached {reading : SettingsReading}
    (before : Explains start history (some settings)) :
    Explains start (history ++ [read reading]) (some settings) := by
  obtain ⟨moment, could, least⟩ := before
  refine ⟨moment, couldLoad_append.mpr (.inl ⟨nofun, could⟩), fun other loaded could' => ?_⟩
  rcases couldLoad_append.mp could' with ⟨-, earlier⟩ | ⟨rfl, -⟩
  · exact least other loaded earlier
  · exact Nat.le_of_lt could.length_lt

theorem explains_append_of_uncached {reading : SettingsReading}
    (before : Explains start history none)
    (untold : reading.told? (surroundingsAfter start history) = none) :
    Explains start (history ++ [read reading])
      (Settings.load (surroundingsAfter start history)).toOption := by
  cases loaded : Settings.load (surroundingsAfter start history) with
  | error fault =>
      intro moment settings could
      rcases couldLoad_append.mp could with ⟨-, earlier⟩ | ⟨rfl, -, -, -, found⟩
      · exact before moment settings earlier
      · rw [loaded] at found
        cases found
  | ok settings =>
      refine ⟨history, couldLoad_append.mpr (.inr ⟨rfl, reading, rfl, untold, loaded⟩), ?_⟩
      intro other found could
      rcases couldLoad_append.mp could with ⟨-, earlier⟩ | ⟨rfl, -⟩
      · exact absurd earlier (before other found)
      · exact Nat.le_refl _

/-- One step keeps the cache explained. -/
theorem explains_step {state : SettingsState} (before : Explains start history state.cache)
    (present : state.environment = surroundingsAfter start history) (op : SettingsOp) :
    Explains start (history ++ [op]) (state.step op).2.cache := by
  cases op with
  | change surroundings => exact explains_append_of_silent before nofun nofun
  | load => exact explains_append_of_silent before nofun nofun
  | reset =>
      intro moment settings could
      rcases couldLoad_append.mp could with ⟨unreset, -⟩ | ⟨-, -, ⟨⟩, -⟩
      exact unreset rfl
  | read reading =>
      cases told : reading.told? state.environment with
      | some reply =>
          have answered : reading.told? (surroundingsAfter start history) ≠ none := by
            rw [← present, told]
            exact Option.some_ne_none reply
          rw [SettingsState.step_of_told told]
          refine explains_append_of_silent before (by simp) ?_
          rintro _ ⟨⟩
          exact answered
      | none =>
          cases cached : state.cache with
          | some settings =>
              rw [SettingsState.step_of_cached told cached, cached]
              rw [cached] at before
              exact explains_append_of_cached before
          | none =>
              rw [cached] at before
              have explained := explains_append_of_uncached before (present ▸ told)
              rw [SettingsState.step_of_uncached told cached, present]
              cases loaded : Settings.load (surroundingsAfter start history) with
              | ok settings =>
                  rw [loaded] at explained
                  exact explained
              | error fault =>
                  rw [loaded] at explained
                  dsimp only
                  rw [cached]
                  exact explained

theorem explains_after (start : Environment) (history : List SettingsOp) :
    Explains start history (SettingsState.after start history).cache := by
  induction history using List.reverseRecOn with
  | nil =>
      intro moment settings could
      exact absurd could.length_lt (Nat.not_lt_zero _)
  | append_singleton before op ih =>
      rw [SettingsState.after_append]
      exact explains_step ih (environment_after start before) op

/-- The cache holds the settings that were loaded first. -/
theorem cache_after_iff :
    (SettingsState.after start history).cache = some settings ↔
      IsFirstLoad start history settings := by
  have explained := explains_after start history
  cases cached : (SettingsState.after start history).cache with
  | none =>
      rw [cached] at explained
      refine ⟨nofun, ?_⟩
      rintro ⟨moment, could, -⟩
      exact absurd could (explained moment settings)
  | some found =>
      rw [cached] at explained
      constructor
      · rintro ⟨⟩
        exact explained
      · intro first
        rw [first.unique explained]

/-- What happens next after a history, told from the history alone.  A reading that no variable
answers has its reply from the settings that were loaded first, whatever its surroundings are now;
if none were, it loads them from the present surroundings and is the first to load them; and if it
cannot, it fails and leaves the cache empty.  Loading directly gives what the file has now, and a
reading that a variable answers has the same reply among any other files and with any cache; both
leave everything as it is.  A missing file counts as one with no settings. -/
structure FollowsHistory (start : Environment) (history : List SettingsOp) : Prop where
  cached : ∀ reading settings, reading.told? (surroundingsAfter start history) = none →
    IsFirstLoad start history settings →
    (SettingsState.after start history).step (.read reading) =
      (reading.answer settings, SettingsState.after start history)
  loaded : ∀ reading settings, reading.told? (surroundingsAfter start history) = none →
    (∀ other, ¬ IsFirstLoad start history other) →
    Settings.load (surroundingsAfter start history) = .ok settings →
    ((SettingsState.after start history).step (.read reading)).1 = reading.answer settings ∧
      IsFirstLoad start (history ++ [.read reading]) settings
  failed : ∀ reading fault, reading.told? (surroundingsAfter start history) = none →
    (∀ other, ¬ IsFirstLoad start history other) →
    Settings.load (surroundingsAfter start history) = .error fault →
    (SettingsState.after start history).step (.read reading) =
        (.error fault, SettingsState.after start history) ∧
      (SettingsState.after start history).cache = none
  direct : (SettingsState.after start history).step .load =
    ((Settings.load (surroundingsAfter start history)).map .record,
      SettingsState.after start history)
  told : ∀ reading reply, reading.told? (surroundingsAfter start history) = some reply →
    (SettingsState.after start history).step (.read reading) =
      (reply, SettingsState.after start history) ∧
    ∀ state : SettingsState,
      state.environment.bindings = (surroundingsAfter start history).bindings →
      state.step (.read reading) = (reply, state)
  missing : ∀ path, Settings.path (surroundingsAfter start history) = .ok path →
    (surroundingsAfter start history).lookUp path = .error .missing →
    Settings.load (surroundingsAfter start history) = .ok []

/-- Readings follow the history, whatever happened in whatever order. -/
theorem after_followsHistory (start : Environment) (history : List SettingsOp) :
    FollowsHistory start history := by
  have present := environment_after start history
  have uncached (unloaded : ∀ other, ¬ IsFirstLoad start history other) :
      (SettingsState.after start history).cache = none :=
    Option.eq_none_iff_forall_ne_some.mpr fun other cached =>
      unloaded other (cache_after_iff.mp cached)
  constructor
  case cached =>
    intro reading settings untold first
    rw [← present] at untold
    exact SettingsState.step_of_cached untold (cache_after_iff.mpr first)
  case loaded =>
    intro reading settings untold unloaded loaded
    rw [← present] at untold loaded
    have stepped := SettingsState.step_of_uncached untold (uncached unloaded)
    rw [loaded] at stepped
    refine ⟨congrArg Prod.fst stepped, cache_after_iff.mp ?_⟩
    rw [SettingsState.after_append, stepped]
  case failed =>
    intro reading fault untold unloaded failed
    rw [← present] at untold failed
    have stepped := SettingsState.step_of_uncached untold (uncached unloaded)
    rw [failed] at stepped
    exact ⟨stepped, uncached unloaded⟩
  case direct => rw [SettingsState.step, present]
  case told =>
    intro reading reply told
    refine ⟨SettingsState.step_of_told (present ▸ told), fun state same => ?_⟩
    apply SettingsState.step_of_told
    rw [SettingsReading.told?_eq_of_bindings same, told]
  case missing =>
    intro path found missing
    rw [Settings.load, found]
    dsimp only [bind, Except.bind]
    rw [missing]
    rfl

end SettingsOp

end FeatureRunner
