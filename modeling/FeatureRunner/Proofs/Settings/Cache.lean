import FeatureRunner.Proofs.Run.Events
import FeatureRunner.Settings

/-!
# Reading settings from the cache

As long as the file of settings stays as it is, whatever is in the cache is what loading gives.
Then nobody who reads a setting can tell whether the cache was empty before.
-/

namespace FeatureRunner

namespace Settings

variable {environment : Environment} {α β : Type}

/-- A cache is faithful if it is empty or holds what loading gives. -/
def Faithful (environment : Environment) : Option Record → Prop
  | none => True
  | some settings => load environment = .ok settings

/-- A reading is steady if faithful caches stay faithful, and the empty one gives the same as all
others. -/
structure Steady (environment : Environment) (reading : SettingsM α) : Prop where
  same : ∀ cache, Faithful environment cache → (reading.run cache).1 = (reading.run none).1
  faithful : ∀ cache, Faithful environment cache → Faithful environment (reading.run cache).2

theorem steady_pure (value : α) : Steady environment (pure value) where
  same _ _ := rfl
  faithful _ before := before

theorem steady_throw (fault : SettingsFault) :
    Steady environment (throw fault : SettingsM α) where
  same _ _ := rfl
  faithful _ before := before

theorem Steady.bind {reading : SettingsM α} {next : α → SettingsM β}
    (first : Steady environment reading) (second : ∀ value, Steady environment (next value)) :
    Steady environment (reading >>= next) where
  same cache before := by
    have outcome := first.same cache before
    have left := first.faithful cache before
    have leftEmpty := first.faithful none trivial
    rw [run_bind, run_bind]
    rcases filled : reading.run cache with ⟨found, after⟩
    rcases empty : reading.run none with ⟨foundEmpty, afterEmpty⟩
    rw [filled, empty] at outcome
    rw [filled] at left
    rw [empty] at leftEmpty
    obtain rfl : found = foundEmpty := outcome
    cases found with
    | error fault => rfl
    | ok value =>
        -- The caches may differ from here on, but both are faithful.
        exact ((second value).same _ left).trans ((second value).same _ leftEmpty).symm
  faithful cache before := by
    have left := first.faithful cache before
    rw [run_bind]
    rcases filled : reading.run cache with ⟨_ | value, after⟩
    · rw [filled] at left
      exact left
    · rw [filled] at left
      exact (second value).faithful _ left

theorem run_current_none :
    (current environment).run none =
      match load environment with
      | .ok settings => (.ok settings, some settings)
      | .error fault => (.error fault, none) := by
  unfold current
  rw [run_bind, run_get]
  cases loaded : load environment with
  | ok settings => rfl
  | error fault => rfl

theorem steady_current : Steady environment (current environment) where
  same cache before := by
    cases cache with
    | none => rfl
    | some settings =>
        have held : load environment = .ok settings := before
        rw [run_current_none, held]
        rfl
  faithful cache before := by
    cases cache with
    | none =>
        rw [run_current_none]
        cases loaded : load environment with
        | ok settings => exact loaded
        | error fault => trivial
    | some settings => exact before

theorem steady_value (keys : List Text) (default : Value) :
    Steady environment (value environment keys default) :=
  steady_current.bind fun _ => steady_pure _

theorem steady_levelName (value : Value) :
    Steady environment (levelName value : SettingsM Text) := by
  cases levelName value with
  | ok name => exact steady_pure name
  | error fault => exact steady_throw fault

theorem steady_logLevel : Steady environment (logLevel environment) := by
  unfold logLevel
  split
  · exact steady_levelName _
  · exact (steady_value _ _).bind steady_levelName

theorem steady_extraFields : Steady environment (extraFields environment) := by
  unfold extraFields
  split
  · exact steady_pure _
  · apply (steady_value _ _).bind
    intro setting
    split
    · exact steady_pure _
    · exact steady_throw _

end Settings

end FeatureRunner
