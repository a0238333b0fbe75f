import IssueDigest.Settings.Load
/-!
# The settings in force

The settings are loaded once and then kept; loading them again replaces what is kept, unless it
fails. Every set of settings that was loaded has a number of its own, so that one can tell whether
two of them are the same.
-/

namespace IssueDigest

/-- Settings that were loaded at some time. -/
structure LoadedSettings where
  /-- How many were loaded before. -/
  number : Nat
  settings : Settings
  deriving DecidableEq, Repr

/-- The settings that are kept. -/
structure SettingsInForce where
  /-- How many were loaded so far. -/
  loaded : Nat
  /-- Those that are kept, if any were loaded. -/
  kept : Option LoadedSettings
  deriving DecidableEq, Repr

namespace SettingsInForce

/-- Before any settings are loaded. -/
def none : SettingsInForce := ⟨0, .none⟩

/-- Loads settings and keeps them. -/
def reload (s : SettingsInForce) (w : World) : Except Fault LoadedSettings × SettingsInForce :=
  match Settings.load w [] with
  | .ok settings =>
    let fresh : LoadedSettings := ⟨s.loaded, settings⟩
    (.ok fresh, ⟨s.loaded + 1, some fresh⟩)
  | .error e => (.error e, s)

/-- The settings that are kept; they are loaded if there are none. -/
def get (s : SettingsInForce) (w : World) : Except Fault LoadedSettings × SettingsInForce :=
  match s.kept with
  | some kept => (.ok kept, s)
  | .none => s.reload w

end SettingsInForce

end IssueDigest
