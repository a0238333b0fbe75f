import IssueDigest.Cli.Run
import IssueDigest.Proofs.Opening
/-!
# The variables beside the program

A run first takes the variables of the file beside the program into the environment. The file and the
environment alone decide how this ends, and nothing but the environment changes (`Act.Equips`). So a run
that comes to its settings goes on in the same world with another environment.

It can fail in two ways: the file is no text, or the environment cannot hold a variable that it lacks.
No name occurs twice in the file, so whether it can hold a variable does not depend on those in front,
and the whole file can be judged by the environment that the run starts with
(`Settings.run_takeVariables_eq_ok_iff`).
-/

namespace IssueDigest

/-! ### Actions that change the environment -/

/-- Do the environment and the file beside the program alone decide how the action ends, and does it
change nothing but the environment? -/
def Act.Equips {α : Type} (x : Act World α) : Prop :=
  ∀ environment nearby, ∃ r environment', ∀ w : World, w.environment = environment →
    w.nearby = nearby → x.run w = (r, { w with environment := environment' })

namespace Act.Equips

variable {α β : Type}

theorem pure (a : α) : Act.Equips (Pure.pure a) := by
  refine fun environment _ => ⟨.ok a, environment, ?_⟩
  rintro w rfl -
  rfl

theorem lift (x : Except Fault α) : Act.Equips (Act.lift x) := by
  refine fun environment _ => ⟨x, environment, ?_⟩
  rintro w rfl -
  cases x <;> rfl

theorem bind {x : Act World α} {f : α → Act World β} (hx : x.Equips) (hf : ∀ a, (f a).Equips) :
    Act.Equips (x >>= f) := by
  intro environment nearby
  obtain ⟨r, environment₁, hx⟩ := hx environment nearby
  cases r with
  | error e => exact ⟨.error e, environment₁, fun w he hn => Act.run_bind_error (hx w he hn)⟩
  | ok a =>
    obtain ⟨r', environment₂, hf⟩ := hf a environment₁ nearby
    exact ⟨r', environment₂, fun w he hn =>
      (Act.run_bind_ok (hx w he hn)).trans (hf { w with environment := environment₁ } rfl hn)⟩

/-- An action may look at the environment and at the file first. -/
theorem get_bind {f : World → Act World α}
    (hf : ∀ environment nearby, ∃ x : Act World α, x.Equips ∧
      ∀ w : World, w.environment = environment → w.nearby = nearby → (f w).run w = x.run w) :
    Act.Equips (get >>= f) := by
  intro environment nearby
  obtain ⟨x, hx, hf⟩ := hf environment nearby
  obtain ⟨r, environment', hx⟩ := hx environment nearby
  exact ⟨r, environment', fun w he hn => (hf w he hn).trans (hx w he hn)⟩

theorem set (environment : List (String × String)) :
    Act.Equips (modify fun w => { w with environment }) :=
  fun _ _ => ⟨.ok (), environment, fun _ _ _ => rfl⟩

theorem forM {x : α → Act World Unit} (hx : ∀ a, (x a).Equips) (items : List α) :
    Act.Equips (items.forM x) := by
  induction items with
  | nil => exact pure ()
  | cons a rest ih => exact (hx a).bind fun _ => ih

end Act.Equips

namespace Settings

open Act (Equips)

theorem equips_takeVariable (name : List Char) (value : Option (List Char)) :
    Equips (takeVariable name value) := by
  refine .get_bind fun environment _ => ?_
  cases value with
  | none => exact ⟨_, .pure (), fun _ _ _ => rfl⟩
  | some value =>
    cases hpresent : (Entries.get? (String.ofList name) environment).isSome with
    | true =>
      refine ⟨_, .pure (), ?_⟩
      rintro w rfl -
      dsimp only
      rw [hpresent]
      rfl
    | false =>
      refine ⟨_, (Equips.lift (checkVariable name value)).bind fun _ =>
        .set (environment ++ [(String.ofList name, String.ofList value)]), ?_⟩
      rintro w rfl -
      dsimp only
      rw [hpresent]
      cases checkVariable name value <;> rfl

/-- **The file and the environment alone decide** what is taken over. -/
theorem equips_takeVariables : Equips takeVariables := by
  refine .get_bind fun environment nearby => ?_
  cases nearby with
  | none =>
    refine ⟨_, .pure (), ?_⟩
    rintro w - hnearby
    rw [hnearby]
  | some bs =>
    cases hdisabled : isDisabled environment with
    | true =>
      refine ⟨_, .pure (), ?_⟩
      rintro w rfl hnearby
      rw [hnearby]
      dsimp only
      rw [hdisabled]
      rfl
    | false =>
      refine ⟨_, (Equips.lift (decodeText bs)).bind fun text =>
        .forM (fun v => equips_takeVariable v.1 v.2)
          (VariableFile.read .environment environment text), ?_⟩
      rintro w rfl hnearby
      rw [hnearby]
      dsimp only
      rw [hdisabled]
      rfl

variable {w w₀ : World} {settings : Settings} {e : Fault}

/-- What is taken over changes the environment, and nothing else. -/
theorem exists_of_takeVariables {r : Except Fault Unit} (h : takeVariables.run w = (r, w₀)) :
    ∃ environment, w₀ = { w with environment } := by
  obtain ⟨r', environment, hruns⟩ := equips_takeVariables w.environment w.nearby
  exact ⟨environment, ((Prod.mk.inj ((hruns w rfl rfl).symm.trans h)).2).symm⟩

/-- Where the environment and the file are the same, the same is taken over. -/
theorem takeVariables_congr {w' : World} (henvironment : w'.environment = w.environment)
    (hnearby : w'.nearby = w.nearby) : ∃ r environment,
      takeVariables.run w = (r, { w with environment }) ∧
        takeVariables.run w' = (r, { w' with environment }) := by
  obtain ⟨r, environment, hruns⟩ := equips_takeVariables w.environment w.nearby
  exact ⟨r, environment, hruns w rfl rfl, hruns w' henvironment hnearby⟩

/-- Without a file nothing is taken over. -/
theorem run_takeVariables_of_none (h : w.nearby = none) : takeVariables.run w = (.ok (), w) := by
  rw [takeVariables, Act.run_get_bind, h]
  rfl

/-! ### What can be taken over -/

end Settings

namespace Settings

variable {w w₀ : World} {settings : Settings} {e : Fault} {name : List Char}
  {value : Option (List Char)}

/-- Settings are found in the environment that is there once the variables are taken over. -/
theorem run_found_eq_ok_iff :
    found.run w = (.ok settings, w₀) ↔
      takeVariables.run w = (.ok (), w₀) ∧ load w₀ [] = .ok settings := by
  constructor
  · intro h
    obtain ⟨⟨⟩, w₁, htaken, h⟩ := Act.run_bind_eq_ok h
    rw [Act.run_get_bind] at h
    cases hload : load w₁ [] with
    | error e =>
      rw [hload] at h
      cases (Prod.mk.inj h).1
    | ok settings' =>
      rw [hload] at h
      obtain ⟨hsettings, rfl⟩ := Prod.mk.inj h
      exact ⟨htaken, hsettings ▸ hload⟩
  · rintro ⟨htaken, hload⟩
    rw [found, Act.run_bind_ok htaken, Act.run_get_bind, hload]
    rfl

theorem exists_of_found (h : (found.run w).1 = .ok settings) :
    ∃ environment, found.run w = (.ok settings, { w with environment }) := by
  have hrun := Act.run_eq_of_fst h
  obtain ⟨environment, hworld⟩ := exists_of_takeVariables (run_found_eq_ok_iff.mp hrun).1
  exact ⟨environment, hrun.trans (Prod.ext rfl hworld)⟩

/-- Without a file beside the program the settings are those of the world as it is. -/
theorem run_found_of_none (h : w.nearby = none) : found.run w = (load w [], w) := by
  rw [found, Act.run_bind_ok (run_takeVariables_of_none h), Act.run_get_bind]
  cases load w [] <;> rfl

end Settings

/-- **A run whose settings are found** starts with them. -/
theorem Command.run_of_found {c : Command} {settings : Settings} {w w₀ : World}
    (h : Settings.found.run w = (.ok settings, w₀)) :
    c.run.run w = (c.start (c.adjust settings)).run w₀ := by
  obtain ⟨htaken, hload⟩ := Settings.run_found_eq_ok_iff.mp h
  rw [run, Act.run_bind_ok htaken, Act.run_get_bind, hload]

end IssueDigest
