import IssueDigest.Dismissal.Store
/-!
# What an action does to a state

`x.run s` is a pair: the result of the action `x` on the state `s`, or the fault, and the state
afterwards. This module says what each way of building actions does to that pair, so that proofs
about stores compute with pairs and never with monads. The state is kept when an action fails;
`run_andFinally` is where that matters.
-/

namespace IssueDigest

/-! ### Steps that may fail -/

/-- A step that may fail and what follows it succeed together. -/
theorem bind_eq_ok_iff {ε α β : Type} {x : Except ε α} {f : α → Except ε β} {b : β} :
    (x >>= f) = .ok b ↔ ∃ a, x = .ok a ∧ f a = .ok b := by
  cases x with
  | error e => exact ⟨nofun, nofun⟩
  | ok a => exact ⟨fun h => ⟨a, rfl, h⟩, fun ⟨_, ha, h⟩ => Except.ok.inj ha ▸ h⟩

/-- They fail together if the step fails, or what follows it does. -/
theorem bind_eq_error_iff {ε α β : Type} {x : Except ε α} {f : α → Except ε β} {e : ε} :
    (x >>= f) = .error e ↔ x = .error e ∨ ∃ a, x = .ok a ∧ f a = .error e := by
  cases x with
  | error e' =>
    constructor
    · exact fun h => .inl (congrArg _ (Except.error.inj h))
    · rintro (h | ⟨a, ha, -⟩)
      · exact congrArg _ (Except.error.inj h)
      · cases ha
  | ok a =>
    constructor
    · exact fun h => .inr ⟨a, rfl, h⟩
    · rintro (h | ⟨a', ha, h⟩)
      · cases h
      · exact Except.ok.inj ha ▸ h

theorem map_eq_ok_iff {ε α β : Type} {x : Except ε α} {f : α → β} {b : β} :
    x.map f = .ok b ↔ ∃ a, x = .ok a ∧ f a = b := by
  cases x with
  | error e => exact ⟨nofun, nofun⟩
  | ok a => exact ⟨fun h => ⟨a, rfl, Except.ok.inj h⟩, fun ⟨_, ha, h⟩ =>
      congrArg _ (Except.ok.inj ha ▸ h)⟩

theorem map_eq_error_iff {ε α β : Type} {x : Except ε α} {f : α → β} {e : ε} :
    x.map f = .error e ↔ x = .error e := by
  cases x with
  | error e' =>
    constructor
    · exact fun h => congrArg _ (Except.error.inj h)
    · exact fun h => congrArg _ (Except.error.inj h)
  | ok a => exact ⟨nofun, nofun⟩

theorem eq_of_map_eq {ε α β : Type} {x y : Except ε α} {f : α → β}
    (hf : ∀ a b, f a = f b → a = b) (h : x.map f = y.map f) : x = y := by
  cases x with
  | error e =>
    cases y with
    | error e' => exact congrArg _ (Except.error.inj h)
    | ok b => cases h
  | ok a =>
    cases y with
    | error e' => cases h
    | ok b => exact congrArg _ (hf a b (Except.ok.inj h))

/-! ### Actions -/

namespace Act

variable {σ α β : Type}

@[simp] theorem run_pure (a : α) (s : σ) : (pure a : Act σ α).run s = (.ok a, s) := rfl

@[simp] theorem run_get (s : σ) : (get : Act σ σ).run s = (.ok s, s) := rfl

@[simp] theorem run_set (s s' : σ) : (set s' : Act σ Unit).run s = (.ok (), s') := rfl

@[simp] theorem run_modify (f : σ → σ) (s : σ) :
    (modify f : Act σ Unit).run s = (.ok (), f s) := rfl

@[simp] theorem run_throw (e : Fault) (s : σ) : (throw e : Act σ α).run s = (.error e, s) := rfl

/-- A result that is known, with whatever state there is afterwards. -/
theorem run_eq_of_fst {x : Act σ α} {s : σ} {r : Except Fault α} (h : (x.run s).1 = r) :
    x.run s = (r, (x.run s).2) :=
  Prod.ext h rfl

/-- One action after another: a fault ends both. -/
theorem run_bind (x : Act σ α) (f : α → Act σ β) (s : σ) :
    (x >>= f).run s =
      match x.run s with
      | (.ok a, s') => (f a).run s'
      | (.error e, s') => (.error e, s') := by
  change (match x.run s with | (r, s') => ExceptT.bindCont f r s') = _
  match x.run s with
  | (.ok a, s') => rfl
  | (.error e, s') => rfl

theorem run_bind_ok {x : Act σ α} {f : α → Act σ β} {s s' : σ} {a : α}
    (h : x.run s = (.ok a, s')) : (x >>= f).run s = (f a).run s' := by
  rw [run_bind, h]

theorem run_bind_error {x : Act σ α} {f : α → Act σ β} {s s' : σ} {e : Fault}
    (h : x.run s = (.error e, s')) : (x >>= f).run s = (.error e, s') := by
  rw [run_bind, h]

/-- Two actions in a row succeed if both do. -/
theorem run_bind_eq_ok {x : Act σ α} {f : α → Act σ β} {s s' : σ} {b : β}
    (h : (x >>= f).run s = (.ok b, s')) :
    ∃ a s₁, x.run s = (.ok a, s₁) ∧ (f a).run s₁ = (.ok b, s') := by
  rw [run_bind] at h
  split at h
  · next a s₁ hx => exact ⟨a, s₁, hx, h⟩
  · cases h

/-- Two actions in a row fail where the first one does, or where the second one does after it. -/
theorem run_bind_eq_error {x : Act σ α} {f : α → Act σ β} {s s' : σ} {e : Fault}
    (h : (x >>= f).run s = (.error e, s')) :
    x.run s = (.error e, s') ∨ ∃ a s₁, x.run s = (.ok a, s₁) ∧ (f a).run s₁ = (.error e, s') := by
  rw [run_bind] at h
  split at h
  · next a s₁ hx => exact .inr ⟨a, s₁, hx, h⟩
  · next e' s₁ hx =>
    obtain ⟨he, rfl⟩ := Prod.mk.inj h
    exact .inl (by rw [hx, Except.error.inj he])

/-- Whatever two actions in a row end with, the first one fails or the second one runs after it. -/
theorem run_bind_cases {x : Act σ α} {f : α → Act σ β} {s s' : σ} {r : Except Fault β}
    (h : (x >>= f).run s = (r, s')) :
    (∃ e, x.run s = (.error e, s')) ∨ ∃ a s₁, x.run s = (.ok a, s₁) ∧ (f a).run s₁ = (r, s') := by
  cases r with
  | ok b => exact .inr (run_bind_eq_ok h)
  | error e => exact (run_bind_eq_error h).imp_left fun hx => ⟨e, hx⟩

@[simp] theorem run_pure_bind (a : α) (f : α → Act σ β) (s : σ) :
    (pure a >>= f).run s = (f a).run s := rfl

@[simp] theorem run_get_bind (f : σ → Act σ β) (s : σ) : (get >>= f).run s = (f s).run s := rfl

@[simp] theorem run_set_bind (s' : σ) (f : Unit → Act σ β) (s : σ) :
    ((set s' : Act σ Unit) >>= f).run s = (f ()).run s' := rfl

@[simp] theorem run_modify_bind (g : σ → σ) (f : Unit → Act σ β) (s : σ) :
    ((modify g : Act σ Unit) >>= f).run s = (f ()).run (g s) := rfl

theorem run_map (f : α → β) (x : Act σ α) (s : σ) :
    (f <$> x).run s = ((x.run s).1.map f, (x.run s).2) := by
  rw [map_eq_pure_bind, run_bind]
  match x.run s with
  | (.ok a, s') => rfl
  | (.error e, s') => rfl

theorem run_map_fst (f : α → β) (x : Act σ α) (s : σ) :
    ((f <$> x).run s).1 = (x.run s).1.map f := by
  rw [run_map]

theorem run_map_snd (f : α → β) (x : Act σ α) (s : σ) : ((f <$> x).run s).2 = (x.run s).2 := by
  rw [run_map]

theorem run_map_ok {x : Act σ α} {f : α → β} {s s' : σ} {a : α} (h : x.run s = (.ok a, s')) :
    (f <$> x).run s = (.ok (f a), s') := by
  rw [map_eq_pure_bind, run_bind_ok h, run_pure]

theorem run_map_eq_error {x : Act σ α} {f : α → β} {s s' : σ} {e : Fault}
    (h : (f <$> x).run s = (.error e, s')) : x.run s = (.error e, s') := by
  rw [run_map] at h
  obtain ⟨hresult, rfl⟩ := Prod.mk.inj h
  exact run_eq_of_fst (map_eq_error_iff.mp hresult)

theorem run_tryCatch (x : Act σ α) (handle : Fault → Act σ α) (s : σ) :
    (tryCatch x handle).run s =
      match x.run s with
      | (.ok a, s') => (.ok a, s')
      | (.error e, s') => (handle e).run s' := by
  simp only [tryCatch, tryCatchThe, MonadExceptOf.tryCatch, ExceptT.tryCatch, ExceptT.run,
    ExceptT.mk, bind, StateT.bind]
  match x s with
  | (.ok a, s') => rfl
  | (.error e, s') => rfl

theorem run_tryCatch_ok {x : Act σ α} {handle : Fault → Act σ α} {s s' : σ} {a : α}
    (h : x.run s = (.ok a, s')) : (tryCatch x handle).run s = (.ok a, s') := by
  rw [run_tryCatch, h]

theorem run_tryCatch_error {x : Act σ α} {handle : Fault → Act σ α} {s s' : σ} {e : Fault}
    (h : x.run s = (.error e, s')) : (tryCatch x handle).run s = (handle e).run s' := by
  rw [run_tryCatch, h]

@[simp] theorem run_lift_ok (a : α) (s : σ) :
    (lift (.ok a) : Act σ α).run s = (.ok a, s) := rfl

@[simp] theorem run_lift_error (e : Fault) (s : σ) :
    (lift (.error e) : Act σ α).run s = (.error e, s) := rfl

/-- A pure step and what follows it succeed together. -/
theorem run_lift_bind_eq_ok {x : Except Fault α} {f : α → Act σ β} {s s' : σ} {b : β}
    (h : (lift x >>= f).run s = (.ok b, s')) : ∃ a, x = .ok a ∧ (f a).run s = (.ok b, s') := by
  cases x with
  | error e => cases (Prod.mk.inj h).1
  | ok a => exact ⟨a, rfl, h⟩

/-- The closing action runs after the body, and the body's result is kept. -/
theorem run_andFinally_ok {body : Act σ α} {last : Act σ Unit} {s s' : σ} {a : α}
    (h : body.run s = (.ok a, s')) :
    (andFinally body last).run s = (last >>= fun _ => pure a).run s' := by
  have hinner : (Except.ok <$> body : Act σ (Except Fault α)).run s = (.ok (.ok a), s') :=
    run_map_ok h
  rw [andFinally, run_bind_ok (run_tryCatch_ok hinner)]
  rfl

/-- The closing action runs after a body that fails, too; the fault is kept unless the closing
action fails as well. -/
theorem run_andFinally_error {body : Act σ α} {last : Act σ Unit} {s s' : σ} {e : Fault}
    (h : body.run s = (.error e, s')) :
    (andFinally body last).run s = (last >>= fun _ => throw e).run s' := by
  have hinner : (Except.ok <$> body : Act σ (Except Fault α)).run s = (.error e, s') := by
    rw [map_eq_pure_bind]
    exact run_bind_error h
  have hcaught : (tryCatch (Except.ok <$> body : Act σ (Except Fault α))
      fun e => pure (.error e)).run s = (.ok (.error e), s') := run_tryCatch_error hinner
  rw [andFinally, run_bind_ok hcaught]
  rfl

/-- The closing action runs after any body; a fault of its own takes the place of the result. -/
theorem run_andFinally {body : Act σ α} {last : Act σ Unit} {s s' : σ} {r : Except Fault α}
    (h : body.run s = (r, s')) :
    (andFinally body last).run s =
      match last.run s' with
      | (.ok (), s'') => (r, s'')
      | (.error e, s'') => (.error e, s'') := by
  cases hlast : last.run s' with
  | mk result s'' =>
  cases r with
  | ok a =>
    rw [run_andFinally_ok h, run_bind, hlast]
    cases result <;> rfl
  | error e =>
    rw [run_andFinally_error h, run_bind, hlast]
    cases result <;> rfl

theorem run_andFinally_snd (body : Act σ α) (last : Act σ Unit) (s : σ) :
    ((andFinally body last).run s).2 = (last.run (body.run s).2).2 := by
  rw [run_andFinally (run_eq_of_fst rfl)]
  split
  · next hlast => rw [hlast]
  · next hlast => rw [hlast]

/-- Where the closing action has run and nothing failed, the body came back first. -/
theorem run_andFinally_eq_ok {body : Act σ α} {last : Act σ Unit} {s s' : σ} {a : α}
    (h : (andFinally body last).run s = (.ok a, s')) :
    ∃ s₁, body.run s = (.ok a, s₁) ∧ last.run s₁ = (.ok (), s') := by
  cases hbody : body.run s with
  | mk r s₁ =>
  rw [run_andFinally hbody] at h
  split at h
  · next hlast =>
    obtain ⟨rfl, rfl⟩ := Prod.mk.inj h
    exact ⟨s₁, rfl, hlast⟩
  · cases (Prod.mk.inj h).1

/-! ### What actions leave in place -/

/-- Does the action leave the property in place, whatever it ends with? -/
def Preserves (P : σ → Prop) (x : Act σ α) : Prop := ∀ s, P s → P (x.run s).2

namespace Preserves

variable {P : σ → Prop}

theorem pure (a : α) : Preserves P (Pure.pure a : Act σ α) := fun _ hs => hs

theorem throw (e : Fault) : Preserves P (MonadExcept.throw e : Act σ α) := fun _ hs => hs

theorem lift (x : Except Fault α) : Preserves P (Act.lift x) := by
  intro s hs
  cases x <;> exact hs

theorem bind {x : Act σ α} {f : α → Act σ β} (hx : x.Preserves P) (hf : ∀ a, (f a).Preserves P) :
    Preserves P (x >>= f) := by
  intro s hs
  have hx := hx s hs
  rw [Act.run_bind]
  match hrun : x.run s with
  | (.ok a, s') => exact hf a s' (by rwa [hrun] at hx)
  | (.error e, s') => rwa [hrun] at hx

theorem tryCatch {x : Act σ α} {handle : Fault → Act σ α} (hx : x.Preserves P)
    (hhandle : ∀ e, (handle e).Preserves P) : Preserves P (MonadExcept.tryCatch x handle) := by
  intro s hs
  have hx := hx s hs
  rw [Act.run_tryCatch]
  match hrun : x.run s with
  | (.ok a, s') => rwa [hrun] at hx
  | (.error e, s') => exact hhandle e s' (by rwa [hrun] at hx)

end Preserves

end Act

end IssueDigest
