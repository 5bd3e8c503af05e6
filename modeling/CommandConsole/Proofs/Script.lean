import CommandConsole.Script

namespace CommandConsole.Script

/-!
# Outcomes of composed scripts

What each way of building a script contributes to its outcome, as equations and
as rules for a condition on all values that the script can come to.
-/

@[simp] theorem outcome_pure (value : α) :
    (pure value : Script α).outcome = .ok value :=
  rfl

@[simp] theorem outcome_fail (fault : Fault) :
    (fail fault : Script α).outcome = .error fault :=
  rfl

@[simp] theorem outcome_ofExcept (outcome : Except Fault α) :
    (ofExcept outcome).outcome = outcome :=
  rfl

/-- The outcome of a composition is the composition of the outcomes. -/
@[simp] theorem outcome_bind
    (script : Script α)
    (next : α → Script β) :
    (script >>= next).outcome =
      script.outcome >>= fun value => (next value).outcome := by
  cases outcome : script.outcome with
  | ok value =>
      rw [bind_of_ok outcome]
      rfl
  | error fault =>
      rw [bind_of_error outcome]
      rfl

/-- Mapping the value of a script maps its outcome. -/
@[simp] theorem outcome_map
    (change : α → β)
    (script : Script α) :
    (change <$> script).outcome = change <$> script.outcome := by
  rw [map_eq_pure_bind, outcome_bind]
  cases script.outcome with
  | ok value =>
      rfl
  | error fault =>
      rfl

@[simp] theorem pollCount_pure (value : α) : (pure value : Script α).pollCount = 0 :=
  rfl

@[simp] theorem pollCount_fail (fault : Fault) : (fail fault : Script α).pollCount = 0 :=
  rfl

@[simp] theorem pollCount_ofExcept (outcome : Except Fault α) : (ofExcept outcome).pollCount = 0 :=
  rfl

@[simp] theorem pollCount_log (event : Event) : (log event).pollCount = 0 :=
  rfl

/-- A composition polls as often as its parts, the second for the value of the first. -/
theorem pollCount_bind_of_ok
    {script : Script α}
    {next : α → Script β}
    {value : α}
    (succeeds : script.outcome = .ok value) :
    (script >>= next).pollCount = script.pollCount + (next value).pollCount := by
  rw [bind_of_ok succeeds]
  exact List.count_append

theorem pollCount_bind_of_error
    {script : Script α}
    {next : α → Script β}
    {fault : Fault}
    (fails : script.outcome = .error fault) :
    (script >>= next).pollCount = script.pollCount := by
  rw [bind_of_error fails]
  rfl

/-- What never polls adds no poll behind a script. -/
theorem pollCount_bind_of_silent
    {script : Script α}
    {next : α → Script β}
    (silent : ∀ value, (next value).pollCount = 0) :
    (script >>= next).pollCount = script.pollCount := by
  cases outcome : script.outcome with
  | ok value =>
      rw [pollCount_bind_of_ok outcome, silent, Nat.add_zero]
  | error fault =>
      exact pollCount_bind_of_error outcome

@[simp] theorem pollCount_map (change : α → β) (script : Script α) :
    (change <$> script).pollCount = script.pollCount := by
  rw [map_eq_pure_bind]
  exact pollCount_bind_of_silent fun _ => rfl

theorem pollCount_le_bind (script : Script α) (next : α → Script β) :
    script.pollCount ≤ (script >>= next).pollCount := by
  cases outcome : script.outcome with
  | error fault =>
      rw [bind_of_error outcome]
      exact Nat.le_refl _
  | ok value =>
      rw [bind_of_ok outcome, pollCount, pollCount, List.count_append]
      exact Nat.le_add_right _ _

/-- Every value that a script can come to meets a condition. -/
def Yields (script : Script α) (condition : α → Prop) : Prop :=
  ∀ value, script.outcome = .ok value → condition value

instance
    (script : Script α)
    (condition : α → Prop)
    [DecidablePred condition] :
    Decidable (script.Yields condition) :=
  match comes : script.outcome with
  | .ok value =>
      decidable_of_iff (condition value)
        ⟨fun meets _ other => Except.ok.inj (comes.symm.trans other) ▸ meets,
          fun yields => yields value comes⟩
  | .error _ =>
      .isTrue fun _ other => nomatch comes.symm.trans other

theorem yields_pure
    {value : α}
    {condition : α → Prop}
    (meets : condition value) :
    (pure value : Script α).Yields condition := by
  intro result comes
  exact Except.ok.inj comes ▸ meets

theorem yields_fail (fault : Fault) (condition : α → Prop) :
    (fail fault : Script α).Yields condition :=
  fun _ comes => nomatch comes

/-- What a composition comes to, its second part comes to for some value of the first. -/
theorem yields_bind
    {script : Script α}
    {next : α → Script β}
    {condition : β → Prop}
    (meets : ∀ value, script.outcome = .ok value → (next value).Yields condition) :
    (script >>= next).Yields condition := by
  intro result comes
  rw [outcome_bind] at comes
  cases outcome : script.outcome with
  | error fault =>
      rw [outcome] at comes
      exact nomatch comes
  | ok value =>
      rw [outcome] at comes
      exact meets value outcome result comes

end CommandConsole.Script
