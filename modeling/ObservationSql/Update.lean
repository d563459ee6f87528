import ObservationSql.Warning

/-!
Calls that change a state where it stands. A call that is refused ends there: the changes that it
made before stay made, and the warnings that came up before stay noted.
-/

namespace ObservationSql

/-- A call on a state of type `σ`. It ends with an answer or with a fault, and either way with the
state and the warnings as they are by then. -/
abbrev Update (σ α : Type) := EStateM Fault (Noted σ) α

/-- How a call ends: with an answer or with a fault, and with what it left behind either way. -/
abbrev Outcome (σ α : Type) := EStateM.Result Fault (Noted σ) α

namespace Update

variable {σ τ α : Type}

def current : Update σ σ := do
  return (← get).value

def change (f : σ → σ) : Update σ Unit :=
  modify fun noted => { noted with value := f noted.value }

def warn (warning : Warning) : Update σ Unit :=
  modify fun noted => { noted with warnings := noted.warnings ++ [warning] }

/-- A result as a call that changes nothing and ends where the result is a fault. -/
def ofResult (result : Result α) : Update σ α := fun noted =>
  match result with
  | .ok answer => .ok answer noted
  | .error fault => .error fault noted

instance : MonadLift Result (Update σ) := ⟨ofResult⟩

/-- A call for a part of a state as a call for the state. -/
def within (part : σ → τ) (replace : σ → τ → σ) (update : Update τ α) : Update σ α := fun noted =>
  match update.run ⟨part noted.value, noted.warnings⟩ with
  | .ok answer inner => .ok answer ⟨replace noted.value inner.value, inner.warnings⟩
  | .error fault inner => .error fault ⟨replace noted.value inner.value, inner.warnings⟩

/-- How a call on a state ends when no warning is noted yet. -/
def perform (update : Update σ α) (state : σ) : Outcome σ α :=
  update.run ⟨state, []⟩

@[simp] theorem run_current (noted : Noted σ) :
    EStateM.run current noted = .ok noted.value noted := rfl

@[simp] theorem run_change (f : σ → σ) (noted : Noted σ) :
    EStateM.run (change f) noted = .ok () { noted with value := f noted.value } := rfl

@[simp] theorem run_warn (warning : Warning) (noted : Noted σ) :
    EStateM.run (warn warning) noted
      = .ok () { noted with warnings := noted.warnings ++ [warning] } := rfl

@[simp] theorem run_liftM_ok (answer : α) (noted : Noted σ) :
    EStateM.run (liftM (.ok answer : Result α) : Update σ α) noted = .ok answer noted := rfl

@[simp] theorem run_liftM_error (fault : Fault) (noted : Noted σ) :
    EStateM.run (liftM (.error fault : Result α) : Update σ α) noted = .error fault noted := rfl

@[simp] theorem run_within (part : σ → τ) (replace : σ → τ → σ) (update : Update τ α)
    (noted : Noted σ) :
    EStateM.run (within part replace update) noted =
      match update.run ⟨part noted.value, noted.warnings⟩ with
      | .ok answer inner => .ok answer ⟨replace noted.value inner.value, inner.warnings⟩
      | .error fault inner => .error fault ⟨replace noted.value inner.value, inner.warnings⟩ := rfl

end Update

namespace Outcome

variable {σ α : Type}

def state : Outcome σ α → σ
  | .ok _ noted => noted.value
  | .error _ noted => noted.value

def isOk : Outcome σ α → Bool
  | .ok _ _ => true
  | .error _ _ => false

theorem isOk_iff {outcome : Outcome σ α} :
    outcome.isOk = true ↔ ∃ answer noted, outcome = .ok answer noted := by
  cases outcome <;> simp [isOk]

theorem perform_within_of_error {τ : Type} {part : σ → τ} {update : Update τ α} {whole : σ}
    {fault : Fault} {noted : Noted τ} (h : update.perform (part whole) = .error fault noted)
    (replace : σ → τ → σ) :
    (Update.within part replace update).perform whole
      = .error fault ⟨replace whole noted.value, noted.warnings⟩ := by
  rw [Update.perform] at h
  rw [Update.perform, Update.run_within, h]

theorem state_within {τ : Type} (part : σ → τ) (replace : σ → τ → σ) (update : Update τ α)
    (whole : σ) :
    ((Update.within part replace update).perform whole).state
      = replace whole (update.perform (part whole)).state := by
  simp only [Update.perform, Update.run_within]
  split <;> simp [state, *]

end Outcome

end ObservationSql
