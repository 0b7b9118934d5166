import StreamOverloads.Log.Event

/-
  Actions: steps of a run that work on a state, may fail, and
  note events.

  A failing action ends what it is part of, but the state it
  leaves and the events it noted remain.

  Key definitions include:
    * `StreamOverloads.Outcome`
    * `StreamOverloads.Action`
    * `StreamOverloads.Action.note`
    * `StreamOverloads.Action.onFailure`
-/

------------------------------------------------------------
-- Outcomes
------------------------------------------------------------

namespace StreamOverloads

/- What an action ends with. -/
structure Outcome (σ α : Type) where
  result : Except Failure α
  state : σ
  events : List Log.Event

/- A step of a run over states of type `σ`. -/
def Action (σ α : Type) : Type :=
  σ → Outcome σ α

end StreamOverloads

------------------------------------------------------------
-- Sequencing
------------------------------------------------------------

namespace StreamOverloads

namespace Action

variable {σ α β : Type}

/- Do nothing and answer a value. -/
def done
    (value : α) : Action σ α :=
  fun state =>
    { result := .ok value, state := state, events := [] }

/- Do one action and, unless it fails, the next one. -/
def next
    (first : Action σ α)
    (second : α → Action σ β) : Action σ β :=
  fun state =>
    let before := first state
    match before.result with
    | .error failure =>
        { result := .error failure
          state := before.state
          events := before.events }
    | .ok value =>
        let after := second value before.state
        { result := after.result
          state := after.state
          events := before.events ++ after.events }

instance : Monad (Action σ) where
  pure := done
  bind := next

end Action

end StreamOverloads

------------------------------------------------------------
-- Primitive Actions
------------------------------------------------------------

namespace StreamOverloads

namespace Action

variable {σ α : Type}

/- Note one event. -/
def note
    (event : Log.Event) : Action σ Unit :=
  fun state =>
    { result := .ok (), state := state, events := [event] }

/- Note several events, in order. -/
def noteAll
    (events : List Log.Event) : Action σ Unit :=
  fun state =>
    { result := .ok (), state := state, events := events }

/- Answer what a check answers. -/
def ofExcept
    (result : Except Failure α) : Action σ α :=
  fun state =>
    { result := result, state := state, events := [] }

/- Change the state, and answer or fail. -/
def ofChange
    (change : σ → σ × Except Failure α) : Action σ α :=
  fun state =>
    { result := (change state).2
      state := (change state).1
      events := [] }

/- Note one more event if an action fails. -/
def onFailure
    (action : Action σ α)
    (event : Failure → Log.Event) : Action σ α :=
  fun state =>
    let outcome := action state
    match outcome.result with
    | .error failure =>
        { outcome with
          events := outcome.events ++ [event failure] }
    | .ok _ => outcome

end Action

end StreamOverloads
