import Mathlib.Data.Nat.Init
import Mathlib.Tactic.ByContra

/-!
# Fair runs

Runs without an end of a system of actors, where an actor that can move from
some time on moves in the end.  `FairRun.eventually` is the rule for what such
a run must reach: while the goal is ahead, one helpful actor can move, and its
moves lower a rank that nobody raises.
-/

namespace ReplayForge

variable {State Actor : Type}

def Enabled (step : Actor → State → State → Prop) (actor : Actor)
    (state : State) : Prop :=
  ∃ next, step actor state next

structure FairRun (step : Actor → State → State → Prop) (first : State) where
  states : Nat → State
  /-- Who moves, if anybody does. -/
  acting : Nat → Option Actor
  begins : states 0 = first
  moves : ∀ time actor, acting time = some actor →
    step actor (states time) (states (time + 1))
  rests : ∀ time, acting time = none → states (time + 1) = states time
  fair : ∀ actor time,
    (∀ later, time ≤ later → Enabled step actor (states later)) →
    ∃ later, time ≤ later ∧ acting later = some actor

namespace FairRun

variable {step : Actor → State → State → Prop} {first : State}

/-- What every move keeps holds from some time on. -/
theorem keeps (run : FairRun step first) {holds : State → Prop}
    (kept : ∀ actor state next, holds state → step actor state next →
      holds next) {time : Nat} (now : holds (run.states time)) :
    ∀ later, time ≤ later → holds (run.states later) := by
  intro later after
  induction later, after using Nat.le_induction with
  | base => exact now
  | succ later _ ih =>
      cases acts : run.acting later with
      | none => exact run.rests later acts ▸ ih
      | some actor => exact kept actor _ _ ih (run.moves later actor acts)

theorem eventually (run : FairRun step first) (holds goal : State → Prop)
    (rank : State → Nat) (helpful : State → Actor)
    (enabled : ∀ state, holds state → ¬ goal state →
      Enabled step (helpful state) state)
    (progress : ∀ actor state next, holds state → ¬ goal state →
      step actor state next → goal next ∨ holds next ∧
        (rank next < rank state ∨
          rank next = rank state ∧ helpful next = helpful state ∧
            actor ≠ helpful state))
    {time : Nat} (now : holds (run.states time)) :
    ∃ later, time ≤ later ∧ goal (run.states later) := by
  induction bound : rank (run.states time) using Nat.strongRecOn
    generalizing time with
  | ind _ ih =>
      by_contra never
      have ahead : ∀ later, time ≤ later → ¬ goal (run.states later) :=
        fun later after reached => never ⟨later, after, reached⟩
      -- Until the goal is reached a lower rank would reach it, so it stays.
      have stays : ∀ later, time ≤ later → holds (run.states later) ∧
          rank (run.states later) = rank (run.states time) ∧
          helpful (run.states later) = helpful (run.states time) := by
        intro later after
        induction later, after using Nat.le_induction with
        | base => exact ⟨now, rfl, rfl⟩
        | succ later after stay =>
            obtain ⟨still, same, helps⟩ := stay
            cases acts : run.acting later with
            | none =>
                rw [run.rests later acts]
                exact ⟨still, same, helps⟩
            | some actor =>
                rcases progress actor _ _ still (ahead later after)
                    (run.moves later actor acts) with
                  reached | ⟨still', lower | ⟨same', helps', _⟩⟩
                · exact (ahead _ (Nat.le_succ_of_le after) reached).elim
                · obtain ⟨last, past, reached⟩ :=
                    ih _ (by omega) still' rfl
                  exact (ahead last (by omega) reached).elim
                · exact ⟨still', same'.trans same, helps'.trans helps⟩
      obtain ⟨later, after, acts⟩ := run.fair (helpful (run.states time)) time
        fun later after => by
          obtain ⟨still, _, helps⟩ := stays later after
          exact helps ▸ enabled _ still (ahead later after)
      obtain ⟨still, same, helps⟩ := stays later after
      have after' := Nat.le_succ_of_le after
      rcases progress _ _ _ still (ahead later after)
          (run.moves later _ acts) with
        reached | ⟨_, lower | ⟨_, _, other⟩⟩
      · exact ahead _ after' reached
      · obtain ⟨_, same', _⟩ := stays (later + 1) after'
        omega
      · exact other helps.symm

/-- Nobody can move. -/
def resting (rests : ∀ actor, ¬ Enabled step actor first) :
    FairRun step first where
  states := fun _ => first
  acting := fun _ => none
  begins := rfl
  moves := fun _ _ acts => nomatch acts
  rests := fun _ _ => rfl
  fair := fun actor time enabled => (rests actor (enabled time Nat.le.refl)).elim

/-- A run after one more move. -/
def after {second : State} (actor : Actor) (moved : step actor first second)
    (run : FairRun step second) : FairRun step first where
  states
    | 0 => first
    | time + 1 => run.states time
  acting
    | 0 => some actor
    | time + 1 => run.acting time
  begins := rfl
  moves
    | 0, _, acts => by
        cases acts
        change step actor first (run.states 0)
        rw [run.begins]
        exact moved
    | time + 1, other, acts => run.moves time other acts
  rests
    | 0, acts => nomatch acts
    | time + 1, acts => run.rests time acts
  fair := by
    intro other time enabled
    obtain ⟨later, reached, acts⟩ := run.fair other time
      fun later reached => enabled (later + 1) (Nat.le_succ_of_le reached)
    exact ⟨later + 1, Nat.le_succ_of_le reached, acts⟩

end FairRun

end ReplayForge
