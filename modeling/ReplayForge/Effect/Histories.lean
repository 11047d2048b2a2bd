import ReplayForge.Effect.Interleaving

/-!
# Histories of interleaved programs

The steps of a run form a chain of stores, and what a thread has seen is the
list of its own events.
-/

namespace ReplayForge.Effect

variable {S : Signature} {σ ι α : Type}

/-- Each step starts in the store where the one before it ended. -/
def Chained : σ → List (Move S σ ι) → σ → Prop
  | start, [], final => final = start
  | start, move :: moves, final =>
      move.before = start ∧ Chained move.after moves final

/-- The events of one thread. -/
def eventsOf (index : Nat) (moves : List (Move S σ ι)) : List (Event S) :=
  (moves.filter fun move => move.thread = index).map Move.event

section Chains

variable {start final : σ} {first second moves : List (Move S σ ι)}
  {move : Move S σ ι}

theorem chained_append : Chained start (first ++ second) final ↔
    ∃ middle, Chained start first middle ∧ Chained middle second final := by
  induction first generalizing start with
  | nil =>
      constructor
      · intro chained
        exact ⟨start, rfl, chained⟩
      · rintro ⟨middle, rfl, chained⟩
        exact chained
  | cons move rest ih =>
      simp only [List.cons_append, Chained, ih]
      constructor
      · rintro ⟨here, middle, early, late⟩
        exact ⟨middle, ⟨here, early⟩, late⟩
      · rintro ⟨middle, ⟨here, early⟩, late⟩
        exact ⟨here, middle, early, late⟩

theorem chained_split :
    Chained start (first ++ move :: second) final ↔
      Chained start first move.before ∧ Chained move.after second final := by
  rw [chained_append]
  constructor
  · rintro ⟨middle, early, rfl, late⟩
    exact ⟨early, late⟩
  · rintro ⟨early, late⟩
    exact ⟨move.before, early, rfl, late⟩

theorem chained_concat : Chained start (moves ++ [move]) final ↔
    Chained start moves move.before ∧ final = move.after := by
  rw [chained_split]
  rfl

/-- What every step respects, the whole chain respects. -/
theorem Chained.related {relation : σ → σ → Prop}
    (chained : Chained start moves final) (refl : ∀ store, relation store store)
    (trans : ∀ {first second third}, relation first second →
      relation second third → relation first third)
    (each : ∀ move ∈ moves, relation move.before move.after) :
    relation start final := by
  induction moves generalizing start with
  | nil =>
      cases chained
      exact refl _
  | cons move rest ih =>
      obtain ⟨rfl, later⟩ := chained
      have here := each move List.mem_cons_self
      exact trans here (ih later fun other member =>
        each other (List.mem_cons_of_mem _ member))

/-- What every step keeps holds of every store of the chain. -/
theorem Chained.keeps {invariant : σ → Prop}
    (chained : Chained start moves final) (initial : invariant start)
    (each : ∀ move ∈ moves, invariant move.before → invariant move.after) :
    invariant final ∧
      ∀ move ∈ moves, invariant move.before ∧ invariant move.after := by
  induction moves generalizing start with
  | nil =>
      cases chained
      exact ⟨initial, fun _ member => nomatch member⟩
  | cons move rest ih =>
      obtain ⟨rfl, later⟩ := chained
      have here := each move List.mem_cons_self initial
      obtain ⟨last, others⟩ := ih later here fun other member =>
        each other (List.mem_cons_of_mem _ member)
      refine ⟨last, fun other member => ?_⟩
      rcases List.mem_cons.mp member with rfl | further
      · exact ⟨initial, here⟩
      · exact others other further

/-- What every step can only have inherited held at the start. -/
theorem Chained.inherited (property : σ → Prop)
    (chained : Chained start moves final) (last : property final)
    (each : ∀ move ∈ moves, property move.after → property move.before) :
    property start := by
  induction moves generalizing start with
  | nil =>
      cases chained
      exact last
  | cons move rest ih =>
      obtain ⟨rfl, later⟩ := chained
      apply each move List.mem_cons_self
      exact ih later fun other member =>
        each other (List.mem_cons_of_mem _ member)

theorem eventsOf_append {index : Nat} : eventsOf index (first ++ second) =
    eventsOf index first ++ eventsOf index second := by
  simp [eventsOf]

theorem mem_eventsOf {index : Nat} (member : move ∈ moves)
    (same : move.thread = index) : move.event ∈ eventsOf index moves := by
  apply List.mem_map_of_mem
  exact List.mem_filter.mpr ⟨member, decide_eq_true same⟩

end Chains

namespace Interleaves

variable {law : Law S σ} {program : ι → Program S α} {start : σ}
  {moves : List (Move S σ ι)} {config : Config S σ ι α}

theorem chained (reached : Interleaves law program start moves config) :
    Chained start moves config.store := by
  induction reached with
  | start => rfl
  | spawn call _ _ ih => exact ih
  | step _ _ _ ih => exact chained_concat.mpr ⟨ih, rfl⟩

/-- A thread has seen exactly its own steps. -/
theorem eventsOf_eq (reached : Interleaves law program start moves config)
    (index : Nat) : eventsOf index moves =
      ((config.threads index).map Thread.past).getD [] := by
  induction reached with
  | start => rfl
  | @spawn moves config fresh call _ free ih =>
      rw [ih]
      unfold Config.put
      by_cases same : index = fresh
      · subst same
        simp [free]
      · simp [Function.update_of_ne same]
  | @step moves config own call past op next resp after _ found _ ih =>
      rw [eventsOf_append, ih]
      unfold Config.put
      by_cases same : index = own
      · subst same
        simp [found, eventsOf]
      · simp [Function.update_of_ne same, eventsOf, Ne.symm same]

/-- What a thread had seen at one of its steps. -/
theorem past_eq (reached : Interleaves law program start moves config)
    {early late : List (Move S σ ι)} {move : Move S σ ι}
    (split : moves = early ++ move :: late) :
    move.past = eventsOf move.thread early := by
  induction reached generalizing late with
  | start =>
      have lengths := congrArg List.length split
      simp at lengths
  | spawn call _ _ ih => exact ih split
  | @step moves config own call past op next resp after reached found _ ih =>
      rcases List.eq_nil_or_concat late with rfl | ⟨rest, last, rfl⟩
      · obtain ⟨rfl, last⟩ := List.append_inj' split rfl
        cases last
        simpa [found] using (eventsOf_eq reached own).symm
      · rw [List.concat_eq_append, ← List.cons_append, ← List.append_assoc]
          at split
        exact ih (List.append_inj' split rfl).1

end Interleaves

end ReplayForge.Effect
