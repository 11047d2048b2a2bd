import ReplayForge.Surfaces.TokenGroups

/-!
# Competing field value layouts

The containers around a label are searched smallest first, and within one
container a value beside the label is preferred to one under it.  The first
container with any candidate decides: a single value beside the label is
returned, and after a value under the label no other layout is returned.
-/

namespace ReplayForge

namespace VisionGrounder

section Outcomes

variable {grounder : VisionGrounder} {policy : VisionGroundingPolicy}
  {label : ScreenRegion} {medianHeight : Rat} {tokens : List VisualToken}

theorem filterM_ok {ε α : Type} {test : α → Except ε Bool}
    (tested : ∀ item, ∃ verdict, test item = .ok verdict) (items : List α) :
    ∃ kept, items.filterM test = .ok kept := by
  have scan : ∀ found, ∃ kept, items.filterAuxM test found = .ok kept := by
    induction items with
    | nil => exact fun found => ⟨found, rfl⟩
    | cons item rest ih =>
        intro found
        obtain ⟨verdict, result⟩ := tested item
        rw [List.filterAuxM, result]
        exact ih _
  obtain ⟨kept, result⟩ := scan []
  exact ⟨kept.reverse, by simp [List.filterM, result, bind, Except.bind,
    pure, Except.pure]⟩

theorem mapM_ok {ε α β : Type} {step : α → Except ε β} {items : List α}
    (stepped : ∀ item, ∃ result, step item = .ok result) :
    ∃ results, items.mapM step = .ok results := by
  induction items with
  | nil => exact ⟨[], rfl⟩
  | cons item rest ih =>
      obtain ⟨first, firstResult⟩ := stepped item
      obtain ⟨others, otherResults⟩ := ih
      exact ⟨first :: others, by simp [List.mapM_cons, firstResult,
        otherResults, bind, Except.bind, pure, Except.pure]⟩

/-- Only a configured grounder finds a value. -/
theorem policy_of_horizontal {group : List VisualToken}
    (found : grounder.horizontalValueTokens label tokens medianHeight =
      .ok group) (present : group ≠ []) :
    ∃ policy, grounder.policy = some policy := by
  cases configured : grounder.policy with
  | some policy => exact ⟨policy, rfl⟩
  | none =>
      have missing : ∃ error, grounder.requiredPolicy = .error error := by
        simp [requiredPolicy, configured]
      obtain ⟨error, missing⟩ := missing
      unfold horizontalValueTokens at found
      simp only [tokenGroups, missing, bind, Except.bind, pure,
        Except.pure] at found
      split at found
      · simp at found
      · split at found
        · exact absurd (Except.ok.inj found).symm present
        · simp at found

theorem cardinalityError_ambiguous {count : Nat} (several : 1 < count)
    (target : String) :
    (cardinalityError count target).code = "target_ambiguous" := by
  simp [cardinalityError, several]

/-- More than one value beside the label is ambiguous. -/
theorem horizontal_error (configured : grounder.policy = some policy)
    {error : SurfaceError}
    (failed : grounder.horizontalValueTokens label tokens medianHeight =
      .error error) :
    error.code = "target_ambiguous" := by
  unfold horizontalValueTokens at failed
  obtain ⟨horizontal, kept⟩ : ∃ kept, (tokens.filterM fun token => do
      if label.right ≤ token.region.x then
        let policy ← grounder.requiredPolicy
        return policy.association.minimumAxisOverlapRatio ≤
          grounder.verticalOverlapRatio token.region label
      else
        return false : Except SurfaceError (List VisualToken)) = .ok kept := by
    apply filterM_ok
    intro token
    by_cases beside : label.right ≤ token.region.x
    · simp [beside, requiredPolicy_of_policy configured, bind, Except.bind,
        pure, Except.pure]
    · simp [beside, pure, Except.pure]
  obtain ⟨joins, groups, formed, grouped, _⟩ :=
    tokenGroups_grouped configured horizontal medianHeight
  rw [kept] at failed
  simp only [bind, Except.bind, pure, Except.pure, formed] at failed
  split at failed
  · simp at failed
  · rename_i some
    have notEmpty : groups ≠ [] := by
      intro none
      have flat := grouped.flatten
      rw [none] at flat
      have perm := leftToRight_perm horizontal
      rw [← flat] at perm
      exact some (by simp [List.nil_perm.mp perm])
    match groups, failed with
    | [], _ => exact absurd rfl notEmpty
    | [_], failed => simp at failed
    | _ :: _ :: rest, failed =>
        have same := Except.error.inj failed
        rw [← same]
        apply cardinalityError_ambiguous
        simp

/-- No group, or more than one, stands under the label. -/
theorem stacked_error (configured : grounder.policy = some policy)
    {error : SurfaceError}
    (failed : grounder.stackedValueTokens label tokens medianHeight =
      .error error) :
    error.code = "target_ambiguous" ∨ error.code = "target_absent" := by
  obtain ⟨lines, formed⟩ : ∃ lines, grounder.textLines tokens = .ok lines :=
    ⟨_, by rw [textLines, requiredPolicy_of_policy configured]; rfl⟩
  have grouping : ∀ line, ∃ groups,
      grounder.tokenGroups line medianHeight = .ok groups := by
    intro line
    obtain ⟨_, groups, result, _⟩ :=
      tokenGroups_grouped configured line medianHeight
    exact ⟨groups, result⟩
  unfold stackedValueTokens at failed
  rw [requiredPolicy_of_policy configured, formed] at failed
  simp only [bind, Except.bind, pure, Except.pure] at failed
  split at failed
  · simp at failed
  · split at failed
    · rename_i refused broken
      obtain ⟨results, done⟩ := mapM_ok grouping
      rw [done] at broken
      simp at broken
    · split at failed
      · simp at failed
      · have same := Except.error.inj failed
        rw [← same]
        simp only [cardinalityError]
        split
        · exact .inl rfl
        · exact .inr rfl

end Outcomes

/-! ## The search -/

section Search

variable (grounder : VisionGrounder) (graph : VisualLayoutGraph)
  (label : ScreenRegion) (tokens : List VisualToken)

/-- The value beside the label in a container. -/
def beside (container : VisualNode) : Except SurfaceError (List VisualToken) :=
  grounder.horizontalValueTokens label (tokensWithin container tokens)
    graph.medianTextHeight

/-- The value under the label in a container. -/
def under (container : VisualNode) : Except SurfaceError (List VisualToken) :=
  grounder.stackedValueTokens label (tokensWithin container tokens)
    graph.medianTextHeight

/-- A container without a candidate. -/
def IsQuiet (container : VisualNode) : Prop :=
  grounder.beside graph label tokens container = .ok [] ∧
    grounder.under graph label tokens container = .ok []

/-- A lookup yields a single value group. -/
def YieldsGroup (result : Except SurfaceError (List VisualToken)) : Prop :=
  ∃ group, result = .ok group ∧ group ≠ []

variable {grounder graph label tokens}

variable (grounder graph label tokens) in
/-- The search when no relation was recorded. -/
abbrev search (containers : List VisualNode) (stacked : List VisualToken) :
    Except SurfaceError (List VisualToken) :=
  grounder.searchContainers label tokens none graph.medianTextHeight
    containers stacked

theorem search_of_beside {container : VisualNode} {group : List VisualToken}
    (found : grounder.beside graph label tokens container = .ok group)
    (present : group ≠ []) (larger : List VisualNode) :
    grounder.search graph label tokens (container :: larger) [] =
      .ok group := by
  unfold beside at found
  simp [search, searchContainers, found, present, bind, Except.bind, pure,
    Except.pure]

theorem search_of_error {container : VisualNode} {error : SurfaceError}
    (failed : grounder.beside graph label tokens container = .error error)
    (larger : List VisualNode) (stacked : List VisualToken) :
    grounder.search graph label tokens (container :: larger) stacked =
      .error error := by
  unfold beside at failed
  simp [search, searchContainers, failed, bind, Except.bind]

theorem search_of_none {container : VisualNode}
    (none : grounder.beside graph label tokens container = .ok [])
    (larger : List VisualNode) :
    grounder.search graph label tokens (container :: larger) [] =
      (grounder.under graph label tokens container).bind
        (grounder.search graph label tokens larger) := by
  unfold beside at none
  unfold under
  cases found : grounder.stackedValueTokens label
      (tokensWithin container tokens) graph.medianTextHeight <;>
    simp [search, searchContainers, none, found, bind, Except.bind]

theorem search_of_stacked {container : VisualNode}
    {stacked : List VisualToken} (held : stacked ≠ [])
    (larger : List VisualNode) :
    grounder.search graph label tokens (container :: larger) stacked =
      (grounder.beside graph label tokens container).bind fun group =>
        if group = [] then grounder.search graph label tokens larger stacked
        else .error (cardinalityError 2 "competing field value layouts") := by
  unfold beside
  cases found : grounder.horizontalValueTokens label
      (tokensWithin container tokens) graph.medianTextHeight with
  | error error =>
      simp [search, searchContainers, found, bind, Except.bind]
  | ok group =>
      by_cases empty : group = [] <;>
        simp [search, searchContainers, found, held, empty, bind, Except.bind,
          throw, throwThe, MonadExceptOf.throw]

theorem search_quiet {smaller : List VisualNode}
    (quiet : ∀ container ∈ smaller, IsQuiet grounder graph label tokens container)
    (larger : List VisualNode) :
    grounder.search graph label tokens (smaller ++ larger) [] =
      grounder.search graph label tokens larger [] := by
  induction smaller with
  | nil => rfl
  | cons container rest ih =>
      have none := quiet container (by simp)
      have others : ∀ inner ∈ rest,
          IsQuiet grounder graph label tokens inner :=
        fun inner member => quiet inner (by simp [member])
      rw [List.cons_append, search_of_none none.1, none.2]
      exact ih others

/-- Once a stacked value is held, a value beside the label is never
returned. -/
theorem search_competing {policy : VisionGroundingPolicy}
    (configured : grounder.policy = some policy) {stacked : List VisualToken}
    (held : stacked ≠ []) {containers : List VisualNode}
    (one : ∃ container ∈ containers,
      YieldsGroup (grounder.beside graph label tokens container)) :
    ∃ error, grounder.search graph label tokens containers stacked =
        .error error ∧ error.code = "target_ambiguous" := by
  induction containers with
  | nil => simp at one
  | cons container rest ih =>
      rw [search_of_stacked held]
      cases found : grounder.beside graph label tokens container with
      | error error =>
          exact ⟨error, rfl, horizontal_error configured found⟩
      | ok group =>
          by_cases empty : group = []
          · have later : ∃ inner ∈ rest,
                YieldsGroup (grounder.beside graph label tokens inner) := by
              obtain ⟨inner, member, yields⟩ := one
              refine ⟨inner, ?_, yields⟩
              cases member with
              | head =>
                  obtain ⟨other, result, present⟩ := yields
                  rw [found, Except.ok.injEq] at result
                  exact absurd (result.symm.trans empty) present
              | tail _ member => exact member
            simpa [Except.bind, empty] using ih later
          · refine ⟨cardinalityError 2 "competing field value layouts",
              by simp [Except.bind, empty], ?_⟩
            exact cardinalityError_ambiguous (by simp) _

/-- The first container with a candidate. -/
theorem first_candidate {containers : List VisualNode}
    (one : ∃ container ∈ containers,
      ¬ IsQuiet grounder graph label tokens container) :
    ∃ smaller container larger, containers = smaller ++ container :: larger ∧
      (∀ quiet ∈ smaller, IsQuiet grounder graph label tokens quiet) ∧
      ¬ IsQuiet grounder graph label tokens container := by
  induction containers with
  | nil => simp at one
  | cons container rest ih =>
      by_cases quiet : IsQuiet grounder graph label tokens container
      · have later : ∃ inner ∈ rest,
            ¬ IsQuiet grounder graph label tokens inner := by
          obtain ⟨inner, member, loud⟩ := one
          cases member with
          | head => exact absurd quiet loud
          | tail _ member => exact ⟨inner, member, loud⟩
        obtain ⟨smaller, settled, larger, split, before, loud⟩ := ih later
        refine ⟨container :: smaller, settled, larger, by simp [split], ?_, loud⟩
        simpa [quiet] using before
      · exact ⟨[], container, rest, rfl, by simp, quiet⟩

/-- The first container with a candidate decides.  A single value beside the
label there is returned; otherwise an error is raised, although a larger
container yields a single value beside the label. -/
theorem fieldValueTokens_settled
    (one : ∃ container ∈ enclosingContainers graph label,
      YieldsGroup (grounder.beside graph label tokens container)) :
    ∃ smaller container larger,
      enclosingContainers graph label = smaller ++ container :: larger ∧
      (∀ quiet ∈ smaller, IsQuiet grounder graph label tokens quiet) ∧
      ¬ IsQuiet grounder graph label tokens container ∧
      (∀ group, grounder.beside graph label tokens container = .ok group →
        group ≠ [] →
        grounder.fieldValueTokens graph label tokens = .ok group) ∧
      (¬ YieldsGroup (grounder.beside graph label tokens container) →
        ∃ error,
          grounder.fieldValueTokens graph label tokens = .error error ∧
          (error.code = "target_ambiguous" ∨
            error.code = "target_absent" ∧
              grounder.under graph label tokens container = .error error)) := by
  obtain ⟨yielding, member, group, result, present⟩ := one
  obtain ⟨policy, configured⟩ := policy_of_horizontal result present
  have loud : ¬ IsQuiet grounder graph label tokens yielding := by
    intro quiet
    rw [quiet.1, Except.ok.injEq] at result
    exact present result.symm
  obtain ⟨smaller, container, larger, split, before, settled⟩ :=
    first_candidate ⟨yielding, member, loud⟩
  have searched : grounder.fieldValueTokens graph label tokens =
      grounder.search graph label tokens (container :: larger) [] := by
    rw [fieldValueTokens, split]
    exact search_quiet before _
  refine ⟨smaller, container, larger, split, before, settled, ?_, ?_⟩
  · intro value found held
    rw [searched]
    exact search_of_beside found held larger
  · intro barren
    rw [searched]
    cases found : grounder.beside graph label tokens container with
    | error error =>
        exact ⟨error, search_of_error found larger [],
          .inl (horizontal_error configured found)⟩
    | ok value =>
        have none : value = [] := by
          by_contra held
          exact barren ⟨value, found, held⟩
        subst none
        rw [search_of_none found]
        cases below : grounder.under graph label tokens container with
        | error error =>
            refine ⟨error, rfl, ?_⟩
            exact (stacked_error configured below).imp id fun absent =>
              ⟨absent, rfl⟩
        | ok stacked =>
            have held : stacked ≠ [] := by
              intro empty
              exact settled ⟨found, by rw [below, empty]⟩
            have rest : ∃ inner ∈ larger,
                YieldsGroup (grounder.beside graph label tokens inner) := by
              refine ⟨yielding, ?_, group, result, present⟩
              rw [split, List.mem_append, List.mem_cons] at member
              rcases member with early | same | late
              · exact absurd (before yielding early) loud
              · subst same
                rw [found, Except.ok.injEq] at result
                exact absurd result.symm present
              · exact late
            obtain ⟨error, raised, ambiguous⟩ :=
              search_competing configured held rest
            exact ⟨error, raised, .inl ambiguous⟩

end Search

/-! ## A table with a row under the label -/

namespace Sample

/-- One frame around everything. -/
def graph : VisualLayoutGraph where
  medianTextHeight := 20
  nodes := [{
    id := "viewport"
    kind := .container
    region := ⟨0, 0, 600, 240, by decide⟩ }]

/-- The region of `Valid until`. -/
def label : ScreenRegion := ⟨170, 80, 100, 20, box_positive⟩

def date : VisualToken := token "2026-10-02" ⟨370, 80, 110, 20, by decide⟩

def nextLabel : VisualToken :=
  token "Another label" ⟨170, 115, 120, 20, by decide⟩

def frame : VisualNode where
  id := "viewport"
  kind := .container
  region := ⟨0, 0, 600, 240, by decide⟩

theorem frame_mem : frame ∈ enclosingContainers graph label := by
  decide +kernel

theorem date_beside :
    grounder.beside graph label [date, nextLabel] frame = .ok [date] := by
  decide +kernel

theorem nextLabel_under :
    grounder.under graph label [date, nextLabel] frame = .ok [nextLabel] := by
  decide +kernel

theorem date_returned :
    grounder.fieldValueTokens graph label [date, nextLabel] = .ok [date] := by
  decide +kernel

end Sample

/-- The date of the row is returned, although another label stands under the
label in the same container. -/
theorem fieldValueTokens_prefers_beside :
    ¬ ∀ (grounder : VisionGrounder) (graph : VisualLayoutGraph)
        (label : ScreenRegion) (tokens : List VisualToken),
      (∃ container ∈ enclosingContainers graph label,
        YieldsGroup (grounder.beside graph label tokens container)) →
      (∃ container ∈ enclosingContainers graph label,
        YieldsGroup (grounder.under graph label tokens container)) →
      ∃ error, grounder.fieldValueTokens graph label tokens = .error error ∧
        error.code = "target_ambiguous" := by
  intro claimed
  obtain ⟨error, raised, _⟩ := claimed Sample.grounder Sample.graph Sample.label
    [Sample.date, Sample.nextLabel]
    ⟨Sample.frame, Sample.frame_mem, _, Sample.date_beside, by simp⟩
    ⟨Sample.frame, Sample.frame_mem, _, Sample.nextLabel_under, by simp⟩
  rw [Sample.date_returned] at raised
  simp at raised

theorem fieldValueTokens_settled_sample :
    ∃ smaller container larger,
      enclosingContainers Sample.graph Sample.label =
        smaller ++ container :: larger ∧
      ∀ group, Sample.grounder.beside Sample.graph Sample.label
          [Sample.date, Sample.nextLabel] container = .ok group →
        group ≠ [] →
        Sample.grounder.fieldValueTokens Sample.graph Sample.label
          [Sample.date, Sample.nextLabel] = .ok group := by
  obtain ⟨smaller, container, larger, split, _, _, returned, _⟩ :=
    fieldValueTokens_settled
      ⟨Sample.frame, Sample.frame_mem, _, Sample.date_beside, by simp⟩
  exact ⟨smaller, container, larger, split, returned⟩

end VisionGrounder

end ReplayForge
