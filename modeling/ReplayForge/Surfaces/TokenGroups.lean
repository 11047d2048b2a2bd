import ReplayForge.Surfaces.Vision

/-!
# Groups of one rendered line

The groups of `_token_groups` always partition the line from left to right.
They are the groups that the gap asks for exactly when no token reaches over a
cut: `ReachesKept`.
-/

namespace ReplayForge

namespace VisionGrounder

@[simp]
theorem requiredPolicy_of_policy {grounder : VisionGrounder}
    {policy : VisionGroundingPolicy} (configured : grounder.policy = some policy) :
    grounder.requiredPolicy = .ok policy := by
  simp [requiredPolicy, configured]

theorem leftToRight_perm (line : List VisualToken) :
    (leftToRight line).Perm line :=
  List.perm_insertionSort _ line

theorem leftToRight_ordered (line : List VisualToken) :
    (leftToRight line).Pairwise fun first second =>
      first.region.x ≤ second.region.x :=
  List.pairwise_insertionSort
    (fun first second : VisualToken => first.region.x ≤ second.region.x) line

/-- No token is lost or duplicated, no group is empty, and groups and tokens
stand from left to right. -/
structure Partitions (line : List VisualToken)
    (groups : List (List VisualToken)) : Prop where
  tokens : groups.flatten.Perm line
  nonempty : [] ∉ groups
  ordered : groups.flatten.Pairwise fun first second =>
    first.region.x ≤ second.region.x

/-- A token starts more than the gap after the end of an earlier one. -/
def StartsPast (gap : Rat) (earlier later : VisualToken) : Prop :=
  gap < gapAfter earlier later

/-- The horizontal spans overlap or lie within the gap of each other. -/
def LieWithin (gap : Rat) (first second : VisualToken) : Prop :=
  gapAfter first second ≤ gap ∧ gapAfter second first ≤ gap

/-- From left to right, a token that starts more than the gap after the end of
the token just before it does so after the end of every token before it. -/
def ReachesKept (gap : Rat) (line : List VisualToken) : Prop :=
  IsClear (StartsPast gap) (leftToRight line)

theorem StartsPast.carried {gap : Rat} {first second third : VisualToken}
    (past : StartsPast gap first second)
    (follows : second.region.x ≤ third.region.x) :
    StartsPast gap first third := by
  have further : (second.region.x : Rat) ≤ third.region.x := by
    exact_mod_cast follows
  exact lt_of_lt_of_le past (sub_le_sub_right further _)

theorem partitions_of_grouped {line : List VisualToken}
    {joins : VisualToken → VisualToken → Bool}
    {groups : List (List VisualToken)}
    (grouped : Grouped joins (leftToRight line) groups) :
    Partitions line groups where
  tokens := by
    rw [grouped.flatten]
    exact leftToRight_perm line
  nonempty := grouped.nil_notMem
  ordered := by
    rw [grouped.flatten]
    exact leftToRight_ordered line

theorem tokenGroups_grouped {grounder : VisionGrounder}
    {policy : VisionGroundingPolicy} (configured : grounder.policy = some policy)
    (line : List VisualToken) (medianHeight : Rat) :
    ∃ joins groups, grounder.tokenGroups line medianHeight = .ok groups ∧
      Grouped joins (leftToRight line) groups ∧
      ∀ first second, joins first second = false ↔
        StartsPast (grounder.maximumGap policy medianHeight) first second := by
  refine ⟨fun previous token => !decide
    (grounder.maximumGap policy medianHeight < gapAfter previous token),
    _, ?_, Grouped.run _, ?_⟩
  · simp [tokenGroups, requiredPolicy_of_policy configured, bind, Except.bind,
      pure, Except.pure]
  · intro first second
    simp [StartsPast]

/-- Between tokens in order, lying within a gap that is not negative means
not starting past it. -/
theorem lieWithin_iff {gap : Rat} {first second : VisualToken}
    (natural : 0 ≤ gap) (follows : first.region.x ≤ second.region.x) :
    LieWithin gap first second ↔ ¬ StartsPast gap first second := by
  have inOrder : (first.region.x : Rat) ≤ second.region.right := by
    exact_mod_cast follows.trans (Nat.le_add_right _ _)
  have backwards : gapAfter second first ≤ gap :=
    (sub_nonpos.mpr inOrder).trans natural
  constructor
  · intro near past
    exact absurd near.1 (not_le.mpr past)
  · intro kept
    exact ⟨not_lt.mp kept, backwards⟩

/-- In groups that stand from left to right, the two ways of being apart
agree. -/
theorem areApart_startsPast_iff {gap : Rat} {groups : List (List VisualToken)}
    (natural : 0 ≤ gap)
    (ordered : groups.flatten.Pairwise fun first second =>
      first.region.x ≤ second.region.x) :
    AreApart (StartsPast gap) groups ↔
      AreApart (fun first second => ¬ LieWithin gap first second) groups := by
  have inOrder := (List.pairwise_flatten.mp ordered).2
  unfold AreApart
  constructor
  · intro apart
    refine (apart.and inOrder).imp ?_
    intro earlier later both first early second late near
    exact (lieWithin_iff natural (both.2 first early second late)).mp near
      (both.1 first early second late)
  · intro apart
    refine (apart.and inOrder).imp ?_
    intro earlier later both first early second late
    have far : ¬ LieWithin gap first second :=
      both.1 first early second late
    rw [lieWithin_iff natural (both.2 first early second late)] at far
    exact not_not.mp far

/-- `_token_groups` partitions by the gap, in either wording, exactly when no
earlier token reaches over a cut. -/
theorem tokenGroups_separates_iff {grounder : VisionGrounder}
    {policy : VisionGroundingPolicy} (configured : grounder.policy = some policy)
    (line : List VisualToken) (medianHeight : Rat) :
    ∃ groups, grounder.tokenGroups line medianHeight = .ok groups ∧
      (Partitions line groups ∧
          AreApart (StartsPast (grounder.maximumGap policy medianHeight))
            groups ↔
        ReachesKept (grounder.maximumGap policy medianHeight) line) ∧
      (0 ≤ grounder.maximumGap policy medianHeight →
        (Partitions line groups ∧
            AreApart (fun first second => ¬ LieWithin
              (grounder.maximumGap policy medianHeight) first second) groups ↔
          ReachesKept (grounder.maximumGap policy medianHeight) line)) := by
  obtain ⟨joins, groups, formed, grouped, cut⟩ :=
    tokenGroups_grouped configured line medianHeight
  have partitions := partitions_of_grouped grouped
  have exact : AreApart
      (StartsPast (grounder.maximumGap policy medianHeight)) groups ↔
        ReachesKept (grounder.maximumGap policy medianHeight) line := by
    apply grouped.areApart_iff (leftToRight_ordered line) cut
    intro first second third past follows
    exact past.carried follows
  refine ⟨groups, formed, ?_, ?_⟩
  · rw [← exact]
    exact and_iff_right partitions
  · intro natural
    rw [← exact, areApart_startsPast_iff natural partitions.ordered]
    exact and_iff_right partitions

/-! ## A narrow token inside a wide one -/

namespace Sample

def policy : VisionGroundingPolicy where
  phrases := { maximumLineGapInTextHeights := 3 / 2 }
  association := {
    minimumAxisOverlapRatio := 1 / 2
    maximumFollowingGapInTextHeights := 8
    rowToleranceInTextHeights := 3 / 4 }

/-- A grounder whose products are doubles as they are. -/
def grounder : VisionGrounder where
  policy := some policy
  rounded := id

def token (text : String) (region : ScreenRegion)
    (present : text ≠ "" := by decide) : VisualToken where
  text := text
  confidence := 99 / 100
  region := region
  normalized := ⟨present, by decide +kernel, by decide +kernel⟩

theorem box_positive : 0 < 100 ∧ 0 < 20 := by decide

/-- `1,420` was recognised inside the wide `USD 1,420.57`. -/
def wide : VisualToken :=
  token "USD 1,420.57" ⟨0, 0, 100, 20, box_positive⟩

def nested : VisualToken := token "1,420" ⟨10, 0, 10, 20, by decide⟩

def tail : VisualToken := token ".57" ⟨60, 0, 10, 20, by decide⟩

end Sample

theorem tokenGroups_separates_nested :
    ∃ groups, Sample.grounder.tokenGroups
        [Sample.wide, Sample.nested] 20 = .ok groups ∧
      (Partitions [Sample.wide, Sample.nested] groups ∧
          AreApart (StartsPast (Sample.grounder.maximumGap Sample.policy 20))
            groups ↔
        ReachesKept (Sample.grounder.maximumGap Sample.policy 20)
          [Sample.wide, Sample.nested]) := by
  obtain ⟨groups, formed, exact, _⟩ :=
    @tokenGroups_separates_iff Sample.grounder Sample.policy rfl
      [Sample.wide, Sample.nested] 20
  exact ⟨groups, formed, exact⟩

/-- The last token overlaps the widest one and is put in another group. -/
theorem tokenGroups_splits_nested :
    ¬ ∃ groups, Sample.grounder.tokenGroups
        [Sample.wide, Sample.nested, Sample.tail] 20 = .ok groups ∧
      Partitions [Sample.wide, Sample.nested, Sample.tail] groups ∧
      AreApart (fun first second => ¬ LieWithin
        (Sample.grounder.maximumGap Sample.policy 20) first second) groups := by
  have formed : Sample.grounder.tokenGroups
      [Sample.wide, Sample.nested, Sample.tail] 20 =
        .ok [[Sample.wide, Sample.nested], [Sample.tail]] := by
    decide +kernel
  have near : LieWithin (Sample.grounder.maximumGap Sample.policy 20)
      Sample.wide Sample.tail := by
    constructor <;> decide +kernel
  intro ⟨groups, result, _, apart⟩
  rw [formed, Except.ok.injEq] at result
  subst result
  have far := List.pairwise_cons.mp apart
  exact far.1 [Sample.tail] (by simp) Sample.wide (by simp)
    Sample.tail (by simp) near

end VisionGrounder

end ReplayForge
