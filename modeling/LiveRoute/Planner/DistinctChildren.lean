import LiveRoute.Library.Sorting
import LiveRoute.Planner.Switches
import Mathlib.Data.List.Pairwise

/-! Children of one depth stand for distinct decision sequences: the parents
do, the activities differ in their ordinals, and the alternatives of one
activity differ in their starts. The comparison of children therefore tells
all of them apart. -/
namespace LiveRoute.Planner
open CheckedInt Sequence Domain Search EarlyExit List
open SearchContext (childBefore expandParent nextBeam)

variable {state : SearchState} {input : BeamSearchInput} {planning : PlanningActivity}
  {arrival : Int} {beam : List BeamScratchCandidate}

abbrev ScoreOrder := List Nat ×ₗ Intᵒᵈ ×ₗ TieOrder
abbrev PartialOrderKey := ScoreOrder ×ₗ List DecisionOrder

/-- Scores by the tuple that compares them; more utility comes first. -/
def CandidateScore.order (score : CandidateScore) : ScoreOrder :=
  toLex (score.skipsByPriority, toLex (OrderDual.toDual score.scheduledUtility, score.tieOrder))

theorem isBetterComplete_eq : isBetterComplete left right = decide (left.order < right.order) := by
  rw [Bool.eq_iff_iff, isBetterComplete_iff, decide_eq_true_iff, CandidateScore.order,
    CandidateScore.order, Prod.Lex.toLex_lt_toLex, Prod.Lex.toLex_lt_toLex]
  rfl

def CandidateScore.partialOrder (score : CandidateScore) (decisions : List ExpansionDecision) :
    PartialOrderKey :=
  toLex (score.order, decisions.map ExpansionDecision.order)

theorem isBetterPartial_eq : isBetterPartial left leftDecisions right rightDecisions =
      decide (left.partialOrder leftDecisions < right.partialOrder rightDecisions) := by
  unfold isBetterPartial CandidateScore.partialOrder
  rw [Bool.eq_iff_iff, decide_eq_true_iff, Prod.Lex.toLex_lt_toLex]
  simp only [isBetterComplete_eq]
  rcases lt_trichotomy left.order right.order with hlt | heq | hgt
  · simp [hlt]
  · simp [heq]
  · simp [hgt, hgt.not_gt, hgt.ne']

theorem expansionDecision_order_injective : Function.Injective ExpansionDecision.order := by
  rintro ⟨ordinal, decision, start, finish⟩ ⟨ordinal', decision', start', finish'⟩ h
  simpa [ExpansionDecision.order] using h

theorem childBefore_strictWeak (pathNodes : List BeamPathNode) :
    StrictWeak (childBefore pathNodes) := by
  constructor
  · intro left right h
    simp only [childBefore, isBetterPartial_eq, decide_eq_true_iff,
      decide_eq_false_iff_not, not_lt] at h ⊢
    exact h.le
  · intro first second third hfirst hsecond
    simp only [childBefore, isBetterPartial_eq, decide_eq_false_iff_not, not_lt] at hfirst hsecond ⊢
    exact hsecond.trans hfirst

theorem childBefore_total
    (h : reconstructDecisions pathNodes left ≠ reconstructDecisions pathNodes right) :
    childBefore pathNodes left right ∨ childBefore pathNodes right left := by
  simp only [childBefore, isBetterPartial_eq, decide_eq_true_iff]
  refine lt_or_gt_of_ne fun hequal => h ?_
  have hdecs := congrArg (fun key => (ofLex key).2) hequal
  exact expansionDecision_order_injective.list_map hdecs

theorem alternativeBefore_strictWeak : StrictWeak alternativeBefore := by
  constructor
  · intro left right h
    unfold alternativeBefore at h ⊢
    grind
  · intro first second third hfirst hsecond
    unfold alternativeBefore at hfirst hsecond ⊢
    grind

theorem mem_rawAlternatives_cases (h : alternative ∈ rawAlternatives input planning arrival) :
    (∃ window start, alternative ∈ addGeneratedInterval input planning arrival window start) ∨
      alternative ∈ addExactCurrentPlan input planning arrival := by
  unfold rawAlternatives at h
  split at h
  · exact .inr h
  split at h
  · rcases mem_append.mp h with hwin | hexact
    · obtain ⟨window, -, hmem⟩ := mem_flatMap.mp hwin
      rcases mem_windowIntervals.mp hmem with hearliest | hcur
      · exact .inl ⟨_, _, hearliest⟩
      · obtain ⟨_, -, -, -, -, -, -, -, hgen⟩ := mem_currentStartInterval.mp hcur
        exact .inl ⟨_, _, hgen⟩
    · split at hexact
      · exact .inr hexact
      · cases hexact
  · cases h

theorem rawAlternatives_finish (hvalid : planning.isValid)
    (hleft : left ∈ rawAlternatives input planning arrival)
    (hright : right ∈ rawAlternatives input planning arrival) (hstart : left.start = right.start) :
    left.finish = right.finish := by
  have hoffersLeft := offers_of_mem_rawAlternatives hleft
  have hoffersRight := offers_of_mem_rawAlternatives hright
  have hseg : planning.currentPlanSegment.isValid := by
    simp only [PlanningActivity.isValid, Bool.and_eq_true] at hvalid
    exact hvalid.2
  cases hstate : planning.currentPlanSegment.state with
  | scheduled =>
    -- both keep the duration of the current plan
    unfold CurrentPlanSegment.isValid at hseg
    cases hcur : planning.currentPlanSegment.scheduledStart with
    | none => simp [hstate, hcur] at hseg
    | some =>
      cases hend : planning.currentPlanSegment.scheduledEnd with
      | none => simp [hstate, hcur, hend] at hseg
      | some =>
        have hfirst := hoffersLeft.baseline hstate _ _ hcur hend
        have hsecond := hoffersRight.baseline hstate _ _ hcur hend
        omega
  | omitted =>
    -- both are generated, with the one preferred duration
    have hgen : ∀ alternative ∈ rawAlternatives input planning arrival,
        ∃ duration, generatedDuration planning = some duration ∧
          alternative.finish = alternative.start + duration := by
      intro alternative hmem
      rcases mem_rawAlternatives_cases hmem with ⟨window, start, hmem⟩ | hmem
      · obtain ⟨-, duration, hdur, -, -, rfl⟩ := mem_addGeneratedInterval.mp hmem
        exact ⟨duration, hdur, rfl⟩
      · obtain ⟨_, _, ⟨hsched, -⟩, -, -⟩ := mem_addExactCurrentPlan.mp hmem
        rw [hstate] at hsched
        cases hsched
    obtain ⟨duration, hdur, hfirst⟩ := hgen left hleft
    obtain ⟨duration', hdur', hsecond⟩ := hgen right hright
    cases hdur.symm.trans hdur'
    omega

theorem keptAlternatives_ascending (hvalid : planning.isValid) : (uniqueAdjacent sameAlternative
        (sortBy alternativeBefore (rawAlternatives input planning arrival))).Pairwise
      fun left right => left.start < right.start := by
  refine uniqueAdjacent_ascending ?_ ?_
  · intro left hleft right hright hstart
    rw [mem_sortBy] at hleft hright
    have hoffersLeft := offers_of_mem_rawAlternatives hleft
    have hoffersRight := offers_of_mem_rawAlternatives hright
    simp [sameAlternative, hoffersLeft.kind, hoffersRight.kind, hoffersLeft.ordinal,
      hoffersRight.ordinal, hstart, rawAlternatives_finish hvalid hleft hright hstart]
  · refine (inOrder_sortBy alternativeBefore_strictWeak).imp ?_
    intro left right hbefore
    by_contra hlt
    simp only [alternativeBefore] at hbefore
    grind

theorem generatedDecisions_nodup (arrival : Int) (validateInput : Bool) :
    ((generateCandidateAlternativesImpl input planning arrival validateInput).map
      expansionDecision).Nodup := by
  unfold generateCandidateAlternativesImpl
  split
  · exact nodup_nil
  rename_i hvalid
  have hplan : planning.isValid := by
    cases hplan : planning.isValid with
    | true => rfl
    | false => simp [hplan] at hvalid
  rw [map_append, nodup_append]
  refine ⟨?_, ?_, ?_⟩
  · refine pairwise_map.mpr ((keptAlternatives_ascending hplan).imp ?_)
    intro left right hlt hsame
    have hstart : left.start = right.start := congrArg ExpansionDecision.startUnixMs hsame
    omega
  · split <;> simp
  · intro kept hkept skipped hskip
    obtain ⟨alternative, hmem, rfl⟩ := mem_map.mp hkept
    have hraw := (mem_sortBy ..).mp (uniqueAdjacent_subset _ _ _ hmem)
    have hkind := (offers_of_mem_rawAlternatives hraw).kind
    split at hskip
    · obtain rfl := mem_singleton.mp hskip
      intro hsame
      have hdec := congrArg ExpansionDecision.decision hsame
      simp [expansionDecision, hkind, skipAlternative] at hdec
    · cases hskip

theorem generated_ordinal
    (h : alternative ∈ generateCandidateAlternativesImpl input planning arrival validateInput) :
    (expansionDecision alternative).activityOrdinal = planning.originalTripOrdinal := by
  rcases mem_generateImpl_cases h with hraw | ⟨-, rfl⟩
  · exact (offers_of_mem_rawAlternatives hraw).ordinal
  · rfl

def SearchState.childPaths (state : SearchState) : List (List ExpansionDecision) :=
  state.children.map (reconstructDecisions state.pathNodes)

def Adds (possible : List (List ExpansionDecision)) (state next : SearchState) : Prop :=
  ∃ added, added.Sublist possible ∧ next.childPaths = state.childPaths ++ added

theorem Adds.refl : Adds possible state state := ⟨[], nil_sublist possible, (append_nil _).symm⟩

theorem Adds.trans {next : SearchState} (hfirst : Adds first state middle)
    (hsecond : Adds second middle next) :
    Adds (first ++ second) state next := by
  obtain ⟨added, hadded, hmiddle⟩ := hfirst
  obtain ⟨more, hmore, hnext⟩ := hsecond
  exact ⟨added ++ more, hadded.append hmore, by rw [hnext, hmiddle, append_assoc]⟩

def activityPaths (context : SearchContext) (path : List ExpansionDecision) (index : Nat) :
    List (List ExpansionDecision) :=
  context.input.remainingActivities[index]?.elim [] fun planning =>
    (generateCandidateAlternativesImpl context.input planning
      (expansionArrival context.input path index) (!context.useValidatedScore)).map
        fun alternative => path ++ [expansionDecision alternative]

def parentPaths (context : SearchContext) (path : List ExpansionDecision) :
    List (List ExpansionDecision) :=
  (SearchContext.activityOrder context.input).flatMap (activityPaths context path)

section RowSearch

variable {context : SearchContext} (hprepared : context.Prepared)
  (hinput : context.input.isValid)
  {start : SearchState} {parent : BeamScratchCandidate} {path : List ExpansionDecision}

theorem childPaths_keep
    (h : SearchInvariant input state) (hparent : Represents input state.pathNodes parent path)
    (hscore : scoreCandidate input (path ++ [decision]) = some score) :
    (state.keep input parent decision score).childPaths =
      state.childPaths ++ [path ++ [decision]] := by
  have hgrow : state.pathNodes <+: (state.keep input parent decision score).pathNodes :=
    grows_keep.pathNodes
  have hold : ∀ child ∈ state.children,
      reconstructDecisions (state.keep input parent decision score).pathNodes child =
        reconstructDecisions state.pathNodes child := by
    intro child hchild
    obtain ⟨childPath, hchild⟩ := h.children child hchild
    rw [hchild.reconstruct, (hchild.extend hgrow).reconstruct]
  have hnew := (represents_keep hparent hscore).reconstruct
  unfold SearchState.childPaths
  rw [← map_congr_left hold, ← hnew]
  simp [SearchState.keep]

include hprepared hinput in
theorem tryAlternative_adds (hparent : Represents context.input start.pathNodes parent path)
    (h : Expanding context.input start path state) :
    Ends (Adds [path ++ [expansionDecision alternative]] state) (fun _ => True)
      (context.tryAlternative parent state alternative) := by
  rcases tryAlternative_cases hprepared hinput with
    ⟨hsame, -⟩ | hlimit | ⟨score, hscore, hkept⟩
  · rw [hsame]
    exact Adds.refl
  · rw [hlimit]
    trivial
  · rw [h.working] at hscore
    rw [hkept]
    exact ⟨_, List.Sublist.refl _,
      childPaths_keep h.invariant (hparent.extend h.grows.pathNodes) hscore⟩

include hprepared hinput in
theorem expandActivity_adds (hparent : Represents context.input start.pathNodes parent path)
    (h : Expanding context.input start path state) :
    Ends (Adds (activityPaths context path index) state) (fun _ => True)
      (context.expandActivity parent decided state index) := by
  unfold SearchContext.expandActivity
  split
  · exact Adds.refl
  split
  · trivial
  split
  · trivial
  split
  · trivial
  cases hplan : context.input.remainingActivities[index]? with
  | none => exact Adds.refl
  | some =>
    simp only [activityPaths, hplan, Option.elim_some, h.arrival hprepared hinput]
    refine (Ends.foldlM (fun handled next => Expanding context.input start path next ∧
      Adds (handled.map fun alternative => path ++ [expansionDecision alternative]) state
        next) ⟨h.counted, Adds.refl⟩ ?_).mono (fun _ h => h.2) fun _ (_ : True) => trivial
    rintro handled alternative next - ⟨hexp, hadds⟩
    refine ((tryAlternative_ends hprepared hinput hparent hexp).and
      (tryAlternative_adds hprepared hinput hparent hexp)).mono ?_ fun _ _ => trivial
    rintro final ⟨⟨hfinal, -, -⟩, hadded⟩
    rw [map_append]
    exact ⟨hfinal, hadds.trans hadded⟩

include hprepared hinput in
theorem expandParent_adds (h : DepthState context.input start state)
    (hparent : Represents context.input start.pathNodes parent path) :
    Ends (Adds (parentPaths context path) state) (fun _ => True)
      (context.expandParent state parent) := by
  have hreach := hparent.extend h.grows.pathNodes
  unfold expandParent
  simp only [hreach.reconstruct]
  split
  · trivial
  refine (Ends.foldlM (fun handled next => Expanding context.input state path next ∧
    Adds (handled.flatMap (activityPaths context path)) state next)
      ⟨h.invariant.expanding, Adds.refl⟩ ?_).mono (fun _ h => h.2) fun _ (_ : True) => trivial
  rintro handled index next - ⟨hexp, hadds⟩
  refine ((expandActivity_ends hprepared hinput hreach hexp).and
    (expandActivity_adds hprepared hinput hreach hexp)).mono ?_ fun _ _ => trivial
  rintro final ⟨⟨hfinal, -, -⟩, hadded⟩
  rw [flatMap_append, flatMap_singleton]
  exact ⟨hfinal, hadds.trans hadded⟩

include hprepared hinput in
theorem expandBeam_adds
    (hbeam : ∀ candidate ∈ beam, ∃ path, Represents context.input start.pathNodes candidate path)
    (hstart : SearchInvariant context.input start) : Ends (Adds (beam.flatMap fun parent =>
        parentPaths context (reconstructDecisions start.pathNodes parent)) start)
      (fun _ => True) (beam.foldlM context.expandParent start) := by
  refine (Ends.foldlM (fun handled next => DepthState context.input start next ∧
    Adds (handled.flatMap fun parent =>
      parentPaths context (reconstructDecisions start.pathNodes parent)) start next) ⟨⟨hstart,
        Grows.refl⟩, Adds.refl⟩ ?_).mono (fun _ h => h.2) fun _ (_ : True) => trivial
  rintro handled parent next hmem ⟨hdepth, hadds⟩
  obtain ⟨path, hpath⟩ := hbeam parent hmem
  refine ((expandParent_ends hprepared hinput hdepth hpath).and
    (expandParent_adds hprepared hinput hdepth hpath)).mono ?_ fun _ _ => trivial
  rintro final ⟨⟨hfinal, -, -⟩, hadded⟩
  rw [flatMap_append, flatMap_singleton, hpath.reconstruct]
  exact ⟨hfinal, hadds.trans hadded⟩

end RowSearch

section Distinct

variable {context : SearchContext} (hinput : context.input.isValid)

theorem mem_activityPaths (h : extended ∈ activityPaths context path index) :
    ∃ planning decision, context.input.remainingActivities[index]? = some planning ∧
      decision.activityOrdinal = planning.originalTripOrdinal ∧ extended = path ++ [decision] := by
  unfold activityPaths at h
  cases hplan : context.input.remainingActivities[index]? with
  | none => simp [hplan] at h
  | some planning =>
    simp only [hplan, Option.elim_some, mem_map] at h
    obtain ⟨alternative, hmem, rfl⟩ := h
    exact ⟨planning, _, rfl, generated_ordinal hmem, rfl⟩

theorem mem_parentPaths (h : extended ∈ parentPaths context path) : extended.dropLast = path := by
  obtain ⟨index, -, hmem⟩ := mem_flatMap.mp h
  obtain ⟨_, -, -, -, rfl⟩ := mem_activityPaths hmem
  exact dropLast_concat

theorem activityPaths_nodup : (activityPaths context path index).Nodup := by
  unfold activityPaths
  cases context.input.remainingActivities[index]? with
  | none => exact nodup_nil
  | some planning =>
    have hdist := @generatedDecisions_nodup context.input planning
      (expansionArrival context.input path index) (!context.useValidatedScore)
    have hextend : Function.Injective fun decision : ExpansionDecision => path ++ [decision] := by
      intro left right h
      simpa using h
    simpa [map_map, Function.comp_def] using hdist.map hextend

include hinput in
theorem parentPaths_nodup : (parentPaths context path).Nodup := by
  have horder : (SearchContext.activityOrder context.input).Nodup :=
    (sortBy_perm _ _).nodup_iff.mpr nodup_range
  refine nodup_flatMap.mpr ⟨fun index _ => activityPaths_nodup, ?_⟩
  refine horder.imp ?_
  intro index other hne extended hleft hright
  obtain ⟨planning, decision, hplan, hord, rfl⟩ := mem_activityPaths hleft
  obtain ⟨otherPlanning, otherDecision, hother, hotherOrdinal, hsame⟩ := mem_activityPaths hright
  obtain rfl : decision = otherDecision := by simpa using hsame
  exact hne (ordinal_injective hinput hplan hother (hord.symm.trans hotherOrdinal))

include hinput in
theorem beamPaths_nodup (h : (beam.map (reconstructDecisions pathNodes)).Nodup) :
    (beam.flatMap fun parent =>
      parentPaths context (reconstructDecisions pathNodes parent)).Nodup := by
  refine nodup_flatMap.mpr ⟨fun parent _ => parentPaths_nodup hinput, ?_⟩
  refine (pairwise_map.mp h).imp ?_
  intro left right hne extended hleft hright
  exact hne ((mem_parentPaths hleft).symm.trans (mem_parentPaths hright))

def ChildrenApart (state : SearchState) : Prop := state.children.Pairwise fun left right =>
    SearchContext.childBefore state.pathNodes left right ∨
      SearchContext.childBefore state.pathNodes right left

theorem ChildrenApart.tellsApart (h : ChildrenApart state) :
    TellsApart (childBefore state.pathNodes) state.children := by
  have hsymm : Std.Symm fun left right : BeamScratchCandidate =>
      childBefore state.pathNodes left right ∨
        childBefore state.pathNodes right left := ⟨fun _ _ => Or.symm⟩
  exact fun left hleft right hright hne => List.Pairwise.forall h hleft hright hne

theorem nextBeam_nodup (h : state.childPaths.Nodup) :
    ((context.nextBeam state).map (reconstructDecisions state.pathNodes)).Nodup := by
  have hsorted : ((sortBy (childBefore state.pathNodes) state.children).map
      (reconstructDecisions state.pathNodes)).Nodup :=
    ((sortBy_perm _ _).map _).nodup_iff.mpr h
  unfold nextBeam
  split
  · exact hsorted.sublist ((take_sublist _ _).map _)
  · exact hsorted

include hinput in
theorem expanded_nodup (hprepared : context.Prepared)
    (hmem : ∀ candidate ∈ beam, ∃ path, Represents context.input state.pathNodes candidate path)
    (hstart : SearchInvariant context.input state) (hnone : state.children = [])
    (hdist : (beam.map (reconstructDecisions state.pathNodes)).Nodup)
    (h : beam.foldlM context.expandParent state = .ok expanded) : expanded.childPaths.Nodup := by
  have hadds := expandBeam_adds hprepared hinput hmem hstart
  rw [h] at hadds
  obtain ⟨added, hsublist, hpaths⟩ := hadds
  have hempty : state.childPaths = [] := by rw [SearchState.childPaths, hnone, map_nil]
  rw [hpaths, hempty]
  exact (beamPaths_nodup hinput hdist).sublist hsublist

end Distinct

end LiveRoute.Planner
