import RuleGrammar.Action.Run
import RuleGrammar.Action.Stock
import RuleGrammar.Proofs.Action.PostOrder
import RuleGrammar.Proofs.MatchTree.Views
import RuleGrammar.Proofs.Matcher.Limits
import RuleGrammar.Proofs.Matcher.Placement

/-! Sharing nodes does not change what actions compute. Callbacks that decide from a node and the
payloads below it leave at every node what the tree says in which every capture stands for itself,
so trees that share differently get the same payloads, or end in the same fault.
-/

namespace RuleGrammar

-----------------------------------------------------------------------------------------
-- Deciding from below
-----------------------------------------------------------------------------------------

/-- A way to decide what a node gets: from the node without identities and the payloads of what it
captured, it is given a payload, none, or a fault.
-/
abbrev Decision := Match → List (Option Value) → Except ActionFault (Option Value)

/-- A callback does what was decided: it leaves the node as it is, leaves a payload at it, or fails.
-/
inductive CarriesOut (subject : Subject) (m : Match) (s : ActionState) (callback : Callback)
    : Except ActionFault (Option Value) → Prop
  | nothing (ran : callback subject m s = .ok () s) : CarriesOut subject m s callback (.ok none)
  | leaves {value} (ran : callback subject m s = make subject m value s)
    : CarriesOut subject m s callback (.ok (some value))
  | fails {fault t} (ran : callback subject m s = .error fault t)
    : CarriesOut subject m s callback (.error fault)

/-- The callbacks of a table decide from the node that they are called for and from the payloads of
what it captured, as long as the node has no payload yet. Whatever else there is makes no difference
to them.
-/
def ActionTable.DecidesBy (table : ActionTable) (subject : Subject) (decision : Decision) : Prop :=
  ∀ m callback,
    table.callbackFor m = some callback
    → ∀ s : ActionState,
        s.payloads.find? m = none
        → CarriesOut subject m s callback
            (decision m.bare (m.captured.map s.payloads.find?))

variable (table : ActionTable) (decision : Decision) in
/-- What a tree gets if every capture stands for itself: its children are asked from left to right,
the first fault counts, and then the node decides.
-/
def unfoldedPayload (m : Match) : Except ActionFault (Option Value) := do
  let _ ← m.children.attach.mapM fun child => unfoldedPayload child.1
  if (table.callbackFor m).isSome then
    decision m.bare (m.captured.attach.map fun child => (unfoldedPayload child.1).toOption.join)
  else return none
termination_by sizeOf m
decreasing_by
  · exact Match.sizeOf_lt_of_mem_children child.2
  · exact Match.sizeOf_lt_of_mem_children (Match.mem_children.mpr child.2)

variable {subject : Subject} {table : ActionTable} {decision : Decision} {root m n : Match}
  {visited nodes : List Match} {s : ActionState}

theorem unfoldedPayload_eq (m : Match)
    : unfoldedPayload table decision m
      = (do
          let _ ← m.children.mapM (unfoldedPayload table decision)
          if (table.callbackFor m).isSome then
            decision m.bare
              (m.captured.map fun child => (unfoldedPayload table decision child).toOption.join)
          else return none) := by
  rw [unfoldedPayload]
  simp [List.mapM_subtype]

theorem mapM_congr_forall₂ {α β γ : Type} {f : α → Except γ β} {relation : α → α → Prop}
    {items items' : List α} (alike : List.Forall₂ relation items items')
    (same : ∀ a b, relation a b → f a = f b)
    : items.mapM f = items'.mapM f := by
  induction alike with
  | nil => rfl
  | cons first _ ih => rw [List.mapM_cons, List.mapM_cons, same _ _ first, ih]

theorem ActionTable.callbackFor_bare (m : Match)
    : table.callbackFor m.bare = table.callbackFor m := by
  simp [callbackFor]

/-- Trees that are bare the same get the same if every capture stands for itself, by induction on
trees.
-/
theorem unfoldedPayload_congr {m n : Match} (same : m.bare = n.bare)
    : unfoldedPayload table decision m = unfoldedPayload table decision n := by
  have belongs : table.callbackFor m = table.callbackFor n := by
    rw [← ActionTable.callbackFor_bare, same, ActionTable.callbackFor_bare]
  have each (a b : Match) (corresponds : m.Corresponds a b)
      : unfoldedPayload table decision a = unfoldedPayload table decision b := by
    have smaller := Match.sizeOf_lt_of_mem_children corresponds.1
    exact unfoldedPayload_congr corresponds.2
  have payloads
      : (m.captured.map fun child => (unfoldedPayload table decision child).toOption.join)
        = n.captured.map fun child => (unfoldedPayload table decision child).toOption.join := by
    rw [← List.forall₂_eq_eq_eq, List.forall₂_map_left_iff, List.forall₂_map_right_iff]
    exact (Match.forall₂_captured same).imp fun a b corresponds => by rw [each a b corresponds]
  rw [unfoldedPayload_eq m, unfoldedPayload_eq n, belongs, same, payloads,
    mapM_congr_forall₂ (Match.forall₂_children same) each]
termination_by sizeOf m

-----------------------------------------------------------------------------------------
-- Dispatch over a tree that shares nodes
-----------------------------------------------------------------------------------------

variable (table decision root) in
/-- The nodes visited so far have what they get if every capture stands for itself, and no other
node of the tree has a payload.
-/
structure PaidSoFar (visited : List Match) (p : Payloads) : Prop where
  paid : ∀ n ∈ visited, unfoldedPayload table decision n = .ok (p.find? n)
  free : ∀ n ∈ root.walk, n ∉ visited → p.find? n = none

variable (subject table decision root) in
/-- Acting on the nodes that are newly visited ends as the unfolded tree says: all of them are paid,
or there is its fault.
-/
inductive ActsAs {α : Type} (visited : List Match) (s : ActionState) (visited' : List Match)
    : Except ActionFault α → Prop
  | done {new a t} (visits : visited' = visited ++ new)
    (acted : forM new (act subject table) s = .ok () t)
    (paid : PaidSoFar table decision root visited' t.payloads)
    : ActsAs visited s visited' (.ok a)
  | failed {new fault t} (visits : visited' = visited ++ new)
    (acted : forM new (act subject table) s = .error fault t)
    : ActsAs visited s visited' (.error fault)

/-- A node that gets what the unfolded tree says is paid along with those before it. -/
theorem PaidSoFar.push {p q : Payloads} {v : Option Value}
    (paid : PaidSoFar table decision root visited p) (coherent : root.Coherent)
    (inRoot : m ∈ root.walk) (inTree : visited ⊆ root.walk) (new : m ∉ visited)
    (gets : unfoldedPayload table decision m = .ok v) (left : q.find? m = v)
    (others : ∀ n : Match, n.id ≠ m.id → q.find? n = p.find? n)
    : PaidSoFar table decision root (visited ++ [m]) q where
  paid n member := by
    rcases List.mem_append.mp member with earlier | last
    · rw [others n fun same => new (coherent n (inTree earlier) m inRoot same ▸ earlier)]
      exact paid.paid n earlier
    · obtain rfl := List.mem_singleton.mp last
      rw [gets, left]
  free n inRoot' apart := by
    rw [others n fun same => apart ?_]
    · exact paid.free n inRoot' fun earlier => apart (List.mem_append_left [m] earlier)
    · obtain rfl := coherent n inRoot' m inRoot same
      exact List.mem_append_right visited List.mem_cons_self

section Below

variable (paid : PaidSoFar table decision root visited s.payloads) (below : m.children ⊆ visited)

include paid below

/-- What a node captured has, once visited, what it gets if every capture stands for itself. -/
theorem PaidSoFar.captured_eq
    : (m.captured.map fun child => (unfoldedPayload table decision child).toOption.join)
      = m.captured.map s.payloads.find? := by
  refine List.map_congr_left fun child isCaptured => ?_
  rw [paid.paid child (below (Match.mem_children.mpr isCaptured))]
  rfl

/-- Where the children of a node are paid, the node decides from their payloads. -/
theorem PaidSoFar.unfoldedPayload_eq
    : unfoldedPayload table decision m
      = if (table.callbackFor m).isSome then
          decision m.bare (m.captured.map s.payloads.find?)
        else return none := by
  have children : m.children.mapM (unfoldedPayload table decision)
      = .ok (m.children.map s.payloads.find?) := by
    have each child isChild := paid.paid child (below isChild)
    generalize m.children = items at each
    induction items with
    | nil => rfl
    | cons first rest ih =>
        rw [List.mapM_cons, each first List.mem_cons_self,
          ih fun child inRest => each child (List.mem_cons_of_mem first inRest)]
        rfl
  rw [RuleGrammar.unfoldedPayload_eq, children, paid.captured_eq below]
  rfl

end Below

/-- A node whose children are paid is paid as it decides from their payloads, or fails as it
decides.
-/
theorem PaidSoFar.act (coherent : root.Coherent) (decides : table.DecidesBy subject decision)
    (inRoot : m ∈ root.walk) (inTree : visited ⊆ root.walk) (new : m ∉ visited)
    (below : m.children ⊆ visited) (paid : PaidSoFar table decision root visited s.payloads)
    : ActsAs subject table decision root visited s (visited ++ [m])
        (unfoldedPayload table decision m) := by
  have gets := paid.unfoldedPayload_eq below
  have unset := paid.free m inRoot new
  have alone : forM [m] (RuleGrammar.act subject table) = RuleGrammar.act subject table m := by
    rw [List.forM_cons, List.forM_nil, bind_pure]
  cases found : table.callbackFor m with
  | none =>
      rw [gets, found]
      refine .done rfl (by rw [alone, act_of_silent found]; rfl) ?_
      rw [found] at gets
      exact paid.push coherent inRoot inTree new gets unset fun _ _ => rfl
  | some callback =>
      simp only [found, Option.isSome_some, if_true] at gets
      let called : ActionState := { s with called := m :: s.called }
      have unsetStill : called.payloads.find? m = none := unset
      have decided : CarriesOut subject m called callback
          (decision m.bare (m.captured.map s.payloads.find?)) :=
        decides m callback found called unsetStill
      have acts : RuleGrammar.act subject table m s = callback subject m called :=
        act_of_found found s
      rw [← gets] at decided
      generalize result : unfoldedPayload table decision m = ends at decided
      cases decided with
      | nothing ran =>
          exact .done rfl ((congrFun alone s).trans (acts.trans ran))
            (paid.push coherent inRoot inTree new result unset fun _ _ => rfl)
      | leaves ran =>
          exact .done rfl (by rw [alone, acts, ran, make_unset unsetStill])
            (paid.push coherent inRoot inTree new result Payloads.find?_insert_self
              fun _ other => Payloads.find?_insert_of_ne other)
      | fails ran => exact .failed rfl (by rw [alone, acts, ran])

/-- Acting on some nodes as the unfolded tree says, and then on more, by cases on how the first
ended.
-/
theorem ActsAs.bind {α β : Type} {visited' visited'' : List Match} {first : Except ActionFault α}
    {rest : α → Except ActionFault β}
    (acts : ActsAs subject table decision root visited s visited' first)
    (further : visited' <+: visited'')
    (next
      : ∀ a t,
          PaidSoFar table decision root visited' t.payloads
          → ActsAs subject table decision root visited' t visited'' (rest a))
    : ActsAs subject table decision root visited s visited'' (first >>= rest) := by
  cases acts with
  | @failed new fault t visits acted =>
      obtain ⟨more, rfl⟩ := further
      have whole : forM (new ++ more) (RuleGrammar.act subject table) s = .error fault t := by
        rw [List.forM_append]
        simp only [Bind.bind, EStateM.bind, acted]
      exact .failed (by rw [visits, List.append_assoc]) whole
  | @done new a t visits acted paid =>
      have both (more : List Match)
          : forM (new ++ more) (RuleGrammar.act subject table) s
            = forM more (RuleGrammar.act subject table) t := by
        rw [List.forM_append]
        simp only [Bind.bind, EStateM.bind, acted]
      have then_ := next a t paid
      change ActsAs subject table decision root visited s visited'' (rest a)
      generalize rest a = ends at then_
      cases then_ with
      | @done more b u visits' acted' paid' =>
          exact .done (by rw [visits', visits, List.append_assoc])
            ((both more).trans acted') paid'
      | @failed more fault u visits' acted' =>
          exact .failed (by rw [visits', visits, List.append_assoc]) ((both more).trans acted')

/-- Nodes that are acted on as the unfolded tree says one by one are so one after the other, by
induction on them.
-/
theorem actsAs_all (coherent : root.Coherent) (inRoot : nodes ⊆ root.walk)
    (each
      : ∀ m ∈ nodes, ∀ visited s,
          Match.Visited root visited
          → PaidSoFar table decision root visited s.payloads
          → ActsAs subject table decision root visited s (m.visit visited)
              (unfoldedPayload table decision m))
    (before : Match.Visited root visited)
    (paid : PaidSoFar table decision root visited s.payloads)
    : ActsAs subject table decision root visited s (nodes.foldl Match.visit visited)
        (nodes.mapM (unfoldedPayload table decision)) := by
  induction nodes generalizing visited s with
  | nil => exact .done (List.append_nil visited).symm rfl paid
  | cons m rest ih =>
      obtain ⟨mInRoot, restInRoot⟩ := List.cons_subset.mp inRoot
      have passed := Match.passed_visit coherent mInRoot before
      have passedRest : Match.Passed root (m.visit visited) rest
          (rest.foldl Match.visit (m.visit visited)) :=
        .all_of_each (fun k inRest _ between =>
          Match.passed_visit coherent (restInRoot inRest) between) passed.valid
      rw [List.mapM_cons, List.foldl_cons]
      refine (each m List.mem_cons_self visited s before paid).bind passedRest.kept
        fun v t paidFirst => ?_
      have then_ := ih restInRoot (fun k inRest => each k (List.mem_cons_of_mem m inRest))
        passed.valid paidFirst
      exact then_.bind (List.prefix_refl _) fun vs u paidAll =>
        .done (List.append_nil _).symm rfl paidAll

variable (subject table decision) in
/-- A node is visited with what the unfolded tree says, by induction on its tree: where it was
visited before, that is what it has.
-/
theorem actsAs_visit {m : Match} {visited : List Match} {s : ActionState}
    (coherent : root.Coherent) (decides : table.DecidesBy subject decision)
    (inRoot : m ∈ root.walk) (before : Match.Visited root visited)
    (paid : PaidSoFar table decision root visited s.payloads)
    : ActsAs subject table decision root visited s (m.visit visited)
        (unfoldedPayload table decision m) := by
  have visitedIff := Match.Visited.any_id_iff coherent before.inTree inRoot
  rw [Match.visit_eq]
  by_cases known : visited.any (·.id = m.id) = true
  · rw [if_pos known, paid.paid m (visitedIff.mp known)]
    exact .done (List.append_nil visited).symm rfl paid
  · rw [if_neg known]
    have new : m ∉ visited := fun member => known (visitedIff.mpr member)
    have inside : m.children ⊆ root.walk := fun child isChild =>
      Match.walk_subset inRoot (Match.walk_subset_of_mem_children isChild child.mem_walk_self)
    have passed : Match.Passed root visited m.children (m.children.foldl Match.visit visited) :=
      .all_of_each (fun child isChild _ between =>
        Match.passed_visit coherent (inside isChild) between) before
    have newStill : m ∉ m.children.foldl Match.visit visited := passed.not_mem new
    rw [unfoldedPayload_eq]
    refine (actsAs_all coherent inside (fun child isChild visited s between paid => ?_) before
      paid).bind (List.prefix_append _ _) fun _ t paidBelow => ?_
    · have smaller := Match.sizeOf_lt_of_mem_children isChild
      exact actsAs_visit coherent decides (inside isChild) between paid
    · have acts := paidBelow.act coherent decides inRoot passed.valid.inTree newStill passed.all
      rw [paidBelow.unfoldedPayload_eq passed.all] at acts
      rw [paidBelow.captured_eq passed.all]
      exact acts
termination_by sizeOf m

/-- Dispatches over corresponding trees that end alike: with equal payloads at corresponding nodes,
or in one fault.
-/
inductive ActedAlike (root root' : Match)
    : EStateM.Result ActionFault ActionState Unit
      → EStateM.Result ActionFault ActionState Unit
      → Prop
  | done {s t}
    (same
      : List.Forall₂
          (fun m n => m.bare = n.bare ∧ s.payloads.find? m = t.payloads.find? n)
          root.walk root'.walk)
    : ActedAlike root root' (.ok () s) (.ok () t)
  | failed {fault s t} : ActedAlike root root' (.error fault s) (.error fault t)

/-- Dispatch over trees that are bare the same ends alike, however they share nodes: both end as the
unfolded tree says.
-/
theorem applyActions_alike {root' : Match} (coherent : root.Coherent) (coherent' : root'.Coherent)
    (decides : table.DecidesBy subject decision) (same : root.bare = root'.bare)
    : ActedAlike root root' (applyActions subject table root {})
        (applyActions subject table root' {}) := by
  have free (tree : Match)
      : PaidSoFar table decision tree [] ({} : ActionState).payloads :=
    ⟨by simp, fun n _ _ => Payloads.find?_empty n⟩
  have acts := actsAs_visit subject table decision coherent decides root.mem_walk_self .nil
    (free root)
  have acts' := actsAs_visit subject table decision coherent' decides root'.mem_walk_self .nil
    (free root')
  rw [applyActions_eq_postOrder coherent, applyActions_eq_postOrder coherent']
  rw [← unfoldedPayload_congr same] at acts'
  generalize unfoldedPayload table decision root = ends at acts acts'
  cases acts with
  | failed visits acted =>
      cases acts' with
      | failed visits' acted' =>
          rw [Match.postOrder, visits, List.nil_append, acted, Match.postOrder, visits',
            List.nil_append, acted']
          exact .failed
  | done visits acted paid =>
      cases acts' with
      | done visits' acted' paid' =>
          rw [Match.postOrder, visits, List.nil_append, acted, Match.postOrder, visits',
            List.nil_append, acted']
          refine .done ?_
          obtain ⟨length, corresponds⟩ := List.forall₂_iff_zip.mp (Match.forall₂_walk same)
          refine List.forall₂_iff_zip.mpr ⟨length, fun {a b} pair => ⟨corresponds pair, ?_⟩⟩
          obtain ⟨inTree, inTree'⟩ := List.of_mem_zip pair
          have left := paid.paid a ((Match.mem_postOrder coherent).mpr inTree)
          have right := paid'.paid b ((Match.mem_postOrder coherent').mpr inTree')
          rw [unfoldedPayload_congr (corresponds pair), right] at left
          exact (Except.ok.inj left).symm

-----------------------------------------------------------------------------------------
-- Runs with and without a memo
-----------------------------------------------------------------------------------------

/-- Runs with actions that end alike: in trees that are bare the same with equal payloads at
corresponding nodes, or in one fault of an action.
-/
inductive ActedRun.Alike (root root' : Match) (left right : ActedRun) : Prop
  | matched (ended : left.outcome = .ok (.matched root))
    (ended' : right.outcome = .ok (.matched root'))
    (same
      : List.Forall₂
          (fun m n =>
            m.bare = n.bare ∧ left.acting.payloads.find? m = right.acting.payloads.find? n)
          root.walk root'.walk)
  | failed {fault} (ended : left.outcome = .error (.acting fault))
    (ended' : right.outcome = .error (.acting fault))

namespace MatchEnv

variable {env : MatchEnv} {start : Name} {pos : Int} {anchored : Bool} {root' : Match}

/-- Runs that match go on with dispatch, and end alike if that does. -/
theorem runWithActions_alike {env' : MatchEnv}
    (matched : (run env start pos anchored).outcome = .ok (.matched root))
    (matched' : (run env' start pos anchored).outcome = .ok (.matched root'))
    (acted
      : ActedAlike root root' (applyActions env.subject table root {})
          (applyActions env'.subject table root' {}))
    : ActedRun.Alike root root' (runWithActions env start pos anchored (some table))
        (runWithActions env' start pos anchored (some table)) := by
  simp only [runWithActions, matched, matched']
  generalize applyActions env.subject table root {} = left at acted
  generalize applyActions env'.subject table root' {} = right at acted
  cases acted with
  | done same => exact .matched rfl rfl same
  | failed => exact .failed rfl rfl

/-- With and without a memo, runs that match find trees that are bare the same: limits do not change
what is found.
-/
theorem bare_eq_of_matched (built : env.grammar.Built)
    (matched : (run (env.withMemo true) start pos anchored).outcome = .ok (.matched root))
    (matched' : (run (env.withMemo false) start pos anchored).outcome = .ok (.matched root'))
    : root.bare = root'.bare := by
  have lift (memoize : Bool) {root : Match}
      (matched : (run (env.withMemo memoize) start pos anchored).outcome = .ok (.matched root))
      : (run (env.lifted.withMemo memoize) start pos anchored).outcome = .ok (.matched root) := by
    rcases run_lifted (env.withMemo memoize) start pos anchored with same | ⟨fault, stopped, -⟩
    · exact same.symm.trans matched
    · rw [matched] at stopped
      cases stopped
  obtain ⟨other, found, same⟩ :=
    exists_matched_withMemo env.lifted built rfl rfl true (lift false matched')
  rw [lift true matched] at found
  cases found
  exact same

/-- Whether nodes are shared makes no difference to actions that decide from a node and the payloads
of what it captured. With and without a memo, runs that match find corresponding trees, and actions
leave equal payloads at corresponding nodes or end in one fault; and where nesting is not limited,
the one run matches if and only if the other does.
-/
theorem runWithActions_memoize (built : env.grammar.Built) (inside : env.subject.Inside pos)
    (decides : table.DecidesBy env.subject decision) (start : Name) (anchored : Bool)
    : (∀ root root',
          (run (env.withMemo true) start pos anchored).outcome = .ok (.matched root)
          → (run (env.withMemo false) start pos anchored).outcome = .ok (.matched root')
          → ActedRun.Alike root root'
              (runWithActions (env.withMemo true) start pos anchored (some table))
              (runWithActions (env.withMemo false) start pos anchored (some table)))
      ∧ (env.config.maxDepth = none
        → env.config.ceiling = none
        → ((∃ root, (run (env.withMemo true) start pos anchored).outcome = .ok (.matched root))
          ↔ ∃ root, (run (env.withMemo false) start pos anchored).outcome
              = .ok (.matched root))) := by
  refine ⟨fun root root' matched matched' => ?_, fun unlimited unbounded => ⟨?_, ?_⟩⟩
  · have inside' memoize : (env.withMemo memoize).subject.Inside pos := inside
    have coherent := coherent_of_run (inside' true) matched
    have coherent' := coherent_of_run (inside' false) matched'
    have same := bare_eq_of_matched built matched matched'
    exact runWithActions_alike matched matched' (applyActions_alike coherent coherent' decides same)
  · rintro ⟨root, matched⟩
    obtain ⟨root', matched', -⟩ :=
      exists_matched_withMemo env built unlimited unbounded false matched
    exact ⟨root', matched'⟩
  · rintro ⟨root, matched⟩
    obtain ⟨root', matched', -⟩ :=
      exists_matched_withMemo env built unlimited unbounded true matched
    exact ⟨root', matched'⟩

/-- A rule that matches nothing. -/
def emptyRule : Rule where
  name := "e"
  expr := .literal ""

/-- A rule that captures an empty match twice. -/
def twinRule : Rule where
  name := "a"
  expr := .sequence [.reference "e" (some "e"), .reference "e" (some "e"), .literal "x"]

/-- A matcher for these rules. If answers are kept, the empty matches are one node. -/
def twin : MatchEnv where
  grammar := ⟨⟨"twin", [("a", .rule twinRule), ("e", .rule emptyRule)]⟩, []⟩
  subject := ⟨#['x']⟩
  config := { ceiling := none }

theorem twin_built : twin.grammar.Built := by
  intro layer member
  obtain rfl := List.mem_singleton.mp member
  have first : Layer.register { name := "twin" } "a" twinRule
      = .ok (twinRule, ⟨"twin", [("a", .rule twinRule)]⟩) := rfl
  have second : Layer.register ⟨"twin", [("a", .rule twinRule)]⟩ "e" emptyRule
      = .ok (emptyRule, twin.grammar.own) := rfl
  exact .registered (.registered (.empty "twin") first) second

/-- Leaves the text of a node below, and the payloads of its children above. -/
def twinTable : ActionTable :=
  ⟨[(("e", none), StockAction.text.callback), (("a", none), StockAction.children.callback)]⟩

/-- What the callbacks of that table decide: payloads are put in the order in which their nodes
start.
-/
def twinDecision (subject : Subject) : Decision := fun m payloads =>
  if m.rule = "e" then .ok (some (.text (m.text subject)))
  else
    let pairs := (m.captured.zip payloads).mergeSort fun a b => decide (a.1.start ≤ b.1.start)
    .ok (some (.list (pairs.map fun pair => pair.2.getD .null)))

theorem madeOfAll_eq (nodes : List Match) (s : ActionState)
    : StockAction.madeOfAll nodes s = .ok (nodes.map s.payloads.made) s := by
  rw [StockAction.madeOfAll]
  induction nodes with
  | nil => rfl
  | cons first rest ih =>
      have made : madeOf first s = .ok (s.payloads.made first) s := rfl
      simp only [List.mapM_cons, bind, EStateM.bind, made, ih]
      rfl

/-- The payloads of the children, told from those of what was captured. -/
theorem made_children (m : Match) (p : Payloads)
    : ((m.bare.captured.zip (m.captured.map p.find?)).mergeSort fun a b =>
          decide (a.1.start ≤ b.1.start)).map (fun pair => pair.2.getD .null)
      = m.children.map p.made := by
  have pairs : m.bare.captured.zip (m.captured.map p.find?)
      = m.captured.map fun child => (child.bare, p.find? child) := by
    rw [Match.captured_bare, List.zip_map']
  have sorted := List.map_mergeSort (l := m.captured)
    (f := fun child => (child.bare, p.find? child))
    (r := fun a b => decide (a.start ≤ b.start)) (s := fun a b => decide (a.1.start ≤ b.1.start))
    fun a _ b _ => by simp
  rw [pairs, ← sorted, List.map_map]
  rfl

theorem twinTable_decides : twinTable.DecidesBy twin.subject (twinDecision twin.subject) := by
  intro m callback found s _
  have ruleOf (name : Name) (key : (name, none) = (m.rule, m.tag)) : m.bare.rule = name :=
    (Match.bare_rule m).trans (Prod.mk.inj key).1.symm
  obtain ⟨row, member, key, rfl⟩ :=
    ActionTable.exists_row_of_lookup (ActionTable.lookup_of_callbackFor found)
  simp only [twinTable, List.mem_cons, List.not_mem_nil, or_false] at member
  rcases member with rfl | rfl
  · rw [twinDecision, if_pos (ruleOf _ key)]
    refine .leaves ?_
    rw [Match.text, Match.bare_start, Match.bare_stop]
    rfl
  · rw [twinDecision, if_neg (by rw [ruleOf _ key]; decide)]
    refine .leaves ?_
    rw [made_children]
    simp only [StockAction.callback, bind, EStateM.bind, madeOfAll_eq]

/-- The empty matches get one payload as a shared node and two as nodes of their own, all the same.
-/
theorem runWithActions_memoize_twin
    : twin.grammar.Built
      ∧ twin.subject.Inside 0
      ∧ twinTable.DecidesBy twin.subject (twinDecision twin.subject)
      ∧ ∃ root root',
          (run (twin.withMemo true) "a" 0 true).outcome = .ok (.matched root)
          ∧ (run (twin.withMemo false) "a" 0 true).outcome = .ok (.matched root')
          ∧ ActedRun.Alike root root'
              (runWithActions (twin.withMemo true) "a" 0 true (some twinTable))
              (runWithActions (twin.withMemo false) "a" 0 true (some twinTable)) := by
  have inside : twin.subject.Inside 0 := ⟨Int.le_refl 0, Int.natCast_nonneg _⟩
  obtain ⟨root, matched⟩
      : ∃ root, (run (twin.withMemo true) "a" 0 true).outcome = .ok (.matched root) := ⟨_, rfl⟩
  obtain ⟨root', matched'⟩
      : ∃ root, (run (twin.withMemo false) "a" 0 true).outcome = .ok (.matched root) := ⟨_, rfl⟩
  have alike := (runWithActions_memoize twin_built inside twinTable_decides "a" true).1
  exact ⟨twin_built, inside, twinTable_decides, root, root', matched, matched',
    alike root root' matched matched'⟩

end MatchEnv

end RuleGrammar
