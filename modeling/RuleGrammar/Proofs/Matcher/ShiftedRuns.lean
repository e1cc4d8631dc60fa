import RuleGrammar.Proofs.Matcher.Confinement
import RuleGrammar.Proofs.Matcher.ShiftedBodies

/-! Matching in the middle of a subject. As long as no rule that a start can reach asks for the
start of the subject, a match from an offset is the match of what is left there, moved to the
offset, and so are the failure and the fault that it may end in instead.
-/

namespace RuleGrammar

/-- No rule that matching can come to from a start asks for the start of the subject. -/
def Grammar.FloatsFrom (g : Grammar) (start : Name) : Prop :=
  ∀ {name entry rule},
    g.Reached start name
    → g.lookup name = some entry
    → rule ∈ entry.rules
    → ¬ (Expr.anchor .inputStart).Part rule.expr

/-- The same matcher over what its subject has left behind so many code points. -/
def MatchEnv.after (env : MatchEnv) (k : Nat) : MatchEnv :=
  { env with subject := env.subject.after k }

variable {g : Grammar} {env : MatchEnv} {k : Nat} {start name : Name} {pos : Int}

-----------------------------------------------------------------------------------------
-- Calls at a distance
-----------------------------------------------------------------------------------------

/-- The better of two answers further ahead is the better one, further ahead. -/
theorem ShiftedMatch.further {best best' next next' : Option Match}
    (sameBest : ShiftedMatch k best best') (sameNext : ShiftedMatch k next next')
    : ShiftedMatch k (furtherMatch best next) (furtherMatch best' next') := by
  cases sameBest with
  | missed => cases sameNext with
    | missed => exact .missed
    | found inside => exact .found inside
  | found inside => cases sameNext with
    | missed => exact .found inside
    | found inside' =>
        simp only [furtherMatch, Match.shift_stop, Int.add_lt_add_iff_right]
        split
        · exact .found inside'
        · exact .found inside

/-- The alternatives of a group are applied alike, by induction on them. -/
theorem dispatch_shift {applyLeft applyRight : Rule → Int → MatchM (Option Match)}
    (alternatives : List Rule) {best best' : Option Match} (sameBest : ShiftedMatch k best best')
    (apply
      : ∀ rule ∈ alternatives,
          (shifting g k).Lockstep (ShiftedMatch k) (applyLeft rule pos)
            (applyRight rule (pos + k)))
    : (shifting g k).Lockstep (ShiftedMatch k) (dispatch applyLeft pos alternatives best)
        (dispatch applyRight (pos + k) alternatives best') := by
  induction alternatives generalizing best best' with
  | nil => exact .pure sameBest
  | cons rule rest ih =>
      obtain ⟨here, later⟩ := List.forall_mem_cons.mp apply
      exact .bind here fun _ _ same => ih (sameBest.further same) later

namespace MatchEnv

/-- A call goes along with the call further ahead where the rules that its name stands for do. -/
theorem callName_shift {applyLeft applyRight : Rule → Int → MatchM (Option Match)}
    (apply
      : ∀ entry,
          env.grammar.lookup name = some entry
          → ∀ rule ∈ entry.rules,
              (shifting env.grammar k).Lockstep (ShiftedMatch k) (applyLeft rule pos)
                (applyRight rule (pos + k)))
    : (shifting env.grammar k).Lockstep (ShiftedMatch k)
        (callName (env.after k) applyLeft name pos) (callName env applyRight name (pos + k)) := by
  refine .bind (shifting_resolveOnce (env.after k) env rfl name) fun entry _ same => ?_
  obtain ⟨rfl, found⟩ := same
  cases entry with
  | rule rule => exact apply _ found rule (by simp [Entry.rules])
  | group group => exact dispatch_shift group.alternatives .missed (apply _ found)

/-- A guard is passed alike: the same rules are in progress, each of them further ahead. -/
theorem guarded_shift {scope : Scope} {rule : Rule} {left right : MatchM (Option Match)}
    (fresh : (shifting env.grammar k).Lockstep (ShiftedMatch k) left right)
    : (shifting env.grammar k).Lockstep (ShiftedMatch k)
        (guarded (env.after k) scope rule pos left)
        (guarded env (scope.shift k) rule (pos + k) right) := by
  have key : Key.mk rule.name rule.tag (pos + k) = Key.shift k ⟨rule.name, rule.tag, pos⟩ := rfl
  unfold guarded
  simp only [key]
  refine .bind (shifting_knownAnswer _ _ rfl _) fun _ _ known => ?_
  cases known with
  | some same => exact .pure same
  | none =>
      simp only [Scope.shift_isActive, Scope.shift_depthReached]
      refine .ite Iff.rfl (fun _ => .throw rfl) fun _ => ?_
      have depth : (env.after k).config.depthReached scope = env.config.depthReached scope := rfl
      rw [depth]
      cases env.config.depthReached scope with
      | some limit => exact .throw rfl
      | none => exact fresh

/-- The node that a rule makes of its body is made further ahead on the right. -/
theorem ruleMatch_shift (rule : Rule) {reached reached' : Option Reached}
    (same : ShiftedReached k reached reached')
    : (shifting g k).Lockstep (ShiftedMatch k) (ruleMatch rule pos reached)
        (ruleMatch rule (pos + k) reached') := by
  cases same with
  | missed => exact .pure .missed
  | @reached stop _ log log' inside further moved =>
      subst further
      intro s t coupled
      have node := coupled.shift_ofLog ⟨0, pos, stop, rule.name, rule.tag⟩ moved
      refine .ok ?_ ((shifting g k).counted coupled)
      rw [show Match.ofLog ⟨t.nextId, pos + k, stop + k, rule.name, rule.tag⟩ log' = _ from node]
      exact .found inside

/-- A rule whose body floats is answered alike where the names that it calls are. -/
theorem answerRule_shift {among : Name → Prop} {rule : Rule} (scope : Scope)
    (within : k ≤ env.subject.size) (floats : rule.expr.Floats among)
    (space : rule.sigspace = true → among "ws") (inside : 0 ≤ pos)
    {callLeft callRight : Scope → Name → Int → MatchM (Option Match)}
    (call
      : ∀ {name} inner {q},
          among name
          → 0 ≤ q
          → (shifting env.grammar k).Lockstep (ShiftedMatch k) (callLeft inner name q)
              (callRight (inner.shift k) name (q + k)))
    : (shifting env.grammar k).Lockstep (ShiftedMatch k)
        (answerRule (env.after k) scope rule pos callLeft)
        (answerRule env (scope.shift k) rule (pos + k) callRight) := by
  have sites : ShiftedSites env.grammar k among
      ⟨(env.after k).subject, rule, scope.enter rule pos, callLeft⟩
      ⟨env.subject, rule, (scope.shift k).enter rule (pos + k), callRight⟩ :=
    ⟨within, rfl, rfl, rfl, space, call⟩
  refine .bind (shifting_traceStart _ _ _ _ _ _ _) fun _ _ _ => ?_
  refine .bind (eval_shift sites rule.expr floats pos inside) fun _ _ reached => ?_
  refine .bind (ruleMatch_shift rule reached) fun _ _ same => ?_
  exact .bind (shifting_traceEnd _ _ _ _ _ _ _ _ _) fun _ _ _ => .pure same

/-- A rule is applied alike where it floats with all that it can reach, by induction on the room. -/
theorem applyRule_shift (within : k ≤ env.subject.size) (floats : env.grammar.FloatsFrom start)
    (room : Nat) (scope : Scope) {entry : Entry} {rule : Rule}
    (reached : env.grammar.Reached start name) (found : env.grammar.lookup name = some entry)
    (member : rule ∈ entry.rules) (inside : 0 ≤ pos)
    : (shifting env.grammar k).Lockstep (ShiftedMatch k)
        (applyRule (env.after k) room scope rule pos)
        (applyRule env room (scope.shift k) rule (pos + k)) := by
  induction room generalizing scope name entry rule pos with
  | zero => exact guarded_shift (.throw rfl)
  | succ room ih =>
      refine guarded_shift ?_
      have body : rule.expr.Floats (env.grammar.Reached start) :=
        ⟨fun reference => .called reached found member reference, floats reached found member⟩
      have answer : (shifting env.grammar k).Lockstep (ShiftedMatch k)
          (answerRule (env.after k) scope rule pos fun inner =>
            callName (env.after k) (applyRule (env.after k) room inner))
          (answerRule env (scope.shift k) rule (pos + k) fun inner =>
            callName env (applyRule env room inner)) :=
        answerRule_shift scope within body (.space reached found member) inside
          fun inner _ here ahead => callName_shift fun entry found rule member =>
            ih inner here found member ahead
      refine .bind answer fun _ _ same => ?_
      exact .bind (shifting_remember _ _ rfl scope ⟨rule.name, rule.tag, pos⟩ same)
        fun _ _ _ => .pure same

-----------------------------------------------------------------------------------------
-- Runs at a distance
-----------------------------------------------------------------------------------------

/-- A call has as much room for what is left of the subject as further ahead in the whole. -/
theorem room_after (within : k ≤ env.subject.size) (resolved : List (Name × Entry)) (pos : Int)
    : (env.after k).room resolved pos = env.room resolved (pos + k) := by
  have size : ((env.after k).subject.size : Int) - pos = env.subject.size - (pos + k) := by
    rw [after, Subject.size_after]
    omega
  have natural : (env.after k).naturalRoom resolved pos = env.naturalRoom resolved (pos + k) := by
    rw [naturalRoom, naturalRoom, size]
    rfl
  rw [room, room, natural]
  rfl

theorem call_shift (within : k ≤ env.subject.size) (floats : env.grammar.FloatsFrom start)
    (inside : 0 ≤ pos)
    : (shifting env.grammar k).Lockstep (ShiftedMatch k) ((env.after k).call start pos)
        (env.call start (pos + k)) := by
  intro s t coupled
  have called : (shifting env.grammar k).Lockstep (ShiftedMatch k)
      (callWithin (env.after k) (env.room t.resolved (pos + k)) {} start pos)
      (callWithin env (env.room t.resolved (pos + k)) {} start (pos + k)) :=
    callName_shift fun entry found rule member =>
      applyRule_shift within floats (env.room t.resolved (pos + k)) {} .start found member inside
  have room := room_after within s.resolved pos
  rw [coupled.resolved] at room
  unfold call
  rw [MatchM.get_bind, MatchM.get_bind, coupled.resolved, room]
  exact called s t coupled

/-- A match is judged alike at a distance. -/
theorem matchFrom_shift (within : k ≤ env.subject.size) (floats : env.grammar.FloatsFrom start)
    (inside : 0 ≤ pos) (anchored : Bool)
    : (shifting env.grammar k).Lockstep (fun found found' => found' = found.shift k)
        (matchFrom (env.after k) start pos anchored) (matchFrom env start (pos + k) anchored) := by
  have reported : (shifting env.grammar k).Lockstep
      (fun found found' : Outcome => found' = found.shift k)
      (do return .failed (.ofFurthest start pos (← get).furthest))
      (do return .failed (.ofFurthest start (pos + k) (← get).furthest)) := by
    refine fun s t coupled => .ok ?_ coupled
    rw [coupled.furthest, Furthest.ofFurthest_shift]
    rfl
  refine .bind (call_shift within floats inside) fun _ _ same => ?_
  cases same with
  | missed => exact reported
  | @found m ahead =>
      have size := env.subject.size_after k
      have ends : m.stop = (env.subject.after k).size ↔ m.stop + k = env.subject.size := by omega
      have complete : isComplete (env.after k) anchored m = isComplete env anchored (m.shift k) := by
        rw [isComplete, isComplete, Match.shift_stop, after, decide_eq_decide.mpr ends]
      refine .ite (by rw [complete]) (fun _ => .pure rfl) fun _ => ?_
      rw [Match.shift_stop]
      exact .bind (shifting_expect ahead {} "end of input") fun _ _ _ => reported

/-- A run from an offset ends as the run over what is left there, moved to the offset. -/
theorem run_shift (within : k ≤ env.subject.size) (floats : env.grammar.FloatsFrom start)
    (inside : 0 ≤ pos) (anchored : Bool)
    : (run env start (pos + k) anchored).outcome
      = ((run (env.after k) start pos anchored).outcome.map (Outcome.shift k)).mapError
          (Fault.shift k) := by
  have paired := matchFrom_shift within floats inside anchored {} {} (.initial env.grammar k)
  have checked : checkStart (env.after k) start = checkStart env start := rfl
  unfold run
  rw [checked]
  cases checkStart env start with
  | error error => rfl
  | ok _ =>
      simp only
      generalize matchFrom (env.after k) start pos anchored {} = left at paired
      generalize matchFrom env start (pos + k) anchored {} = right at paired
      cases paired with
      | ok same kept => rw [same]; rfl
      | error same kept =>
          rw [same]
          exact congrArg Except.error (Fault.shift_atStart k start pos _).symm
      | excused excuse => exact excuse.elim

/-- A match in the middle of a subject is the match of what is left there: the same tree with all
spans moved, the same failure or the same fault with its position moved.
-/
theorem subparse_shift (within : k ≤ env.subject.size) (floats : env.grammar.FloatsFrom start)
    : subparse env start k
      = ((subparse (env.after k) start 0).map (Outcome.shift k)).mapError (Fault.shift k) := by
  have ran := run_shift within floats (Int.le_refl 0) false
  rw [Int.zero_add] at ran
  exact ran

/-- Neither the rule of the example chain nor white space asks for the start of the subject. -/
theorem chain_floats : chain.grammar.FloatsFrom "a" := by
  intro name entry rule reached found member anchor
  rcases reached.among chain_closed (Or.inl rfl) with rfl | rfl
  · cases (rfl : chain.grammar.lookup "a" = some (.rule chainRule)).symm.trans found
    cases List.mem_singleton.mp member
    cases anchor with | item member inside => ?_
    rcases List.mem_pair.mp member with rfl | rfl
    · cases inside
    · cases inside with | repeated inside => ?_
      cases inside
  · cases (rfl : chain.grammar.lookup "ws" = some (.rule _)).symm.trans found
    cases List.mem_singleton.mp member
    cases anchor with | repeated inside => ?_
    cases inside

/-- From its second letter on, the chain matches what it matches over that letter alone. -/
theorem subparse_shift_chain
    : 1 ≤ chain.subject.size
      ∧ chain.grammar.FloatsFrom "a"
      ∧ (∃ root, subparse (chain.after 1) "a" 0 = .ok (.matched root))
      ∧ subparse chain "a" (1 : Nat)
        = ((subparse (chain.after 1) "a" 0).map (Outcome.shift 1)).mapError (Fault.shift 1) := by
  have within : 1 ≤ chain.subject.size := by decide
  exact ⟨within, chain_floats, ⟨_, rfl⟩, subparse_shift within chain_floats⟩

end MatchEnv

end RuleGrammar
