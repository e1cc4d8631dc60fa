import RuleGrammar.Proofs.Matcher.ApplyLockstep
import RuleGrammar.Proofs.MatchTree.Shifted

/-! Matching at a distance. A matcher over what a subject has left behind an offset, beside one over
the whole subject that is always as much further ahead: what their states have in common, and how
they note failures, ask for known answers and resolve names.
-/

namespace RuleGrammar

-----------------------------------------------------------------------------------------
-- Subjects without their beginning
-----------------------------------------------------------------------------------------

namespace Subject

/-- The subject without so many code points at its beginning. -/
def after (s : Subject) (k : Nat) : Subject :=
  ofText (s.toText.drop k)

variable {s : Subject} {k : Nat} {pos : Int}

theorem size_after (s : Subject) (k : Nat) : (s.after k).size = s.size - k := by
  simp [after, ofText, toText, size]

theorem getElem?_after (s : Subject) (k i : Nat) : (s.after k).chars[i]? = s.chars[i + k]? := by
  simp [after, ofText, toText, Nat.add_comm]

theorem index_add (inside : 0 ≤ pos) (s t : Subject) (k : Nat)
    : s.index (pos + k) = t.index pos + k := by
  have far : ¬ pos + k < 0 := by omega
  rw [index, index, if_neg far, if_neg (Int.not_lt.mpr inside)]
  omega

theorem at?_after (within : k ≤ s.size) (inside : 0 ≤ pos)
    : (s.after k).at? pos = s.at? (pos + k) := by
  have size := s.size_after k
  unfold at?
  rw [index_add inside s (s.after k) k, getElem?_after]
  exact if_congr (by omega) rfl rfl

/-- A literal stands at an index of what is left where it stands as much further ahead in the whole,
by induction on the literal.
-/
theorem holdsFrom_after (s : Subject) (k : Nat) (literal : Text) (i : Nat)
    : (s.after k).holdsFrom literal i = s.holdsFrom literal (i + k) := by
  induction literal generalizing i with
  | nil => rfl
  | cons c rest ih => rw [holdsFrom, holdsFrom, ih, getElem?_after, Nat.add_right_comm]

theorem holds_after (within : k ≤ s.size) (inside : 0 ≤ pos) (literal : Text)
    : (s.after k).holds literal pos = s.holds literal (pos + k) := by
  have size := s.size_after k
  have fits : pos ≤ (s.after k).size ↔ pos + k ≤ s.size := by omega
  rw [holds, holds, index_add inside s (s.after k) k, holdsFrom_after, decide_eq_decide.mpr fits]

end Subject

-----------------------------------------------------------------------------------------
-- What is found, moved by a distance
-----------------------------------------------------------------------------------------

def Key.shift (k : Int) (key : Key) : Key :=
  { key with pos := key.pos + k }

theorem Key.shift_injective {k : Int} {key other : Key} (same : key.shift k = other.shift k)
    : key = other := by
  obtain ⟨rule, tag, pos⟩ := key
  obtain ⟨rule', tag', pos'⟩ := other
  simp only [Key.shift, Key.mk.injEq] at same ⊢
  exact ⟨same.1, same.2.1, by omega⟩

/-- The scope of the same applications, each of them further ahead. -/
def Scope.shift (k : Int) (scope : Scope) : Scope :=
  { scope with frames := scope.frames.map fun frame => { frame with pos := frame.pos + k } }

namespace Scope

variable (k : Int) (scope : Scope)

@[simp] theorem shift_innermost : (scope.shift k).innermost = scope.innermost := by
  obtain ⟨frames, quiet⟩ := scope
  cases frames <;> rfl

@[simp] theorem shift_isActive (key : Key)
    : (scope.shift k).isActive (key.shift k) = scope.isActive key := by
  have same (frame : Frame) : (⟨frame.rule, frame.pos + k⟩ : Frame).key = key.shift k
      ↔ frame.key = key :=
    ⟨fun shifted => Key.shift_injective (show frame.key.shift k = key.shift k from shifted),
      congrArg (Key.shift k)⟩
  simp only [isActive, shift, List.any_map, Function.comp_def, same]

@[simp] theorem shift_depthReached (config : MatchConfig)
    : config.depthReached (scope.shift k) = config.depthReached scope := by
  simp [MatchConfig.depthReached, shift]

end Scope

/-- The fault at the same place of the rules, further ahead in the subject. -/
def Fault.shift (k : Int) : Fault → Fault
  | reentered rule pos => reentered rule (pos + k)
  | tooDeep limit rule pos => tooDeep limit rule (pos + k)
  | outOfRoom rule pos => outOfRoom rule (pos + k)
  | fault => fault

theorem Fault.shift_atStart (k : Int) (start : Name) (pos : Int) (fault : Fault)
    : (fault.atStart start pos).shift k = (fault.shift k).atStart start (pos + k) := by
  cases fault <;> rfl

def Failure.shift (k : Int) (failure : Failure) : Failure :=
  { failure with position := failure.position + k }

/-- An outcome further ahead: all spans of a match are moved, or the position of a failure. -/
def Outcome.shift (k : Int) : Outcome → Outcome
  | matched root => matched (root.shift k)
  | failed failure => failed (failure.shift k)

namespace Furthest

def Note.shift (k : Int) : Note → Note
  | text rule pos what => text rule (pos + k) what
  | goal rule pos what => goal rule (pos + k) what

/-- The record of failures further ahead. As long as there are none it has no position to move. -/
def shift (k : Int) (f : Furthest) : Furthest :=
  if f.position < 0 then f else { f with position := f.position + k }

variable {k : Nat} {f : Furthest} {n : Note}

/-- A failure inside the subject is noted further ahead as it is where it is, by cases on whether it
is the first one.
-/
theorem note_shift (inside : 0 ≤ n.pos) : (f.note n).shift k = (f.shift k).note (n.shift k) := by
  have noted : ¬ (f.note n).position < 0 := by
    rw [note_position]
    omega
  by_cases fresh : f.position < 0
  · rw [shift, if_neg noted, shift, if_pos fresh]
    cases n with
    | text rule pos what =>
        have before : f.position < pos := Int.lt_of_lt_of_le fresh inside
        rw [note_text_ahead before, Note.shift, note_text_ahead (by omega)]
    | goal rule pos what =>
        have before : f.position ≤ pos := Int.le_of_lt (Int.lt_of_lt_of_le fresh inside)
        rw [note_goal before, Note.shift, note_goal (by omega)]
  · rw [shift, if_neg noted, shift, if_neg fresh]
    cases n with
    | text rule pos what =>
        simp only [note, record, Note.shift, Int.add_lt_add_iff_right, Int.add_left_inj]
        split
        · rfl
        · split <;> rfl
    | goal rule pos what =>
        simp only [note, recordGoal, Note.shift, Int.add_le_add_iff_right]
        split <;> rfl

/-- The failure that a record amounts to is moved with the record. -/
theorem ofFurthest_shift (start : Name) (pos : Int) (k : Nat) (f : Furthest)
    : Failure.ofFurthest start (pos + k) (f.shift k) = (Failure.ofFurthest start pos f).shift k := by
  by_cases fresh : f.position < 0
  · rw [shift, if_pos fresh, Failure.ofFurthest, Failure.ofFurthest, if_pos fresh, if_pos fresh]
    rfl
  · have far : ¬ f.position + k < 0 := by omega
    rw [shift, if_neg fresh, Failure.ofFurthest, Failure.ofFurthest, if_neg fresh, if_neg far]
    rfl

end Furthest

-----------------------------------------------------------------------------------------
-- States at a distance
-----------------------------------------------------------------------------------------

/-- Two answers of a rule at a distance: both missing, or a match that stops inside the subject and
the same one further ahead.
-/
inductive ShiftedMatch (k : Nat) : Option Match → Option Match → Prop
  | missed : ShiftedMatch k none none
  | found {m : Match} (inside : 0 ≤ m.stop) : ShiftedMatch k (some m) (some (m.shift k))

/-- Two states at a distance: the one on the right has resolved the same names, rightly for a
grammar, counts the same nodes, and knows and has recorded the same further ahead.
-/
structure ShiftedStates (g : Grammar) (k : Nat) (s t : MatcherState) : Prop where
  nextId : s.nextId = t.nextId
  resolved : s.resolved = t.resolved
  resolves : s.Resolves g
  furthest : t.furthest = s.furthest.shift k
  memo : ∀ key, (s.memo.find? key).Rel (ShiftedMatch k) (t.memo.find? (key.shift k))

theorem ShiftedStates.initial (g : Grammar) (k : Nat) : ShiftedStates g k {} {} where
  nextId := rfl
  resolved := rfl
  resolves := .initial g
  furthest := rfl
  memo key := by
    rw [Memo.find?_empty, Memo.find?_empty]
    exact .none

/-- The next node is the same on both sides, further ahead on the right. -/
theorem ShiftedStates.shift_ofLog {g : Grammar} {k : Nat} {s t : MatcherState}
    (coupled : ShiftedStates g k s t) (info : NodeInfo) {log log' : List Caught}
    (moved : log' = logThrough (Match.shift k) log)
    : Match.ofLog { info.shift k with id := t.nextId } log'
      = (Match.ofLog { info with id := s.nextId } log).shift k := by
  rw [Match.shift_ofLog, moved, ← coupled.nextId]
  rfl

theorem ShiftedStates.counted {g : Grammar} {k : Nat} {s t : MatcherState}
    (coupled : ShiftedStates g k s t)
    : ShiftedStates g k { s with nextId := s.nextId + 1 } { t with nextId := t.nextId + 1 } :=
  { coupled with nextId := congrArg Nat.succ coupled.nextId }

/-- Two runs at a distance. They end in the same fault, further ahead on the right. -/
def shifting (g : Grammar) (k : Nat) : Coupling where
  states := ShiftedStates g k
  faults f f' := f' = f.shift k
  excused _ := False
  view := id
  view_stop := stop_id
  view_ofLog coupled := ofLog_id coupled.nextId
  counted := ShiftedStates.counted

variable {g : Grammar} {k : Nat}

-----------------------------------------------------------------------------------------
-- Steps at a distance
-----------------------------------------------------------------------------------------

/-- What is expected at an offset inside the subject is noted further ahead on the right. -/
theorem shifting_expect {pos : Int} (inside : 0 ≤ pos) (scope : Scope) (what : Text)
    : (shifting g k).Lockstep (fun _ _ => True) (MatchM.expect scope pos what)
        (MatchM.expect (scope.shift k) (pos + k) what) := by
  refine .ite Iff.rfl (fun _ => .pure trivial) fun _ s t coupled => ?_
  refine .ok trivial { coupled with furthest := ?_ }
  simp only [coupled.furthest, Scope.shift_innermost]
  exact (Furthest.note_shift (n := .text scope.innermost pos what) inside).symm

theorem shifting_expectGoal {pos : Int} (inside : 0 ≤ pos) (scope : Scope) (what : Text)
    : (shifting g k).Lockstep (fun _ _ => True) (MatchM.expectGoal scope pos what)
        (MatchM.expectGoal (scope.shift k) (pos + k) what) := by
  refine .ite Iff.rfl (fun _ => .pure trivial) fun _ s t coupled => ?_
  refine .ok trivial { coupled with furthest := ?_ }
  simp only [coupled.furthest, Scope.shift_innermost]
  exact (Furthest.note_shift (n := .goal scope.innermost pos what) inside).symm

/-- A node is built further ahead on the right, from a log with its nodes further ahead. -/
theorem shifting_fresh (info : NodeInfo) {log log' : List Caught}
    (moved : log' = logThrough (Match.shift k) log)
    : (shifting g k).Lockstep (fun m n : Match => n = m.shift k ∧ m.stop = info.stop)
        (do return .ofLog { info with id := ← MatchM.freshId } log)
        (do return .ofLog { info.shift k with id := ← MatchM.freshId } log') := by
  exact fun s t coupled => .ok ⟨coupled.shift_ofLog info moved, rfl⟩ ((shifting g k).counted coupled)

/-- What is known for a key is known further ahead on the right. -/
theorem shifting_knownAnswer (env env' : MatchEnv) (config : env'.config = env.config) (key : Key)
    : (shifting g k).Lockstep (Option.Rel (ShiftedMatch k)) (knownAnswer env key)
        (knownAnswer env' (key.shift k)) := by
  unfold knownAnswer
  rw [config]
  exact .ite Iff.rfl (fun _ s t coupled => .ok (coupled.memo key) coupled) fun _ => .pure .none

/-- An answer that is kept is kept further ahead on the right, by cases on the key that is asked. -/
theorem shifting_remember (env env' : MatchEnv) (config : env'.config = env.config) (scope : Scope)
    (key : Key) {answer answer' : Option Match} (same : ShiftedMatch k answer answer')
    : (shifting g k).Lockstep (fun _ _ => True) (remember env scope key answer)
        (remember env' (scope.shift k) (key.shift k) answer') := by
  unfold remember
  rw [config]
  refine .ite Iff.rfl (fun _ s t coupled => ?_) fun _ => .pure trivial
  refine .ok trivial { coupled with memo := fun other => ?_ }
  by_cases here : other = key
  · subst here
    rw [Memo.find?_insert_self, Memo.find?_insert_self]
    exact .some same
  · have elsewhere : other.shift k ≠ key.shift k := fun equal => here (Key.shift_injective equal)
    rw [Memo.find?_insert_of_ne _ _ here, Memo.find?_insert_of_ne _ _ elsewhere]
    exact coupled.memo other

/-- A name is resolved alike on both sides. -/
theorem shifting_resolveOnce (env env' : MatchEnv) (grammar : env'.grammar = env.grammar)
    (name : Name)
    : (shifting env.grammar k).Lockstep
        (fun entry entry' => entry = entry' ∧ env.grammar.lookup name = some entry)
        (resolveOnce env name) (resolveOnce env' name) := by
  intro s t coupled
  unfold resolveOnce
  rw [MatchM.get_bind, MatchM.get_bind, grammar, ← coupled.resolved]
  cases known : Layer.lookupIn name s.resolved with
  | some entry => exact .ok ⟨rfl, coupled.resolves name entry known⟩ coupled
  | none =>
      cases found : env.grammar.lookup name with
      | none =>
          simp only [Grammar.resolve, found]
          exact .error rfl coupled
      | some entry =>
          simp only [Grammar.resolve, found]
          exact .ok ⟨rfl, rfl⟩ {
            coupled with
            resolved := congrArg (· ++ [(name, entry)]) coupled.resolved
            resolves := coupled.resolves.append found
          }

/-- Tracing leaves states at a distance, whatever the lines say. -/
theorem shifting_traceStart (env env' : MatchEnv) (scope scope' : Scope) (rule : Rule)
    (pos pos' : Int)
    : (shifting g k).Lockstep (fun _ _ => True) (traceStart env scope rule pos)
        (traceStart env' scope' rule pos') := by
  intro s t coupled
  obtain ⟨trace, ran⟩ := traceStart_spec env scope rule pos s
  obtain ⟨trace', ran'⟩ := traceStart_spec env' scope' rule pos' t
  rw [ran, ran']
  exact .ok trivial { coupled with }

theorem shifting_traceEnd (env env' : MatchEnv) (scope scope' : Scope) (rule : Rule)
    (pos pos' : Int) (answer answer' : Option Match)
    : (shifting g k).Lockstep (fun _ _ => True) (traceEnd env scope rule pos answer)
        (traceEnd env' scope' rule pos' answer') := by
  intro s t coupled
  obtain ⟨trace, ran⟩ := traceEnd_spec env scope rule pos answer s
  obtain ⟨trace', ran'⟩ := traceEnd_spec env' scope' rule pos' answer' t
  rw [ran, ran']
  exact .ok trivial { coupled with }

end RuleGrammar
