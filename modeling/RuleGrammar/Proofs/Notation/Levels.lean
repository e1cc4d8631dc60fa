import RuleGrammar.Proofs.Notation.Lexemes

/-! How the levels of binding read what is written: operands stand in brackets, and each level
stops where the next operator or the closing mark stands.
-/

namespace RuleGrammar.Notation

open Reader

variable {atom : Reader Expr} {s t u m rest : Text} {c d : CodePoint} {e : Expr}

-----------------------------------------------------------------------------------------
-- What follows
-----------------------------------------------------------------------------------------

/-- Closing marks, which end a whole body. -/
def closes (c : CodePoint) : Bool :=
  c = CodePoint.ofChar ']' || c = CodePoint.ofChar ')' || c = CodePoint.ofChar '\x7d'
    || c = CodePoint.ofChar '>'

/-- What may follow an operand: a mark that ends a sequence, a tilde, or the next operand. -/
def follows (c : CodePoint) : Bool :=
  endsSequence c || c = CodePoint.ofChar '~' || c = CodePoint.ofChar '['

theorem follows_of_endsSequence (ends : endsSequence c = true) : follows c = true := by
  simp [follows, ends]

theorem endsSequence_of_closes (closing : closes c = true) : endsSequence c = true := by
  simp only [closes, Bool.or_eq_true, decide_eq_true_eq] at closing
  rcases closing with ((rfl | rfl) | rfl) | rfl <;> decide

theorem ne_bar_of_closes (closing : closes c = true) : c ≠ CodePoint.ofChar '|' := by
  rintro rfl
  revert closing
  decide

theorem ne_bar_of_not_ends (other : endsSequence c = false) : c ≠ CodePoint.ofChar '|' := by
  rintro rfl
  revert other
  decide

-----------------------------------------------------------------------------------------
-- Quantified atoms
-----------------------------------------------------------------------------------------

theorem quantifier_missed (ahead : unblank s = c :: t) (plain : follows c = true)
    : Reads quantifier s none (c :: t) := by
  have others : c ≠ CodePoint.ofChar '*' ∧ c ≠ CodePoint.ofChar '?' ∧ c ≠ CodePoint.ofChar '+' := by
    refine ⟨?_, ?_, ?_⟩ <;> rintro rfl <;> revert plain <;> decide
  have stays := unblank_head ahead
  refine .bind (.tryEat_other ahead rfl others.1) ?_
  rw [if_neg (by decide)]
  refine .bind (.tryEat_other stays rfl others.2.1) ?_
  rw [if_neg (by decide)]
  refine .bind (.tryEat_other stays rfl others.1) ?_
  rw [if_neg (by decide)]
  refine .bind (.tryEat_other stays rfl others.2.2) ?_
  rw [if_neg (by decide)]
  exact .pure none

/-- An atom without quantifier is read up to what follows. -/
theorem quantified_plain (read : Reads atom s e m) (ahead : unblank m = c :: t)
    (plain : follows c = true)
    : Reads (quantified atom) s e (c :: t) :=
  .bind read (.bind (quantifier_missed ahead plain) (.pure e))

-----------------------------------------------------------------------------------------
-- Sequences
-----------------------------------------------------------------------------------------

section Sequences

variable {rounds : Nat} {acc items : List Expr}

theorem items_end (ahead : unblank s = c :: t) (ends : endsSequence c = true)
    : Reads (sequenceItems atom (rounds + 1) acc) s acc (c :: t) := by
  refine .bind (.skipBlank s) (.bind (.peek _) ?_)
  rw [ahead, List.head?_cons]
  simp only [ends, if_true]
  exact .pure acc

theorem items_next (ahead : unblank s = c :: t) (starts : endsSequence c = false)
    (untilded : c ≠ CodePoint.ofChar '~') (read : Reads (quantified atom) (c :: t) e m)
    (later : Reads (sequenceItems atom rounds (e :: acc)) m items rest)
    : Reads (sequenceItems atom (rounds + 1) acc) s items rest := by
  refine .bind (.skipBlank s) (.bind (.peek _) ?_)
  rw [ahead, List.head?_cons]
  simp only [starts, untilded, if_false, Bool.false_eq_true]
  exact .bind read later

theorem items_goal {opener closer body : Expr} (ahead : unblank s = CodePoint.ofChar '~' :: t)
    (closes : Reads (quantified atom) t closer m) (read : Reads (quantified atom) m body u)
    (later : Reads (sequenceItems atom rounds (.goal opener closer body :: acc)) u items rest)
    : Reads (sequenceItems atom (rounds + 1) (opener :: acc)) s items rest := by
  refine .bind (.skipBlank s) (.bind (.peek _) ?_)
  rw [ahead, List.head?_cons]
  refine .bind (.pass _ t) ?_
  exact .bind closes (.bind read later)

/-- The items that are read one by one, last one first, make up the sequence. -/
theorem sequence_of_items (read : Reads (sequenceItems atom (s.length + 1) []) s items.reverse rest)
    : Reads (sequence atom) s (sequenceOf items) rest := by
  refine .bind (.rounds s) (.bind read ?_)
  rw [List.reverse_reverse]
  exact .pure _

/-- A single item makes up the whole sequence. -/
theorem sequence_single (ahead : unblank s = c :: t) (starts : endsSequence c = false)
    (untilded : c ≠ CodePoint.ofChar '~') (read : Reads (quantified atom) (c :: t) e m)
    (stop : unblank m = d :: u) (ends : endsSequence d = true)
    : Reads (sequence atom) s e (d :: u) := by
  obtain ⟨n, length⟩ : ∃ n, s.length = n + 1 := by
    have shorter := length_unblank_le s
    rw [ahead, List.length_cons] at shorter
    exact ⟨s.length - 1, by omega⟩
  refine sequence_of_items (?_ : Reads _ _ [e].reverse _)
  rw [length]
  exact items_next ahead starts untilded read (items_end stop ends)

end Sequences

-----------------------------------------------------------------------------------------
-- Operands
-----------------------------------------------------------------------------------------

theorem bracketed_append (t rest : Text)
    : bracketed t ++ rest = CodePoint.ofChar '[' :: (t ++ (CodePoint.ofChar ']' :: rest)) := by
  simp [bracketed, Text.ofString]

@[simp]
theorem length_bracketed (t : Text) : (bracketed t).length = t.length + 2 := by
  simp [bracketed, Text.ofString]

theorem unblank_bracketed (t rest : Text)
    : unblank (bracketed t ++ rest) = bracketed t ++ rest := by
  rw [bracketed_append]
  rfl

/-- A reader of atoms reads an expression that is written in brackets. -/
def ReadsOperand (atom : Reader Expr) (e : Expr) : Prop :=
  ∀ s rest, unblank s = bracketed e.written ++ rest → Reads atom s e rest

/-- A reader of atoms serves to read an expression as a whole body. -/
def ReadsBody (atom : Reader Expr) (e : Expr) : Prop :=
  ∀ ⦃s rest c t⦄,
    unblank s = unblank (e.written ++ rest)
    → unblank rest = c :: t
    → closes c = true
    → Reads (choice atom) s e (c :: t)

/-- What is written after a separator, the operands and then the rest. -/
def separated (sep : Text) (items : List Expr) (rest : Text) : Text :=
  (Expr.operands items).flatMap (sep ++ ·) ++ rest

theorem separated_cons (sep : Text) (e : Expr) (items : List Expr) (rest : Text)
    : separated sep (e :: items) rest
      = sep ++ (bracketed e.written ++ separated sep items rest) := by
  simp [separated, Expr.operands]

/-- Operands joined by a separator are the first one and then the others, each after the
separator.
-/
theorem joinWith_operands (sep : Text) (e : Expr) (items : List Expr) (rest : Text)
    : Text.joinWith sep (Expr.operands (e :: items)) ++ rest
      = bracketed e.written ++ separated sep items rest := by
  induction items generalizing e with
  | nil => simp [Expr.operands, Text.joinWith, separated]
  | cons next items ih =>
      have later := ih next
      rw [Expr.operands] at later ⊢
      rw [Expr.operands, Text.joinWith, List.append_assoc, List.append_assoc, later,
        separated_cons]
      · simp

section Separated

variable (e : Expr) (items : List Expr) (rest : Text)

theorem unblank_items
    : unblank (separated " " (e :: items) rest)
      = bracketed e.written ++ separated " " items rest := by
  rw [separated_cons, bracketed_append]
  rfl

end Separated

theorem length_separated (sep : Text) (items : List Expr) (rest : Text)
    : items.length ≤ (separated sep items rest).length := by
  induction items with
  | nil => simp
  | cons e items ih =>
      rw [separated_cons, bracketed_append]
      simp only [List.length_append, List.length_cons]
      omega

/-- An operand in brackets is no longer than all of them with their separators. -/
theorem length_operand {items : List Expr} (member : e ∈ items) (sep : Text)
    : e.written.length + 2 ≤ (Text.joinWith sep (Expr.operands items)).length := by
  have inside (items : List Expr) (member : e ∈ items)
      : e.written.length + 2 ≤ (separated sep items []).length := by
    induction items with
    | nil => cases member
    | cons first items ih =>
        rw [separated_cons, bracketed_append]
        simp only [List.length_append, List.length_cons]
        rcases List.mem_cons.mp member with rfl | later
        · omega
        · have further := ih later
          omega
  cases items with
  | nil => cases member
  | cons first items =>
      have spelled := joinWith_operands sep first items []
      rw [List.append_nil, bracketed_append] at spelled
      rw [spelled]
      simp only [List.length_append, List.length_cons]
      rcases List.mem_cons.mp member with rfl | later
      · omega
      · have further := inside items later
        omega

section Operands

variable {items : List Expr} {rounds : Nat}

theorem item_reads (read : ReadsOperand atom e) (ahead : unblank s = bracketed e.written ++ m)
    (stop : unblank m = c :: t) (plain : follows c = true)
    : Reads (quantified atom) s e (c :: t) :=
  quantified_plain (read s m ahead) stop plain

/-- An operand makes up a whole sequence. -/
theorem sequence_operand (read : ReadsOperand atom e)
    (ahead : unblank s = bracketed e.written ++ m) (stop : unblank m = c :: t)
    (ends : endsSequence c = true)
    : Reads (sequence atom) s e (c :: t) := by
  rw [bracketed_append] at ahead
  refine sequence_single ahead (by decide) (by decide) ?_ (unblank_head stop) ends
  refine item_reads read ?_ stop (follows_of_endsSequence ends)
  rw [unblank_head ahead, bracketed_append]

/-- The operands of a sequence are read one by one, by induction on them. -/
theorem items_operands (each : ∀ e ∈ items, ReadsOperand atom e)
    (ahead : unblank s = unblank (separated " " items rest)) (stop : unblank rest = c :: t)
    (ends : endsSequence c = true) (enough : items.length < rounds) (acc : List Expr)
    : Reads (sequenceItems atom rounds acc) s (items.reverse ++ acc) (c :: t) := by
  obtain ⟨rounds, rfl⟩ : ∃ n, rounds = n + 1 := ⟨rounds - 1, by omega⟩
  induction items generalizing s rounds acc with
  | nil => exact items_end (ahead.trans stop) ends
  | cons e items ih =>
      obtain ⟨here, others⟩ := List.forall_mem_cons.mp each
      obtain ⟨rounds, rfl⟩ : ∃ n, rounds = n + 1 := ⟨rounds - 1, by simp at enough; omega⟩
      obtain ⟨d, u, next, plain⟩ : ∃ d u,
          unblank (separated " " items rest) = d :: u ∧ follows d = true := by
        cases items with
        | nil => exact ⟨c, t, stop, follows_of_endsSequence ends⟩
        | cons e items =>
            rw [unblank_items, bracketed_append]
            exact ⟨_, _, rfl, by decide⟩
      rw [unblank_items] at ahead
      have started := ahead
      rw [bracketed_append] at started
      have read : Reads (quantified atom) (unblank s) e (d :: u) :=
        item_reads here (by rw [unblank_unblank, ahead]) next plain
      rw [started] at read
      have later := ih others (s := d :: u) (by rw [unblank_head next, next])
        (e :: acc) rounds (by simpa using enough)
      rw [List.reverse_cons, List.append_assoc, List.singleton_append]
      exact items_next started (by decide) (by decide) read later

/-- A sequence of any number of items but one is read as it is written. -/
theorem sequence_reads (several : items.length ≠ 1) (each : ∀ e ∈ items, ReadsOperand atom e)
    (ahead : unblank s = unblank ((Expr.sequence items).written ++ rest))
    (stop : unblank rest = c :: t) (ends : endsSequence c = true)
    : Reads (sequence atom) s (.sequence items) (c :: t) := by
  have ahead : unblank s = unblank (separated " " items rest) := by
    rw [ahead, Expr.written]
    cases items with
    | nil => rfl
    | cons e items =>
        rw [joinWith_operands, unblank_items, bracketed_append]
        rfl
  have enough : items.length < s.length + 1 := by
    cases items with
    | nil => simp
    | cons e items =>
        have shorter := length_unblank_le s
        have counted := length_separated " " items rest
        rw [ahead, unblank_items, bracketed_append] at shorter
        simp only [List.length_cons, List.length_append] at shorter ⊢
        omega
  have read := items_operands each ahead stop ends enough []
  rw [List.append_nil] at read
  have whole : sequenceOf items = .sequence items := by
    rw [sequenceOf]
    exact fun item single => several (by rw [single, List.length_singleton])
  exact whole ▸ sequence_of_items read

/-- A goal is read as it is written. -/
theorem goal_reads {opener closer body : Expr} (opens : ReadsOperand atom opener)
    (closes : ReadsOperand atom closer) (read : ReadsOperand atom body)
    (ahead : unblank s = (Expr.goal opener closer body).written ++ rest)
    (stop : unblank rest = c :: t) (ends : endsSequence c = true)
    : Reads (sequence atom) s (.goal opener closer body) (c :: t) := by
  have spelled : (Expr.goal opener closer body).written ++ rest
      = bracketed opener.written ++ (CodePoint.ofChar ' ' :: CodePoint.ofChar '~'
        :: CodePoint.ofChar ' ' :: (bracketed closer.written ++ (CodePoint.ofChar ' '
          :: (bracketed body.written ++ rest)))) := by
    simp [Expr.written, Text.ofString]
  have started := ahead.trans spelled
  obtain ⟨n, length⟩ : ∃ n, s.length = n + 2 := by
    have shorter := length_unblank_le s
    rw [started, bracketed_append] at shorter
    simp only [List.length_cons, List.length_append] at shorter
    exact ⟨s.length - 2, by omega⟩
  have openerRead : Reads (quantified atom) (unblank s) opener _ :=
    item_reads opens (by rw [unblank_unblank, started]) rfl (by decide)
  have closerRead := item_reads closes (s := CodePoint.ofChar ' ' :: (bracketed closer.written
      ++ (CodePoint.ofChar ' ' :: (bracketed body.written ++ rest))))
    (by rw [unblank_space, unblank_bracketed])
    (by rw [unblank_space, unblank_bracketed, bracketed_append]) (by decide)
  have bodyRead := item_reads read (unblank_bracketed _ rest) stop (follows_of_endsSequence ends)
  rw [started, bracketed_append] at openerRead
  rw [bracketed_append] at started bodyRead
  refine sequence_of_items (s := s) (?_ : Reads _ _ [Expr.goal opener closer body].reverse _)
  rw [length]
  refine items_next started (by decide) (by decide) openerRead ?_
  refine items_goal (unblank_solid (by decide) _) closerRead bodyRead ?_
  exact items_end (unblank_head stop) ends

end Operands

-----------------------------------------------------------------------------------------
-- Choices
-----------------------------------------------------------------------------------------

section Choices

variable {items : List Expr} {rounds : Nat} {mark : Reader Bool} {alternative : Reader Expr}
  {sep bar : Text}

/-- How a level of alternatives is read in front of a text. Its mark stands between them, but not
where an operand starts or the text goes on, and an operand makes up a whole alternative.
-/
structure Alternates (atom : Reader Expr) (mark : Reader Bool) (alternative : Reader Expr)
    (sep bar rest : Text) : Prop where
  separator : ∀ t, unblank (sep ++ t) = bar ++ (CodePoint.ofChar ' ' :: t)
  marked
    : ∀ {s t}, unblank s = bar ++ (CodePoint.ofChar ' ' :: t) →
        Reads mark s true (CodePoint.ofChar ' ' :: t)
  opened
    : ∀ {s t}, unblank s = CodePoint.ofChar '[' :: t →
        Reads mark s false (CodePoint.ofChar '[' :: t)
  ended : ∀ {s}, unblank s = unblank rest → Reads mark s false (unblank rest)
  operand
    : ∀ {e}, ReadsOperand atom e → ∀ {s items},
        unblank s = bracketed e.written ++ separated sep items rest →
          Reads alternative s e (unblank (separated sep items rest))

namespace Alternates

variable (level : Alternates atom mark alternative sep bar rest)

include level

theorem unblank_separated (e : Expr) (items : List Expr)
    : unblank (separated sep (e :: items) rest)
      = bar ++ (CodePoint.ofChar ' ' :: (bracketed e.written ++ separated sep items rest)) := by
  rw [separated_cons, level.separator]

theorem length_le (items : List Expr)
    : items.length ≤ (unblank (separated sep items rest)).length := by
  cases items with
  | nil => simp
  | cons e items =>
      have counted := length_separated sep items rest
      rw [level.unblank_separated]
      simp only [List.length_append, List.length_cons]
      omega

/-- Further alternatives are read one by one, by induction on them. -/
theorem further (each : ∀ e ∈ items, ReadsOperand atom e)
    (ahead : unblank s = unblank (separated sep items rest)) (enough : items.length < rounds)
    : Reads (furtherAlternatives mark alternative rounds) s items (unblank rest) := by
  obtain ⟨rounds, rfl⟩ : ∃ n, rounds = n + 1 := ⟨rounds - 1, by omega⟩
  induction items generalizing s rounds with
  | nil => exact .bind (level.ended ahead) (.pure [])
  | cons e items ih =>
      obtain ⟨here, others⟩ := List.forall_mem_cons.mp each
      obtain ⟨rounds, rfl⟩ : ∃ n, rounds = n + 1 := ⟨rounds - 1, by simp at enough; omega⟩
      rw [level.unblank_separated] at ahead
      have later := ih others (unblank_unblank _) rounds (by simpa using enough)
      refine .bind (level.marked ahead) (.bind (level.operand here ?_) (.bind later (.pure _)))
      rw [unblank_space, unblank_bracketed]

/-- All the alternatives are read. -/
theorem reads (nonempty : items ≠ []) (each : ∀ e ∈ items, ReadsOperand atom e)
    (ahead : unblank s = unblank (Text.joinWith sep (Expr.operands items) ++ rest))
    : Reads (alternatives mark alternative) s items (unblank rest) := by
  cases items with
  | nil => exact absurd rfl nonempty
  | cons e items =>
      obtain ⟨here, others⟩ := List.forall_mem_cons.mp each
      have read := level.operand here (unblank_bracketed e.written (separated sep items rest))
      rw [joinWith_operands, unblank_bracketed, bracketed_append] at ahead
      rw [bracketed_append] at read
      refine .bind (level.opened ahead) (.bind read (.bind (.rounds _) (.bind ?_ (.pure _))))
      exact level.further others (unblank_unblank _) (Nat.lt_succ_of_le (level.length_le items))

end Alternates

/-- A single alternative is read without any mark. -/
theorem alternatives_single (missed : Reads mark s false m) (read : Reads alternative m e u)
    (last : Reads mark u false rest)
    : Reads (alternatives mark alternative) s [e] rest :=
  .bind missed (.bind read (.bind (.rounds _) (.bind (.bind last (.pure [])) (.pure _))))

/-- A single alternative makes up the whole longest choice. -/
theorem longest_single (ahead : unblank s = c :: t) (other : c ≠ CodePoint.ofChar '|')
    (read : Reads (sequence atom) (c :: t) e (d :: u)) (stays : unblank (d :: u) = d :: u)
    (single : List.isPrefixOf (Text.ofString "||") (d :: u) = false)
    : Reads (longest atom) s e (d :: u) := by
  have last : Reads (tryEat "||") (d :: u) false (d :: u) := by
    rw [← stays] at single
    simpa only [stays] using Reads.tryEat_missed single
  exact .bind (alternatives_single (.tryEat_other ahead rfl other) read last) (.pure e)

/-- An operand makes up a whole longest choice. -/
theorem longest_operand (read : ReadsOperand atom e)
    (ahead : unblank s = bracketed e.written ++ m) (stop : unblank m = c :: t)
    (ends : endsSequence c = true)
    (single : List.isPrefixOf (Text.ofString "||") (c :: t) = false)
    : Reads (longest atom) s e (c :: t) := by
  have started := ahead
  rw [bracketed_append] at started
  refine longest_single started (by decide) ?_ (unblank_head stop) single
  rw [← bracketed_append]
  exact sequence_operand read (unblank_bracketed _ m) stop ends

theorem bar_missed (ahead : unblank s = c :: t) (other : c ≠ CodePoint.ofChar '|')
    : Reads tryBar s false (c :: t) := by
  refine .bind (.skipBlank s) (.bind (.starts _ _) (.bind (.starts _ _) ?_))
  have missing : List.isPrefixOf (Text.ofString "|") (c :: t) = false :=
    isPrefixOf_eq_false rfl other t
  rw [ahead, missing]
  exact .pure false

/-- A single alternative makes up the whole choice. -/
theorem choice_single (ahead : unblank s = c :: t) (other : c ≠ CodePoint.ofChar '|')
    (read : Reads (longest atom) (c :: t) e (d :: u)) (stays : unblank (d :: u) = d :: u)
    (last : d ≠ CodePoint.ofChar '|')
    : Reads (choice atom) s e (d :: u) :=
  .bind (alternatives_single (bar_missed ahead other) read (bar_missed stays last)) (.pure e)

section Closing

variable (stop : unblank rest = c :: t) (closing : closes c = true)

include stop closing

/-- A longest choice is read with double bars between its alternatives. -/
theorem longest_alternates
    : Alternates atom (tryEat "||") (sequence atom) " || " "||" rest where
  separator t := rfl
  marked ahead := .tryEat ahead
  opened ahead := .tryEat_other ahead rfl (by decide)
  ended ahead := by
    rw [stop] at ahead ⊢
    exact .tryEat_other ahead rfl (ne_bar_of_closes closing)
  operand {e} read {s items} ahead := by
    obtain ⟨d, u, next, ends⟩ : ∃ d u,
        unblank (separated " || " items rest) = d :: u ∧ endsSequence d = true := by
      cases items with
      | nil => exact ⟨c, t, stop, endsSequence_of_closes closing⟩
      | cons e items =>
          rw [separated_cons]
          exact ⟨_, _, rfl, by decide⟩
    rw [next]
    exact sequence_operand read ahead next ends

/-- A choice is read with single bars between its alternatives. -/
theorem choice_alternates : Alternates atom tryBar (longest atom) " | " "|" rest where
  separator t := rfl
  marked ahead := by
    refine .bind (.skipBlank _) (.bind (.starts _ _) (.bind (.starts _ _) ?_))
    rw [ahead]
    exact .bind (.pass _ _) (.pure true)
  opened ahead := bar_missed ahead (by decide)
  ended ahead := by
    rw [stop] at ahead ⊢
    exact bar_missed ahead (ne_bar_of_closes closing)
  operand {e} read {s items} ahead := by
    obtain ⟨d, u, next, ends, single⟩ : ∃ d u,
        unblank (separated " | " items rest) = d :: u ∧ endsSequence d = true
          ∧ List.isPrefixOf (Text.ofString "||") (d :: u) = false := by
      cases items with
      | nil =>
          exact ⟨c, t, stop, endsSequence_of_closes closing,
            isPrefixOf_eq_false rfl (ne_bar_of_closes closing) t⟩
      | cons e items =>
          rw [separated_cons]
          exact ⟨_, _, rfl, by decide, rfl⟩
    rw [next]
    exact longest_operand read ahead next ends single

/-- A longest choice is read as it is written. -/
theorem longest_reads (several : 2 ≤ items.length) (each : ∀ e ∈ items, ReadsOperand atom e)
    (ahead : unblank s = unblank ((Expr.longest items).written ++ rest))
    : Reads (longest atom) s (.longest items) (c :: t) := by
  have whole : longestOf items = .longest items := by
    match items, several with
    | _ :: _ :: _, _ => rfl
  rw [← stop, ← whole]
  rw [Expr.written] at ahead
  exact .bind ((longest_alternates stop closing).reads (List.ne_nil_of_length_pos (by omega)) each
    ahead) (.pure _)

/-- A choice is read as it is written. -/
theorem choice_reads (several : 2 ≤ items.length) (each : ∀ e ∈ items, ReadsOperand atom e)
    (ahead : unblank s = unblank ((Expr.choice items).written ++ rest))
    : Reads (choice atom) s (.choice items) (c :: t) := by
  have whole : choiceOf items = .choice items := by
    match items, several with
    | _ :: _ :: _, _ => rfl
  rw [← stop, ← whole]
  rw [Expr.written] at ahead
  exact .bind ((choice_alternates stop closing).reads (List.ne_nil_of_length_pos (by omega)) each
    ahead) (.pure _)

end Closing

end Choices

-----------------------------------------------------------------------------------------
-- Bodies
-----------------------------------------------------------------------------------------

/-- A sequence makes up a whole body. -/
theorem choice_of_sequence (ahead : unblank s = c :: t) (other : c ≠ CodePoint.ofChar '|')
    (read : Reads (sequence atom) (c :: t) e (d :: u)) (stays : unblank (d :: u) = d :: u)
    (closing : closes d = true)
    : Reads (choice atom) s e (d :: u) := by
  have last := ne_bar_of_closes closing
  exact choice_single ahead other (longest_single (unblank_head ahead) other read stays
    (isPrefixOf_eq_false rfl last u)) stays last

/-- A quantified atom makes up a whole body. -/
theorem choice_of_quantified (ahead : unblank s = c :: t) (starts : endsSequence c = false)
    (untilded : c ≠ CodePoint.ofChar '~') (read : Reads (quantified atom) (c :: t) e m)
    (stop : unblank m = d :: u) (closing : closes d = true)
    : Reads (choice atom) s e (d :: u) :=
  choice_of_sequence ahead (ne_bar_of_not_ends starts) (sequence_single (unblank_head ahead) starts
    untilded read stop (endsSequence_of_closes closing)) (unblank_head stop) closing

/-- An atom makes up a whole body. -/
theorem choice_of_atom (ahead : unblank s = c :: t) (starts : endsSequence c = false)
    (untilded : c ≠ CodePoint.ofChar '~') (read : Reads atom (c :: t) e m)
    (stop : unblank m = d :: u) (closing : closes d = true)
    : Reads (choice atom) s e (d :: u) :=
  choice_of_quantified ahead starts untilded (quantified_plain read stop
    (follows_of_endsSequence (endsSequence_of_closes closing))) (unblank_head stop) closing

section Operators

variable {items : List Expr} (each : ∀ e ∈ items, ReadsOperand atom e)

include each

theorem ReadsBody.sequence (several : items.length ≠ 1) : ReadsBody atom (.sequence items) := by
  intro s rest c t ahead stop closing
  obtain ⟨d, u, starts, other⟩ : ∃ d u, unblank s = d :: u ∧ d ≠ CodePoint.ofChar '|' := by
    cases items with
    | nil => exact ⟨c, t, ahead.trans stop, ne_bar_of_closes closing⟩
    | cons e items =>
        rw [Expr.written, joinWith_operands, unblank_bracketed, bracketed_append] at ahead
        exact ⟨_, _, ahead, by decide⟩
  have read := sequence_reads several each ((unblank_head starts).trans
    (starts.symm.trans ahead)) stop (endsSequence_of_closes closing)
  exact choice_of_sequence starts other read (unblank_head stop) closing

theorem ReadsBody.choice (several : 2 ≤ items.length) : ReadsBody atom (.choice items) :=
  fun _ _ _ _ ahead stop closing => choice_reads stop closing several each ahead

theorem ReadsBody.longest (several : 2 ≤ items.length) : ReadsBody atom (.longest items) := by
  intro s rest c t ahead stop closing
  obtain ⟨u, starts⟩ : ∃ u, unblank s = CodePoint.ofChar '[' :: u := by
    cases items with
    | nil => simp at several
    | cons e items =>
        rw [Expr.written, joinWith_operands, unblank_bracketed, bracketed_append] at ahead
        exact ⟨_, ahead⟩
  have read := longest_reads stop closing several each ((unblank_head starts).trans
    (starts.symm.trans ahead))
  exact choice_single starts (by decide) read (unblank_head stop) (ne_bar_of_closes closing)

end Operators

theorem ReadsBody.goal {opener closer body : Expr} (opens : ReadsOperand atom opener)
    (closes : ReadsOperand atom closer) (read : ReadsOperand atom body)
    : ReadsBody atom (.goal opener closer body) := by
  intro s rest c t ahead stop closing
  obtain ⟨u, spelled⟩ : ∃ u, (Expr.goal opener closer body).written ++ rest
      = CodePoint.ofChar '[' :: u := ⟨_, rfl⟩
  have starts := ahead
  rw [spelled, unblank_solid (by decide)] at starts
  have read := goal_reads opens closes read ((unblank_head starts).trans spelled.symm) stop
    (endsSequence_of_closes closing)
  exact choice_of_sequence starts (by decide) read (unblank_head stop) closing

end RuleGrammar.Notation
