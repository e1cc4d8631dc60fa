import RuleGrammar.Proofs.Matcher.Derivation
import RuleGrammar.Proofs.Matcher.Remaining

/-! What expressions consume. Whatever can be derived for an expression has consumed a text of a
kind that is put together as the expression is; greedy choices only narrow the kind down. What is
consumed may be told by the text that is left behind it.
-/

namespace RuleGrammar

-----------------------------------------------------------------------------------------
-- Kinds of consumed texts
-----------------------------------------------------------------------------------------

/-- A kind of consumed text, before the text that is left behind it. -/
abbrev Takes := Text → Text → Prop

namespace Takes

/-- This text and no other. -/
def exactly (literal : Text) : Takes :=
  fun t _ => t = literal

/-- A text of one kind and then one of another. -/
def andThen (first second : Takes) : Takes :=
  fun t more => ∃ a b, t = a ++ b ∧ first a (b ++ more) ∧ second b more

/-- So many texts of a kind, one after the other. -/
inductive times (one : Takes) : Nat → Takes
  | none {more} : times one 0 [] more
  | next {n a b more} (first : one a (b ++ more)) (rest : times one n b more)
    : times one (n + 1) (a ++ b) more

end Takes

/-- What was left of a subject begins with a text of a kind, and the rest is left now. -/
def Subject.Taken (subject : Subject) (rest : Text) (stop : Int) (takes : Takes) : Prop :=
  ∃ t more, rest = t ++ more ∧ takes t more ∧ subject.Leaves stop more

namespace Subject.Taken

variable {subject : Subject} {rest : Text} {pos stop : Int} {takes : Takes}

theorem nothing (leaves : subject.Leaves pos rest) : subject.Taken rest pos (.exactly []) :=
  ⟨[], rest, rfl, rfl, leaves⟩

theorem mono {wider : Takes} (taken : subject.Taken rest stop takes)
    (weaken : ∀ t more, takes t more → wider t more)
    : subject.Taken rest stop wider := by
  obtain ⟨t, more, split, took, leaves⟩ := taken
  exact ⟨t, more, split, weaken t more took, leaves⟩

/-- What is taken after something else is taken together with it. -/
theorem andThen {middle : Int} {later : Takes} (first : subject.Taken rest middle takes)
    (second
      : ∀ more,
          more.length ≤ rest.length
          → subject.Leaves middle more
          → subject.Taken more stop later)
    : subject.Taken rest stop (.andThen takes later) := by
  obtain ⟨a, more, rfl, took, leaves⟩ := first
  obtain ⟨b, left, rfl, took', leaves'⟩ := second more (by simp) leaves
  exact ⟨a ++ b, left, by simp, ⟨a, b, rfl, took, took'⟩, leaves'⟩

end Subject.Taken

/-- What an expression of a rule consumes where no more than a limit is left. -/
def Consumes (g : Grammar) (subject : Subject) (limit : Nat) (rule : Rule) (e : Expr)
    (takes : Takes)
    : Prop :=
  ∀ pos rest r,
    rest.length ≤ limit
    → subject.Leaves pos rest
    → Derives g subject (.expr rule e pos (some r))
    → subject.Taken rest r.stop takes

/-- What a call consumes where no more than a limit is left. -/
def CallConsumes (g : Grammar) (subject : Subject) (limit : Nat) (name : Name) (takes : Takes)
    : Prop :=
  ∀ pos rest m,
    rest.length ≤ limit
    → subject.Leaves pos rest
    → Derives g subject (.call name pos (some m))
    → subject.Taken rest m.stop takes

/-- What a rule consumes as white space between the parts of its body. -/
def SpaceConsumes (g : Grammar) (subject : Subject) (rule : Rule) (gap : Takes) : Prop :=
  ∀ pos rest stop,
    subject.Leaves pos rest
    → Derives g subject (.space rule pos stop)
    → subject.Taken rest stop gap

/-- What a stretch of a sequence consumes where no more than a limit is left. -/
def ItemsConsume (g : Grammar) (subject : Subject) (limit : Nat) (rule : Rule) (first : Bool)
    (items : List Expr) (takes : Takes)
    : Prop :=
  ∀ pos rest r,
    rest.length ≤ limit
    → subject.Leaves pos rest
    → Derives g subject (.items rule first items pos (some r))
    → subject.Taken rest r.stop takes

variable {g : Grammar} {subject : Subject} {limit : Nat} {rule : Rule} {takes : Takes}

theorem Consumes.mono {e : Expr} {wider : Takes}
    (consumes : Consumes g subject limit rule e takes)
    (weaken : ∀ t more, takes t more → wider t more)
    : Consumes g subject limit rule e wider :=
  fun pos rest r short leaves derived => (consumes pos rest r short leaves derived).mono weaken

-----------------------------------------------------------------------------------------
-- Single steps
-----------------------------------------------------------------------------------------

theorem consumes_literal (literal : Text)
    : Consumes g subject limit rule (.literal literal) (.exactly literal) := by
  intro pos rest r _ leaves derived
  generalize answered : some r = answer at derived
  cases derived with
  | literal =>
      by_cases stands : subject.holds literal pos = true
      · obtain ⟨more, rfl⟩ := leaves.holds_iff.mp stands
        rw [if_pos stands] at answered
        cases answered
        exact ⟨literal, more, rfl, rfl, leaves.advance⟩
      · rw [if_neg stands] at answered
        cases answered

theorem consumes_class {cls : CharClass} {holds : CodePoint → Bool}
    (compiled : cls.compile = .ok holds)
    : Consumes g subject limit rule (.charClass cls)
        (fun t _ => ∃ c, t = [c] ∧ holds c = true) := by
  intro pos rest r _ leaves derived
  generalize answered : some r = answer at derived
  cases derived with
  | @charClass _ _ holds' _ compiled' =>
      obtain rfl : holds = holds' := Except.ok.inj (compiled.symm.trans compiled')
      rw [leaves.at?] at answered
      cases rest with
      | nil => cases answered
      | cons c more =>
          by_cases member : holds c = true
          · rw [List.head?_cons, Option.any_some, if_pos member] at answered
            cases answered
            exact ⟨[c], more, rfl, ⟨c, rfl, member⟩, leaves.advance_one⟩
          · rw [List.head?_cons, Option.any_some, if_neg member] at answered
            cases answered

/-- A class that reads nothing has no member in front. -/
theorem class_absent {cls : CharClass} {holds : CodePoint → Bool}
    (compiled : cls.compile = .ok holds) {pos : Int} {rest : Text}
    (leaves : subject.Leaves pos rest)
    (missed : Derives g subject (.expr rule (.charClass cls) pos none))
    : ∀ c ∈ rest.head?, holds c = false := by
  intro c first
  generalize answered : none = answer at missed
  cases missed with
  | @charClass _ _ holds' _ compiled' =>
      obtain rfl : holds = holds' := Except.ok.inj (compiled.symm.trans compiled')
      rw [leaves.at?, Option.mem_def.mp first, Option.any_some] at answered
      cases member : holds c with
      | false => rfl
      | true =>
          rw [member] at answered
          cases answered

theorem consumes_inputStart
    : Consumes g subject limit rule (.anchor .inputStart) (.exactly []) := by
  intro pos rest r _ leaves derived
  generalize answered : some r = answer at derived
  cases derived with
  | anchor =>
      by_cases holds : Anchor.inputStart.holdsAt subject pos = true
      · rw [if_pos holds] at answered
        cases answered
        exact .nothing leaves
      · rw [if_neg holds] at answered
        cases answered

theorem consumes_inputEnd
    : Consumes g subject limit rule (.anchor .inputEnd) (fun t more => t = [] ∧ more = []) := by
  intro pos rest r _ leaves derived
  generalize answered : some r = answer at derived
  cases derived with
  | anchor =>
      by_cases holds : Anchor.inputEnd.holdsAt subject pos = true
      · rw [if_pos holds] at answered
        cases answered
        have done : rest = [] := leaves.eq_size_iff.mp (by simpa [Anchor.holdsAt] using holds)
        exact ⟨[], rest, rfl, ⟨rfl, done⟩, leaves⟩
      · rw [if_neg holds] at answered
        cases answered

theorem consumes_sym {tag : Name} (tagged : rule.tag = some tag)
    : Consumes g subject limit rule .sym (.exactly tag) := by
  intro pos rest r _ leaves derived
  generalize answered : some r = answer at derived
  cases derived with
  | @sym _ tag' _ tagged' =>
      obtain rfl : tag = tag' := Option.some.inj (tagged.symm.trans tagged')
      by_cases stands : subject.holds tag pos = true
      · obtain ⟨more, rfl⟩ := leaves.holds_iff.mp stands
        rw [if_pos stands] at answered
        cases answered
        exact ⟨tag, more, rfl, rfl, leaves.advance⟩
      · rw [if_neg stands] at answered
        cases answered

theorem consumes_reference {name : Name} (capture : Option Name)
    (called : CallConsumes g subject limit name takes)
    : Consumes g subject limit rule (.reference name capture) takes := by
  intro pos rest r short leaves derived
  generalize answered : some r = answer at derived
  cases derived with
  | @reference _ _ _ _ answer derived =>
      cases answer with
      | none => cases answered
      | some m =>
          cases answered
          exact called pos rest m short leaves derived

-----------------------------------------------------------------------------------------
-- Choices, sequences and goals
-----------------------------------------------------------------------------------------

/-- A choice consumes what one of its alternatives does, by induction on them. -/
theorem consumes_choice {alternatives : List Expr}
    (each : ∀ e ∈ alternatives, Consumes g subject limit rule e takes)
    : Consumes g subject limit rule (.choice alternatives) takes := by
  intro pos rest r short leaves derived
  cases derived with
  | choice tried =>
      induction alternatives with
      | nil => cases tried
      | cons e more ih =>
          cases tried with
          | choiceHere found => exact each e List.mem_cons_self pos rest r short leaves found
          | choiceLater _ later =>
              exact ih (fun e member => each e (List.mem_cons_of_mem _ member)) later

theorem itemsConsume_nil {first : Bool}
    : ItemsConsume g subject limit rule first [] (.exactly []) := by
  intro pos rest r _ leaves derived
  cases derived with
  | itemsDone => exact .nothing leaves

theorem consumes_sequence {items : List Expr}
    (each : ItemsConsume g subject limit rule true items takes)
    : Consumes g subject limit rule (.sequence items) takes := by
  intro pos rest r short leaves derived
  cases derived with
  | sequence derived => exact each pos rest r short leaves derived

/-- The first item of a sequence stands where the sequence does. -/
theorem itemsConsume_first {e : Expr} {items : List Expr} {later : Takes}
    (item : Consumes g subject limit rule e takes)
    (others : ItemsConsume g subject limit rule false items later)
    : ItemsConsume g subject limit rule true (e :: items) (.andThen takes later) := by
  intro pos rest r short leaves derived
  generalize answered : some r = answer at derived
  cases derived with
  | itemsMissed _ _ => cases answered
  | @itemsNext _ _ _ _ _ start r' answer started here next =>
      cases started with
      | startFirst =>
          cases answer with
          | none => cases answered
          | some l =>
              cases answered
              refine (item pos rest r' short leaves here).andThen fun more fewer left => ?_
              exact others r'.stop more l (Nat.le_trans fewer short) left next

/-- White space stands before every other item of a sequence. -/
theorem itemsConsume_next {e : Expr} {items : List Expr} {gap later : Takes}
    (space : SpaceConsumes g subject rule gap) (item : Consumes g subject limit rule e takes)
    (others : ItemsConsume g subject limit rule false items later)
    : ItemsConsume g subject limit rule false (e :: items)
        (.andThen gap (.andThen takes later)) := by
  intro pos rest r short leaves derived
  generalize answered : some r = answer at derived
  cases derived with
  | itemsMissed _ _ => cases answered
  | @itemsNext _ _ _ _ _ start r' answer started here next =>
      cases started with
      | startLater skipped =>
          cases answer with
          | none => cases answered
          | some l =>
              cases answered
              refine (space pos rest start leaves skipped).andThen fun more fewer left => ?_
              have short := Nat.le_trans fewer short
              refine (item start more r' short left here).andThen fun more fewer left => ?_
              exact others r'.stop more l (Nat.le_trans fewer short) left next

/-- A goal between two texts consumes white space around its body. The body has less to consume
than the goal, behind an opener that is not empty.
-/
theorem consumes_goal {opener closer : Text} {body : Expr} {gap : Takes}
    (space : SpaceConsumes g subject rule gap) (opens : opener ≠ [])
    (inside : ∀ less, less < limit → Consumes g subject less rule body takes)
    : Consumes g subject limit rule (.goal (.literal opener) (.literal closer) body)
        (.andThen (.exactly opener) (.andThen gap (.andThen takes (.andThen gap
          (.exactly closer))))) := by
  intro pos rest r short leaves derived
  generalize answered : some r = answer at derived
  cases derived with
  | goalUnopened _ => cases answered
  | goalUnfilled _ _ _ => cases answered
  | @goal _ _ _ _ _ o start b closing answer opened skipped filled skippedAfter closed =>
      cases answer with
      | none => cases answered
      | some c =>
          cases answered
          obtain ⟨t, left, rfl, same, leaves⟩ :=
            consumes_literal opener pos rest o short leaves opened
          obtain rfl : t = opener := same
          have fewer : left.length < limit := by
            have := List.length_pos_iff.mpr opens
            simp only [List.length_append] at short
            omega
          have whole : subject.Taken left c.stop
              (.andThen gap (.andThen takes (.andThen gap (.exactly closer)))) := by
            refine (space o.stop left start leaves skipped).andThen fun more less left => ?_
            refine (inside _ (Nat.lt_of_le_of_lt less fewer) start more b (Nat.le_refl _) left
              filled).andThen fun more _ left => ?_
            refine (space b.stop more closing left skippedAfter).andThen fun more _ left => ?_
            exact consumes_literal closer closing more c (Nat.le_refl _) left closed
          obtain ⟨u, more, rfl, took, leaves⟩ := whole
          exact ⟨t ++ u, more, by simp, ⟨t, u, rfl, rfl, took⟩, leaves⟩

-----------------------------------------------------------------------------------------
-- Repetitions
-----------------------------------------------------------------------------------------

/-- The rounds of a repetition that were derived. They are done where there may be no more, where
nothing stands before another round, or where its body reads nothing.
-/
inductive Looped (g : Grammar) (subject : Subject) (rule : Rule) (loop : Loop)
    : Progress → Progress → Prop
  | done {p}
    (stopped
      : belowMax loop.max p.rounds = true
        → Derives g subject (.gap rule loop.sep p none)
          ∨ ∃ before,
              Derives g subject (.gap rule loop.sep p (some before))
              ∧ Derives g subject (.expr rule loop.body before.stop none))
    : Looped g subject rule loop p p
  | last {p before r} (below : belowMax loop.max p.rounds = true)
    (gap : Derives g subject (.gap rule loop.sep p (some before)))
    (round : Derives g subject (.expr rule loop.body before.stop (some r)))
    (stays : r.stop = p.stop)
    : Looped g subject rule loop p
        (p.round r.stop (roundLog loop.max (before.caught ++ r.caught)))
  | next {p before r last} (below : belowMax loop.max p.rounds = true)
    (gap : Derives g subject (.gap rule loop.sep p (some before)))
    (round : Derives g subject (.expr rule loop.body before.stop (some r)))
    (later : Looped g subject rule loop
      (p.round r.stop (roundLog loop.max (before.caught ++ r.caught))) last)
    : Looped g subject rule loop p last

/-- Derived rounds loop, by induction on the derivation. -/
theorem looped_of_derives {j : Judgment} (derived : Derives g subject j)
    : match j with
      | .rounds rule loop p last => Looped g subject rule loop p last
      | _ => True := by
  induction derived with
  | roundsFull full => exact .done fun below => by rw [full] at below; cases below
  | roundsUnseparated _ gap _ => exact .done fun _ => Or.inl gap
  | roundsMissed _ gap missed _ _ => exact .done fun _ => Or.inr ⟨_, gap, missed⟩
  | roundsLast below gap round last _ _ =>
      simp only [isLastRound, Bool.and_eq_true, decide_eq_true_eq] at last
      exact .last below gap round last.1
  | roundsNext below gap round _ _ _ _ later => exact .next below gap round later
  | _ => trivial

/-- A repetition comes about by rounds, enough of them, and stops where they do. -/
theorem looped_of_repetition {body : Expr} {min : Nat} {max : Option Nat} {sep : Option Expr}
    {pos : Int} {r : Reached}
    (derived : Derives g subject (.expr rule (.repetition body min max sep false) pos (some r)))
    : ∃ last, Looped g subject rule ⟨body, min, max, sep⟩ ⟨pos, 0, []⟩ last
        ∧ r.stop = last.stop
        ∧ min ≤ last.rounds := by
  generalize answered : some r = answer at derived
  cases derived with
  | @repetition _ _ _ _ _ _ _ p last rounds trail =>
      have stop : last.stop = p.stop := by
        cases trail with
        | trailUntried _ => rfl
        | trailMissed tried _ _ => cases tried
        | trailFound tried _ _ => cases tried
      by_cases few : p.rounds < min
      · rw [if_pos few] at answered
        cases answered
      · rw [if_neg few] at answered
        cases answered
        exact ⟨p, looped_of_derives rounds, stop, Nat.not_lt.mp few⟩

namespace Looped

variable {loop : Loop} {p last : Progress}

/-- Rounds do not outnumber the bound of their repetition. -/
theorem rounds_le (looped : Looped g subject rule loop p last) {bound : Nat}
    (bounded : loop.max = some bound) (few : p.rounds ≤ bound)
    : last.rounds ≤ bound := by
  have step {p : Progress} (below : belowMax loop.max p.rounds = true) : p.rounds + 1 ≤ bound := by
    rw [bounded] at below
    exact of_decide_eq_true below
  induction looped with
  | done _ => exact few
  | last below _ _ _ => exact step below
  | next below _ _ _ ih => exact ih (step below)

/-- In a token, nothing is consumed between rounds without separator. -/
theorem gap_stop_token (token : rule.sigspace = false) {before : Reached}
    (gap : Derives g subject (.gap rule none p (some before)))
    : before.stop = p.stop := by
  cases gap with
  | gapFirst _ => rfl
  | gapPlain _ space =>
      cases space with
      | spaceless _ => rfl
      | space some _ =>
          rw [token] at some
          cases some

/-- In a token, rounds consume as many texts as there are rounds. Induction on the rounds. -/
theorem times (looped : Looped g subject rule loop p last) (token : rule.sigspace = false)
    (plain : loop.sep = none) (body : Consumes g subject limit rule loop.body takes)
    {rest : Text} (short : rest.length ≤ limit) (leaves : subject.Leaves p.stop rest)
    : ∃ n,
        last.rounds = p.rounds + n
        ∧ subject.Taken rest last.stop (.times takes n) := by
  have step {p : Progress} {before r : Reached} {rest : Text} (short : rest.length ≤ limit)
      (leaves : subject.Leaves p.stop rest)
      (gap : Derives g subject (.gap rule loop.sep p (some before)))
      (round : Derives g subject (.expr rule loop.body before.stop (some r)))
      : subject.Taken rest r.stop takes := by
    rw [plain] at gap
    rw [gap_stop_token token gap] at round
    exact body p.stop rest r short leaves round
  induction looped generalizing rest with
  | done _ => exact ⟨0, rfl, [], rest, rfl, .none, leaves⟩
  | last _ gap round _ =>
      obtain ⟨t, more, rfl, took, left⟩ := step short leaves gap round
      have once : Takes.times takes 1 (t ++ []) more := .next took .none
      rw [List.append_nil] at once
      exact ⟨1, rfl, t, more, rfl, once, left⟩
  | next _ gap round _ ih =>
      obtain ⟨t, more, rfl, took, left⟩ := step short leaves gap round
      have fewer : more.length ≤ limit := by
        simp only [List.length_append] at short
        omega
      obtain ⟨n, count, later⟩ := ih fewer left
      obtain ⟨u, more, rfl, tookLater, left⟩ := later
      refine ⟨n + 1, ?_, t ++ u, more, by simp, .next took tookLater, left⟩
      simp only [count, Progress.round]
      omega

/-- In a token, rounds without bound end where their body reads nothing, if whatever it reads
moves on: no round is the last one for having stayed.
-/
theorem missed {body : Expr} {min : Nat}
    (looped : Looped g subject rule ⟨body, min, none, none⟩ p last) (token : rule.sigspace = false)
    (consumes : Consumes g subject limit rule body takes)
    (moves : ∀ t more, takes t more → t ≠ []) {rest : Text} (short : rest.length ≤ limit)
    (leaves : subject.Leaves last.stop rest)
    : Derives g subject (.expr rule body last.stop none) := by
  generalize same : (⟨body, min, none, none⟩ : Loop) = loop at looped
  induction looped with
  | done stopped =>
      subst same
      rcases stopped rfl with gap | ⟨before, gap, missed⟩
      · cases gap
      · rwa [gap_stop_token token gap] at missed
  | @last p before r _ gap round stays =>
      subst same
      rw [gap_stop_token token gap] at round
      have left : subject.Leaves p.stop rest := stays ▸ leaves
      obtain ⟨t, more, split, took, after⟩ := consumes p.stop rest r short left round
      have same : rest = more := leaves.unique after
      have longer := congrArg List.length (same.symm.trans split)
      have moved := List.length_pos_iff.mpr (moves t more took)
      simp only [List.length_append] at longer
      omega
  | next _ _ _ _ ih => exact ih leaves

/-- With white space and a separator between them, the rounds after the first consume both before
what they consume themselves. Induction on the rounds.
-/
theorem separated {separator : Text} {gap : Takes}
    (looped : Looped g subject rule loop p last) (space : SpaceConsumes g subject rule gap)
    (joined : loop.sep = some (.literal separator))
    (body : Consumes g subject limit rule loop.body takes) (started : p.rounds ≠ 0) {rest : Text}
    (short : rest.length ≤ limit) (leaves : subject.Leaves p.stop rest)
    : ∃ n,
        subject.Taken rest last.stop
          (.times (.andThen gap (.andThen (.exactly separator) (.andThen gap takes))) n) := by
  have step {p : Progress} {before r : Reached} {rest : Text} (started : p.rounds ≠ 0)
      (short : rest.length ≤ limit) (leaves : subject.Leaves p.stop rest)
      (between : Derives g subject (.gap rule loop.sep p (some before)))
      (round : Derives g subject (.expr rule loop.body before.stop (some r)))
      : subject.Taken rest r.stop
          (.andThen gap (.andThen (.exactly separator) (.andThen gap takes))) := by
    rw [joined] at between
    cases between with
    | gapFirst first => exact absurd first started
    | @gapSeparated _ _ _ start s stop _ skipped found skippedAfter =>
        refine (space p.stop rest start leaves skipped).andThen fun more fewer left => ?_
        have short := Nat.le_trans fewer short
        refine (consumes_literal separator start more s short left found).andThen
          fun more fewer left => ?_
        have short := Nat.le_trans fewer short
        refine (space s.stop more stop left skippedAfter).andThen fun more fewer left => ?_
        exact body stop more r (Nat.le_trans fewer short) left round
  induction looped generalizing rest with
  | done _ => exact ⟨0, [], rest, rfl, .none, leaves⟩
  | last _ between round _ =>
      obtain ⟨t, more, rfl, took, left⟩ := step started short leaves between round
      have once := Takes.times.next took .none
      rw [List.append_nil] at once
      exact ⟨1, t, more, rfl, once, left⟩
  | next _ between round _ ih =>
      obtain ⟨t, more, rfl, took, left⟩ := step started short leaves between round
      have fewer : more.length ≤ limit := by
        simp only [List.length_append] at short
        omega
      obtain ⟨n, u, more, rfl, tookLater, left⟩ := ih (Nat.succ_ne_zero _) fewer left
      exact ⟨n + 1, t ++ u, more, by simp, .next took tookLater, left⟩

end Looped

section Token

variable (token : rule.sigspace = false)

include token

theorem spaceConsumes_token : SpaceConsumes g subject rule (.exactly []) := by
  intro pos rest stop leaves derived
  cases derived with
  | spaceless _ => exact .nothing leaves
  | space some _ =>
      rw [token] at some
      cases some

/-- In a token, nothing stands between the items of a sequence. -/
theorem itemsConsume_token {e : Expr} {items : List Expr} {later : Takes}
    (item : Consumes g subject limit rule e takes)
    (others : ItemsConsume g subject limit rule false items later)
    : ItemsConsume g subject limit rule false (e :: items) (.andThen takes later) := by
  have next := itemsConsume_next (spaceConsumes_token token) item others
  intro pos rest r short leaves derived
  refine (next pos rest r short leaves derived).mono fun t more took => ?_
  obtain ⟨_, b, rfl, rfl, took⟩ := took
  exact took

/-- A repetition in a token consumes as many texts as it goes round. -/
theorem consumes_times {body : Expr} {min : Nat} {max : Option Nat}
    (consumes : Consumes g subject limit rule body takes)
    : Consumes g subject limit rule (.repetition body min max none false)
        (fun t more =>
          ∃ n, min ≤ n ∧ (∀ bound, max = some bound → n ≤ bound) ∧ takes.times n t more) := by
  intro pos rest r short leaves derived
  obtain ⟨last, looped, stop, enough⟩ := looped_of_repetition derived
  obtain ⟨n, count, taken⟩ := looped.times token rfl consumes short leaves
  have count : last.rounds = n := count.trans (Nat.zero_add n)
  rw [stop]
  refine taken.mono fun t more took => ⟨n, count ▸ enough, fun bound bounded => ?_, took⟩
  exact count ▸ looped.rounds_le bounded (Nat.zero_le bound)

/-- What may be left out is consumed or not. -/
theorem consumes_optional {body : Expr} (consumes : Consumes g subject limit rule body takes)
    : Consumes g subject limit rule (.repetition body 0 (some 1) none false)
        (fun t more => t = [] ∨ takes t more) := by
  refine (consumes_times token consumes).mono ?_
  rintro t more ⟨n, -, few, took⟩
  cases took with
  | none => exact Or.inl rfl
  | @next n a b _ first rest =>
      have one := few 1 rfl
      obtain rfl : n = 0 := by omega
      cases rest with
      | none => exact Or.inr (by simpa using first)

/-- A repeated class consumes all members that come first, and there are enough of them. -/
theorem consumes_class_many {cls : CharClass} {holds : CodePoint → Bool} {min : Nat}
    (compiled : cls.compile = .ok holds)
    : Consumes g subject limit rule (.repetition (.charClass cls) min none none false)
        (fun t more =>
          min ≤ t.length
          ∧ (∀ c ∈ t, holds c = true)
          ∧ ∀ c ∈ more.head?, holds c = false) := by
  have members {n : Nat} {t more : Text}
      (took : Takes.times (fun t _ => ∃ c, t = [c] ∧ holds c = true) n t more)
      : t.length = n ∧ ∀ c ∈ t, holds c = true := by
    induction took with
    | none => simp
    | next first _ ih =>
        obtain ⟨c, rfl, member⟩ := first
        refine ⟨by simp [ih.1], fun d inside => ?_⟩
        rcases List.mem_cons.mp inside with rfl | later
        · exact member
        · exact ih.2 d later
  intro pos rest r short leaves derived
  obtain ⟨last, looped, stop, enough⟩ := looped_of_repetition derived
  obtain ⟨n, count, t, more, rfl, took, left⟩ :=
    looped.times token rfl (consumes_class compiled) short leaves
  have count : last.rounds = n := count.trans (Nat.zero_add n)
  obtain ⟨length, all⟩ := members took
  rw [stop]
  have missed := looped.missed token (consumes_class compiled)
    (by rintro t more ⟨c, rfl, -⟩; simp) (Nat.le_refl _) left
  exact ⟨t, more, rfl, ⟨by omega, all, class_absent compiled left missed⟩, left⟩

end Token

/-- A repetition with a separator consumes nothing, or something and then more of it, each behind
a separator with white space around it.
-/
theorem consumes_separated {body : Expr} {separator : Text} {gap : Takes}
    (space : SpaceConsumes g subject rule gap)
    (consumes : Consumes g subject limit rule body takes)
    : Consumes g subject limit rule
        (.repetition body 0 none (some (.literal separator)) false)
        (fun t more =>
          t = []
          ∨ ∃ n,
              takes.andThen
                (.times (.andThen gap (.andThen (.exactly separator) (.andThen gap takes))) n)
                t more) := by
  intro pos rest r short leaves derived
  obtain ⟨last, looped, stop, -⟩ := looped_of_repetition derived
  rw [stop]
  have here {before r : Reached}
      (between : Derives g subject
        (.gap rule (some (.literal separator)) ⟨pos, 0, []⟩ (some before)))
      (round : Derives g subject (.expr rule body before.stop (some r)))
      : subject.Taken rest r.stop takes := by
    cases between with
    | gapFirst _ => exact consumes pos rest r short leaves round
    | gapSeparated later _ _ _ => exact absurd rfl later
  cases looped with
  | done _ => exact (Subject.Taken.nothing leaves).mono fun t more none => Or.inl none
  | last _ between round _ =>
      obtain ⟨t, more, rfl, took, left⟩ := here between round
      exact ⟨t, more, rfl, Or.inr ⟨0, t, [], by simp, by simpa using took, .none⟩, left⟩
  | next _ between round later =>
      obtain ⟨t, more, rfl, took, left⟩ := here between round
      have fewer : more.length ≤ limit := by
        simp only [List.length_append] at short
        omega
      obtain ⟨n, u, more, rfl, tookLater, left⟩ :=
        later.separated space rfl consumes (Nat.succ_ne_zero _) fewer left
      exact ⟨t ++ u, more, by simp, Or.inr ⟨n, t, u, rfl, took, tookLater⟩, left⟩

-----------------------------------------------------------------------------------------
-- Calls
-----------------------------------------------------------------------------------------

/-- A rule consumes what its body does. -/
theorem taken_of_apply {pos : Int} {rest : Text} {m : Match} (short : rest.length ≤ limit)
    (consumes : Consumes g subject limit rule rule.expr takes)
    (leaves : subject.Leaves pos rest) (derived : Derives g subject (.apply rule pos (some m)))
    : subject.Taken rest m.stop takes := by
  generalize answered : some m = answer at derived
  cases derived with
  | @apply _ _ answer body =>
      cases answer with
      | none => cases answered
      | some r =>
          cases answered
          exact consumes pos rest r short leaves body

theorem callConsumes_rule {name : Name} (stands : g.lookup name = some (.rule rule))
    (consumes : Consumes g subject limit rule rule.expr takes)
    : CallConsumes g subject limit name takes := by
  intro pos rest m short leaves derived
  cases derived with
  | callRule stands' applied =>
      obtain rfl : rule = _ := Entry.rule.inj (Option.some.inj (stands.symm.trans stands'))
      exact taken_of_apply short consumes leaves applied
  | callGroup stands' _ =>
      rw [stands] at stands'
      cases stands'

/-- A group consumes what one of its alternatives does, by induction on them. -/
theorem callConsumes_group {name : Name} {group : ProtoGroup}
    (stands : g.lookup name = some (.group group))
    (each : ∀ rule ∈ group.alternatives, Consumes g subject limit rule rule.expr takes)
    : CallConsumes g subject limit name takes := by
  intro pos rest m short leaves derived
  have among {alternatives : List Rule} {best : Option Match}
      (each : ∀ rule ∈ alternatives, Consumes g subject limit rule rule.expr takes)
      (sofar : ∀ m ∈ best, subject.Taken rest m.stop takes)
      (derived : Derives g subject (.group alternatives best pos (some m)))
      : subject.Taken rest m.stop takes := by
    induction alternatives generalizing best with
    | nil =>
        cases derived with
        | dispatchDone => exact sofar m rfl
    | cons first others ih =>
        cases derived with
        | @dispatchNext _ _ _ _ next _ here later =>
            refine ih (fun rule member => each rule (List.mem_cons_of_mem _ member)) ?_ later
            intro n better
            have found : n ∈ next ∨ n ∈ best := by
              cases best with
              | none => exact Or.inl better
              | some b =>
                  cases next with
                  | none => exact Or.inr better
                  | some n' =>
                      simp only [furtherMatch] at better
                      split at better
                      · exact Or.inl better
                      · exact Or.inr better
            rcases found with new | old
            · obtain rfl : next = some n := new
              exact taken_of_apply short (each first List.mem_cons_self) leaves here
            · exact sofar n old
  cases derived with
  | callRule stands' _ =>
      rw [stands] at stands'
      cases stands'
  | callGroup stands' dispatched =>
      obtain rfl : group = _ := Entry.group.inj (Option.some.inj (stands.symm.trans stands'))
      exact among each (by simp) dispatched

/-- A rule that tries white space consumes what the call for it does; where that reads nothing,
nothing is consumed.
-/
theorem spaceConsumes_ws {gap : Takes}
    (ws
      : ∀ pos rest answer,
          subject.Leaves pos rest
          → Derives g subject (.call "ws" pos answer)
          → subject.Taken rest (answer.elim pos Match.stop) gap)
    (spaced : rule.sigspace = true)
    : SpaceConsumes g subject rule gap := by
  intro pos rest stop leaves derived
  cases derived with
  | spaceless none =>
      rw [spaced] at none
      cases none
  | space _ called => exact ws pos rest _ leaves called

end RuleGrammar
