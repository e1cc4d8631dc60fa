import RuleGrammar.Command.Run
import RuleGrammar.Proofs.Matcher.Confinement

/-! The codes that commands end with. Whoever has had a file checked gets a code for any match of
it: 0 for a match, 1 for a failure, and 2 for what is unknown or nested too deep. Only a class that
names an unknown property stops a command without a code, as no check compiles the classes.
-/

namespace RuleGrammar.Command

variable {α β : Type} {files : Files} {file : Text} {debug : Bool}

/-- The code of a command that was reported on. -/
def Ending.code? : Ending → Option Nat
  | reported report => some report.code
  | stopped _ | aborted _ => none

/-- Why a command was aborted. -/
def Ending.abort? : Ending → Option Abort
  | aborted abort => some abort
  | reported _ | stopped _ => none

-----------------------------------------------------------------------------------------
-- Refusals
-----------------------------------------------------------------------------------------

/-- Whatever a command refuses, it refuses with a code. -/
def Refuses (command : CommandM α) (code : Nat) : Prop :=
  ∀ notes refused notes', command notes = .error (.refused refused) notes' → refused = code

namespace Refuses

variable {code : Nat}

theorem refuse (lines : List Text) : Refuses (CommandM.refuse code lines : CommandM α) code := by
  rintro notes refused notes' ⟨⟩
  rfl

theorem abort (abort : Abort) : Refuses (CommandM.abort abort : CommandM α) code := by
  rintro notes refused notes' ⟨⟩

theorem pure (a : α) : Refuses (Pure.pure a : CommandM α) code := by
  rintro notes refused notes' ⟨⟩

theorem noteIf (debug : Bool) (lines : List Text)
    : Refuses (CommandM.noteIf debug lines) code := by
  intro notes refused notes' ended
  unfold CommandM.noteIf at ended
  split at ended <;> cases ended

theorem bind {first : CommandM α} {next : α → CommandM β} (refuses : Refuses first code)
    (then_ : ∀ a, Refuses (next a) code)
    : Refuses (first >>= next) code := by
  intro notes refused notes' ended
  rcases bind_eq_error.mp ended with stopped | ⟨a, more, -, stopped⟩
  · exact refuses notes refused notes' stopped
  · exact then_ a more refused notes' stopped

theorem forM {command : α → CommandM PUnit} (items : List α)
    (each : ∀ a, Refuses (command a) code)
    : Refuses (items.forM command) code := by
  induction items with
  | nil => exact .pure ()
  | cons a rest ih =>
      change Refuses (command a >>= fun _ => rest.forM command) code
      exact (each a).bind fun _ => ih

theorem readText (files : Files) (file : Text) : Refuses (readText files file) 2 := by
  unfold Command.readText
  dsimp only
  split
  · exact .abort _
  · split
    · exact .refuse _
    · split
      · exact .pure _
      · exact .abort _

theorem validateNoting (debug : Bool) (grammar : Grammar)
    : Refuses (validateNoting debug grammar) 2 := by
  unfold Command.validateNoting
  split
  · exact .refuse _
  · exact .noteIf _ _

theorem loadGrammars (files : Files) (file : Text) (debug : Bool)
    : Refuses (loadGrammars files file debug) 2 := by
  unfold Command.loadGrammars
  refine (readText files file).bind fun text => ?_
  split
  · exact .abort _
  · exact .refuse _
  · refine (noteIf _ _).bind fun _ => ?_
    exact bind (forM _ fun row => validateNoting debug row.2) fun _ => .pure _

theorem check (files : Files) (file : Text) (debug : Bool)
    : Refuses (check files file debug) 2 := by
  unfold Command.check
  exact (loadGrammars files file debug).bind fun _ => (noteIf _ _).bind fun _ => .pure _

end Refuses

-----------------------------------------------------------------------------------------
-- Files that pass
-----------------------------------------------------------------------------------------

/-- A file that can be opened holds a text. -/
structure Holds (files : Files) (file text : Text) : Prop where
  proper : (Path.ofText file).text.any (fun c => c.value = 0) = false
  opened : ∃ bytes, files (Path.ofText file) = .ok bytes ∧ Text.ofFile? bytes = some text

theorem readText_eq_ok {text : Text} {notes notes' : List Text}
    : readText files file notes = .ok text notes' ↔ Holds files file text ∧ notes' = notes := by
  unfold readText
  constructor
  · intro ran
    split at ran
    · cases ran
    · rename_i proper
      cases opened : files (Path.ofText file) with
      | error error =>
          simp only [opened] at ran
          cases ran
      | ok bytes =>
          simp only [opened] at ran
          cases decoded : Text.ofFile? bytes with
          | none =>
              simp only [decoded] at ran
              cases ran
          | some found =>
              simp only [decoded] at ran
              cases ran
              exact ⟨⟨Bool.not_eq_true _ ▸ proper, bytes, opened, decoded⟩, rfl⟩
  · rintro ⟨⟨proper, bytes, opened, decoded⟩, rfl⟩
    simp only [proper, Bool.false_eq_true, if_false, opened, decoded]
    rfl

/-- A file declares grammars, all of them valid. -/
structure Declares (files : Files) (file : Text) (grammars : Grammars) : Prop where
  source : ∃ text, Holds files file text ∧ Grammars.read [] text = .ok grammars
  valid : ∀ row ∈ grammars, row.2.validate = .ok ()

theorem noteIf_eq_ok (debug : Bool) (lines notes : List Text)
    : ∃ notes', CommandM.noteIf debug lines notes = .ok () notes' := by
  unfold CommandM.noteIf
  split
  · exact ⟨_, rfl⟩
  · exact ⟨_, rfl⟩

theorem validateNoting_eq_ok (debug : Bool) (notes : List Text) {grammar : Grammar}
    : (∃ notes', validateNoting debug grammar notes = .ok () notes')
      ↔ grammar.validate = .ok () := by
  unfold validateNoting
  cases grammar.validate with
  | ok _ => simpa using noteIf_eq_ok debug _ notes
  | error error =>
      refine ⟨?_, nofun⟩
      rintro ⟨_, ⟨⟩⟩

/-- Grammars are checked one after the other, by induction on them. -/
theorem forM_validateNoting_eq_ok {grammars : Grammars} {notes : List Text}
    : (∃ notes', grammars.forM (fun row => validateNoting debug row.2) notes = .ok () notes')
      ↔ ∀ row ∈ grammars, row.2.validate = .ok () := by
  induction grammars generalizing notes with
  | nil => exact ⟨fun _ => by simp, fun _ => ⟨notes, rfl⟩⟩
  | cons row rest ih =>
      rw [List.forall_mem_cons, ← validateNoting_eq_ok debug notes]
      constructor
      · rintro ⟨notes', ran⟩
        obtain ⟨_, more, first, others⟩ := bind_eq_ok.mp ran
        exact ⟨⟨more, first⟩, ih.mp ⟨notes', others⟩⟩
      · rintro ⟨⟨more, first⟩, valid⟩
        obtain ⟨notes', others⟩ := ih.mpr valid
        exact ⟨notes', bind_eq_ok.mpr ⟨(), more, first, others⟩⟩

/-- Grammars are loaded exactly from files that declare them, whatever is noted on the way. -/
theorem loadGrammars_eq_ok (debug : Bool) (notes : List Text) {grammars : Grammars}
    : (∃ notes', loadGrammars files file debug notes = .ok grammars notes')
      ↔ Declares files file grammars := by
  unfold loadGrammars
  constructor
  · rintro ⟨notes', ran⟩
    obtain ⟨text, more, opened, parsed⟩ := bind_eq_ok.mp ran
    obtain ⟨holds, -⟩ := readText_eq_ok.mp opened
    cases read : Grammars.read [] text with
    | error error =>
        rw [read] at parsed
        cases error <;> cases parsed
    | ok found =>
        rw [read] at parsed
        obtain ⟨_, _, -, validates⟩ := bind_eq_ok.mp parsed
        obtain ⟨_, _, validated, ends⟩ := bind_eq_ok.mp validates
        cases ends
        exact ⟨⟨text, holds, read⟩, forM_validateNoting_eq_ok.mp ⟨_, validated⟩⟩
  · rintro ⟨⟨text, holds, read⟩, valid⟩
    obtain ⟨noted, parsed⟩ := noteIf_eq_ok debug
      ["[DEBUG] grammars parsed | " ++ Text.joinWith ", " (grammars.map (·.1))] notes
    obtain ⟨notes', validated⟩ := forM_validateNoting_eq_ok.mpr valid
    refine ⟨notes', bind_eq_ok.mpr ⟨text, notes, readText_eq_ok.mpr ⟨holds, rfl⟩, ?_⟩⟩
    rw [read]
    exact bind_eq_ok.mpr ⟨(), noted, parsed, bind_eq_ok.mpr ⟨(), notes', validated, rfl⟩⟩

/-- A check that ends with code 0 has loaded its grammars. -/
theorem exists_declares_of_check
    (accepted : (Ending.ofCommand (check files file debug)).code? = some 0)
    : ∃ grammars, Declares files file grammars := by
  unfold Ending.ofCommand at accepted
  cases ended : check files file debug [] with
  | ok lines notes =>
      obtain ⟨grammars, more, loaded, -⟩ := bind_eq_ok.mp ended
      exact ⟨grammars, (loadGrammars_eq_ok debug []).mp ⟨more, loaded⟩⟩
  | error halt notes =>
      rw [ended] at accepted
      cases halt with
      | refused code =>
          have refused := Refuses.check files file debug [] code notes ended
          exact absurd (refused.symm.trans (Option.some.inj accepted)) (by decide)
      | aborted abort => cases accepted

-----------------------------------------------------------------------------------------
-- Matching with a checked file
-----------------------------------------------------------------------------------------

/-- A request supplies a rule, a text and perhaps a limit: each of these was given a value, and an
input file holds the text.
-/
structure ParseRequest.Supplies (request : ParseRequest) (files : Files) (rule : Name)
    (text : Text) (limit : Option Int)
    : Prop where
  rule : request.rule = .value rule
  source
    : request.source = .text (.value text)
      ∨ ∃ input, request.source = .file (.value input) ∧ Holds files input text
  limit : request.maxDepth = limit.map .value

/-- The match that a request asks for. -/
def ParseRequest.matching (request : ParseRequest) (grammar : Grammar) (rule : Name) (text : Text)
    (limit : Option Int)
    : RunResult :=
  RuleGrammar.run
    { grammar, subject := Subject.ofText text,
      config := { maxDepth := limit, debug := request.debug } }
    rule 0 request.anchored

/-- How a match ends the command that asked for it: with a code, unless it met a faulty class of
the grammar.
-/
inductive EndsAs (grammar : Grammar) (rule : Name) (ending : Ending) : Except Fault Outcome → Prop
  | matched {root} (code : ending.code? = some 0)
    : EndsAs grammar rule ending (.ok (.matched root))
  | failed {failure} (code : ending.code? = some 1)
    : EndsAs grammar rule ending (.ok (.failed failure))
  | unknownRule (missing : grammar.lookup rule = none) (code : ending.code? = some 2)
    : EndsAs grammar rule ending (.error (.grammar (.unknownRule rule grammar.name)))
  | exhausted {fault} (nested : fault.isOfGrammar = false) (code : ending.code? = some 2)
    : EndsAs grammar rule ending (.error fault)
  | faulty {fault}
    (among : ∃ r ∈ grammar.visibleRules, ∃ cls ∈ r.expr.classes, cls.fault? = some fault)
    (aborted : ending.abort? = some (.charClass fault))
    : EndsAs grammar rule ending (.error (.charClass fault))

/-- Where no class is faulty there is a code. -/
theorem EndsAs.exists_code {grammar : Grammar} {rule : Name} {ending : Ending}
    {outcome : Except Fault Outcome} (ends : EndsAs grammar rule ending outcome)
    (compiles : ∀ r ∈ grammar.visibleRules, ∀ cls ∈ r.expr.classes, cls.fault? = none)
    : ∃ code ≤ 2, ending.code? = some code := by
  cases ends with
  | matched code => exact ⟨0, by decide, code⟩
  | failed code => exact ⟨1, by decide, code⟩
  | unknownRule _ code => exact ⟨2, by decide, code⟩
  | exhausted _ code => exact ⟨2, by decide, code⟩
  | faulty among _ =>
      obtain ⟨r, visible, cls, inside, faulty⟩ := among
      rw [compiles r visible cls inside] at faulty
      cases faulty

/-- The grammar that is asked for is one of the file. -/
theorem mem_of_pickGrammar {grammars : Grammars} {name : Option Text} {grammar : Grammar}
    (picked : pickGrammar grammars name = some grammar)
    : ∃ row ∈ grammars, row.2 = grammar := by
  have last (picked : grammars.main? = some grammar) : ∃ row ∈ grammars, row.2 = grammar := by
    obtain ⟨row, isLast, rfl⟩ := Option.map_eq_some_iff.mp picked
    exact ⟨row, List.mem_of_getLast? isLast, rfl⟩
  unfold pickGrammar at picked
  split at picked
  · exact last picked
  · exact last picked
  · obtain ⟨row, found, rfl⟩ := Option.map_eq_some_iff.mp picked
    exact ⟨row, List.mem_of_find?_eq_some found, rfl⟩

/-- A grammar that the file does not declare is refused before anything else is looked at. -/
theorem Declares.code_of_unknown {grammars : Grammars} {request : ParseRequest}
    (declares : Declares files request.file grammars)
    (unknown : pickGrammar grammars request.grammar = none)
    : (Ending.ofCommand (request.run files)).code? = some 2 := by
  obtain ⟨notes, loaded⟩ := (loadGrammars_eq_ok request.debug []).mpr declares
  unfold Ending.ofCommand ParseRequest.run
  rw [bind_of_ok loaded]
  simp only [unknown]
  rfl

namespace ParseRequest.Supplies

variable {request : ParseRequest} {rule : Name} {text : Text} {limit : Option Int}

theorem text_eq (supplies : request.Supplies files rule text limit) (notes : List Text)
    : request.text files notes = .ok (.value text) notes := by
  unfold ParseRequest.text
  rcases supplies.source with given | ⟨input, given, holds⟩
  · rw [given]
    rfl
  · have read : readText files input notes = .ok text notes := readText_eq_ok.mpr ⟨holds, rfl⟩
    simp only [given]
    exact bind_eq_ok.mpr ⟨input, notes, rfl, bind_eq_ok.mpr ⟨text, notes, read, rfl⟩⟩

theorem limit_eq (supplies : request.Supplies files rule text limit) (notes : List Text)
    : request.limit notes = .ok limit notes := by
  unfold ParseRequest.limit
  rw [supplies.limit]
  cases limit with
  | none => rfl
  | some limit => rfl

/-- A match with a valid grammar of a file ends its command as it ends itself. -/
theorem endsAs (supplies : request.Supplies files rule text limit) {grammars : Grammars}
    (declares : Declares files request.file grammars) {grammar : Grammar}
    (picked : pickGrammar grammars request.grammar = some grammar)
    : EndsAs grammar rule (.ofCommand (request.run files))
        (request.matching grammar rule text limit).outcome := by
  obtain ⟨notes, loaded⟩ := (loadGrammars_eq_ok request.debug []).mpr declares
  unfold Ending.ofCommand ParseRequest.run
  rw [bind_of_ok loaded]
  simp only [picked, supplies.rule]
  rw [bind_of_ok (supplies.text_eq notes)]
  simp only [orNothingGiven, pure_bind]
  cases found : grammar.lookup rule with
  | none =>
      have outcome : (request.matching grammar rule text limit).outcome
          = .error (.grammar (.unknownRule rule grammar.name)) := by
        simp only [matching, RuleGrammar.run, checkStart, Grammar.resolve, found]
        rfl
      simp only [Grammar.resolve, found, outcome]
      exact .unknownRule found rfl
  | some entry =>
      simp only [Grammar.resolve, found]
      rw [bind_of_ok (supplies.limit_eq notes)]
      unfold matching
      generalize ended : (RuleGrammar.run _ rule 0 request.anchored).outcome = outcome
      cases outcome with
      | ok outcome =>
          cases outcome with
          | matched root => exact .matched rfl
          | failed failure => exact .failed rfl
      | error fault =>
          cases fault with
          | reentered name pos => exact .exhausted rfl rfl
          | tooDeep most name pos => exact .exhausted rfl rfl
          | outOfRoom name pos => exact .exhausted rfl rfl
          | charClass fault => exact .faulty (MatchEnv.exists_faulty_of_run ended) rfl
          | grammar error =>
              obtain ⟨row, inFile, rfl⟩ := mem_of_pickGrammar picked
              exact absurd ended
                (MatchEnv.run_not_dangling (declares.valid row inFile) ⟨entry, found⟩ 0 _ error)

end ParseRequest.Supplies

-----------------------------------------------------------------------------------------
-- Command lines
-----------------------------------------------------------------------------------------

/-- After a check that ended with code 0, a request that supplies all that a match with the file
needs ends with code 2 if the file declares no such grammar. Otherwise it ends as the match does,
and with a code if the classes of the grammar compile.
-/
theorem runWords_of_checked {checking words : List Text} {request : ParseRequest} {rule : Name}
    {text : Text} {limit : Option Int}
    (asked : Request.ofWords checking = .ok (.check request.file debug))
    (accepted : (runWords files checking).code? = some 0)
    (asks : Request.ofWords words = .ok (.parse request))
    (supplies : request.Supplies files rule text limit)
    : ∃ grammars,
        Declares files request.file grammars
        ∧ match pickGrammar grammars request.grammar with
          | none => (runWords files words).code? = some 2
          | some grammar =>
              EndsAs grammar rule (runWords files words)
                (request.matching grammar rule text limit).outcome
              ∧ ((∀ r ∈ grammar.visibleRules, ∀ cls ∈ r.expr.classes, cls.fault? = none)
                → ∃ code ≤ 2, (runWords files words).code? = some code) := by
  have checking : runWords files checking = .ofCommand (check files request.file debug) := by
    rw [runWords, asked]
    rfl
  have matching : runWords files words = .ofCommand (request.run files) := by
    rw [runWords, asks]
    rfl
  rw [checking] at accepted
  obtain ⟨grammars, declares⟩ := exists_declares_of_check accepted
  refine ⟨grammars, declares, ?_⟩
  rw [matching]
  cases picked : pickGrammar grammars request.grammar with
  | none => exact declares.code_of_unknown picked
  | some grammar =>
      have ends := supplies.endsAs declares picked
      exact ⟨ends, ends.exists_code⟩

/-- One source under any name. -/
def everywhere (source : Text) : Files :=
  fun _ => .ok (source.map fun c => UInt8.ofNat c.value)

/-- A grammar of one rule, which matches a word character. -/
def wordGrammar : Text := "grammar G \x7b token TOP \x7b \\w \x7d \x7d\n"

/-- A grammar of one rule, which asks for a property by a name that is read as a number without
end.
-/
def endlessGrammar : Text := "grammar G \x7b token TOP \x7b <:Inf> \x7d \x7d\n"

/-- What asks for a match of one letter. -/
def letterRequest : ParseRequest where
  file := "g.txt"
  source := .text (.value "x")

theorem runWords_of_checked_word
    : Request.ofWords ["check", "g.txt"] = .ok (.check "g.txt" false)
      ∧ (runWords (everywhere wordGrammar) ["check", "g.txt"]).code? = some 0
      ∧ Request.ofWords ["parse", "g.txt", "--text", "x"] = .ok (.parse letterRequest)
      ∧ letterRequest.Supplies (everywhere wordGrammar) "TOP" "x" none
      ∧ ∃ grammars,
          Declares (everywhere wordGrammar) "g.txt" grammars
          ∧ match pickGrammar grammars none with
            | none =>
                (runWords (everywhere wordGrammar) ["parse", "g.txt", "--text", "x"]).code?
                  = some 2
            | some grammar =>
                EndsAs grammar "TOP"
                  (runWords (everywhere wordGrammar) ["parse", "g.txt", "--text", "x"])
                  (letterRequest.matching grammar "TOP" "x" none).outcome := by
  have asked : Request.ofWords ["check", "g.txt"] = .ok (.check "g.txt" false) := rfl
  have accepted : (runWords (everywhere wordGrammar) ["check", "g.txt"]).code? = some 0 := by
    decide +kernel
  have asks : Request.ofWords ["parse", "g.txt", "--text", "x"] = .ok (.parse letterRequest) := by
    decide +kernel
  have supplies : letterRequest.Supplies (everywhere wordGrammar) "TOP" "x" none :=
    ⟨rfl, Or.inl rfl, rfl⟩
  obtain ⟨grammars, declares, ends⟩ := runWords_of_checked asked accepted asks supplies
  refine ⟨asked, accepted, asks, supplies, grammars, declares, ?_⟩
  cases picked : pickGrammar grammars none with
  | none => simpa only [letterRequest, picked] using ends
  | some grammar =>
      simp only [letterRequest, picked] at ends
      exact ends.1

/-- A file passes its check, and a match with it ends without a code. -/
theorem exists_checked_aborted
    : ∃ files fault,
        (runWords files ["check", "g.txt"]).code? = some 0
        ∧ (runWords files ["parse", "g.txt", "--text", "x"]).abort? = some (.charClass fault) :=
  ⟨everywhere endlessGrammar, .infinite, by decide +kernel, by decide +kernel⟩

end RuleGrammar.Command
