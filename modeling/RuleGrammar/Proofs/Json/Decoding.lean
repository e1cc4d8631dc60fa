import RuleGrammar.Proofs.Json.Language
import RuleGrammar.Proofs.Json.Payloads
import RuleGrammar.Proofs.MatchTree.Children
import RuleGrammar.Proofs.Matcher.Placement

/-! Decoding: the text of a document is read as the value of the document. Actions leave at the node
of each part of a document the value of that part.
-/

namespace RuleGrammar.Json

-----------------------------------------------------------------------------------------
-- Dictionaries
-----------------------------------------------------------------------------------------

theorem distinct_concat (names : List Name) (name : Name)
    : Expr.distinct (names ++ [name])
      = if name ∈ Expr.distinct names then Expr.distinct names
        else Expr.distinct names ++ [name] := by
  simp only [Expr.distinct, List.foldl_append, List.foldl_cons, List.foldl_nil,
    List.contains_iff_mem]

theorem lastUnder_concat (entries : List (Text × Value)) (key : Text) (entry : Text × Value)
    : lastUnder key (entries ++ [entry])
      = if entry.1 = key then entry.2 else lastUnder key entries := by
  rw [lastUnder, List.reverse_append]
  by_cases same : entry.1 = key
  · simp [same]
  · simp [same, lastUnder]

/-- Setting a key among keys that differ changes its value, or adds it behind them; by induction on
the keys.
-/
theorem setKey_names {names : List Name} (nodup : names.Nodup) (key : Text) (v : Value)
    (f : Text → Value)
    : Value.setKey (.text key) v (names.map fun name => (.text name, f name))
      = (if key ∈ names then names else names ++ [key]).map fun name =>
          (.text name, if key = name then v else f name) := by
  induction names with
  | nil => simp [Value.setKey]
  | cons first rest ih =>
      obtain ⟨new, nodup⟩ := List.nodup_cons.mp nodup
      have sameKey : (Value.text first).isSameKey (.text key) = decide (first = key) := rfl
      rw [List.map_cons, Value.setKey, sameKey]
      by_cases here : first = key
      · subst here
        have others : rest.map (fun name => (Value.text name, f name))
            = rest.map fun name => (.text name, if first = name then v else f name) := by
          refine List.map_congr_left fun name member => ?_
          have other : first ≠ name := fun same => new (same ▸ member)
          rw [if_neg other]
        simp [others]
      · have other : ¬ key = first := fun same => here same.symm
        rw [ih nodup]
        by_cases later : key ∈ rest <;> simp [here, other, later]

/-- Entries set one after the other are the dictionary of the entries, by induction from the last
one.
-/
theorem ofEntries_eq_dictionary (entries : List (Text × Value))
    : Value.ofEntries (entries.map fun entry => (.text entry.1, entry.2)) = dictionary entries := by
  rw [Value.ofEntries, dictionary]
  congr 1
  induction entries using List.reverseRecOn with
  | nil => rfl
  | append_singleton entries entry ih =>
      rw [List.map_append, List.foldl_append, ih]
      simp only [List.map_cons, List.map_nil, List.foldl_cons, List.foldl_nil, List.map_append]
      rw [setKey_names (nodup_distinct _), distinct_concat]
      refine List.map_congr_left fun name _ => ?_
      rw [lastUnder_concat]

/-- What is left at an entry. -/
def Kind.item : Kind → Text × Value → Value
  | array, entry => entry.2
  | object, entry => .tuple [.text entry.1, entry.2]

/-- Pairs make the dictionary of their entries. -/
theorem dictOf_items (entries : List (Text × Value))
    : dictOf (.list (entries.map Kind.object.item)) = .ok (dictionary entries) := by
  have each : (entries.map Kind.object.item).mapM entryOf
      = .ok (entries.map fun entry => (Value.text entry.1, entry.2)) := by
    induction entries with
    | nil => rfl
    | cons entry rest ih =>
        rw [List.map_cons, List.mapM_cons, ih]
        rfl
  simp only [dictOf, Value.items?, each, ← ofEntries_eq_dictionary]
  rfl

-----------------------------------------------------------------------------------------
-- The table
-----------------------------------------------------------------------------------------

theorem members_apart : (members.map fun member => ActionTable.memberKey member.1).Nodup := by
  decide +kernel

theorem lookup_member {i : Nat} {name : Text} {callback : Callback}
    (found : members[i]? = some (name, some callback))
    : actions.lookup (ActionTable.memberKey name).1 (ActionTable.memberKey name).2
      = some callback := by
  have allPublic : ∀ member ∈ members, member.1.head? ≠ some (CodePoint.ofChar '_') := by decide
  have member := List.mem_of_getElem? found
  exact ActionTable.lookup_ofMembers_of_mem members_apart member (allPublic _ member)

theorem lookup_xdigit : actions.lookup "xdigit" none = none := by
  have absent : ((Text.ofString "xdigit", none) : Name × Option Name)
      ∉ members.map fun member => ActionTable.memberKey member.1 := by
    decide
  exact ActionTable.lookup_ofMembers_of_notMem absent

variable {subject : Subject} {spacing : Spacing} {pos : Int} {rest : Text}

-----------------------------------------------------------------------------------------
-- Strings
-----------------------------------------------------------------------------------------

/-- Nothing is left at the digits of an escape. -/
theorem exists_yields_hexLog (digits : List HexDigit)
    : ∀ node ∈ logNodes (hexLog pos digits), ∃ v, Yields subject node v := by
  induction digits generalizing pos with
  | nil => simp [hexLog]
  | cons d rest ih =>
      refine List.forall_mem_cons.mpr ⟨⟨none, ?_⟩, ih⟩
      exact .of_silent (Or.inr lookup_xdigit) (by simp)

theorem Run.rule_ne_nil (run : Run) : run.rule ≠ [] := by
  cases run <;> exact List.cons_ne_nil _ _

/-- The text of a run is left at its node. -/
theorem Run.yields (run : Run) (leaves : subject.Leaves pos (run.text ++ rest))
    : Yields subject (run.node pos) (some (.text run.value)) := by
  have named := run.rule_ne_nil
  cases run with
  | plain first later =>
      refine .of_makes named (lookup_member (i := 14) rfl) (by simp [Run.log])
        fun m s same _ => ?_
      rw [text_of_bare same leaves]
      rfl
  | escape e =>
      have digits : ∀ node ∈ logNodes (e.log pos), ∃ v, Yields subject node v := by
        cases e with
        | short _ => simp [Escape.log]
        | hex a b c d =>
            rw [Escape.log, logNodes, List.filterMap_append]
            simpa [Caught.node?] using exists_yields_hexLog [a, b, c, d]
      refine .of_makes named (lookup_member (i := 15) rfl) digits fun m s same _ => ?_
      refine buildEscape_eq ?_
      rw [text_of_bare same leaves]
      exact e.escapeValue_text

theorem Run.filled (run : Run) : 0 < run.text.length := by
  cases run with
  | plain first later => exact Nat.succ_pos _
  | escape e => cases e <;> exact Nat.succ_pos _

/-- The nodes of runs follow one another, by induction on the runs. -/
theorem inOrder_runsLog (runs : List Run)
    : InOrder pos (pos + (runs.flatMap Run.text).length) (runsLog pos runs) := by
  induction runs generalizing pos with
  | nil => exact .nil (by simp)
  | cons run rest ih =>
      have whole : pos + ((run :: rest).flatMap Run.text).length
          = pos + run.text.length + ((rest.flatMap Run.text).length : Int) := by
        rw [List.flatMap_cons, List.length_append]
        omega
      rw [whole]
      exact .node (Int.le_refl pos) (Int.le_add_of_nonneg_right (Int.natCast_nonneg _)) ih

/-- The texts of runs are left at their nodes, by induction on the runs. -/
theorem yields_runs (runs : List Run)
    (leaves : subject.Leaves pos (runs.flatMap Run.text ++ rest))
    : List.Forall₂ (fun node v => Yields subject node (some v)) (logNodes (runsLog pos runs))
        ((runs.map Run.value).map Value.text) := by
  induction runs generalizing pos with
  | nil => exact .nil
  | cons run later ih =>
      rw [List.flatMap_cons, List.append_assoc] at leaves
      exact .cons (run.yields leaves) (ih leaves.advance)

theorem filled_runsLog (runs : List Run)
    : ∀ node ∈ logNodes (runsLog pos runs), node.start < node.stop := by
  induction runs generalizing pos with
  | nil => simp [runsLog]
  | cons run later ih =>
      refine List.forall_mem_cons.mpr ⟨?_, ih⟩
      have filled := run.filled
      have start : (run.node pos).start = pos := rfl
      have stop : (run.node pos).stop = pos + run.text.length := rfl
      omega

theorem logNodes_stringLog (pieces : List Piece)
    : logNodes (stringLog pos pieces) = logNodes (runsLog (pos + 1) (runsOf pieces)) :=
  logNodes_append_marks _ ["str", "str_escape"]

/-- A string has its runs as children, whatever rules match them. -/
theorem children_stringNode (pieces : List Piece)
    : (stringNode pos pieces).children = logNodes (runsLog (pos + 1) (runsOf pieces)) := by
  have order : InOrder pos (pos + (stringText pieces).length) (stringLog pos pieces) := by
    have runs : InOrder (pos + 1) (pos + 1 + ((runsOf pieces).flatMap Run.text).length)
        (runsLog (pos + 1) (runsOf pieces)) := inOrder_runsLog (runsOf pieces)
    rw [runsOf_text] at runs
    have quotes : (quote.length : Int) = 1 := rfl
    have behind : pos + 1 + ((piecesText pieces).length : Int)
        ≤ pos + (stringText pieces).length := by
      simp only [stringText, List.length_append]
      omega
    exact (runs.earlier (by omega)).append (.marks behind ["str", "str_escape"])
  have filled : ∀ node ∈ logNodes (stringLog pos pieces), node.start < node.stop := by
    rw [logNodes_stringLog]
    exact filled_runsLog _
  have children : (stringNode pos pieces).children = logNodes (stringLog pos pieces) :=
    Match.children_ofLog order.ascending (order.namedByStart filled)
  exact children.trans (logNodes_stringLog pieces)

/-- The code points of a string are left at its node. -/
theorem string_yields (pieces : List Piece)
    (leaves : subject.Leaves pos (stringText pieces ++ rest))
    : Yields subject (stringNode pos pieces) (some (.text (stringValue pieces))) := by
  have inside : subject.Leaves (pos + 1)
      ((runsOf pieces).flatMap Run.text ++ (quote ++ rest)) := by
    rw [stringText, List.append_assoc, List.append_assoc] at leaves
    rw [runsOf_text]
    exact leaves.advance
  have runs := yields_runs (runsOf pieces) inside
  have each : ∀ node ∈ logNodes (stringLog pos pieces), ∃ v, Yields subject node v := by
    rw [logNodes_stringLog]
    exact exists_yields runs
  refine .of_makes (by decide) (lookup_member (i := 13) rfl) each fun m s same has => ?_
  have children : m.children.map Match.bare = logNodes (runsLog (pos + 1) (runsOf pieces)) := by
    rw [← Match.children_bare, same]
    exact children_stringNode pieces
  have texts := has.forall₂ (List.Subset.refl _) (children ▸ runs)
  rw [List.forall₂_map_right_iff] at texts
  rw [← runsOf_value, List.flatMap_def]
  exact buildString_eq texts

-----------------------------------------------------------------------------------------
-- Trees
-----------------------------------------------------------------------------------------

/-- What a word stands for is left at its node. -/
theorem word_yields {tag : Name} {t : Text} {v : Value}
    (found : actions.lookup "value" (some tag) = some (leave v))
    : Yields subject
        (nodeAt "value" (some tag) pos t [once "sym" (nodeAt [] none pos t [])]) (some v) := by
  have sym : Yields subject (nodeAt [] none pos t []) none := .of_silent (Or.inl rfl) (by simp)
  refine .of_makes (by decide) found ?_ fun m s _ _ => rfl
  simpa [Caught.node?] using ⟨_, sym⟩

/-- Brackets come to the value of the entries that are left at their content. -/
theorem container_yields {kind : Kind} {t : Text} {node : Match} {entries : List (Text × Value)}
    (below : Yields subject node (some (.list (entries.map kind.item))))
    : Yields subject (nodeAt kind.rule none pos t [once kind.listRule node])
        (some (kind.value entries)) := by
  cases kind with
  | array => exact .passOn (by decide) (lookup_member (i := 4) rfl) below
  | object =>
      refine .of_makes (by decide) (lookup_member (i := 1) rfl)
        (by simpa [Caught.node?] using ⟨_, below⟩) fun m s same has => ?_
      have single : m.bare.get? "pairlist" = some (.single "pairlist" node) := by
        rw [same]
        exact get?_once _ _ _ _ _ _
      obtain ⟨child, isChild, captured, rfl⟩ := Match.get?_single single
      exact buildObject_eq captured (has child isChild _ below) (dictOf_items entries)

/-- Entries come to the list of what is left at them. -/
theorem list_yields {kind : Kind} {t : Text} {log : List Caught} {values : List Value}
    (names : ∀ entry ∈ log, entry.name = some kind.entryRule)
    (below : List.Forall₂ (fun node v => Yields subject node (some v)) (logNodes log) values)
    : Yields subject (nodeAt kind.listRule none pos t (log ++ [.mark kind.entryRule]))
        (some (.list values)) := by
  cases kind with
  | array => exact .collect (by decide) (lookup_member (i := 5) rfl) names below
  | object => exact .collect (by decide) (lookup_member (i := 2) rfl) names below

/-- A pair comes to its key and its value. -/
theorem pair_yields {t : Text} {keyNode node : Match} {key v : Value}
    (belowKey : Yields subject keyNode (some key)) (below : Yields subject node (some v))
    : Yields subject (nodeAt "pair" none pos t [once "string" keyNode, once "value" node])
        (some (.tuple [key, v])) := by
  refine .of_makes (by decide) (lookup_member (i := 3) rfl) ?_ fun m s same has => ?_
  · simpa [Caught.node?] using ⟨⟨_, belowKey⟩, ⟨_, below⟩⟩
  · have single : m.bare.get? "string" = some (.single "string" keyNode)
        ∧ m.bare.get? "value" = some (.single "value" node) := by
      rw [same, nodeAt, Match.get?_ofLog (by simp [Caught.name]),
        Match.get?_ofLog (by simp [Caught.name])]
      exact ⟨rfl, rfl⟩
    obtain ⟨keyChild, isKey, capturedKey, rfl⟩ := Match.get?_single single.1
    obtain ⟨child, isChild, captured, rfl⟩ := Match.get?_single single.2
    exact buildPair_eq capturedKey captured (has keyChild isKey _ belowKey)
      (has child isChild _ below)

theorem Chain.names {kind : Kind} (chain : Chain spacing kind) {pos : Int}
    : ∀ entry ∈ chain.log pos, entry.name = some kind.entryRule := by
  match chain with
  | .last entry => simp [Chain.log, Caught.name]
  | .more entry before after later => exact List.forall_mem_cons.mpr ⟨rfl, later.names⟩

mutual

/-- The value of a tree is left at its node. Induction on trees, with their contents. -/
theorem Tree.yields (tree : Tree spacing) {pos : Int} {rest : Text}
    (readable : tree.IsReadable) (leaves : subject.Leaves pos (tree.text ++ rest))
    : Yields subject (tree.node pos) (some tree.value) := by
  match tree with
  | .null => exact word_yields (lookup_member (i := 9) rfl)
  | .bool true => exact word_yields (lookup_member (i := 7) rfl)
  | .bool false => exact word_yields (lookup_member (i := 8) rfl)
  | .number n =>
      refine .of_makes (by decide) (lookup_member (i := 6) rfl) (by simp) fun m s same _ => ?_
      refine buildNumber_eq ?_
      rw [text_of_bare same leaves]
      exact n.numberValue_text readable
  | .string pieces =>
      exact .passOn (by decide) (lookup_member (i := 12) rfl) (string_yields pieces leaves)
  | .container kind content =>
      have inside : subject.Leaves (pos + 1) (content.text ++ (kind.closer ++ rest)) := by
        refine kind.leaves_inside ?_
        simpa [Tree.text] using leaves
      have below : Yields subject (containerNode pos kind content)
          (some (kind.value content.entries)) :=
        container_yields (content.yields readable inside)
      cases kind with
      | array => exact .passOn (by decide) (lookup_member (i := 11) rfl) below
      | object => exact .passOn (by decide) (lookup_member (i := 10) rfl) below

/-- The list of the entries between brackets is left at the node of their content. -/
theorem Content.yields {kind : Kind} (content : Content spacing kind) {pos : Int} {rest : Text}
    (readable : content.IsReadable) (leaves : subject.Leaves pos (content.text ++ rest))
    : Yields subject (content.node pos) (some (.list (content.entries.map kind.item))) := by
  match content with
  | .empty gap =>
      have none : Yields subject (nodeAt kind.listRule none (pos + gap.val.length) []
          ([] ++ [.mark kind.entryRule])) (some (.list [])) := list_yields (by simp) .nil
      exact none
  | .filled before chain after =>
      have behind : subject.Leaves (pos + before.val.length)
          (chain.text ++ (after.val ++ rest)) := by
        rw [Content.text, List.append_assoc, List.append_assoc] at leaves
        exact leaves.advance
      exact list_yields chain.names (chain.yields readable behind)

/-- Entries are left one after the other. -/
theorem Chain.yields {kind : Kind} (chain : Chain spacing kind) {pos : Int} {rest : Text}
    (readable : chain.IsReadable) (leaves : subject.Leaves pos (chain.text ++ rest))
    : List.Forall₂ (fun node v => Yields subject node (some v)) (logNodes (chain.log pos))
        (chain.entries.map kind.item) := by
  match chain with
  | .last entry => exact .cons (entry.yields readable leaves) .nil
  | .more entry before after later =>
      rw [Chain.text, List.append_assoc, List.append_assoc] at leaves
      have behind := leaves.advance.advance
      exact .cons (entry.yields readable.1 leaves) (later.yields readable.2 behind)

/-- What an array or object keeps of an entry is left at its node. -/
theorem Entry.yields {kind : Kind} (entry : Entry spacing kind) {pos : Int} {rest : Text}
    (readable : entry.IsReadable) (leaves : subject.Leaves pos (entry.text ++ rest))
    : Yields subject (entry.node pos) (some (kind.item (entry.key, entry.value))) := by
  match entry with
  | .item value => exact value.yields readable leaves
  | .pair key before after value =>
      rw [Entry.text, List.append_assoc, List.append_assoc] at leaves
      have behind := leaves.advance.advance
      exact pair_yields (string_yields key leaves) (value.yields readable behind)

end

-----------------------------------------------------------------------------------------
-- Documents
-----------------------------------------------------------------------------------------

theorem children_once (rule : Name) (tag : Option Name) (t : Text) (name : Name) (node : Match)
    : (nodeAt rule tag pos t [once name node]).children = [node] := by
  have captured : (nodeAt rule tag pos t [once name node]).captured = [node] := by
    rw [nodeAt, Match.captured_ofLog]
    simp [Expr.distinct, Caught.name, Caught.nodeNamed?, Caught.positional?]
  rw [Match.children, ← Match.captured, captured, List.mergeSort_singleton]

/-- The value of a document is left at its node. -/
theorem Document.yields (d : Document spacing) (readable : d.IsReadable)
    : Yields (.ofText d.text) d.node (some d.value) := by
  have inside : (Subject.ofText d.text).Leaves (d.before.val.length + 1)
      (d.content.text ++ (d.kind.closer ++ d.after.val)) := by
    refine d.kind.leaves_inside ?_
    have behind : (Subject.ofText d.text).Leaves (0 + d.before.val.length)
        (d.tree.text ++ d.after.val) := by
      refine Subject.Leaves.advance ?_
      simpa [Document.text] using Subject.Leaves.start d.text
    simpa [Document.tree, Tree.text] using behind
  have below : Yields (.ofText d.text) (containerNode d.before.val.length d.kind d.content)
      (some d.value) :=
    container_yields (d.content.yields readable inside)
  refine .of_makes (by decide) (lookup_member (i := 0) rfl)
    (by simpa [Caught.node?] using ⟨_, below⟩) fun m s same has => ?_
  have children : m.children.map Match.bare
      = [containerNode d.before.val.length d.kind d.content] := by
    rw [← Match.children_bare, same]
    exact children_once _ _ _ _ _
  obtain ⟨child, only, bare⟩ := List.map_eq_singleton_iff.mp children
  have isChild : child ∈ m.children := only ▸ List.mem_cons_self
  exact passOnFirst_eq only (has child isChild _ (bare ▸ below))

/-- A match that is bare the node of a document decodes to the value of the document. -/
theorem decodeWith_matched {d : Document spacing} {g : Grammar} {config : MatchConfig}
    {root : Match} (readable : d.IsReadable)
    (matched : parse ⟨g, .ofText d.text, config⟩ "TOP" true = .ok (.matched root))
    (same : root.bare = d.node)
    : decodeWith config g d.text = .ok d.value := by
  have inside : (Subject.ofText d.text).Inside 0 := ⟨Int.le_refl 0, Int.natCast_nonneg _⟩
  have coherent := MatchEnv.coherent_of_run inside matched
  have acts := d.yields readable root coherent same
  obtain ⟨t, acted, left⟩ := applyActions_of_acts coherent acts
  have made : t.payloads.made root = d.value := by
    rw [Payloads.made, left root root.mem_walk_self _ acts]
    rfl
  simp only [decodeWith, matched, acted, made]

/-- A text of some length may nest too deep for the limits of a configuration. -/
def IsTight (config : MatchConfig) (g : Grammar) (length : Nat) : Prop :=
  config.maxDepth.isSome = true
  ∨ ∃ ceiling, config.ceiling = some ceiling ∧ ceiling < g.ruleCount * (length + 1)

/-- Limits that are not tight for a text make no difference to its match. -/
theorem parse_of_not_tight {g : Grammar} {t : Text} {config : MatchConfig}
    (roomy : ¬ IsTight config g t.length)
    : parse ⟨g, .ofText t, config⟩ "TOP" true
      = parse (MatchEnv.lifted ⟨g, .ofText t, config⟩) "TOP" true := by
  obtain ⟨unlimited, high⟩ := not_or.mp roomy
  have size : (Subject.ofText t).size = t.length := by
    have whole := (Subject.Leaves.start t).add_length
    omega
  refine congrArg RunResult.outcome (MatchEnv.run_eq_lifted _ (by simpa using unlimited) ?_ _ _)
  intro ceiling limited
  have enough := Nat.not_lt.mp fun low => high ⟨ceiling, limited, low⟩
  simpa [MatchEnv.naturalRoom, size] using enough

/-- The text of a document decodes to the value of the document, if its integers are short enough
to be read at all: arrays to their items in order, objects to dictionaries, strings with each escape
as one code point, and numbers as their lexemes say. Only a limit on nesting may stop the match
first, and only one that the text may be too long for.
-/
theorem decodeWith_document (d : Document whiteSpace) (readable : d.IsReadable)
    (config : MatchConfig)
    : decodeWith config grammar d.text = .ok d.value
      ∨ ∃ fault,
          decodeWith config grammar d.text = .error (.fault fault)
          ∧ fault.isLimit = true
          ∧ IsTight config grammar d.text.length := by
  by_cases tight : IsTight config grammar d.text.length
  · rcases parse_document speaks_grammar spaces_grammar d config with
      ⟨root, matched, same⟩ | ⟨fault, stopped, isLimit, -⟩
    · exact Or.inl (decodeWith_matched readable matched same)
    · refine Or.inr ⟨fault, ?_, isLimit, tight⟩
      simp only [decodeWith, stopped]
  · rcases parse_document speaks_grammar spaces_grammar d
        { config with maxDepth := none, ceiling := none } with
      ⟨root, matched, same⟩ | ⟨fault, stopped, -, limited⟩
    · refine Or.inl (decodeWith_matched readable ?_ same)
      exact (parse_of_not_tight tight).trans matched
    · cases limited

/-- Nothing where a gap may be. -/
def noGap : Gap whiteSpace :=
  ⟨[], spaces_grammar.empty⟩

@[simp] theorem noGap_val : noGap.val = [] := rfl

/-- An object with one key twice, an array under it first and then a string with an escape. -/
def repeatedKey : Document whiteSpace where
  before := noGap
  kind := .object
  content :=
    let key : List Piece := [.plain ⟨'a', by decide⟩]
    let one : Tree whiteSpace := .number ⟨false, .positive ⟨'1', by decide⟩ [], .none, .none⟩
    let items : Tree whiteSpace := .container .array (.filled noGap (.last (.item one)) noGap)
    let line : Tree whiteSpace := .string [.escape (.short .newline)]
    .filled noGap
      (.more (.pair key noGap noGap items) noGap noGap (.last (.pair key noGap noGap line))) noGap
  after := noGap

/-- Under the default limits, a key that comes twice keeps its last value. -/
theorem decodeWith_document_repeatedKey
    : repeatedKey.IsReadable
      ∧ repeatedKey.text = Text.ofString "\x7b\"a\":[1],\"a\":\"\\n\"\x7d"
      ∧ decode grammar repeatedKey.text = .ok (.dict [(.text "a", .text "\n")]) := by
  have readable : repeatedKey.IsReadable := by
    refine ⟨?_, trivial⟩
    intro _
    decide
  refine ⟨readable, rfl, (decodeWith_document repeatedKey readable {}).resolve_right ?_⟩
  rintro ⟨-, -, -, limited | ⟨ceiling, same, low⟩⟩
  · cases limited
  · cases same
    revert low
    decide +kernel

end RuleGrammar.Json
