import RuleGrammar.Grammar.Error

/-! Rules and proto groups, the entries of a grammar's table. -/

namespace RuleGrammar

/-- Only a rule of kind `rule` tries white space between the parts of its body. -/
inductive RuleKind
  | token
  | rule
  | regex
deriving DecidableEq

namespace RuleKind

def keyword : RuleKind → Text
  | token => "token"
  | rule => "rule"
  | regex => "regex"

/-- The kinds in the order in which they are tried as keywords. -/
def all : List RuleKind :=
  [token, rule, regex]

def ofKeyword? (word : Text) : Option RuleKind :=
  all.find? fun kind => kind.keyword = word

end RuleKind

/-- A named expression. A tag makes it an alternative of the proto group of its name. -/
structure Rule where
  name : Name
  expr : Expr
  kind : RuleKind := .token
  tag : Option Name := none

namespace Rule

/-- A rule whose kind is given by keyword, when there is such a kind. -/
def ofKeyword (name : Name) (expr : Expr) (keyword : Text) (tag : Option Name)
    : Except GrammarError Rule :=
  match RuleKind.ofKeyword? keyword with
  | some kind => .ok { name, expr, kind, tag }
  | none => .error (.unknownKind keyword name)

/-- Whether white space is tried between the parts of the body. -/
def sigspace (r : Rule) : Bool :=
  r.kind = .rule

/-- The name under which reports know the rule. -/
def qualified (r : Rule) : Name :=
  match r.tag with
  | none => r.name
  | some tag => r.name ++ ":sym<" ++ tag ++ ">"

end Rule

/-- Alternatives of one name, told apart by their tags. -/
structure ProtoGroup where
  name : Name
  alternatives : List Rule := []

namespace ProtoGroup

/-- The alternatives with one of them put in place of that of its tag, or at the end. -/
def place (alternative : Rule) : List Rule → List Rule
  | [] => [alternative]
  | old :: rest =>
      if old.tag = alternative.tag then alternative :: rest
      else old :: place alternative rest

def withAlternative (group : ProtoGroup) (alternative : Rule) : ProtoGroup :=
  { group with alternatives := place alternative group.alternatives }

/-- The group with the alternatives of a nearer one: those of a known tag replace the old
ones, the others follow. -/
def extended (group nearer : ProtoGroup) : ProtoGroup :=
  nearer.alternatives.foldl withAlternative group

end ProtoGroup

/-- What a name stands for in a grammar. -/
inductive Entry
  | rule (rule : Rule)
  | group (group : ProtoGroup)

namespace Entry

/-- The rules that a call of the entry may apply, in order. -/
def rules : Entry → List Rule
  | rule r => [r]
  | group g => g.alternatives

end Entry

end RuleGrammar
