import RuleGrammar.Proofs.Notation.Atoms
import RuleGrammar.Proofs.Notation.Declarations

/-! Reading and writing normal expressions. Whatever a source declares has normal bodies, and every
normal expression is the body that is read from its notation.
-/

namespace RuleGrammar

open Notation Notation.Reader

-----------------------------------------------------------------------------------------
-- Bodies
-----------------------------------------------------------------------------------------

namespace Notation

variable {rest : Text} {e : Expr} {depth : Nat}

/-- Where bodies are read at one depth, operands are read at the next. -/
theorem ReadsOperand.of_body
    (read : ∀ depth, e.written.length ≤ depth → ReadsBody (atomTo (depth + 1)) e)
    (deep : e.written.length + 2 ≤ depth)
    : ReadsOperand (atomTo depth) e := by
  obtain ⟨depth, rfl⟩ : ∃ n, depth = n + 2 := ⟨depth - 2, by omega⟩
  exact operand_reads (read depth (by omega))

/-- Normal expressions are read as they are written, at any depth that their length does not
exceed, by induction on them.
-/
theorem body_reads (normal : e.Normal)
    : ∀ depth, e.written.length ≤ depth → ReadsBody (atomTo (depth + 1)) e := by
  induction normal with
  | literal text =>
      exact fun depth _ => .of_atom ⟨_, _, rfl, by decide, by decide, by decide⟩
        fun _ _ => literal_reads text _
  | charClass normal =>
      exact fun depth _ => .of_atom ⟨_, _, rfl, by decide, by decide, by decide⟩
        fun _ _ => class_reads normal _
  | anyChar =>
      exact fun depth _ => .of_atom ⟨_, _, rfl, by decide, by decide, by decide⟩
        fun _ _ => anyChar_reads _
  | inputStart =>
      exact fun depth _ => .of_atom ⟨_, _, rfl, by decide, by decide, by decide⟩
        fun _ _ => inputStart_reads _
  | inputEnd =>
      refine fun depth _ => .of_atom ⟨_, _, rfl, by decide, by decide, by decide⟩
        fun stop closing => inputEnd_reads fun d head => ?_
      rintro rfl
      exact absurd (head_closes stop closing _ head (by decide)) (by decide)
  | @reference rule capture called captured =>
      intro depth deep
      cases capture with
      | none =>
          exact .of_atom ⟨_, _, rfl, by decide, by decide, by decide⟩
            fun _ _ => reference_reads called _
      | some name =>
          have positive : 0 < depth :=
            Nat.lt_of_lt_of_le (by simp [Expr.written, Text.ofString]) deep
          obtain ⟨depth, rfl⟩ : ∃ n, depth = n + 1 := ⟨depth - 1, by omega⟩
          exact .of_atom ⟨_, _, rfl, by decide, by decide, by decide⟩
            fun _ _ => capturedReference_reads called (captured name rfl) _
  | sym =>
      exact fun depth _ => .of_atom ⟨_, _, rfl, by decide, by decide, by decide⟩
        fun _ _ => sym_reads _
  | lookahead normal negated ih =>
      intro depth deep
      have read : ReadsOperand (atomTo depth) _ := .of_body ih (by
        simp only [Expr.written, List.length_append, length_bracketed] at deep
        omega)
      cases negated with
      | false =>
          exact .of_atom ⟨_, _, rfl, by decide, by decide, by decide⟩
            fun _ _ => lookahead_reads read false _
      | true =>
          exact .of_atom ⟨_, _, rfl, by decide, by decide, by decide⟩
            fun _ _ => lookahead_reads read true _
  | @repetition body min max sep trailing normal bounds separator trailed ih ihSep =>
      intro depth deep
      simp only [Expr.written, List.length_append, length_bracketed] at deep
      refine .repetition (.of_body ih (by omega)) bounds (fun e isSep => ?_) trailed
      refine .of_body (ihSep e isSep) ?_
      rw [Option.mem_def.mp isSep, Expr.writtenSeparator, List.length_append,
        length_bracketed] at deep
      omega
  | sequence several each ih =>
      exact fun depth deep => .sequence (fun e member => .of_body (ih e member)
        (Nat.le_succ_of_le ((length_operand member " ").trans deep))) several
  | choice several each ih =>
      exact fun depth deep => .choice (fun e member => .of_body (ih e member)
        (Nat.le_succ_of_le ((length_operand member " | ").trans deep))) several
  | longest several each ih =>
      exact fun depth deep => .longest (fun e member => .of_body (ih e member)
        (Nat.le_succ_of_le ((length_operand member " || ").trans deep))) several
  | goal opens closes normal ihOpener ihCloser ih =>
      intro depth deep
      simp only [Expr.written, List.length_append, length_bracketed] at deep
      exact .goal (.of_body ihOpener (by omega)) (.of_body ihCloser (by omega))
        (.of_body ih (by omega))
  | positional normal ih =>
      intro depth deep
      have read : ReadsOperand (atomTo depth) _ := .of_body ih (by
        simp only [Expr.written, List.length_append, length_bracketed] at deep
        omega)
      exact .of_atom ⟨_, _, rfl, by decide, by decide, by decide⟩
        fun _ _ => positional_reads read _
  | named named normal other ih =>
      intro depth deep
      have read : ReadsOperand (atomTo depth) _ := .of_body ih (by
        simp only [Expr.written, List.length_append, length_bracketed] at deep
        omega)
      exact .of_atom ⟨_, _, rfl, by decide, by decide, by decide⟩
        fun _ _ => named_reads named read other _

-----------------------------------------------------------------------------------------
-- Sources
-----------------------------------------------------------------------------------------

/-- The whole body of a rule is read, up to its closing brace. -/
theorem wholeBody_reads (normal : e.Normal) (rest : Text)
    : Reads body (CodePoint.ofChar ' ' :: (e.written
        ++ (CodePoint.ofChar ' ' :: CodePoint.ofChar '\x7d' :: rest)))
        e (CodePoint.ofChar '\x7d' :: rest) := by
  refine .bind (.rounds _) (body_reads normal _ ?_ (unblank_space _) rfl (by decide))
  simp only [List.length_cons, List.length_append]
  omega

/-- The declaration of the token, up to what follows it. -/
def tokenText (e : Expr) (rest : Text) : Text :=
  Text.ofString "token" ++ (CodePoint.ofChar ' ' :: (Text.ofString "t" ++ (CodePoint.ofChar ' '
    :: CodePoint.ofChar '\x7b' :: CodePoint.ofChar ' ' :: (e.written ++ (CodePoint.ofChar ' '
      :: CodePoint.ofChar '\x7d' :: rest)))))

theorem isIdentifier_token : IsIdentifier (Text.ofString "token") :=
  ⟨Or.inl (by decide), by decide⟩

/-- The token is read into a layer without entries. -/
theorem declaration_reads (normal : e.Normal) (rest : Text)
    : Reads (declaration { name := "G" }) (tokenText e rest) e.tokenGrammar.own rest := by
  have name : IsIdentifier (Text.ofString "t") := ⟨Or.inl (by decide), by decide⟩
  refine .bind (.identifier isIdentifier_token (unblank_name isIdentifier_token _)
    (not_part_of_mark _ _ (by decide))) ?_
  rw [if_neg (by decide)]
  refine .bind (.identifier name (by rw [unblank_space, unblank_name name])
    (not_part_of_mark _ _ (by decide))) ?_
  refine .bind (.bind (.starts _ _) (.pure none)) (.bind (.eat rfl) ?_)
  refine .bind (wholeBody_reads normal rest) (.bind (.eat (unblank_solid (by decide) _)) ?_)
  exact .pure _

/-- The token is the only declaration of its grammar. -/
theorem declarations_reads (normal : e.Normal) {rounds : Nat} (enough : 2 ≤ rounds)
    : Reads (declarations rounds { name := "G" })
        (CodePoint.ofChar ' ' :: tokenText e [CodePoint.ofChar ' ', CodePoint.ofChar '\x7d'])
        e.tokenGrammar.own [] := by
  obtain ⟨rounds, rfl⟩ : ∃ n, rounds = n + 2 := ⟨rounds - 2, by omega⟩
  have ahead (rest : Text)
      : unblank (CodePoint.ofChar ' ' :: tokenText e rest) = tokenText e rest := by
    rw [unblank_space]
    exact unblank_name isIdentifier_token _
  refine .bind (.tryEat_missed (by rw [ahead]; rfl)) ?_
  rw [ahead]
  refine .bind (.peek _) (.bind (declaration_reads normal _) ?_)
  exact .bind (.tryEat rfl) (.pure _)

/-- A name in front of a blank is a qualified name of one part. -/
theorem qualifiedName_reads {s name : Text} (named : IsIdentifier name)
    (ahead : unblank s = name ++ (CodePoint.ofChar ' ' :: rest))
    : Reads qualifiedName s name (CodePoint.ofChar ' ' :: rest) := by
  have alone : Reads (furtherParts ((CodePoint.ofChar ' ' :: rest).length + 1))
      (CodePoint.ofChar ' ' :: rest) [] (CodePoint.ofChar ' ' :: rest) :=
    .bind (.starts _ _) (.pure [])
  exact .bind (.identifier named ahead (not_part_of_mark _ _ (by decide)))
    (.bind (.rounds _) (.bind alone (.pure name)))

theorem tokenSource_eq (e : Expr)
    : e.tokenSource = Text.ofString "grammar" ++ (CodePoint.ofChar ' ' :: (Text.ofString "G"
        ++ (CodePoint.ofChar ' ' :: CodePoint.ofChar '\x7b' :: CodePoint.ofChar ' '
          :: tokenText e [CodePoint.ofChar ' ', CodePoint.ofChar '\x7d']))) := by
  simp [Expr.tokenSource, tokenText, Text.ofString]

/-- The only grammar of the source is read. -/
theorem grammarDeclaration_reads (normal : e.Normal) (known : List Name)
    : Reads (grammarDeclaration known []) e.tokenSource ⟨none, e.tokenGrammar.own⟩ [] := by
  have word : IsIdentifier (Text.ofString "grammar") := ⟨Or.inl (by decide), by decide⟩
  have name : IsIdentifier (Text.ofString "G") := ⟨Or.inl (by decide), by decide⟩
  have orphan (t : Text) : Reads (parentName (known ++ []))
      (CodePoint.ofChar ' ' :: CodePoint.ofChar '\x7b' :: t) none
      (CodePoint.ofChar '\x7b' :: t) := by
    have other : identifierAt (unblank (CodePoint.ofChar ' ' :: CodePoint.ofChar '\x7b' :: t))
        ≠ Text.ofString "is" := by
      change ([] : Text) ≠ _
      decide
    exact .bind (.keyword_missed other) (.pure none)
  rw [tokenSource_eq]
  refine .bind (.keyword word (unblank_name word _) (not_part_of_mark _ _ (by decide))) ?_
  refine .bind (qualifiedName_reads name (by rw [unblank_space, unblank_name name])) ?_
  refine .bind (orphan _) (.bind (.eat (unblank_solid (by decide) _)) (.bind (.rounds _) ?_))
  refine .bind (declarations_reads normal (by simp [tokenText])) ?_
  exact .bind (.tryEat_missed rfl) (.pure _)

/-- The source is read as the grammar of one token that it declares. -/
theorem document_reads (normal : e.Normal) (known : List Name)
    : Reads (document known) e.tokenSource [⟨none, e.tokenGrammar.own⟩] [] := by
  have word : IsIdentifier (Text.ofString "grammar") := ⟨Or.inl (by decide), by decide⟩
  have starts : unblank e.tokenSource = e.tokenSource := by
    rw [tokenSource_eq]
    exact unblank_name word _
  obtain ⟨c, t, spelled⟩ : ∃ c t, e.tokenSource = c :: t := by
    rw [tokenSource_eq]
    exact ⟨_, _, rfl⟩
  have read := grammarDeclaration_reads normal known
  refine .bind (.rounds _) (.bind (m := []) (a := [⟨none, e.tokenGrammar.own⟩]) ?_ (.pure _))
  rw [spelled] at starts read ⊢
  refine .bind (.skipBlank _) (.bind (.peek _) ?_)
  rw [starts]
  refine .bind read ?_
  exact .bind (.skipBlank _) (.bind (.peek _) (.pure _))

end Notation

-----------------------------------------------------------------------------------------
-- Grammars
-----------------------------------------------------------------------------------------

namespace Grammars

theorem read_tokenSource {e : Expr} (normal : e.Normal) (known : Grammars)
    : read known e.tokenSource = .ok [("G", e.tokenGrammar)] := by
  obtain ⟨offset, ran⟩ := document_reads normal (known.map (·.1)) 0
  have declared : Notation.read (known.map (·.1)) e.tokenSource
      = .ok [⟨none, e.tokenGrammar.own⟩] := by
    unfold Notation.read
    rw [ran]
  unfold read
  rw [declared]
  rfl

/-- Notation is read as exactly the normal expressions. Whatever the source, the rules of a grammar
that is read have normal bodies, those of its own layer as well as those it inherits, unless they
belong to a grammar known before; and every normal expression, written with brackets around its
operands as the body of a token, is read as the body of that token.
-/
theorem read_normal (known : Grammars)
    : (∀ source grammars,
          read known source = .ok grammars
          → ∀ row ∈ grammars,
              row.2.own.Normal
                ∧ ∀ layer ∈ row.2.ancestors,
                    layer.Normal ∨ ∃ other ∈ known, layer ∈ other.2.lineage)
        ∧ ∀ e : Expr, e.Normal → read known e.tokenSource = .ok [("G", e.tokenGrammar)] :=
  ⟨fun _ _ done => normal_of_read done, fun _ normal => read_tokenSource normal known⟩

/-- Calls with commas between them, or nothing. -/
def commaList : Expr :=
  .choice [.repetition (.reference "item" (some "items")) 1 none (some (.literal ",")) true,
    .sequence []]

theorem read_normal_commaList
    : commaList.Normal
        ∧ commaList.written = ("[[$<items>=<.item>] ** 1..* %% [',']] | []" : Text)
        ∧ read [] commaList.tokenSource = .ok [("G", commaList.tokenGrammar)]
        ∧ commaList.tokenGrammar.own.Normal := by
  have item : IsIdentifier "item" := ⟨Or.inl (by decide), by decide⟩
  have items : IsIdentifier "items" := ⟨Or.inl (by decide), by decide⟩
  have call : (Expr.reference "item" (some "items")).Normal :=
    .reference item (by simpa using items)
  have list : (Expr.repetition (.reference "item" (some "items")) 1 none
      (some (.literal ",")) true).Normal :=
    .repetition call ⟨by decide, by simp⟩ (by simpa using .literal ",") (by simp)
  have normal : commaList.Normal :=
    .choice (by decide) (by simpa using ⟨list, .sequence (by simp) (by simp)⟩)
  have done := (read_normal []).2 commaList normal
  exact ⟨normal, rfl, done, ((read_normal []).1 _ _ done _ (List.mem_singleton_self _)).1⟩

end Grammars

end RuleGrammar
