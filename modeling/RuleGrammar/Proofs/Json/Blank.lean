import RuleGrammar.Proofs.Json.Comments
import RuleGrammar.Proofs.Json.Strings

/-! Comments blanked out: a scan from left to right replaces every code point of a comment by a
space. Outside of comments it changes nothing, so gaps with comments become white space of the same
length, and white space comes from such gaps only.
-/

namespace RuleGrammar.Json

/-- What a scan is inside of. -/
inductive Scan
  | code
  | string
  | escaped
  | comment
deriving DecidableEq

def space : CodePoint :=
  ' '

/-- Whether a comment starts with a code point, which is the first of two slashes. -/
def startsComment (c : CodePoint) (rest : Text) : Bool :=
  c = '/' && rest.head? = some '/'

namespace Scan

/-- What a scan makes of a code point, before what follows it. -/
def shown : Scan → CodePoint → Text → CodePoint
  | code, c, rest => if startsComment c rest then space else c
  | string, c, _ => c
  | escaped, c, _ => c
  | comment, c, _ => if c = lineFeed then c else space

/-- What a scan is inside of behind a code point. -/
def next : Scan → CodePoint → Text → Scan
  | code, c, rest =>
      if startsComment c rest then comment else if c = '"' then string else code
  | string, c, _ => if c = '\\' then escaped else if c = '"' then code else string
  | escaped, _, _ => string
  | comment, c, _ => if c = lineFeed then code else comment

end Scan

def blankFrom : Scan → Text → Text
  | _, [] => []
  | scan, c :: rest => scan.shown c rest :: blankFrom (scan.next c rest) rest

/-- A text with every code point of its comments replaced by a space. A comment starts with two
slashes outside of strings and goes on up to the next line feed or the end.
-/
def blank (t : Text) : Text :=
  blankFrom .code t

example : blank "[\"//\"] // all\n" = "[\"//\"]       \n" := by decide

theorem blankFrom_length (scan : Scan) (t : Text) : (blankFrom scan t).length = t.length := by
  induction t generalizing scan with
  | nil => rfl
  | cons c t ih => exact congrArg (· + 1) (ih _)

-----------------------------------------------------------------------------------------
-- Tokens
-----------------------------------------------------------------------------------------

/-- A text that a scan shows as it is and is then inside of something else, and that is shown only
where it stands.
-/
structure Passes (scan after : Scan) (u : Text) : Prop where
  shown : ∀ rest, blankFrom scan (u ++ rest) = u ++ blankFrom after rest
  stands : ∀ {t more : Text}, blankFrom scan t = u ++ more → ∃ rest, t = u ++ rest

namespace Passes

variable {scan after last : Scan} {u v : Text} {c : CodePoint}

theorem nil : Passes scan scan [] where
  shown _ := rfl
  stands {t _} _ := ⟨t, rfl⟩

/-- A code point passes where it is shown, if no other one is shown as it. -/
theorem single (kept : ∀ rest, scan.shown c rest = c) (onward : ∀ rest, scan.next c rest = after)
    (only : ∀ d rest, scan.shown d rest = c → d = c)
    : Passes scan after [c] where
  shown rest := by
    rw [List.singleton_append, blankFrom, kept, onward]
    rfl
  stands {t more} same := by
    cases t with
    | nil => cases same
    | cons d rest =>
        obtain rfl := only d rest (List.cons.inj same).1
        exact ⟨rest, rfl⟩

theorem append (first : Passes scan after u) (second : Passes after last v)
    : Passes scan last (u ++ v) where
  shown rest := by rw [List.append_assoc, first.shown, second.shown, List.append_assoc]
  stands {t more} same := by
    rw [List.append_assoc] at same
    obtain ⟨rest, rfl⟩ := first.stands same
    rw [first.shown] at same
    obtain ⟨rest, rfl⟩ := second.stands (List.append_cancel_left same)
    exact ⟨rest, (List.append_assoc u v rest).symm⟩

/-- What passes code point by code point passes as a whole. -/
theorem of_forall (each : ∀ c ∈ u, Passes scan scan [c]) : Passes scan scan u := by
  induction u with
  | nil => exact .nil
  | cons c u ih =>
      have first := each c List.mem_cons_self
      exact first.append (ih fun d member => each d (List.mem_cons_of_mem c member))

/-- What is left behind a text that passes is scanned on its own. -/
theorem rest_eq (passes : Passes scan after u) {rest more : Text}
    (same : blankFrom scan (u ++ rest) = u ++ more)
    : blankFrom after rest = more := by
  rw [passes.shown] at same
  exact List.append_cancel_left same

end Passes

/-- A code point that a scan outside of strings passes by, and that is no space. -/
def IsInert (c : CodePoint) : Prop :=
  c ≠ '"' ∧ c ≠ '/' ∧ c ≠ space

instance (c : CodePoint) : Decidable (IsInert c) :=
  inferInstanceAs (Decidable (_ ∧ _))

theorem startsComment_eq_false {c : CodePoint} (other : c ≠ '/') (rest : Text)
    : startsComment c rest = false := by
  simp [startsComment, other]

/-- Outside of strings and comments only a space may be shown for another code point. -/
theorem shown_code {c d : CodePoint} {rest : Text} (other : c ≠ space)
    (same : Scan.code.shown d rest = c)
    : d = c := by
  rw [Scan.shown] at same
  split at same
  · exact absurd same.symm other
  · exact same

theorem passes_inert {t : Text} (inert : ∀ c ∈ t, IsInert c) : Passes .code .code t := by
  refine .of_forall fun c member => ?_
  obtain ⟨noQuote, noSlash, noSpace⟩ := inert c member
  refine .single (fun rest => ?_) (fun rest => ?_) fun d rest same => shown_code noSpace same
  · rw [Scan.shown, startsComment_eq_false noSlash rest]
    rfl
  · rw [Scan.next, startsComment_eq_false noSlash rest, if_neg noQuote]
    rfl

theorem passes_plain {t : Text} (plain : ∀ c ∈ t, c ≠ '"' ∧ c ≠ '\\')
    : Passes .string .string t := by
  refine .of_forall fun c member => ?_
  obtain ⟨noQuote, noBackslash⟩ := plain c member
  refine .single (fun _ => rfl) (fun _ => ?_) fun _ _ same => same
  rw [Scan.next, if_neg noBackslash, if_neg noQuote]

theorem passes_escape (e : Escape) : Passes .string .string e.text := by
  have backslash : Passes .string .escaped ['\\'] := .single (fun _ => rfl) (fun _ => rfl)
    fun _ _ same => same
  have mark (c : CodePoint) : Passes .escaped .string [c] := .single (fun _ => rfl) (fun _ => rfl)
    fun _ _ same => same
  cases e with
  | short escape => exact backslash.append (mark escape.mark)
  | hex a b c d =>
      have digit (d : HexDigit) : d.val ≠ '"' ∧ d.val ≠ '\\' := by
        refine ⟨fun same => ?_, fun same => ?_⟩
        · have hex := d.property
          rw [same] at hex
          cases hex
        · have hex := d.property
          rw [same] at hex
          cases hex
      have digits : Passes .string .string [a.val, b.val, c.val, d.val] := by
        refine passes_plain fun x member => ?_
        simp only [List.mem_cons, List.not_mem_nil, or_false] at member
        rcases member with rfl | rfl | rfl | rfl
        · exact digit a
        · exact digit b
        · exact digit c
        · exact digit d
      exact (backslash.append (mark 'u')).append digits

/-- A string passes as a whole, whatever its pieces are. -/
theorem passes_string (pieces : List Piece) : Passes .code .code (stringText pieces) := by
  have opening : Passes .code .string quote :=
    .single (fun _ => rfl) (fun _ => rfl) fun _ _ same => shown_code (by decide) same
  have closing : Passes .string .code quote :=
    .single (fun _ => rfl) (fun _ => rfl) fun _ _ same => same
  have inside : Passes .string .string (piecesText pieces) := by
    induction pieces with
    | nil => exact .nil
    | cons piece pieces ih =>
        have first : Passes .string .string piece.text := by
          cases piece with
          | plain c =>
              refine passes_plain fun d member => ?_
              obtain rfl := List.mem_singleton.mp member
              have plain := c.property
              simp only [isPlain, Bool.and_eq_true, bne_iff_ne] at plain
              exact ⟨plain.1.2, plain.2⟩
          | escape e => exact passes_escape e
        exact first.append ih
  exact (opening.append inside).append closing

theorem passes_number (n : Number) : Passes .code .code n.text := by
  refine passes_inert fun c member => ?_
  rcases n.isMark_text c member with digit | mark
  · refine ⟨?_, ?_, ?_⟩ <;>
    · intro same
      rw [same] at digit
      cases digit
  · have marks : ∀ c ∈ Text.ofString "+-.eE", IsInert c := by decide
    exact marks c mark

-----------------------------------------------------------------------------------------
-- Gaps
-----------------------------------------------------------------------------------------

variable {t u w line rest more : Text} {atEnd : Prop}

theorem blank_cons_white {c : CodePoint} (white : c.isWhiteSpace = true) (rest : Text)
    : blank (c :: rest) = c :: blank rest := by
  have other {d : CodePoint} (solid : d.isWhiteSpace = false) : c ≠ d := by
    intro same
    rw [same, solid] at white
    cases white
  rw [blank, blankFrom, Scan.shown, Scan.next, startsComment_eq_false (other rfl) rest,
    if_neg (other rfl)]
  rfl

theorem blank_append_white (white : ∀ c ∈ w, c.isWhiteSpace = true) (rest : Text)
    : blank (w ++ rest) = w ++ blank rest := by
  induction w with
  | nil => rfl
  | cons c w ih =>
      have later := ih fun d member => white d (List.mem_cons_of_mem c member)
      rw [List.cons_append, blank_cons_white (white c List.mem_cons_self), later, List.cons_append]

/-- In a comment nothing but spaces are shown. -/
theorem blankFrom_line (inLine : ∀ c ∈ line, c ≠ lineFeed) (rest : Text)
    : blankFrom .comment (line ++ rest)
      = List.replicate line.length space ++ blankFrom .comment rest := by
  induction line with
  | nil => rfl
  | cons c line ih =>
      have first : c ≠ lineFeed := inLine c List.mem_cons_self
      have later := ih fun d member => inLine d (List.mem_cons_of_mem c member)
      rw [List.cons_append, blankFrom, Scan.shown, Scan.next, if_neg first, if_neg first, later]
      rfl

/-- A comment is shown as spaces, and what follows it is scanned on. -/
theorem blank_comment (inLine : ∀ c ∈ line, c ≠ lineFeed) (rest : Text)
    : blank (slashes ++ line ++ lineFeed :: rest)
      = List.replicate (slashes ++ line).length space ++ blank (lineFeed :: rest) := by
  have opening : blank (slashes ++ line ++ lineFeed :: rest)
      = space :: space :: blankFrom .comment (line ++ lineFeed :: rest) := rfl
  rw [opening, blankFrom_line inLine]
  rfl

theorem blank_lastComment (inLine : ∀ c ∈ line, c ≠ lineFeed)
    : blank (slashes ++ line) = List.replicate (slashes ++ line).length space := by
  have opening : blank (slashes ++ line) = space :: space :: blankFrom .comment (line ++ []) := by
    rw [List.append_nil]
    rfl
  rw [opening, blankFrom_line inLine, blankFrom, List.append_nil]
  rfl

namespace Commented

/-- A gap is scanned on its own, and what follows it too. Induction on the gap. -/
theorem blank_append (gap : Commented atEnd t) (done : atEnd → rest = [])
    : blank (t ++ rest) = blank t ++ blank rest := by
  induction gap with
  | white white =>
      have alone := blank_append_white white []
      rw [List.append_nil] at alone
      rw [blank_append_white white, alone]
      simp [blank, blankFrom]
  | last _ _ atEnd =>
      rw [done atEnd, List.append_nil]
      exact (List.append_nil _).symm
  | @comment w line more white inLine _ ih =>
      have whole : w ++ (slashes ++ line ++ lineFeed :: more) ++ rest
          = w ++ (slashes ++ line ++ lineFeed :: (more ++ rest)) := by simp
      rw [whole, blank_append_white white, blank_append_white white, blank_comment inLine,
        blank_comment inLine, ← List.cons_append, ih]
      simp only [List.append_assoc]

theorem white_replicate (n : Nat) : ∀ c ∈ List.replicate n space, c.isWhiteSpace = true := by
  intro c member
  rw [List.eq_of_mem_replicate member]
  rfl

/-- A gap is shown as white space. -/
theorem blank_white (gap : Commented atEnd t) : ∀ c ∈ blank t, c.isWhiteSpace = true := by
  have both {u v : Text} (white : ∀ c ∈ u, c.isWhiteSpace = true)
      (white' : ∀ c ∈ v, c.isWhiteSpace = true)
      : ∀ c ∈ u ++ v, c.isWhiteSpace = true :=
    fun c member => (List.mem_append.mp member).elim (white c) (white' c)
  induction gap with
  | white white =>
      have alone := blank_append_white white []
      rw [List.append_nil] at alone
      rw [alone]
      exact both white (by simp [blank, blankFrom])
  | last white inLine _ =>
      rw [blank_append_white white, blank_lastComment inLine]
      exact both white (white_replicate _)
  | comment white inLine _ ih =>
      rw [blank_append_white white, blank_comment inLine]
      exact both white (both (white_replicate _) ih)

end Commented

-----------------------------------------------------------------------------------------
-- Gaps behind white space
-----------------------------------------------------------------------------------------

/-- The rest of a comment and the gap behind it. -/
inductive Commenting (atEnd : Prop) : Text → Prop
  | done (finished : atEnd) : Commenting atEnd []
  | ended {u : Text} (gap : Commented atEnd (lineFeed :: u)) : Commenting atEnd (lineFeed :: u)
  | inside {c : CodePoint} {u : Text} (other : c ≠ lineFeed) (rest : Commenting atEnd u)
    : Commenting atEnd (c :: u)

/-- With two slashes in front, the rest of a comment is a gap. -/
theorem Commenting.gap (rest : Commenting atEnd t) : Commented atEnd (slashes ++ t) := by
  have split {t : Text} (rest : Commenting atEnd t)
      : ∃ line after : Text,
          t = line ++ after
          ∧ (∀ c ∈ line, c ≠ lineFeed)
          ∧ (after = [] ∧ atEnd ∨ ∃ u, after = lineFeed :: u ∧ Commented atEnd after) := by
    induction rest with
    | done finished => exact ⟨[], [], rfl, by simp, Or.inl ⟨rfl, finished⟩⟩
    | @ended u gap => exact ⟨[], lineFeed :: u, rfl, by simp, Or.inr ⟨u, rfl, gap⟩⟩
    | @inside c u other _ ih =>
        obtain ⟨line, after, rfl, inLine, behind⟩ := ih
        refine ⟨c :: line, after, rfl, fun d member => ?_, behind⟩
        rcases List.mem_cons.mp member with rfl | later
        · exact other
        · exact inLine d later
  obtain ⟨line, after, rfl, inLine, behind⟩ := split rest
  rcases behind with ⟨rfl, finished⟩ | ⟨u, rfl, gap⟩
  · have alone : Commented atEnd ([] ++ (slashes ++ line)) := .last (by simp) inLine finished
    rwa [List.append_nil]
  · rw [← List.append_assoc]
    exact .comment (w := []) (by simp) inLine gap

/-- Behind the first of two slashes stands the second one and the rest of a comment. -/
theorem Commenting.opened {c : CodePoint} (commenting : Commenting atEnd t)
    (starts : startsComment c (t ++ rest) = true) (whole : atEnd → t = [] → rest = [])
    : Commented atEnd (c :: t) := by
  simp only [startsComment, Bool.and_eq_true, decide_eq_true_eq] at starts
  obtain ⟨rfl, second⟩ := starts
  cases commenting with
  | done finished =>
      rw [whole finished rfl] at second
      cases second
  | ended gap => exact absurd (Option.some.inj second) (by decide)
  | inside other rest =>
      cases Option.some.inj second
      exact rest.gap

/-- In a comment only white space is shown. -/
theorem white_shown (c : CodePoint) (t : Text)
    : (Scan.comment.shown c t).isWhiteSpace = true := by
  rw [Scan.shown]
  split
  case isTrue feed => exact feed ▸ rfl
  case isFalse => rfl

/-- White space is shown only for a gap of its length, if no white space follows it: a comment is
shown as spaces, which do not stop inside of it. Induction on the white space, in comments and
outside of them.
-/
theorem exists_commented (white : ∀ c ∈ w, c.isWhiteSpace = true)
    (ended : ∀ c ∈ more.head?, c.isWhiteSpace = false)
    : (∀ t,
        blank t = w ++ more
        → ∃ gap rest, t = gap ++ rest ∧ Commented (more = []) gap ∧ gap.length = w.length)
      ∧ ∀ t,
          blankFrom .comment t = w ++ more
          → ∃ gap rest, t = gap ++ rest ∧ Commenting (more = []) gap ∧ gap.length = w.length := by
  induction w with
  | nil =>
      refine ⟨fun t _ => ⟨[], t, rfl, .white (by simp), rfl⟩, fun t same => ?_⟩
      cases t with
      | nil => exact ⟨[], [], rfl, .done same.symm, rfl⟩
      | cons c t =>
          have first : Scan.comment.shown c t ∈ more.head? := by
            rw [← List.nil_append more, ← same]
            rfl
          have white := white_shown c t
          rw [ended _ first] at white
          cases white
  | cons a w ih =>
      obtain ⟨outside, inside⟩ := ih fun c member => white c (List.mem_cons_of_mem a member)
      refine ⟨fun t same => ?_, fun t same => ?_⟩
      · cases t with
        | nil => cases same
        | cons c t =>
            obtain ⟨first, later⟩ := List.cons.inj same
            by_cases comment : startsComment c t = true
            · rw [Scan.next, if_pos comment] at later
              obtain ⟨gap, rest, rfl, commenting, length⟩ := inside t later
              have whole : more = [] → gap = [] → rest = [] := by
                intro none empty
                have lengths := congrArg List.length later
                subst none empty
                simp only [blankFrom_length, List.length_append] at lengths length
                exact List.length_eq_zero_iff.mp (by simpa [← length] using lengths)
              exact ⟨c :: gap, rest, rfl, commenting.opened comment whole,
                congrArg (· + 1) length⟩
            · rw [Scan.shown, if_neg comment] at first
              have solid : c ≠ '"' := by
                intro quoted
                have shown := white a List.mem_cons_self
                rw [← first, quoted] at shown
                cases shown
              rw [Scan.next, if_neg comment, if_neg solid] at later
              obtain ⟨gap, rest, rfl, gapped, length⟩ := outside t later
              have whole : Commented (more = []) ([c] ++ gap) := by
                refine gapped.prepend fun d member => ?_
                rw [List.mem_singleton.mp member, first]
                exact white a List.mem_cons_self
              exact ⟨c :: gap, rest, rfl, whole, congrArg (· + 1) length⟩
      · cases t with
        | nil => cases same
        | cons c t =>
            have later := (List.cons.inj same).2
            by_cases feed : c = lineFeed
            · rw [Scan.next, if_pos feed] at later
              obtain ⟨gap, rest, rfl, gapped, length⟩ := outside t later
              have whole : Commented (more = []) ([lineFeed] ++ gap) := by
                refine gapped.prepend fun d member => ?_
                rw [List.mem_singleton.mp member]
                rfl
              subst feed
              exact ⟨lineFeed :: gap, rest, rfl, .ended whole, congrArg (· + 1) length⟩
            · rw [Scan.next, if_neg feed] at later
              obtain ⟨gap, rest, rfl, commenting, length⟩ := inside t later
              exact ⟨c :: gap, rest, rfl, .inside feed commenting, congrArg (· + 1) length⟩

end RuleGrammar.Json
