import RuleGrammar.Proofs.Notation.Watch
import RuleGrammar.Proofs.Notation.Within

/-! Reading ends on every source, and no bound is used up. Under watch each reader answers just what
it answers alone: every round of a loop and every atom within an atom starts further on than the one
before it, what is read never lies past the end, and the room that nested sub-parsers take is a
fixed multiple of the text that is left. The arithmetic is about offsets only: a bound that is
enough for the rest of the source at one offset is enough, less what was read, further on.
-/

namespace RuleGrammar.Notation

open Reader (StaysIn)

/-- From a cursor in a source, a reader under watch answers what the reader alone answers, and that
stays in the source.
-/
structure Watches (source : Text) (cursor : Cursor) {α : Type} (watched : Watched α)
    (reader : Reader α) (post : α → Cursor → Prop) : Prop where
  same
    : cursor.In source
        → (watched cursor : Option (Except Fault (α × Cursor))) = some (reader cursor)
  stays : StaysIn source cursor reader post

/-- There is room for sub-parsers that nest so many levels deep where nothing is left to read, and
eight levels deeper for each code point that is left.
-/
abbrev RoomFor (source : Text) (cursor : Cursor) (levels room : Nat) : Prop :=
  8 * source.length + levels ≤ 8 * cursor.offset + room

namespace Watches

open Watched (watch forward sub here beyond)

variable {source : Text} {cursor : Cursor} {α β : Type} {watched : Watched α}
  {reader : Reader α} {post : α → Cursor → Prop}

theorem pure {a : α} (holds : post a cursor)
    : Watches source cursor (Pure.pure a) (Pure.pure a) post :=
  ⟨fun _ => rfl, .pure holds⟩

theorem bind {next : α → Watched β} {next' : α → Reader β} {further : β → Cursor → Prop}
    (first : Watches source cursor watched reader post)
    (then_
      : ∀ a after, cursor.offset ≤ after.offset → post a after
          → Watches source after (next a) (next' a) further)
    : Watches source cursor (watched >>= next) (reader >>= next') further := by
  refine ⟨fun within => ?_, first.stays.bind fun a after onward holds =>
    (then_ a after onward holds).stays⟩
  change ExceptT.bind (watched cursor) (fun ended => next ended.1 ended.2) = some (do
    let (a, after) ← reader cursor
    next' a after)
  have ended := first.stays within
  rw [first.same within]
  generalize reader cursor = result at ended ⊢
  cases ended with
  | ok inside onward holds => exact (then_ _ _ onward holds).same inside
  | error lies => rfl

/-- What follows may not ask where the first reader stopped. -/
theorem andThen {next : α → Watched β} {next' : α → Reader β} {further : β → Cursor → Prop}
    (first : Watches source cursor watched reader post)
    (then_ : ∀ a after, Watches source after (next a) (next' a) further)
    : Watches source cursor (watched >>= next) (reader >>= next') further :=
  first.bind fun a after _ _ => then_ a after

theorem mono {wider : α → Cursor → Prop} (watches : Watches source cursor watched reader post)
    (weaken : ∀ a after, cursor.offset ≤ after.offset → post a after → wider a after)
    : Watches source cursor watched reader wider :=
  ⟨watches.same, watches.stays.mono weaken⟩

theorem ite {p : Prop} [Decidable p] {watched' : Watched α} {reader' : Reader α}
    (yes : p → Watches source cursor watched reader post)
    (no : ¬p → Watches source cursor watched' reader' post)
    : Watches source cursor (if p then watched else watched') (if p then reader else reader')
        post := by
  split
  · exact yes ‹p›
  · exact no ‹¬p›

/-- A sub-parser that stays in the source ends where it may. -/
theorem forward (watches : Watches source cursor watched reader post)
    : Watches source cursor (Watched.forward watched) reader post := by
  refine ⟨fun within => ?_, watches.stays⟩
  have ended := watches.stays within
  rw [Watched.forward, watches.same within]
  generalize reader cursor = result at ended
  cases ended with
  | error lies => rfl
  | ok inside onward holds =>
      have := within.length
      have := inside.length
      exact if_pos ⟨onward, by omega⟩

theorem watch (stays : StaysIn source cursor reader post)
    : Watches source cursor (Watched.watch reader) reader post :=
  forward ⟨fun _ => rfl, stays⟩

/-- Nothing is asked where no cursor stands. -/
theorem of_outside (outside : source.length < cursor.offset)
    : Watches source cursor watched reader post := by
  have absent : ¬cursor.In source := fun within => by
    have := within.length
    omega
  exact ⟨fun within => absurd within absent, fun within => absurd within absent⟩

/-- With room for a level more than some, a sub-parser can go on with room for these. -/
theorem of_room {levels room : Nat} (enough : RoomFor source cursor (levels + 1) room)
    (watches
      : ∀ rest, room = rest + 1 → RoomFor source cursor levels rest
          → Watches source cursor watched reader post)
    : Watches source cursor watched reader post := by
  cases room with
  | zero => exact of_outside (by omega)
  | succ rest => exact watches rest rfl (by omega)

theorem sub {inner : Nat → Watched α} {levels room : Nat}
    (enough : RoomFor source cursor (levels + 1) room)
    (watches
      : ∀ rest, RoomFor source cursor levels rest
          → Watches source cursor (inner rest) reader post)
    : Watches source cursor (Watched.sub inner room) reader post := by
  refine of_room enough ?_
  rintro rest rfl enough
  exact forward (watches rest enough)

theorem beyond {start : Nat} (further : start < cursor.offset)
    (watches : Watches source cursor watched reader post)
    : Watches source cursor (Watched.beyond start watched) reader post := by
  refine ⟨fun within => ?_, watches.stays⟩
  rw [Watched.beyond, if_pos further]
  exact watches.same within

/-- A bound that a reader asks for is enough for the text that is left. -/
theorem of_rounds {next : Nat → Reader α}
    (then_
      : ∀ bound, source.length < cursor.offset + bound
          → Watches source cursor watched (next bound) post)
    : Watches source cursor watched (Reader.rounds >>= next) post := by
  have enough (within : cursor.In source)
      : source.length < cursor.offset + (cursor.rest.length + 1) := by
    have := within.length
    omega
  exact ⟨fun within => (then_ _ (enough within)).same within,
    fun within => (then_ _ (enough within)).stays within⟩

theorem here {next : Nat → Watched α}
    (then_ : Watches source cursor (next cursor.offset) reader post)
    : Watches source cursor (Watched.here >>= next) reader post :=
  ⟨then_.same, then_.stays⟩

-----------------------------------------------------------------------------------------
-- Names, literals and classes
-----------------------------------------------------------------------------------------

/-- Each further part of a name starts behind a double colon more, by induction on the bound. -/
theorem furtherParts {bound : Nat} (bounded : source.length < cursor.offset + bound)
    : Watches source cursor (Watched.furtherParts bound) (Reader.furtherParts bound)
        fun _ _ => True := by
  induction bound generalizing cursor with
  | zero => exact of_outside bounded
  | succ bound ih =>
      refine here ((watch (.starts "::")).bind ?_)
      rintro found _ - ⟨enough, rfl⟩
      refine .ite (fun colons => ?_) fun _ => .pure trivial
      refine (watch (.bump (enough colons))).bind fun _ middle _ _ => ?_
      refine (watch .identifier).bind fun part after _ _ => ?_
      exact (beyond (by omega) (ih (by omega))).andThen fun _ _ => .pure trivial

theorem qualifiedName {room : Nat} (enough : RoomFor source cursor 1 room)
    : Watches source cursor (Watched.qualifiedName room) Reader.qualifiedName
        fun _ after => cursor.offset < after.offset := by
  refine sub enough fun _ _ => (watch .identifier).bind fun first after _ _ => ?_
  refine (watch .rounds).bind ?_
  rintro bound _ - ⟨bounded, rfl⟩
  exact (furtherParts bounded).bind fun _ last _ _ => .pure (by omega)

theorem literalRest (mark : CodePoint) {bound : Nat}
    (bounded : source.length < cursor.offset + bound)
    : Watches source cursor (Watched.literalRest mark bound) (Notation.literalRest mark bound)
        fun _ _ => True := by
  induction bound generalizing cursor with
  | zero => exact of_outside bounded
  | succ bound ih =>
      refine here ((watch .peek).bind ?_)
      rintro _ _ - ⟨rfl, rfl⟩
      cases ahead : cursor.rest.head? with
      | none => exact watch (.fail _)
      | some c =>
          refine (watch (.bump_one ahead)).bind fun _ after _ ⟨behind, _, _⟩ => ?_
          refine .ite (fun _ => .pure trivial) fun _ => .ite (fun backslash => ?_) fun _ => ?_
          · rw [backslash] at behind
            refine (watch (.escape behind)).bind fun _ last _ _ => ?_
            exact (beyond (by omega) (ih (by omega))).andThen fun _ _ => .pure trivial
          · exact (beyond (by omega) (ih (by omega))).andThen fun _ _ => .pure trivial

theorem literal (mark : CodePoint) {room : Nat} (enough : RoomFor source cursor 1 room)
    : Watches source cursor (Watched.literal mark room)
        (do Notation.literalRest mark (← Reader.rounds)) fun _ _ => True := by
  refine sub enough fun _ _ => (watch .rounds).bind ?_
  rintro bound _ - ⟨bounded, rfl⟩
  exact literalRest mark bounded

theorem classItems {bound : Nat} (bounded : source.length < cursor.offset + bound) (cls : CharClass)
    : Watches source cursor (Watched.classItems bound cls) (Notation.classItems bound cls)
        fun _ _ => True := by
  induction bound generalizing cursor cls with
  | zero => exact of_outside bounded
  | succ bound ih =>
      refine here ((watch .skipBlank).bind fun _ inside _ _ => (watch .peek).bind ?_)
      rintro _ _ - ⟨rfl, rfl⟩
      cases ahead : inside.rest.head? with
      | none => exact watch (.fail _)
      | some c =>
          refine .ite (fun _ => ?_) fun _ => (watch .classItem).bind fun item after _ _ => ?_
          · exact (watch (.bump_one ahead)).andThen fun _ _ => .pure trivial
          · cases item with
            | escape e => exact beyond (by omega) (ih (by omega) _)
            | point a =>
                refine (watch (.tryEat "..")).bind fun dotted middle _ _ => ?_
                refine .ite (fun _ => ?_) fun _ => ?_
                · refine (watch .skipBlank).bind fun _ solid _ _ => ?_
                  refine (watch .classItem).bind fun item last _ _ => ?_
                  cases item with
                  | escape e => exact watch (.fail _)
                  | point b => exact beyond (by omega) (ih (by omega) _)
                · exact beyond (by omega) (ih (by omega) _)

theorem bracketed {room : Nat} (enough : RoomFor source cursor 1 room)
    : Watches source cursor (Watched.bracketed room)
        (do Notation.classItems (← Reader.rounds) {}) fun _ _ => True := by
  refine sub enough fun _ _ => (watch .rounds).bind ?_
  rintro bound _ - ⟨bounded, rfl⟩
  exact classItems bounded {}

theorem classTerm {room : Nat} (enough : RoomFor source cursor 2 room)
    : Watches source cursor (Watched.classTerm room) Notation.classTerm fun _ _ => True := by
  refine sub enough fun rest enough => (watch (.tryEat "[")).bind fun _ _ _ _ => ?_
  refine .ite (fun _ => bracketed (by omega)) fun _ => ?_
  refine (watch (.tryEat ":")).bind fun _ _ _ _ => .ite (fun _ => ?_) fun _ => watch (.fail _)
  exact (watch .propertyName).andThen fun _ _ => .pure trivial

theorem classTerms {room bound : Nat} (enough : RoomFor source cursor 2 room)
    (bounded : source.length < cursor.offset + bound) (cls : CharClass)
    : Watches source cursor (Watched.classTerms room bound cls) (Notation.classTerms bound cls)
        fun _ _ => True := by
  induction bound generalizing cursor cls with
  | zero => exact of_outside bounded
  | succ bound ih =>
      refine here ((watch (.tryEat "+")).bind fun more middle _ passed => ?_)
      refine .ite (fun plus => ?_) fun _ => .pure trivial
      have passed : cursor.offset + 1 ≤ middle.offset := passed plus
      refine (classTerm (by omega)).bind fun term last _ _ => ?_
      exact beyond (by omega) (ih (by omega) (by omega) _)

theorem classExpr {room : Nat} (enough : RoomFor source cursor 3 room)
    : Watches source cursor (Watched.classExpr room) Notation.classExpr fun _ _ => True := by
  refine sub enough fun rest enough => (watch (.tryEat "-")).bind fun negated _ _ _ => ?_
  refine (watch (.tryEat "+")).bind fun _ _ _ _ => ?_
  refine (classTerm (by omega)).bind fun first _ _ _ => (watch .rounds).bind ?_
  rintro bound _ - ⟨bounded, rfl⟩
  refine (classTerms (by omega) bounded first).bind fun cls _ _ _ => ?_
  exact (watch (.eat ">")).andThen fun _ _ => .pure trivial

-----------------------------------------------------------------------------------------
-- Levels of binding
-----------------------------------------------------------------------------------------

section Alternatives

variable {mark : Reader Bool} {alternative : Watched Expr} {alternative' : Reader Expr}
  (marks
    : ∀ cursor, StaysIn source cursor mark fun found after =>
        found = true → cursor.offset < after.offset)

include marks

theorem furtherAlternatives {bound : Nat}
    (each
      : ∀ later : Cursor, cursor.offset ≤ later.offset
          → Watches source later alternative alternative' fun _ _ => True)
    (bounded : source.length < cursor.offset + bound)
    : Watches source cursor (Watched.furtherAlternatives mark alternative bound)
        (Notation.furtherAlternatives mark alternative' bound) fun _ _ => True := by
  induction bound generalizing cursor with
  | zero => exact of_outside bounded
  | succ bound ih =>
      refine here ((watch (marks cursor)).bind fun found middle _ passed => ?_)
      refine .ite (fun bar => ?_) fun _ => .pure trivial
      have passed := passed bar
      refine (each middle (by omega)).bind fun next last _ _ => ?_
      refine (beyond (by omega) (ih (fun later _ => each later ?_) (by omega))).andThen ?_
      · omega
      · exact fun _ _ => .pure trivial

theorem alternatives
    (each
      : ∀ later : Cursor, cursor.offset ≤ later.offset
          → Watches source later alternative alternative' fun _ _ => True)
    : Watches source cursor (Watched.alternatives mark alternative)
        (Notation.alternatives mark alternative') fun _ _ => True := by
  refine (watch (marks cursor)).bind fun _ middle _ _ => ?_
  refine (each middle (by omega)).bind fun first last _ _ => (watch .rounds).bind ?_
  rintro bound _ - ⟨bounded, rfl⟩
  refine (furtherAlternatives marks (fun later _ => each later (by omega)) bounded).andThen ?_
  exact fun _ _ => .pure trivial

end Alternatives

theorem aliased (name : Name)
    : Watches source cursor (Watched.aliased name) (Notation.namedAssertion.aliased name)
        fun _ _ => True := by
  refine (watch (.tryEat "=")).bind fun _ _ _ _ => .ite (fun _ => ?_) fun _ => ?_
  · refine (watch (.tryEat ".")).bind fun _ _ _ _ => (watch .identifier).bind fun _ _ _ _ => ?_
    exact (watch (.eat ">")).andThen fun _ _ => .pure trivial
  · exact (watch (.eat ">")).andThen fun _ _ => .pure trivial

theorem namedCapture {atom : Reader Expr} {nested : Watched Expr}
    (nests
      : ∀ later : Cursor, cursor.offset ≤ later.offset
          → Watches source later nested atom fun _ _ => True)
    : Watches source cursor (Watched.namedCapture nested) (Notation.namedCapture atom)
        fun _ _ => True := by
  refine (watch .identifier).bind fun name _ _ _ => ?_
  refine (watch (.eat ">")).bind fun _ _ _ _ => (watch (.eat "=")).bind fun _ _ _ _ => ?_
  refine (nests _ (by omega)).bind fun body _ _ _ => ?_
  cases body <;> exact .pure trivial

/-- What comes up to a closing mark. -/
theorem closed {inner : Watched Expr} {inner' : Reader Expr} (closing : Text)
    (result : Expr → Expr) (watches : Watches source cursor inner inner' fun _ _ => True)
    : Watches source cursor
        (do
          let body ← inner
          Watched.watch (Reader.eat closing)
          return result body)
        (do
          let body ← inner'
          Reader.eat closing
          return result body)
        fun _ _ => True :=
  watches.andThen fun _ _ => (watch (.eat closing)).andThen fun _ _ => .pure trivial

/-- Wherever there is room from an offset on, atoms are read under watch as they are alone. -/
def Atoms (source : Text) (start : Nat) (atom : Reader Expr) : Prop :=
  ∀ cursor room, start ≤ cursor.offset → RoomFor source cursor 4 room →
    Watches source cursor (Watched.atom room) atom fun _ after => cursor.offset < after.offset

section Levels

variable {start room : Nat} {atom : Reader Expr} (atoms : Atoms source start atom)

include atoms

theorem quantified (since : start ≤ cursor.offset) (enough : RoomFor source cursor 5 room)
    : Watches source cursor (Watched.quantified room) (Notation.quantified atom)
        fun _ after => cursor.offset < after.offset := by
  refine of_room enough ?_
  rintro room rfl enough
  refine forward ((atoms cursor room since enough).bind fun body after _ _ => ?_)
  refine (watch .quantifier).bind fun bounds _ _ _ => ?_
  match bounds with
  | none => exact .pure (by omega)
  | some (least, most) =>
      have separator (cursor : Cursor) (further : after.offset ≤ cursor.offset) :=
        atoms cursor room (by omega) (by omega)
      refine (watch (.tryEat "%%")).bind fun _ _ _ _ => .ite (fun _ => ?_) fun _ => ?_
      · exact (separator _ (by omega)).bind fun _ _ _ _ => .pure (by omega)
      · refine (watch (.tryEat "%")).bind fun _ _ _ _ => ?_
        refine .ite (fun _ => ?_) fun _ => .pure (by omega)
        exact (separator _ (by omega)).bind fun _ _ _ _ => .pure (by omega)

theorem sequenceItems {bound : Nat} (items : List Expr) (since : start ≤ cursor.offset)
    (enough : RoomFor source cursor 5 room) (bounded : source.length < cursor.offset + bound)
    : Watches source cursor (Watched.sequenceItems (Watched.quantified room) bound items)
        (Notation.sequenceItems atom bound items) fun _ _ => True := by
  induction bound generalizing cursor items with
  | zero => exact of_outside bounded
  | succ bound ih =>
      refine here ((watch .skipBlank).bind fun _ inside _ _ => (watch .peek).bind ?_)
      rintro _ _ - ⟨rfl, rfl⟩
      cases ahead : inside.rest.head? with
      | none => exact .pure trivial
      | some c =>
          refine .ite (fun _ => .pure trivial) fun _ => .ite (fun _ => ?_) fun _ => ?_
          · refine (watch (.bump_one ahead)).bind fun _ middle _ _ => ?_
            match items with
            | [] => exact watch (.fail _)
            | opener :: earlier =>
                refine (quantified atoms (by omega) (by omega)).bind fun closer _ _ _ => ?_
                refine (quantified atoms (by omega) (by omega)).bind fun body _ _ _ => ?_
                exact beyond (by omega) (ih _ (by omega) (by omega) (by omega))
          · refine (quantified atoms (by omega) (by omega)).bind fun next _ _ _ => ?_
            exact beyond (by omega) (ih _ (by omega) (by omega) (by omega))

theorem sequence (since : start ≤ cursor.offset) (enough : RoomFor source cursor 6 room)
    : Watches source cursor (Watched.sequence room) (Notation.sequence atom) fun _ _ => True := by
  refine of_room enough ?_
  rintro room rfl enough
  refine forward ((watch .rounds).bind ?_)
  rintro bound _ - ⟨bounded, rfl⟩
  exact (sequenceItems atoms [] since enough bounded).andThen fun _ _ => .pure trivial

theorem longest (since : start ≤ cursor.offset) (enough : RoomFor source cursor 7 room)
    : Watches source cursor (Watched.longest room) (Notation.longest atom) fun _ _ => True := by
  refine of_room enough ?_
  rintro room rfl enough
  have bars (cursor : Cursor) : StaysIn source cursor (Reader.tryEat "||") fun found after =>
      found = true → cursor.offset < after.offset :=
    (StaysIn.tryEat "||").mono fun found after _ passed bars =>
      Nat.lt_of_lt_of_le (Nat.lt_add_of_pos_right (by decide)) (passed bars)
  refine forward ((alternatives bars fun later further => ?_).andThen fun _ _ => .pure trivial)
  exact sequence atoms (by omega) (by omega)

theorem choice (since : start ≤ cursor.offset) (enough : RoomFor source cursor 8 room)
    : Watches source cursor (Watched.choice room) (Notation.choice atom) fun _ _ => True := by
  refine of_room enough ?_
  rintro room rfl enough
  refine forward ((alternatives (fun _ => .tryBar) fun later further => ?_).andThen ?_)
  · exact longest atoms (by omega) (by omega)
  · exact fun _ _ => .pure trivial

theorem lookaheadRest (negated : Bool) (since : start ≤ cursor.offset)
    (enough : RoomFor source cursor 8 room)
    : Watches source cursor (Watched.lookaheadRest (Watched.choice room) negated)
        (Notation.lookaheadRest atom negated) fun _ _ => True :=
  closed ">" (.lookahead · negated) (choice atoms since enough)

theorem signedLookahead (negated : Bool) (since : start ≤ cursor.offset)
    (enough : RoomFor source cursor 8 room)
    : Watches source cursor (Watched.signedLookahead (Watched.choice room) negated)
        (Notation.signedLookahead atom negated) fun _ _ => True := by
  refine (watch (.keyword "before")).bind fun _ _ _ _ => .ite (fun _ => ?_) fun _ => ?_
  · exact lookaheadRest atoms negated (by omega) (by omega)
  · refine (watch .identifier).bind fun name _ _ _ => ?_
    exact (watch (.eat ">")).andThen fun _ _ => .pure trivial

theorem namedAssertion (since : start ≤ cursor.offset) (enough : RoomFor source cursor 8 room)
    : Watches source cursor (Watched.namedAssertion (Watched.choice room))
        (Notation.namedAssertion atom) fun _ _ => True := by
  refine (watch .identifier).bind fun name _ _ _ => .ite (fun _ => ?_) fun _ => ?_
  · exact lookaheadRest atoms false (by omega) (by omega)
  · refine .ite (fun _ => ?_) fun _ => aliased name
    refine (watch (.tryEat ">")).bind fun _ _ _ _ => ?_
    exact .ite (fun _ => .pure trivial) fun _ => aliased name

theorem assertion (since : start ≤ cursor.offset) (enough : RoomFor source cursor 9 room)
    : Watches source cursor (Watched.assertion room) (Notation.assertion atom) fun _ _ => True := by
  refine of_room enough ?_
  rintro room rfl enough
  refine forward ((watch .skipBlank).bind fun _ inside _ _ => (watch .peek).bind ?_)
  rintro _ _ - ⟨rfl, rfl⟩
  refine .ite (fun _ => classExpr (by omega)) fun _ => .ite (fun sign => ?_) fun _ => ?_
  · cases ahead : inside.rest.head? with
    | none => simp [ahead] at sign
    | some c =>
        refine (watch (.bump_one ahead)).bind fun _ _ _ _ => ?_
        exact signedLookahead atoms _ (by omega) (by omega)
  · refine (watch (.tryEat ".")).bind fun _ _ _ _ => .ite (fun _ => ?_) fun _ => ?_
    · refine (watch .identifier).bind fun name _ _ _ => ?_
      exact (watch (.eat ">")).andThen fun _ _ => .pure trivial
    · exact namedAssertion atoms (by omega) (by omega)

end Levels

-----------------------------------------------------------------------------------------
-- Atoms
-----------------------------------------------------------------------------------------

/-- An atom is read under watch as it is alone if the atoms further on are. -/
theorem atom {room : Nat} {nested : Reader Expr}
    (atoms : Atoms source (cursor.offset + 1) nested) (enough : RoomFor source cursor 4 room)
    : Watches source cursor (Watched.atom room) (atomOver nested)
        fun _ after => cursor.offset < after.offset := by
  refine of_room enough ?_
  rintro room rfl enough
  refine forward (here ((watch .skipBlank).bind fun _ inside _ _ => (watch .peek).bind ?_))
  rintro _ _ - ⟨rfl, rfl⟩
  cases ahead : inside.rest.head? with
  | none => exact watch (.fail _)
  | some c =>
      have passed : StaysIn source inside (Reader.bump 1) _ := .bump_one ahead
      have body (later : Cursor) (further : cursor.offset < later.offset)
          : Watches source later (Watched.beyond cursor.offset (Watched.choice room))
              (Notation.choice nested) fun _ _ => True :=
        beyond further (choice atoms further (by omega))
      -- the forms of an atom in the order in which the reader tries them, quoted literals first
      refine .ite (fun _ => (watch passed).bind fun _ later _ _ => ?_) fun _ => ?_
      · change Watches source later _ (do
          let text ← (do Notation.literalRest c (← Reader.rounds))
          return Expr.literal text) _
        exact (literal c (by omega)).bind fun _ _ _ _ => .pure (by omega)
      refine .ite (fun _ => (watch passed).bind fun _ later _ _ => ?_) fun _ => ?_
      · exact (closed "]" id (body later (by omega))).mono fun _ _ _ _ => by omega
      refine .ite (fun _ => (watch passed).bind fun _ later _ _ => ?_) fun _ => ?_
      · exact (closed ")" (.capture · none) (body later (by omega))).mono fun _ _ _ _ => by omega
      refine (watch (.starts "$<")).bind ?_
      rintro named _ - ⟨opened, rfl⟩
      refine .ite (fun dollar => ?_) fun _ => ?_
      · have two : 2 ≤ inside.rest.length := opened dollar
        refine (watch (.bump two)).bind fun _ _ _ _ => ?_
        refine (namedCapture fun later _ => ?_).mono fun _ _ _ _ => by omega
        have inner := atoms later room (by omega) (by omega)
        exact beyond (by omega) (inner.mono fun _ _ _ _ => trivial)
      refine .ite (fun _ => (watch passed).bind fun _ _ _ _ => .pure (by omega)) fun _ => ?_
      refine .ite (fun _ => (watch passed).bind fun _ _ _ _ => .pure (by omega)) fun _ => ?_
      refine .ite (fun _ => (watch passed).bind fun _ _ _ _ => .pure (by omega)) fun _ => ?_
      refine .ite (fun backslash => ?_) fun _ => ?_
      · refine (watch passed).bind fun _ _ _ ⟨behind, _, _⟩ => ?_
        rw [backslash] at behind
        exact (watch (.backslashAtom behind)).mono fun _ _ _ _ => by omega
      refine .ite (fun _ => (watch passed).bind fun _ later _ _ => ?_) fun _ => ?_
      · refine (beyond (by omega) (assertion atoms (by omega) (by omega))).mono ?_
        exact fun _ _ _ _ => by omega
      exact (watch (.wordAtom c)).mono fun _ _ _ _ => by omega

/-- Atoms nested to a depth above the number of code points left, by induction on the depth. -/
theorem atomTo {depth start : Nat} (deep : source.length < start + depth)
    : Atoms source start (Notation.atomTo depth) := by
  induction depth generalizing start with
  | zero => exact fun cursor room since _ => of_outside (by omega)
  | succ depth ih => exact fun cursor room since enough => atom (ih (by omega)) enough

theorem body {room : Nat} (enough : RoomFor source cursor 8 room)
    : Watches source cursor (Watched.choice room) Notation.body fun _ _ => True :=
  of_rounds fun _ bounded => choice (atomTo bounded) (Nat.le_refl _) enough

-----------------------------------------------------------------------------------------
-- Declarations
-----------------------------------------------------------------------------------------

theorem ruleDeclaration (layer : Layer) (kind : RuleKind) {room : Nat}
    (enough : RoomFor source cursor 8 room)
    : Watches source cursor (Watched.ruleDeclaration layer kind room)
        (Notation.ruleDeclaration layer kind) fun _ _ => True := by
  refine (watch .identifier).bind fun name _ _ _ => (watch .ruleTag).bind fun tag _ _ _ => ?_
  refine (watch (.eat "\x7b")).bind fun _ _ _ _ => (body (by omega)).bind fun expr _ _ _ => ?_
  refine (watch (.eat "\x7d")).bind fun _ _ _ _ => ?_
  exact watch (.entered layer name _ tag)

theorem declaration (layer : Layer) {room : Nat} (enough : RoomFor source cursor 9 room)
    : Watches source cursor (Watched.declaration layer room) (Notation.declaration layer)
        fun _ after => cursor.offset < after.offset := by
  refine sub enough fun room enough => (watch .identifier).bind fun word _ _ _ => ?_
  refine .ite (fun _ => ?_) fun _ => ?_
  · exact (watch (.protoDeclaration layer)).mono fun _ _ _ _ => by omega
  · cases RuleKind.ofKeyword? word with
    | none => exact watch (.fail _)
    | some kind => exact (ruleDeclaration layer kind (by omega)).mono fun _ _ _ _ => by omega

theorem declarations {room bound : Nat} (layer : Layer) (enough : RoomFor source cursor 9 room)
    (bounded : source.length < cursor.offset + bound)
    : Watches source cursor (Watched.declarations room bound layer)
        (Notation.declarations bound layer) fun _ _ => True := by
  induction bound generalizing cursor layer with
  | zero => exact of_outside bounded
  | succ bound ih =>
      refine here ((watch (.tryEat "\x7d")).bind fun _ _ _ _ => ?_)
      refine .ite (fun _ => .pure trivial) fun _ => (watch .peek).bind ?_
      rintro _ _ - ⟨rfl, rfl⟩
      refine .ite (fun _ => watch (.fail _)) fun _ => ?_
      refine (declaration layer (by omega)).bind fun layer _ _ _ => ?_
      exact beyond (by omega) (ih layer (by omega) (by omega))

theorem parentName (known : List Name) {room : Nat} (enough : RoomFor source cursor 1 room)
    : Watches source cursor (Watched.parentName known room) (Notation.parentName known)
        fun _ _ => True := by
  refine (watch (.keyword "is")).bind fun _ _ _ _ => .ite (fun _ => ?_) fun _ => .pure trivial
  refine (qualifiedName (by omega)).bind fun name _ _ _ => ?_
  exact .ite (fun _ => .pure trivial) fun _ => watch (.fail _)

theorem grammarDeclaration (known declared : List Name) {room : Nat}
    (enough : RoomFor source cursor 9 room)
    : Watches source cursor (Watched.grammarDeclaration known declared room)
        (Notation.grammarDeclaration known declared)
        fun _ after => cursor.offset < after.offset := by
  refine (watch (.keyword "grammar")).bind fun found _ _ passed => ?_
  refine .ite (fun named => ?_) fun _ => ?_
  · have passed := passed named
    refine (qualifiedName (by omega)).bind fun name _ _ _ => ?_
    refine (parentName _ (by omega)).bind fun parent _ _ _ => ?_
    refine (watch (.eat "\x7b")).bind fun _ _ _ _ => (watch .rounds).bind ?_
    rintro bound _ - ⟨bounded, rfl⟩
    refine (declarations _ (by omega) bounded).bind fun layer _ _ _ => ?_
    refine (watch (.tryEat ";")).bind fun _ _ _ _ => ?_
    exact .ite (fun _ => watch (.fail _)) fun _ => .pure (by omega)
  · exact (watch (.fail _)).bind fun _ _ _ (none : False) => none.elim

theorem grammarDeclarations (known : List Name) {room bound : Nat} (read : List Declaration)
    (enough : RoomFor source cursor 9 room) (bounded : source.length < cursor.offset + bound)
    : Watches source cursor (Watched.grammarDeclarations known room bound read)
        (Notation.grammarDeclarations known bound read) fun _ _ => True := by
  induction bound generalizing cursor read with
  | zero => exact of_outside bounded
  | succ bound ih =>
      refine here ((watch .skipBlank).bind fun _ _ _ _ => (watch .peek).bind ?_)
      rintro _ _ - ⟨rfl, rfl⟩
      refine .ite (fun _ => .pure trivial) fun _ => ?_
      refine (grammarDeclaration known _ (by omega)).bind fun next _ _ _ => ?_
      exact beyond (by omega) (ih _ (by omega) (by omega))

theorem document (known : List Name) {room : Nat} (enough : RoomFor source cursor 10 room)
    : Watches source cursor (Watched.document known room) (Notation.document known)
        fun _ _ => True := by
  refine sub enough fun room enough => (watch .rounds).bind ?_
  rintro bound _ - ⟨bounded, rfl⟩
  refine (grammarDeclarations known [] enough bounded).bind fun read _ _ _ => ?_
  exact .ite (fun _ => watch (.fail _)) fun _ => .pure trivial

end Watches

-----------------------------------------------------------------------------------------
-- Reading ends
-----------------------------------------------------------------------------------------

/-- With so much room at a cursor, nothing breaks off under watch: the answer is the one that the
reader alone gives, and a result leaves the cursor where it stood or further on, not past the end.
-/
structure EndsAt (cursor : Cursor) (room : Nat) {α : Type} (watched : Nat → Watched α)
    (reader : Reader α) : Prop where
  same : (watched room cursor : Option (Except Fault (α × Cursor))) = some (reader cursor)
  onward
    : ∀ a after, reader cursor = .ok (a, after)
        → cursor.offset ≤ after.offset
          ∧ after.offset ≤ cursor.offset + cursor.rest.length

/-- Any cursor stands in some source. -/
theorem Watches.endsAt {cursor : Cursor} {room : Nat} {α : Type} {watched : Nat → Watched α}
    {reader : Reader α} {post : α → Cursor → Prop}
    (watches
      : ∀ source : Text, source.length = cursor.offset + cursor.rest.length
          → Watches source cursor (watched room) reader post)
    : EndsAt cursor room watched reader := by
  have within : cursor.In (List.replicate cursor.offset default ++ cursor.rest) :=
    ⟨_, rfl, List.length_replicate.symm⟩
  have watches := watches _ within.length.symm
  refine ⟨watches.same within, fun a after ran => ?_⟩
  have ended := watches.stays within
  rw [ran] at ended
  cases ended with
  | ok inside onward holds =>
      have := within.length
      have := inside.length
      exact ⟨onward, by omega⟩

/-- Reading ends on every source: with room for ten levels of sub-parsers, and ten more for each
code point, no loop goes round and no sub-parser is nested without reading on, and so it is for
every sub-parser of bodies wherever it starts. The depth to which atoms nest makes no difference
above the number of code points left.
-/
theorem reading_ends (known : List Name) (extra : Nat)
    : (∀ source : Text,
          EndsAt ⟨0, source⟩ (10 * (source.length + 1) + extra) (Watched.document known)
            (document known))
      ∧ ∀ cursor : Cursor,
          let room := 10 * (cursor.rest.length + 1) + extra
          let atom := atomTo (cursor.rest.length + 1 + extra)
          EndsAt cursor room Watched.choice (choice atom)
          ∧ EndsAt cursor room Watched.longest (longest atom)
          ∧ EndsAt cursor room Watched.sequence (sequence atom)
          ∧ EndsAt cursor room Watched.quantified (quantified atom)
          ∧ EndsAt cursor room Watched.atom atom
          ∧ EndsAt cursor room Watched.assertion (assertion atom) := by
  refine ⟨fun source => Watches.endsAt fun whole same => .document known ?_, fun cursor => ?_⟩
  · have same : whole.length = 0 + source.length := same
    change 8 * whole.length + 10 ≤ 8 * 0 + _
    omega
  · have atoms (source : Text) (same : source.length = cursor.offset + cursor.rest.length)
        : Watches.Atoms source cursor.offset (atomTo (cursor.rest.length + 1 + extra)) :=
      Watches.atomTo (by omega)
    have here := Nat.le_refl cursor.offset
    exact ⟨Watches.endsAt fun source same => .choice (atoms source same) here (by omega),
      Watches.endsAt fun source same => .longest (atoms source same) here (by omega),
      Watches.endsAt fun source same => .sequence (atoms source same) here (by omega),
      Watches.endsAt fun source same => .quantified (atoms source same) here (by omega),
      Watches.endsAt fun source same => atoms source same cursor _ here (by omega),
      Watches.endsAt fun source same => .assertion (atoms source same) here (by omega)⟩

end RuleGrammar.Notation
