import RuleGrammar.Text.CodePoint

/-! Texts as they are stored in files: UTF-8, whose sequences are the shortest for their code
point and never stand for a surrogate, and lines that end in any of three ways. -/

namespace RuleGrammar

/-- The content of a file. -/
abbrev Bytes := List UInt8

namespace Text

/-- The six bits that a continuation byte carries. -/
def continuation? (byte : UInt8) : Option Nat :=
  if 0x80 ≤ byte.toNat && byte.toNat < 0xC0 then some (byte.toNat - 0x80) else none

/-- The code point that the bits of a sequence amount to, unless a shorter sequence could write
it or it is a surrogate. -/
def scalar? (least bits : Nat) : Option CodePoint :=
  if bits < least then none
  else (CodePoint.ofNat? bits).filter fun c => !c.isSurrogate

/-- How many bytes follow the first byte of a sequence, the bits that the first one carries, and
the least code point that needs so many. -/
def lead? (byte : UInt8) : Option (Nat × Nat × Nat) :=
  let n := byte.toNat
  if n < 0x80 then some (0, n, 0)
  else if 0xC0 ≤ n && n < 0xE0 then some (1, n - 0xC0, 0x80)
  else if 0xE0 ≤ n && n < 0xF0 then some (2, n - 0xE0, 0x800)
  else if 0xF0 ≤ n && n < 0xF8 then some (3, n - 0xF0, 0x10000)
  else none

/-- What a decoder is in the midst of: how many bytes its sequence lacks, the bits so far, and
the least code point that needs a sequence of its length. -/
structure Pending where
  missing : Nat
  bits : Nat
  least : Nat

/-- The code points that bytes encode after those of an unfinished sequence. -/
def decodeFrom? : Option Pending → Bytes → Option Text
  | none, [] => some []
  | some _, [] => none
  | none, byte :: rest => do
      let (missing, bits, least) ← lead? byte
      if missing = 0 then
        return (← scalar? least bits) :: (← decodeFrom? none rest)
      else decodeFrom? (some ⟨missing, bits, least⟩) rest
  | some p, byte :: rest => do
      let bits := p.bits * 64 + (← continuation? byte)
      if p.missing = 1 then
        return (← scalar? p.least bits) :: (← decodeFrom? none rest)
      else decodeFrom? (some { p with missing := p.missing - 1, bits }) rest

/-- The text that bytes encode, if they are well formed. -/
def decode? (bytes : Bytes) : Option Text :=
  decodeFrom? none bytes

/-- The number of bytes that a text is encoded in. -/
def byteLength : Text → Nat
  | [] => 0
  | c :: rest =>
      (if c.value < 0x80 then 1 else if c.value < 0x800 then 2
        else if c.value < 0x10000 then 3 else 4) + byteLength rest

/-- A text in which every line ends with a newline alone: a carriage return is a newline, and
so is the pair of a carriage return and a newline. -/
def withNewlines : Text → Text
  | [] => []
  | c :: rest =>
      if c = CodePoint.ofChar '\r' then
        match rest with
        | d :: tail =>
            if d = CodePoint.ofChar '\n' then CodePoint.ofChar '\n' :: withNewlines tail
            else CodePoint.ofChar '\n' :: withNewlines (d :: tail)
        | [] => [CodePoint.ofChar '\n']
      else c :: withNewlines rest

/-- The text of a file. -/
def ofFile? (bytes : Bytes) : Option Text :=
  (decode? bytes).map withNewlines

end Text

end RuleGrammar
