/-! UTF-8 read byte by byte. Every maximal invalid part stands as one hole, so that a strict reader
fails on it and a lenient one puts the replacement character. -/
namespace GridQuery.Text.Utf8

/-- A started character: the bits read, the continuation bytes still due, and the bounds of the next
one. -/
structure Pending where
  bits : Nat
  due : Nat
  low : Nat
  high : Nat

/-- What a byte yields: the characters or holes completed by it, and the character it leaves
started. -/
abbrev Step := List (Option Char) × Option Pending

/-- Reads a byte at which a character begins. -/
def first (byte : UInt8) : Step :=
  let b := byte.toNat
  if b < 0x80 then ([some (Char.ofNat b)], none)
  else if b < 0xc2 then ([none], none)
  -- The bounds of the second byte exclude overlong forms, surrogates and what is no code point.
  else if b < 0xe0 then ([], some ⟨b - 0xc0, 1, 0x80, 0xbf⟩)
  else if b = 0xe0 then ([], some ⟨0, 2, 0xa0, 0xbf⟩)
  else if b = 0xed then ([], some ⟨0xd, 2, 0x80, 0x9f⟩)
  else if b < 0xf0 then ([], some ⟨b - 0xe0, 2, 0x80, 0xbf⟩)
  else if b = 0xf0 then ([], some ⟨0, 3, 0x90, 0xbf⟩)
  else if b < 0xf4 then ([], some ⟨b - 0xf0, 3, 0x80, 0xbf⟩)
  else if b = 0xf4 then ([], some ⟨4, 3, 0x80, 0x8f⟩)
  else ([none], none)

/-- Reads a byte after a started character; one that cannot go on with it makes a hole and is read
afresh. -/
def next (pending : Pending) (byte : UInt8) : Step :=
  let b := byte.toNat
  if pending.low ≤ b ∧ b ≤ pending.high then
    let bits := pending.bits * 64 + (b - 0x80)
    if pending.due = 1 then ([some (Char.ofNat bits)], none)
    else ([], some ⟨bits, pending.due - 1, 0x80, 0xbf⟩)
  else
    -- The bytes so far are one hole; this byte may begin a character of its own.
    let (completed, started) := first byte
    (none :: completed, started)

/-- Reads on from a state. -/
def piecesFrom : Option Pending → List UInt8 → List (Option Char)
  | none, [] => []
  -- A character left unfinished at the end is a hole.
  | some _, [] => [none]
  | state, byte :: rest =>
    let (completed, started) := state.elim (first byte) (next · byte)
    completed ++ piecesFrom started rest

/-- The characters of a byte string, with a hole for each maximal invalid part. -/
def pieces (bytes : List UInt8) : List (Option Char) := piecesFrom none bytes

/-- The text of valid bytes only. -/
def decode? (bytes : List UInt8) : Option String := ((pieces bytes).mapM id).map String.ofList

/-- The text of any bytes, holes read as the replacement character. -/
def decodeLossy (bytes : List UInt8) : String :=
  String.ofList ((pieces bytes).map (·.getD '\ufffd'))

def encode (text : String) : List UInt8 := text.toUTF8.toList

end GridQuery.Text.Utf8
