import GridQuery.Text.Utf8
import Mathlib.Algebra.Group.Nat.Defs
import Mathlib.Data.List.Basic

/-! Texts written in UTF-8 and read back. The first byte of a character starts it with its upper
bits and the number of bytes due; each byte after it brings six bits more, and the last one
completes the character, whatever follows. -/
namespace GridQuery.Text.Utf8

theorem toList_loop_eq (bytes : ByteArray) (index : Nat) (before : List UInt8) :
    ByteArray.toList.loop bytes index before =
      before.reverse ++ bytes.data.toList.drop index := by
  fun_induction ByteArray.toList.loop bytes index before with
  | case1 index before within ih =>
    have inList : index < bytes.data.toList.length := by simpa using within
    rw [ih, List.drop_eq_getElem_cons inList]
    simp [ByteArray.get!, within]
  | case2 index before behind =>
    rw [List.drop_eq_nil_of_le (by simpa using Nat.le_of_not_lt behind), List.append_nil]

theorem encode_eq_flatMap (text : String) :
    encode text = text.toList.flatMap String.utf8EncodeChar := by
  rw [encode, ByteArray.toList, toList_loop_eq, String.toUTF8_eq_toByteArray,
    ← String.utf8Encode_toList, List.utf8Encode, List.toList_data_toByteArray]
  rfl

/-- The last bytes of a code point, six bits in each. -/
def continuation (code : Nat) : Nat → List UInt8
  | 0 => []
  | due + 1 => UInt8.ofNat (code / 64 ^ due % 64 + 0x80) :: continuation code due

/-- A started character whose next byte is that of a code point with `later` bytes behind it. -/
structure Pending.Awaits (pending : Pending) (code later : Nat) : Prop where
  bits : pending.bits = code / 64 ^ (later + 1)
  due : pending.due = later + 1
  low : pending.low ≤ code / 64 ^ later % 64 + 0x80
  high : code / 64 ^ later % 64 + 0x80 ≤ pending.high

section Continuation

variable {pending : Pending} {code later : Nat}

theorem toNat_continuation (code later : Nat) :
    (UInt8.ofNat (code / 64 ^ later % 64 + 0x80)).toNat = code / 64 ^ later % 64 + 0x80 := by
  have six := Nat.mod_lt (code / 64 ^ later) (by decide : 64 > 0)
  rw [UInt8.toNat_ofNat']
  exact Nat.mod_eq_of_lt (by omega)

theorem next_of_awaits (awaits : pending.Awaits code later) :
    next pending (UInt8.ofNat (code / 64 ^ later % 64 + 0x80)) =
      if later = 0 then ([some (Char.ofNat code)], none)
      else ([], some ⟨code / 64 ^ later, later, 0x80, 0xbf⟩) := by
  have joined : code / 64 ^ (later + 1) * 64 + code / 64 ^ later % 64 = code / 64 ^ later := by
    rw [Nat.pow_succ, ← Nat.div_div_eq_div_mul]
    exact Nat.div_add_mod' _ _
  simp only [next, toNat_continuation, if_pos (And.intro awaits.low awaits.high), awaits.bits,
    awaits.due, Nat.add_sub_cancel, joined, Nat.add_eq_right]
  split
  next last => rw [last, Nat.pow_zero, Nat.div_one]
  next => rfl

theorem piecesFrom_continuation (awaits : pending.Awaits code later) (rest : List UInt8) :
    piecesFrom (some pending) (continuation code (later + 1) ++ rest) =
      some (Char.ofNat code) :: piecesFrom none rest := by
  induction later generalizing pending with
  | zero =>
    simp only [continuation, List.cons_append, piecesFrom, Option.elim_some,
      next_of_awaits awaits, if_true, List.nil_append]
  | succ later ih =>
    have onward : Pending.Awaits ⟨code / 64 ^ (later + 1), later + 1, 0x80, 0xbf⟩ code later := by
      have six := Nat.mod_lt (code / 64 ^ later) (by decide : 64 > 0)
      exact ⟨rfl, rfl, Nat.le_add_left _ _, by show _ ≤ 0xbf; omega⟩
    rw [continuation, List.cons_append, piecesFrom, Option.elim_some, next_of_awaits awaits,
      if_neg (Nat.succ_ne_zero later)]
    exact ih onward

end Continuation

/-- Whether a byte starts a code point with `later` bytes behind the next one. -/
def Starts (byte : UInt8) (code later : Nat) : Prop :=
  ∃ pending, first byte = ([], some pending) ∧ pending.Awaits code later

theorem starts_two {code : Nat} (least : 0x80 ≤ code) (most : code ≤ 0x7ff) :
    Starts (UInt8.ofNat (code / 64 % 32 + 0xc0)) code 0 := by
  have byte : (UInt8.ofNat (code / 64 % 32 + 0xc0)).toNat = code / 64 + 0xc0 := by
    rw [UInt8.toNat_ofNat']
    omega
  simp only [Starts, first, byte]
  rw [if_neg (by omega), if_neg (by omega), if_pos (by omega)]
  exact ⟨_, rfl, by simp, rfl, by simp, by simp; omega⟩

theorem starts_three {code : Nat} (least : 0x800 ≤ code) (most : code ≤ 0xffff)
    (valid : code.isValidChar) : Starts (UInt8.ofNat (code / 4096 % 16 + 0xe0)) code 1 := by
  have byte : (UInt8.ofNat (code / 4096 % 16 + 0xe0)).toNat = code / 4096 + 0xe0 := by
    rw [UInt8.toNat_ofNat']
    omega
  simp only [Starts, first, byte]
  rw [if_neg (by omega), if_neg (by omega), if_neg (by omega)]
  split
  -- The least code point of three bytes is within the bound that excludes overlong forms.
  next zero => exact ⟨_, rfl, by simp; omega, rfl, by simp; omega, by simp; omega⟩
  next =>
    split
    -- Here a code point that is no surrogate comes before all of them.
    next thirteen => exact ⟨_, rfl, by simp; omega, rfl, by simp, by simp; omega⟩
    next =>
      rw [if_pos (by omega)]
      exact ⟨_, rfl, by simp, rfl, by simp, by simp; omega⟩

theorem starts_four {code : Nat} (least : 0x10000 ≤ code) (valid : code.isValidChar) :
    Starts (UInt8.ofNat (code / 262144 % 8 + 0xf0)) code 2 := by
  have most : code < 0x110000 := by omega
  have byte : (UInt8.ofNat (code / 262144 % 8 + 0xf0)).toNat = code / 262144 + 0xf0 := by
    rw [UInt8.toNat_ofNat']
    omega
  simp only [Starts, first, byte]
  rw [if_neg (by omega), if_neg (by omega), if_neg (by omega), if_neg (by omega),
    if_neg (by omega), if_neg (by omega)]
  split
  next zero => exact ⟨_, rfl, by simp; omega, rfl, by simp; omega, by simp; omega⟩
  next =>
    split
    next => exact ⟨_, rfl, by simp, rfl, by simp, by simp; omega⟩
    next =>
      rw [if_pos (by omega)]
      exact ⟨_, rfl, by simp; omega, rfl, by simp, by simp; omega⟩

theorem piecesFrom_of_starts {byte : UInt8} {code later : Nat} (starts : Starts byte code later)
    (rest : List UInt8) :
    piecesFrom none (byte :: (continuation code (later + 1) ++ rest)) =
      some (Char.ofNat code) :: piecesFrom none rest := by
  obtain ⟨pending, started, awaits⟩ := starts
  rw [piecesFrom, Option.elim_none, started]
  exact piecesFrom_continuation awaits rest

/-- A character is read back from its bytes, whatever follows them. -/
theorem piecesFrom_encodeChar (c : Char) (rest : List UInt8) :
    piecesFrom none (String.utf8EncodeChar c ++ rest) = some c :: piecesFrom none rest := by
  obtain ⟨code, coded⟩ : ∃ code, c.val.toNat = code := ⟨_, rfl⟩
  have valid : code.isValidChar := coded ▸ c.valid
  have back : Char.ofNat code = c := coded ▸ Char.ofNat_toNat c
  simp only [String.utf8EncodeChar, coded]
  split
  next ascii =>
    have byte : (UInt8.ofNat code).toNat = code := by
      rw [UInt8.toNat_ofNat']
      omega
    have plain : first (UInt8.ofNat code) = ([some c], none) := by
      simp only [first, byte, back]
      rw [if_pos (by omega)]
    rw [List.singleton_append, piecesFrom, Option.elim_none, plain]
    rfl
  next =>
    split
    next two =>
      simpa [continuation, back] using piecesFrom_of_starts (starts_two (by omega) two) rest
    next =>
      split
      next three =>
        have starts := starts_three (by omega) three valid
        simpa [continuation, back] using piecesFrom_of_starts starts rest
      next =>
        simpa [continuation, back] using piecesFrom_of_starts (starts_four (by omega) valid) rest

theorem pieces_encode (text : String) : pieces (encode text) = text.toList.map some := by
  rw [encode_eq_flatMap, pieces]
  induction text.toList with
  | nil => rfl
  | cons c rest ih => rw [List.flatMap_cons, piecesFrom_encodeChar, ih, List.map_cons]

/-- A text is read back from its bytes. -/
theorem decodeLossy_encode (text : String) : decodeLossy (encode text) = text := by
  have kept : ((fun piece : Option Char => piece.getD '\ufffd') ∘ some) = id := rfl
  rw [decodeLossy, pieces_encode, List.map_map, kept, List.map_id, String.ofList_toList]

/-- The first byte of a character is its code point below 0x80, and is no such byte for all
others. -/
theorem exists_firstByte (c : Char) : ∃ byte rest, String.utf8EncodeChar c = byte :: rest ∧
    if c.toNat < 0x80 then byte.toNat = c.toNat else 0x80 ≤ byte.toNat := by
  obtain ⟨code, coded⟩ : ∃ code, c.toNat = code := ⟨_, rfl⟩
  have value : c.val.toNat = code := coded
  simp only [String.utf8EncodeChar, value, coded]
  by_cases ascii : code ≤ 0x7f
  · refine ⟨_, _, if_pos ascii, ?_⟩
    rw [if_pos (by omega), UInt8.toNat_ofNat']
    omega
  have wide : ¬ code < 0x80 := by omega
  simp only [if_neg ascii, if_neg wide]
  -- Whatever bits of the code point it has, the first of several bytes has its highest bit.
  split
  next => exact ⟨_, _, rfl, by rw [UInt8.toNat_ofNat']; omega⟩
  next => split <;> exact ⟨_, _, rfl, by rw [UInt8.toNat_ofNat']; omega⟩

theorem head?_encode_eq_some_iff {text : String} {c : Char} (ascii : c.toNat < 0x80) :
    (encode text).head? = some c.toUInt8 ↔ text.toList.head? = some c := by
  have own : c.toUInt8.toNat = c.toNat := Nat.mod_eq_of_lt (by omega : c.toNat < 256)
  rw [encode_eq_flatMap]
  cases text.toList with
  | nil => simp
  | cons d rest =>
    obtain ⟨byte, later, encoded, value⟩ := exists_firstByte d
    rw [List.flatMap_cons, encoded, List.cons_append, List.head?_cons, List.head?_cons,
      Option.some.injEq, Option.some.injEq, ← UInt8.toNat_inj, own, ← Char.toNat_inj]
    split at value
    next => rw [value]
    next => omega

end GridQuery.Text.Utf8
