/-!
# UTF-8

Bytes are read as characters one after another (`decodeBytes`). Where they start with no character,
the longest part that could have become one, or else a single byte, is passed over as one unit
without a character. `readUtf8?` asks for characters throughout; `lossyText` puts U+FFFD for each
unit that is none.
-/

namespace FleetScaling.Text

/-- How a character of several bytes starts. -/
structure Lead where
  /-- The bits that the first byte holds. -/
  bits : Nat
  /-- The bounds of the second byte. -/
  low : UInt8
  high : UInt8
  /-- How many bytes follow the first. -/
  following : Nat
  deriving DecidableEq

/-- What a byte starts, if it starts a character of several bytes. The bounds of the second byte
leave out overlong forms, surrogates and what lies beyond the last code point. -/
def lead? (b : UInt8) : Option Lead :=
  let n := b.toNat
  if n < 0xC2 then none
  else if n ≤ 0xDF then some ⟨n - 0xC0, 0x80, 0xBF, 1⟩
  else if n ≤ 0xEF then
    some ⟨n - 0xE0, if n = 0xE0 then 0xA0 else 0x80, if n = 0xED then 0x9F else 0xBF, 2⟩
  else if n ≤ 0xF4 then
    some ⟨n - 0xF0, if n = 0xF0 then 0x90 else 0x80, if n = 0xF4 then 0x8F else 0xBF, 3⟩
  else none

/-- The code point that `count` more bytes complete, and the bytes after what was read. -/
def readFollowing : (count : Nat) → (low high : UInt8) → (bits : Nat) → List UInt8 →
    Option Nat × List UInt8
  | 0, _, _, bits, bytes => (some bits, bytes)
  | _ + 1, _, _, _, [] => (none, [])
  | count + 1, low, high, bits, b :: bytes =>
    if low ≤ b ∧ b ≤ high then
      readFollowing count 0x80 0xBF (64 * bits + (b.toNat - 0x80)) bytes
    else (none, b :: bytes)

theorem length_readFollowing (count : Nat) (low high : UInt8) (bits : Nat) (bytes : List UInt8) :
    (readFollowing count low high bits bytes).2.length ≤ bytes.length := by
  induction count generalizing low high bits bytes with
  | zero => simp [readFollowing]
  | succ count ih =>
    cases bytes with
    | nil => simp [readFollowing]
    | cons b bytes =>
      unfold readFollowing
      split
      · exact Nat.le_succ_of_le (ih ..)
      · simp

/-- The units of some bytes: characters, and nothing where there is none. -/
def decodeBytes : List UInt8 → List (Option Char)
  | [] => []
  | b :: bytes =>
    if b < 0x80 then some (Char.ofNat b.toNat) :: decodeBytes bytes
    else match lead? b with
      | none => none :: decodeBytes bytes
      | some lead =>
        let read := readFollowing lead.following lead.low lead.high lead.bits bytes
        have := length_readFollowing lead.following lead.low lead.high lead.bits bytes
        read.1.map Char.ofNat :: decodeBytes read.2
  termination_by bytes => bytes.length
  decreasing_by
    · exact Nat.lt_succ_self _
    · exact Nat.lt_succ_self _
    · exact Nat.lt_succ_of_le this

/-- The text of some bytes, if they are UTF-8. -/
def readUtf8? (bytes : List UInt8) : Option String :=
  ((decodeBytes bytes).mapM fun unit => unit).map String.ofList

/-- The text of some bytes, with U+FFFD for every unit that is no character. -/
def lossyText (bytes : List UInt8) : String :=
  String.ofList ((decodeBytes bytes).map fun unit => unit.getD '\uFFFD')

end FleetScaling.Text
