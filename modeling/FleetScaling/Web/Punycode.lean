/-!
# Punycode

A label of a domain is written in ASCII as RFC 3492 says: first its ASCII characters, then the
others in ascending order, each as the number of steps since the one before. A step is taken for
every place at which a character could be put in; the steps are written in base 36 with digits
whose thresholds adapt to their usual size.
-/

namespace FleetScaling.Web.Punycode

/-- The digits: the letters and then the decimal digits. -/
def digit (n : Nat) : Char :=
  if n < 26 then Char.ofNat ('a'.toNat + n) else Char.ofNat ('0'.toNat + (n - 26))

/-- The threshold of the digit at a position, where positions go up by 36. -/
def threshold (bias position : Nat) : Nat := max 1 (min 26 (position - bias))

theorem threshold_pos (bias position : Nat) : 1 ≤ threshold bias position := Nat.le_max_left ..

/-- A number of steps as digits. -/
def digits (bias position steps : Nat) : List Char :=
  let t := threshold bias position
  if steps < t then [digit steps]
  else digit (t + (steps - t) % (36 - t)) :: digits bias (position + 36) ((steps - t) / (36 - t))
  termination_by steps
  decreasing_by
    have := threshold_pos bias position
    exact Nat.lt_of_le_of_lt (Nat.div_le_self ..) (by omega)

/-- Divides a number by 35 until it is small, and counts 36 for each time. -/
def settle (count steps : Nat) : Nat × Nat :=
  if 455 < steps then settle (count + 36) (steps / 35) else (count, steps)
  termination_by steps
  decreasing_by exact Nat.div_lt_self (by omega) (by decide)

/-- The bias after a number of steps, when so many characters are written. -/
def adapt (first : Bool) (steps written : Nat) : Nat :=
  let steps := if first then steps / 700 else steps / 2
  let (count, steps) := settle 0 (steps + steps / written)
  count + 36 * steps / (steps + 38)

/-- What is known while characters are written. -/
structure State where
  output : List Char
  /-- The steps since the last character was written. -/
  steps : Nat
  bias : Nat
  /-- How many characters are written. -/
  written : Nat

/-- Passes one place of the label while the code point `n` is looked for. -/
def pass (basic n : Nat) (s : State) (c : Char) : State :=
  if c.toNat < n then { s with steps := s.steps + 1 }
  else if c.toNat = n then
    { output := s.output ++ digits s.bias 36 s.steps, steps := 0,
      bias := adapt (s.written = basic) s.steps (s.written + 1), written := s.written + 1 }
  else s

/-- Writes all places of each code point, in ascending order; `next` is the least one left. -/
def writePoints (label : List Char) (basic : Nat) : (next : Nat) → List Nat → State → State
  | _, [], s => s
  | next, n :: points, s =>
    let s := { s with steps := s.steps + (n - next) * (s.written + 1) }
    let s := label.foldl (pass basic n) s
    writePoints label basic (n + 1) points { s with steps := s.steps + 1 }

/-- The code points of a label that are no ASCII, ascending. -/
def points (label : List Char) : List Nat :=
  (((label.map Char.toNat).filter (0x80 ≤ ·)).eraseDups).mergeSort (· ≤ ·)

/-- The label in ASCII, without a mark that it is encoded. -/
def encode (label : List Char) : List Char :=
  let basic := label.filter fun c => c.toNat < 0x80
  let start := if basic.isEmpty then [] else basic ++ ['-']
  (writePoints label basic.length 128 (points label) ⟨start, 0, 72, basic.length⟩).output

end FleetScaling.Web.Punycode
