/-!
# Texts with escapes

Formats write a text between double quotes and give a character after a backslash a meaning of its
own. `escapedInside` reads such a text up to its closing quote; the escapes are the format's.
-/

namespace FleetScaling.Text

/-- Puts a character in front of what a reader took. -/
def consChar (c : Char) (read : Option (List Char × List Char)) : Option (List Char × List Char) :=
  read.map fun (cs, rest) => (c :: cs, rest)

/-- The inside of a text in double quotes, up to its end, and what follows. An escape is read after
its backslash; any other character must be `plain`. `fuel` bounds the length of the text. -/
def escapedInside (escape : List Char → Option (Char × List Char)) (plain : Char → Bool) :
    (fuel : Nat) → List Char → Option (List Char × List Char)
  | 0, _ => none
  | _ + 1, '"' :: rest => some ([], rest)
  | fuel + 1, '\\' :: rest => do
    let (c, rest) ← escape rest
    consChar c (escapedInside escape plain fuel rest)
  | fuel + 1, c :: rest =>
    if plain c then consChar c (escapedInside escape plain fuel rest) else none
  | _ + 1, [] => none

end FleetScaling.Text
