/-!
# Blanks and separators

An address may be surrounded by blanks.  A blank is any character with the Unicode property
`White_Space`, a fixed table of twenty-five code points, which is more than the handful that
`Char.isWhitespace` knows.  Splitting at a separator keeps empty parts: a text without a separator
is one part, and two separators in a row enclose an empty one.
-/

namespace KnxBus
namespace Blank

/-- The code points with the Unicode property `White_Space`. -/
def isBlank (c : Char) : Bool :=
  let n := c.toNat
  (0x09 ≤ n && n ≤ 0x0D) || n == 0x20 || n == 0x85 || n == 0xA0 || n == 0x1680 ||
    (0x2000 ≤ n && n ≤ 0x200A) || n == 0x2028 || n == 0x2029 || n == 0x202F || n == 0x205F ||
    n == 0x3000

/-- The characters from the first that is no blank on. -/
def trimStart (cs : List Char) : List Char := cs.dropWhile isBlank

/-- The characters up to the last that is no blank. -/
def trimEnd (cs : List Char) : List Char := (trimStart cs.reverse).reverse

/-- The characters without the blanks around them; blanks between others stay. -/
def trim (cs : List Char) : List Char := trimEnd (trimStart cs)

/-- The parts between occurrences of a separator; never empty as a list. -/
def split (sep : Char) : List Char → List (List Char)
  | [] => [[]]
  | c :: rest =>
    if c = sep then [] :: split sep rest
    else
      match split sep rest with
      | part :: parts => (c :: part) :: parts
      | [] => [[c]]

end Blank
end KnxBus
