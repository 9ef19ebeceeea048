/-!
Sets of characters. White space are the characters of the property White_Space; texts are trimmed of
it. Other sets, and case maps, are given by runs of code points in ascending order.
-/

set_option autoImplicit false

namespace CitedChat.Text

/-! ### White space -/

def isBlank (c : Char) : Bool :=
  let n := c.toNat
  (0x9 ≤ n && n ≤ 0xd) || n == 0x20 || n == 0x85 || n == 0xa0 || n == 0x1680 ||
    (0x2000 ≤ n && n ≤ 0x200a) || n == 0x2028 || n == 0x2029 || n == 0x202f || n == 0x205f ||
    n == 0x3000

def trimStartList (cs : List Char) : List Char :=
  cs.dropWhile isBlank

def trimEndList (cs : List Char) : List Char :=
  (cs.reverse.dropWhile isBlank).reverse

def trimList (cs : List Char) : List Char :=
  trimEndList (trimStartList cs)

def trim (text : String) : String :=
  String.ofList (trimList text.toList)

/-- Nothing but white space. -/
def isBlankText (text : String) : Bool :=
  text.toList.all isBlank

/-! ### Runs of code points -/

/-- Inclusive ranges of code points, ascending and apart from one another. -/
abbrev Ranges := List (Nat × Nat)

/-- Membership; the search ends at the first range that lies above the point. -/
def Ranges.has : Ranges → Nat → Bool
  | [], _ => false
  | (low, high) :: rest, point => low ≤ point && (point ≤ high || Ranges.has rest point)

/-- The points `first`, `first + stride`, … up to `last`, each of which moves by `shift`. -/
structure CaseRun where
  first : Nat
  last : Nat
  stride : Nat
  shift : Int

/-- The image of a point under runs in ascending order; a point outside them stays. -/
def CaseRun.image : List CaseRun → Nat → Nat
  | [], point => point
  | run :: rest, point =>
    if point < run.first then point
    else if point ≤ run.last && (point - run.first) % run.stride == 0 then
      (point + run.shift).toNat
    else CaseRun.image rest point

end CitedChat.Text
