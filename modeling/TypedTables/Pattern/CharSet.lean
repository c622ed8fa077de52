import TypedTables.Pattern.Property
import TypedTables.Text.AsciiCase

/-!
# Sets of characters in patterns

A set is built from single ranges and named classes by union, intersection, difference and
complement.  A leaf that ignores case holds a character when it holds one of its case variants.
-/

namespace TypedTables.Pattern

open TypedTables.Text

/-- A class of characters with a name of its own. -/
inductive NamedClass
  | digit
  | space
  | word
  | ascii (name : String)
  | property (wanted : Property)
  deriving Repr, DecidableEq

def asciiClasses : List (String × List (Nat × Nat)) := [
  ("alnum", [(0x30, 0x39), (0x41, 0x5A), (0x61, 0x7A)]), ("alpha", [(0x41, 0x5A), (0x61, 0x7A)]),
  ("ascii", [(0, 0x7F)]), ("blank", [(0x9, 0x9), (0x20, 0x20)]),
  ("cntrl", [(0, 0x1F), (0x7F, 0x7F)]), ("digit", [(0x30, 0x39)]), ("graph", [(0x21, 0x7E)]),
  ("lower", [(0x61, 0x7A)]), ("print", [(0x20, 0x7E)]),
  ("punct", [(0x21, 0x2F), (0x3A, 0x40), (0x5B, 0x60), (0x7B, 0x7E)]),
  ("space", [(0x9, 0xD), (0x20, 0x20)]), ("upper", [(0x41, 0x5A)]),
  ("word", [(0x30, 0x39), (0x41, 0x5A), (0x5F, 0x5F), (0x61, 0x7A)]),
  ("xdigit", [(0x30, 0x39), (0x41, 0x46), (0x61, 0x66)])]

namespace NamedClass

def holds (c : Char) : NamedClass → Bool
  | digit => isDecimalDigit c
  | space => isBlank c
  | word => isWordChar c
  | ascii name => inRanges ((asciiClasses.lookup name).getD []) c.toNat
  | .property wanted => wanted.holds c

end NamedClass

/-- A set of characters. -/
inductive CharSet
  | range (low high : Char)
  | named (content : NamedClass)
  | ignoreCase (set : CharSet)
  | complement (set : CharSet)
  | empty
  | union (left right : CharSet)
  | intersection (left right : CharSet)
  | difference (left right : CharSet)
  | symmetricDifference (left right : CharSet)
  deriving Repr, DecidableEq

namespace CharSet

def holds : CharSet → Char → Bool
  | range low high, c => low ≤ c && c ≤ high
  | named content, c => content.holds c
  | ignoreCase set, c => (caseVariants c).any set.holds
  | complement set, c => !set.holds c
  | empty, _ => false
  | union left right, c => left.holds c || right.holds c
  | intersection left right, c => left.holds c && right.holds c
  | difference left right, c => left.holds c && !right.holds c
  | symmetricDifference left right, c => left.holds c != right.holds c

def single (c : Char) : CharSet := range c c

/-- The set with the case of its characters ignored, if wanted. -/
def folded (ignore : Bool) (set : CharSet) : CharSet :=
  if ignore then ignoreCase set else set

def negated (negate : Bool) (set : CharSet) : CharSet :=
  if negate then complement set else set

def notLineFeed : CharSet := complement (single '\n')

def all : CharSet := complement empty

end CharSet

end TypedTables.Pattern
