/-!
# Prefixes, suffixes and parts

Small tests and cuts on character lists.
-/

namespace EntityModel.Text

def endsIn (cs : List Char) (suffix : String) : Bool := suffix.toList.isSuffixOf cs

/-- Whether the characters end in one of several suffixes. -/
def endsInAny (cs : List Char) (suffixes : List String) : Bool := suffixes.any (endsIn cs)

/-- The characters without the last `n`. -/
def dropEnd (n : Nat) (cs : List Char) : List Char := cs.take (cs.length - n)

/-- Whether a text stands somewhere among the characters. -/
def hasPart (part : String) : List Char → Bool
  | [] => part.isEmpty
  | c :: cs => part.toList.isPrefixOf (c :: cs) || hasPart part cs

/-- The character `n` places before the end. -/
def fromEnd? (n : Nat) (cs : List Char) : Option Char := cs.reverse[n]?

end EntityModel.Text
