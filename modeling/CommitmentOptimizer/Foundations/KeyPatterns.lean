import Mathlib.Data.List.Infix

/-!
# Patterns of names

Regular expressions that search a name for one of several words, of which some may have one
character in their middle.
-/

namespace CommitmentOptimizer.Foundations.KeyPatterns

set_option autoImplicit false

/-- The characters that `.` does not match. -/
def isLineEnd (character : Char) : Bool :=
  ['\n', '\r', Char.ofNat 0x2028, Char.ofNat 0x2029].contains character

/-- `first.?second` matches at the start of the text. -/
def startsWith (first second text : List Char) : Bool :=
  first.isPrefixOf text &&
    match text.drop first.length with
    | [] => second.isEmpty
    | character :: rest =>
        second.isPrefixOf (character :: rest) ||
          (!isLineEnd character && second.isPrefixOf rest)

/-- `/word|first.?second|…/iu.test(name)`; `fold` is the case folding, and a plain word has no
second part. -/
def matchesAny (fold : Char → Char) (words : List (String × String)) (name : String) : Bool :=
  words.any fun word =>
    (name.toList.map fold).tails.any (startsWith word.1.toList word.2.toList)

end CommitmentOptimizer.Foundations.KeyPatterns
