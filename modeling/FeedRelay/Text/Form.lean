import FeedRelay.Text.Percent
import FeedRelay.Text.Split

/-!
# Form pairs

The form in which names and values travel in the query of a web address: a space becomes a
plus sign, letters, digits and `*-._` stay, and every other byte is percent-encoded, so
that `&` and `=` separate pairs and nothing else.
-/

namespace FeedRelay.Text.Form

/-- The characters that stay as they are. -/
def keep (c : Char) : Bool :=
  c.isAlphanum || c = '*' || c = '-' || c = '.' || c = '_'

/-- A name or a value in form encoding. -/
def encode (cs : List Char) : List Char :=
  cs.flatMap fun c => if c = ' ' then ['+'] else Percent.encodeChar keep c

/-- A pair in form encoding. -/
def encodePair (pair : String × String) : List Char :=
  encode pair.1.toList ++ '=' :: encode pair.2.toList

/-- Pairs in form encoding, separated by `&`. -/
def encodePairs (pairs : List (String × String)) : String :=
  String.ofList (List.intercalate ['&'] (pairs.map encodePair))

/-- The text that a form-encoded name or value stands for. -/
def decode (cs : List Char) : List Char :=
  Utf8.decodeLossy (Percent.decode (cs.map fun c => if c = '+' then ' ' else c))

/-- The name and the value around the first `=`; a pair without one has an empty value. -/
def decodePair (cs : List Char) : String × String :=
  let (name, value) := (cs.takeWhile (· ≠ '='), cs.dropWhile (· ≠ '='))
  (String.ofList (decode name), String.ofList (decode (value.drop 1)))

/-- The pairs of a query; empty parts between separators are no pairs. -/
def decodePairs (query : String) : List (String × String) :=
  ((split '&' query.toList).filter (!·.isEmpty)).map decodePair

end FeedRelay.Text.Form
