import CoilProbe.Pattern.ByteRow
import CoilProbe.Pattern.Footprint.Words
import CoilProbe.Pattern.Matcher

/-!
# Matchers of a few words

A matcher that matches nothing but a few short words needs no automaton, so its size does not
matter: the words themselves are looked for. A matcher can be large all the same if much of it
matches nothing at all.
-/

namespace CoilProbe.Pattern

/-- The most characters of a set, and the most copies of a part, from which words are made. -/
def smallCount : Nat := 10

/-- The most bytes of a short word. -/
def shortWord : Nat := 100

/-- The most words that are kept track of. -/
def manyWords : Nat := 250

/-- Words that are few and short enough. -/
def shortWords? (words : List Word) : Option (List Word) :=
  if words.length ≤ manyWords && words.all (·.length ≤ shortWord) then some words else none

/-- The words of one list, each with every word of another behind it. -/
def wordsThen (first second : List Word) : List Word :=
  first.flatMap fun v => second.map (v ++ ·)

/-- The words made of a number of words in a row. -/
def wordsRepeated? (words : List Word) : Nat → Option (List Word)
  | 0 => some [[]]
  | n + 1 => do shortWords? (wordsThen (← wordsRepeated? words n) words)

/-- The number of characters of a set. -/
def CharSet.count (s : CharSet) : Nat := s.foldl (fun n r => n + (r.last + 1 - r.first)) 0

/-- The bytes of the characters of a set. -/
def CharSet.words (s : CharSet) : List Word :=
  s.flatMap fun r => (List.range' r.first (r.last + 1 - r.first)).map utf8Bytes

namespace Matcher

/-- The words that match, the preferred ones first, if they can be told. What stands behind a part
that matches nothing does not matter. -/
def words? : Matcher → Option (List Word)
  | .empty => some [[]]
  | .text chars => shortWords? [chars.flatMap fun c => utf8Bytes c.toNat]
  | .oneOf _ set => if set.count ≤ smallCount then some set.words else none
  | .look _ | .captured _ _ => none
  | .repeated least most lazy inner => do
    let words ← inner.words?
    if least = 0 ∧ most = some 1 then shortWords? (if lazy then [] :: words else words ++ [[]])
    else if words = [] then return if least = 0 then [[]] else []
    else if most = some least ∧ least ≤ smallCount then wordsRepeated? words least
    else none
  | .both first second => do
    let words ← first.words?
    if words = [] then return [] else shortWords? (wordsThen words (← second.words?))
  | .either first second => do shortWords? ((← first.words?) ++ (← second.words?))

/-- Whether a matcher asserts nothing and captures nothing. -/
def isPlain : Matcher → Bool
  | .empty | .text _ | .oneOf _ _ => true
  | .look _ | .captured _ _ => false
  | .repeated _ _ _ inner => inner.isPlain
  | .both first second | .either first second => first.isPlain && second.isPlain

end Matcher

/-! ## Whether words are looked for -/

/-- The words that do not begin with a word before them. -/
def withoutLonger : List Word → List Word
  | [] => []
  | word :: rest => word :: (withoutLonger rest).filter fun other => !word.isPrefixOf other

/-- How many bytes two words have in common at the beginning. -/
def sharedBytes : Word → Word → Nat
  | v :: rest, w :: more => if v = w then sharedBytes rest more + 1 else 0
  | _, _ => 0

/-- How many bytes all words have in common at the beginning. -/
def sharedByAll : List Word → Nat
  | [] => 0
  | word :: rest => rest.foldl (fun n other => min n (sharedBytes word other)) word.length

/-- Whether a byte is rare in texts. -/
def isRareByte (b : Nat) : Bool :=
  b < 0x80 && !"\n\r (),-./0129:_abcdefghilmnoprstuvxy|".toList.any (·.toNat = b)

/-- Whether words are looked for as they are. If they have much in common at the beginning, or what
they have in common begins with a rare byte, only that would be looked for, and an automaton has to
do the rest. -/
def lookedFor (words : List Word) : Bool :=
  let kept := withoutLonger words
  let shared := sharedByAll kept
  let byRareByte := 1 < words.eraseDups.length && 0 < shared && shared < 4
    && (kept.headD []).head?.any isRareByte
  words ≠ [] && words.all (· ≠ []) && kept.length ≤ smallCount
    && (kept.all (·.length ≤ 1) || !byRareByte)
    && (kept.length = 1 || shared ≤ 4)

/-- Whether a matcher needs no automaton. -/
def Matcher.isFewWords (m : Matcher) : Bool := m.isPlain && m.words?.any lookedFor

end CoilProbe.Pattern
