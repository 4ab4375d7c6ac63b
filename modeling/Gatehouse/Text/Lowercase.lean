import Gatehouse.Text.CaseTable

/-!
# Full lower-casing of a text

Every character is replaced by its lower case. A capital sigma becomes the
final form `ς` where a word ends in it, and a capital `İ` becomes two
characters; every other lower case is one character long.
-/

namespace Gatehouse

/-- Whether a run of the case table holds a code point. -/
def CaseRun.holds (run : CaseRun) (code : Nat) : Bool :=
  run.first ≤ code && code ≤ run.last && (code - run.first) % run.step == 0

/-- The lower case of a character that has one of a single character, or the
character itself. -/
def lowerChar (c : Char) : Char :=
  match caseRuns.find? (·.holds c.toNat) with
  | some run => Char.ofNat (c.toNat + run.offset).toNat
  | none => c

/-- Whether a character is a letter with case. -/
def isCased (c : Char) : Bool :=
  casedRanges.any fun range => range.1 ≤ c.toNat && c.toNat ≤ range.2

/-- Whether a character is passed over when case is decided by the neighbours. -/
def isCaseIgnorable (c : Char) : Bool :=
  caseIgnorableRanges.any fun range => range.1 ≤ c.toNat && c.toNat ≤ range.2

/-- Whether the first character that counts is a letter with case. -/
def startsCased (text : List Char) : Bool :=
  match text.dropWhile isCaseIgnorable with
  | c :: _ => isCased c
  | [] => false

/-- Whether a word ends between `before`, read backwards, and `after`. -/
def endsWord (before after : List Char) : Bool :=
  startsCased before && !startsCased after

/-- The lower case of one character between its neighbours. -/
def lowerBetween (before : List Char) (c : Char) (after : List Char) : List Char :=
  if c = '\u0130' then ['i', '\u0307']
  else if c = 'Σ' then [if endsWord before after then 'ς' else 'σ']
  else [lowerChar c]

/-- The lower case of a text that follows `before`, read backwards. -/
def lowerAfter (before : List Char) : List Char → List Char
  | [] => []
  | c :: rest => lowerBetween before c rest ++ lowerAfter (c :: before) rest

/-- The lower case of a text. -/
def lowercase (text : String) : String := String.ofList (lowerAfter [] text.toList)

end Gatehouse
