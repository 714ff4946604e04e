import Assay.Pattern.ByteRange
import Assay.Pattern.Tree

/-!
# The memory of patterns

A pattern is usable if the machines over bytes that find its pieces fit in memory. One machine
reads from the start of a piece to its end, another one from its end to its start. The memory of
each is counted here without building it: states are of one size, and those with several ways to
go on take more for each. Copies of a repeated part are counted as often as they are made.
-/

namespace Assay

/-- The memory of a state. -/
def stateSize : Nat := 32

/-- The further memory of a state for each range of bytes that it tells apart. -/
def rangeSize : Nat := 8

/-- The further memory of a state for each way to go on without a byte. -/
def waySize : Nat := 4

namespace CharSet

/-- A state in front of the bytes of a character: the ranges of the next byte, each with the number
of the state after it. The end has the number zero. -/
abbrev ByteState := List (ByteRange × Nat)

/-- Sequences with the same first range taken together. -/
def byFirstRange (sequences : List (List ByteRange)) : List (List (List ByteRange)) :=
  sequences.splitBy fun left right => left.head? == right.head?

/-- Numbers the state in front of some sequences, up to a depth, and those after it. States that
are alike have one number. -/
def numberStates : Nat → List (List ByteRange) → StateM (List (ByteState × Nat)) Nat
  | 0, _ => return 0
  | depth + 1, sequences => do
    let state ← (byFirstRange sequences).mapM fun group => do
      let rests := (group.map List.tail).filter (!·.isEmpty)
      let next ← if rests.isEmpty then pure 0 else numberStates depth rests
      return ((group.head?.bind List.head?).getD (0, 0), next)
    let known ← get
    match known.lookup state with
    | some number => return number
    | none =>
      set ((state, known.length + 1) :: known)
      return known.length + 1

/-- The number of different starts of some sequences, up to a depth. -/
def countStarts : Nat → List (List ByteRange) → Nat
  | 0, _ => 0
  | depth + 1, sequences =>
    (byFirstRange (sequences.filter (!·.isEmpty))).foldl
      (fun count group => count + 1 + countStarts depth (group.map List.tail)) 0

/-- The memory of the states for one character of a set. Forwards, states that are alike are
shared; backwards, states that lead to the same start of a character are. -/
def footprint (backward : Bool) (chars : CharSet) : Nat :=
  match chars.single? with
  | some code => stateSize * (Char.ofNat code).utf8Size
  | none =>
    if chars.isAscii then 2 * stateSize + rangeSize * chars.ranges.length
    else
      let sequences := chars.byteSequences
      if backward then
        2 * stateSize + waySize * sequences.length + stateSize * countStarts 4 sequences
      else
        let states := ((numberStates 4 sequences).run []).2
        states.foldl (fun size state => size + stateSize + rangeSize * state.1.length) stateSize

end CharSet

/-- Words split where one of them is empty. Empty words at the start count as one. -/
def splitAtEmpty (words : List (List Nat)) : List (List (List Nat)) :=
  let rec split : List (List Nat) → List (List (List Nat))
    | [] => [[]]
    | [] :: rest => [] :: split rest
    | word :: rest =>
      match split rest with
      | [] => [[word]]
      | words :: others => (word :: words) :: others
  match words with
  | [] :: rest => [] :: split (rest.dropWhile List.isEmpty)
  | words => split words

/-- The memory of the states in front of some words of bytes, up to a depth. Words that start with
the same byte share a state unless one ends between them. -/
def wordsFootprint : Nat → List (List Nat) → Nat
  | 0, _ => 0
  | depth + 1, words =>
    if words.all List.isEmpty then 0
    else
      let parts := splitAtEmpty words
      let filled := parts.filter (!·.isEmpty)
      let ways := waySize * (filled.length + parts.length - 1)
      filled.foldl (fun size part =>
        let bytes := (part.filterMap List.head?).eraseDups
        let ranges := if bytes.length = 1 then 0 else rangeSize * bytes.length
        bytes.foldl (fun size byte =>
          let rests := (part.filter fun word => word.head? == some byte).map List.tail
          size + wordsFootprint depth rests) (size + stateSize + ranges)) (stateSize + ways)

namespace Pattern

/-- The bytes of a pattern that fits one word only. -/
def word? (pattern : Pattern) : Option (List Nat) :=
  match pattern.pieces with
  | [] => none
  | pieces =>
    (pieces.mapM code?).map fun codes =>
      codes.flatMap fun code => ((ByteRange.ofRange code code).headD []).map Prod.fst

/-- The memory of the states of a pattern with the ways that lead on from it. The rest of a choice
shares the states around its branches with the branches before it. -/
def footprint (backward : Bool) (rest : Bool) : Pattern → Nat
  | .empty | .anchor _ => stateSize
  | .set chars => chars.footprint backward
  | .sequence first second => first.footprint backward false + second.footprint backward false
  | .choice first second =>
    match if rest then none else (Pattern.choice first second).branches.mapM word? with
    | some words =>
      let words := if backward then words.map List.reverse else words
      stateSize + wordsFootprint (words.foldl (fun most word => max most word.length) 0 + 1) words
    | none =>
      let inner :=
        match second with
        | .choice _ _ => second.footprint backward true
        | _ => 2 * stateSize + waySize + second.footprint backward false
      first.footprint backward false + waySize + inner
  | .repetition body least greatest _ =>
    let once := body.footprint backward false
    let again := stateSize + 2 * waySize
    match least, greatest with
    | 0, some 1 => once + again + stateSize
    | 0, none => if body.mayBeEmpty then once + 2 * again + stateSize else once + again
    | least, none => least * once + again
    | least, some greatest =>
      if least = greatest then least * once
      else
        (if least = 0 then stateSize else least * once) + stateSize +
          (greatest - least) * (once + again)
  | .group _ body =>
    (if backward then 0 else 2 * stateSize) + body.footprint backward false

/-- Whether every piece stands at an end of the text. -/
def isAnchored (backward : Bool) : Pattern → Bool
  | .empty | .set _ => false
  | .anchor condition => condition = if backward then .textEnd else .textStart
  | .sequence first second =>
    if backward then
      second.isAnchored true || (second.onlyEmpty && first.isAnchored true)
    else first.isAnchored false || (first.onlyEmpty && second.isAnchored false)
  | .choice first second => first.isAnchored backward && second.isAnchored backward
  | .repetition body least _ _ => 0 < least && body.isAnchored backward
  | .group _ body => body.isAnchored backward

/-- The memory of the machine for a pattern. Unless every piece stands at an end of the text, the
machine first passes over any bytes. -/
def machineSize (backward : Bool) (pattern : Pattern) : Nat :=
  let before := if pattern.isAnchored backward then stateSize
    else 3 * stateSize + rangeSize + 2 * waySize
  let around := if backward then stateSize else 3 * stateSize
  before + around + pattern.footprint backward false

/-- The greatest memory of a machine. -/
def maxMachineSize : Nat := 10 * 1024 * 1024

/-- Whether the machines for a pattern fit in memory. -/
def isSmall (pattern : Pattern) : Bool :=
  pattern.machineSize false ≤ maxMachineSize && pattern.machineSize true ≤ maxMachineSize

end Pattern

end Assay
