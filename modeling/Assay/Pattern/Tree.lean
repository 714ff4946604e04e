import Assay.Text.CharSet

/-!
# Patterns

A pattern describes pieces of a line. Where several pieces fit, the choices of a pattern are
ordered: an earlier branch comes before a later one, and a repetition tries to go on before it
tries to stop, or the other way round. Sequences and choices are put together so that no sequence
stands directly in a sequence, and no choice in a choice.
-/

namespace Assay

/-- A condition on a place between two characters. -/
inductive Anchor where
  /-- Nothing stands before. -/
  | textStart
  /-- Nothing stands after. -/
  | textEnd
  /-- Nothing or a newline stands before. -/
  | lineStart
  /-- Nothing or a newline stands after. -/
  | lineEnd
  /-- A line starts here, where lines may also end in a carriage return, with or without a
  newline. -/
  | returnLineStart
  /-- Such a line ends here. -/
  | returnLineEnd
  /-- A word starts or ends here. -/
  | wordBoundary (ascii : Bool)
  /-- No word starts or ends here. -/
  | noWordBoundary (ascii : Bool)
  /-- A word starts here. -/
  | wordStart (ascii : Bool)
  /-- A word ends here. -/
  | wordEnd (ascii : Bool)
  /-- No word character stands before. -/
  | noWordBefore (ascii : Bool)
  /-- No word character stands after. -/
  | noWordAfter (ascii : Bool)
  deriving DecidableEq, Repr

/-- A description of pieces of a line. -/
inductive Pattern where
  /-- The empty piece. -/
  | empty
  /-- One character of a set. -/
  | set (chars : CharSet)
  /-- The empty piece at a place that satisfies a condition. -/
  | anchor (condition : Anchor)
  /-- One piece after another. -/
  | sequence (first second : Pattern)
  /-- Either of two pieces, the first one rather. -/
  | choice (first second : Pattern)
  /-- Pieces one after another, in a number from the least up to the greatest, if there is one.
  A greedy repetition goes on rather than stop. -/
  | repetition (body : Pattern) (least : Nat) (greatest : Option Nat) (greedy : Bool)
  /-- A piece whose place is told apart from others by a number. -/
  | group (number : Nat) (body : Pattern)
  deriving DecidableEq, Repr

namespace Pattern

instance : Inhabited Pattern := ⟨.empty⟩

/-- The patterns that a pattern is a sequence of. -/
def pieces : Pattern → List Pattern
  | .empty => []
  | .sequence first second => first.pieces ++ second.pieces
  | pattern => [pattern]

/-- The patterns that a pattern is a choice of. -/
def branches : Pattern → List Pattern
  | .choice first second => first.branches ++ second.branches
  | pattern => [pattern]

/-- One pattern after another, where none is itself a sequence. -/
def inSequence : List Pattern → Pattern
  | [] => .empty
  | [piece] => piece
  | piece :: pieces => .sequence piece (inSequence pieces)

/-- Any of some patterns, an earlier one rather, where none is itself a choice. -/
def inChoice : List Pattern → Pattern
  | [] => .set .empty
  | [branch] => branch
  | branch :: branches => .choice branch (inChoice branches)

/-- The pattern of several parts one after another. -/
def ofSequence (parts : List Pattern) : Pattern := inSequence (parts.flatMap pieces)

/-- The code point of a pattern that fits one character only. -/
def code? : Pattern → Option Nat
  | .set chars => chars.single?
  | _ => none

/-- The characters of a pattern that fits any one of several. -/
def several? : Pattern → Option CharSet
  | .set chars => if chars.single?.isSome then none else some chars
  | _ => none

/-- The characters that some patterns fit if each fits one character only, or else if each fits any
one of several. -/
def oneOf? (patterns : List Pattern) : Option CharSet :=
  match patterns.mapM code? with
  | some codes => some (.ofCodes codes)
  | none => (patterns.mapM several?).map .unionAll

/-- Pieces with those that fit one character only taken together where they follow one another. -/
def runs : List Pattern → List (List Pattern)
  | [] => []
  | piece :: pieces =>
    match runs pieces with
    | (next :: more) :: others =>
      if piece.code?.isSome && next.code?.isSome then (piece :: next :: more) :: others
      else [piece] :: (next :: more) :: others
    | others => [piece] :: others

/-- What two lists have in common at their start. -/
def commonStart : List (List Pattern) → List (List Pattern) → List (List Pattern)
  | left :: lefts, right :: rights => if left = right then left :: commonStart lefts rights else []
  | _, _ => []

/-- The pattern of several branches any of which may stand, an earlier one rather. Branches of one
character are one set, and what sequences have in common at their start comes before the choice. -/
def ofChoice (parts : List Pattern) : Pattern :=
  let choose (branches : List Pattern) : Pattern :=
    match branches, oneOf? branches with
    | [branch], _ => branch
    | _, some chars => .set chars
    | _, none => inChoice branches
  let branches := parts.flatMap branches
  match parts, branches.map fun branch => runs branch.pieces with
  | [part], _ => part
  | _, first :: others =>
    let start := others.foldl commonStart first
    if start.isEmpty || (first :: others).any (·.length < 2) then choose branches
    else
      let rests := (first :: others).map fun runs => inSequence (runs.drop start.length).flatten
      ofSequence (start.flatten ++ [choose (rests.flatMap Pattern.branches)])
  | _, [] => choose branches

/-- Whether only the empty piece fits. -/
def onlyEmpty : Pattern → Bool
  | .empty | .anchor _ => true
  | .set _ => false
  | .sequence first second => first.onlyEmpty && second.onlyEmpty
  | .choice first second => first.onlyEmpty && second.onlyEmpty
  | .repetition body _ greatest _ => body.onlyEmpty || greatest == some 0
  | .group _ body => body.onlyEmpty

/-- The least number of characters of a piece, unless a part fits nothing. -/
def leastLength? : Pattern → Option Nat
  | .empty | .anchor _ => some 0
  | .set chars => if chars.ranges.isEmpty then none else some 1
  | .sequence first second => do return (← first.leastLength?) + (← second.leastLength?)
  | .choice first second => do return min (← first.leastLength?) (← second.leastLength?)
  | .repetition body least _ _ => body.leastLength?.map (least * ·)
  | .group _ body => body.leastLength?

/-- Whether the empty piece may fit. -/
def mayBeEmpty (pattern : Pattern) : Bool := !pattern.leastLength?.any (0 < ·)

/-- A repetition, of pieces that can only be empty at most once. -/
def repeated (body : Pattern) (least : Nat) (greatest : Option Nat) (greedy : Bool) : Pattern :=
  let (least, greatest) :=
    if body.onlyEmpty then (min least 1, some (min (greatest.getD 1) 1)) else (least, greatest)
  if greatest = some 0 then .empty
  else if least = 1 ∧ greatest = some 1 then body
  else .repetition body least greatest greedy

end Pattern

end Assay
