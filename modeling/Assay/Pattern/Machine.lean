import Assay.Pattern.Property.Derived
import Assay.Pattern.Tree

/-!
# Matching machines

A pattern is turned into numbered states. A state consumes a character, tests the place between
two characters, or goes on in two ways of which the first is preferred. A repetition whose body
may be empty is made of one body and then perhaps more, so that an empty body is tried at most
once at a place.
-/

namespace Assay

/-- A state of a matching machine. The numbers are those of the states that follow. -/
inductive MachineState where
  /-- The piece ends here. -/
  | accept
  /-- A character of the set, then on. -/
  | consume (chars : CharSet) (next : Nat)
  /-- On, if the place satisfies the condition. -/
  | test (condition : Anchor) (next : Nat)
  /-- On in either way, the first one rather. -/
  | fork (first second : Nat)

instance : Inhabited MachineState := ⟨.accept⟩

/-- A matching machine. -/
structure Machine where
  /-- The states. -/
  states : Array MachineState
  /-- The number of the state to start in. -/
  start : Nat

namespace Machine

/-- Something built while states are added. -/
abbrev Building := StateM (Array MachineState)

/-- Adds a state and gives its number. -/
def add (state : MachineState) : Building Nat := fun states => (states.size, states.push state)

/-- Replaces a state. -/
def replace (number : Nat) (state : MachineState) : Building Unit :=
  modify fun states => states.setIfInBounds number state

/-- A fork between going on and leaving. A greedy one prefers to go on. -/
def forkTo (greedy : Bool) (onward exit : Nat) : MachineState :=
  if greedy then .fork onward exit else .fork exit onward

/-- Builds something several times, each copy leading to the one built before. -/
def copies (build : Nat → Building Nat) : Nat → Nat → Building Nat
  | 0, next => return next
  | count + 1, next => do copies build count (← build next)

/-- Builds something several times, any of which may be left out together with all that follow
it. -/
def optional (build : Nat → Building Nat) (greedy : Bool) (exit : Nat) :
    Nat → Nat → Building Nat
  | 0, next => return next
  | count + 1, next => do
    let onward ← build next
    optional build greedy exit count (← add (forkTo greedy onward exit))

/-- Builds something once or more. Gives the state that starts it and the one that repeats it. -/
def oneOrMore (build : Nat → Building Nat) (greedy : Bool) (exit : Nat) :
    Building (Nat × Nat) := do
  let again ← add .accept
  let onward ← build again
  replace again (forkTo greedy onward exit)
  return (onward, again)

/-- Builds the states of a pattern in front of a state. -/
def build : Pattern → Nat → Building Nat
  | .empty, next => return next
  | .set chars, next => add (.consume chars next)
  | .anchor condition, next => add (.test condition next)
  | .sequence first second, next => do build first (← build second next)
  | .choice first second, next => do
    let left ← build first next
    let right ← build second next
    add (.fork left right)
  | .group _ body, next => build body next
  | .repetition body least (some greatest) greedy, next => do
    copies (build body) least (← optional (build body) greedy next (greatest - least) next)
  | .repetition body 0 none greedy, next => do
    let (onward, again) ← oneOrMore (build body) greedy next
    if body.mayBeEmpty then add (forkTo greedy onward next) else return again
  | .repetition body (least + 1) none greedy, next => do
    let (onward, _) ← oneOrMore (build body) greedy next
    copies (build body) least onward

/-- The machine of a pattern. -/
def ofPattern (pattern : Pattern) : Machine :=
  let (start, states) := (build pattern 0).run #[.accept]
  ⟨states, start⟩

end Machine

/-- Whether an optional character is a word character. -/
def isWordAt (ascii : Bool) (char : Option Char) : Bool :=
  char.any (CharSet.wordChars ascii).holds

/-- Whether a condition holds between two characters, where there are any. -/
def Anchor.holds (condition : Anchor) (before after : Option Char) : Bool :=
  match condition with
  | .textStart => before.isNone
  | .textEnd => after.isNone
  | .lineStart => before.isNone || before == some '\n'
  | .lineEnd => after.isNone || after == some '\n'
  | .returnLineStart =>
    before.isNone || before == some '\n' || (before == some '\r' && after != some '\n')
  | .returnLineEnd =>
    after.isNone || after == some '\r' || (after == some '\n' && before != some '\r')
  | .wordBoundary ascii => isWordAt ascii before != isWordAt ascii after
  | .noWordBoundary ascii => isWordAt ascii before == isWordAt ascii after
  | .wordStart ascii => !isWordAt ascii before && isWordAt ascii after
  | .wordEnd ascii => isWordAt ascii before && !isWordAt ascii after
  | .noWordBefore ascii => !isWordAt ascii before
  | .noWordAfter ascii => !isWordAt ascii after

end Assay
