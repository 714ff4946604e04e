import Assay.Pattern.Machine

/-!
# Searching a line

A machine runs over a line with threads in the order of preference: a thread that started earlier
comes first, and of threads that started together the one on the preferred way. A thread in a state
that an earlier thread has reached at the same place is dropped. When a thread accepts, those after
it are dropped, so that the last acceptance is the piece preferred above all others.
-/

namespace Assay.Machine

/-- A run of the machine that waits for a character. -/
structure Thread where
  /-- The characters that let it go on. -/
  chars : CharSet
  /-- The state after the character. -/
  next : Nat
  /-- The place where the piece starts. -/
  start : Nat

/-- A piece of a line. -/
structure Span where
  /-- The number of characters before it. -/
  start : Nat
  /-- The number of characters up to its end. -/
  finish : Nat

/-- What the threads at a place come to. -/
structure Frontier where
  /-- The threads that wait for a character, the preferred last. -/
  threads : List Thread
  /-- The piece accepted at the place. -/
  accepted : Option Span

/-- Follows states, given by number and start of the piece, up to those that wait for a character
or accept. Every state is entered at most once and adds at most two more, which bounds the
steps. -/
def follow (machine : Machine) (place : Nat) (before after : Option Char) :
    Nat → Array Bool → List (Nat × Nat) → List Thread → Frontier
  | 0, _, _, threads => ⟨threads, none⟩
  | _ + 1, _, [], threads => ⟨threads, none⟩
  | steps + 1, seen, (number, start) :: pending, threads =>
    if seen.getD number true then follow machine place before after steps seen pending threads
    else
      let seen := seen.setIfInBounds number true
      match machine.states.getD number .accept with
      | .accept => ⟨threads, some ⟨start, place⟩⟩
      | .consume chars next =>
        follow machine place before after steps seen pending (⟨chars, next, start⟩ :: threads)
      | .test condition next =>
        let pending :=
          if condition.holds before after then (next, start) :: pending else pending
        follow machine place before after steps seen pending threads
      | .fork first second =>
        follow machine place before after steps seen ((first, start) :: (second, start) :: pending)
          threads

/-- The threads' states after a character, the preferred first. -/
def advance (char : Char) (threads : List Thread) : List (Nat × Nat) :=
  threads.foldl (fun states thread =>
    if thread.chars.holds char then (thread.next, thread.start) :: states else states) []

/-- Runs the machine from a place of a line on. New threads start as long as nothing has been
accepted. -/
def run (machine : Machine) (place : Nat) (before : Option Char) (states : List (Nat × Nat))
    (found : Option Span) : List Char → Option Span
  | [] => (frontier machine place before none states found).accepted <|> found
  | char :: rest =>
    let reached := frontier machine place before (some char) states found
    let found := reached.accepted <|> found
    let onward := advance char reached.threads
    if onward.isEmpty && found.isSome then found
    else run machine (place + 1) (some char) onward found rest
where
  /-- What the threads in some states come to, together with one that starts at the place. -/
  frontier (machine : Machine) (place : Nat) (before after : Option Char)
      (states : List (Nat × Nat)) (found : Option Span) : Frontier :=
    let entered := if found.isNone then states ++ [(machine.start, place)] else states
    let size := machine.states.size
    follow machine place before after (entered.length + 2 * size + 1) (Array.replicate size false)
      entered []

/-- The preferred piece of a line that the machine accepts. -/
def find? (machine : Machine) (line : List Char) : Option (List Char) :=
  (run machine 0 none [] none line).map fun span =>
    (line.drop span.start).take (span.finish - span.start)

end Assay.Machine
