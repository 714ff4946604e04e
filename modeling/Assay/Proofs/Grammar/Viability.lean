import Assay.Proofs.Grammar.Lookahead
import Assay.Proofs.Grammar.Soundness

/-!
# Every start can be completed

Wherever a production fails to find what it expects of a token, the tokens before are the start of
a phrase of its kind, and the failure hinges on that token. Limits do not matter here, so this is
about the language whose functions accept any number of arguments.
-/

namespace Assay
namespace Grammar

open Assay.Parser Cursor Outcome

/-- Functions accept any number of arguments. -/
def anyCount : Builtin → Nat → Bool := fun _ _ => true

/-- Some tokens are a phrase of a kind with a tree, whatever it demands. -/
def Phrase (category : Category) (tree : Expr) (tokens : List Token) : Prop :=
  ∃ demand, Derives anyCount category tokens tree demand

theorem Phrase.of_inner {category : Category} {tree : Expr} {tokens : List Token}
    (is_phrase : Phrase category.inner tree tokens) : Phrase category tree tokens := by
  obtain ⟨demand, derives⟩ := is_phrase
  exact ⟨demand, derives.of_inner⟩

/-- Some tokens go on with a chain. -/
def Follows (link : Link) (count : Nat) (left tree : Expr) (tokens : List Token) : Prop :=
  ∃ demand, Continues anyCount link count left tokens tree demand

/-- Some tokens are expressions with commas between them and a closing token after them. -/
def Listed (close : Token) (trees : List Expr) (tokens : List Token) : Prop :=
  ∃ inner demand, tokens = inner ++ [close] ∧ Lists anyCount inner trees demand

/-- Some tokens are what may stand in a list or a call, and the closing token. -/
def Enclosed (close : Token) (trees : List Expr) (tokens : List Token) : Prop :=
  ∃ inner demand, tokens = inner ++ [close] ∧ Encloses anyCount inner trees demand

/-- A production reads phrases of a kind, on whatever level. -/
def ReadsPhrases (_levels : Nat) (category : Category) (production : Production Expr) : Prop :=
  Reads (Phrase category) production

/-- A production reads on in chains of a kind. -/
def ReadsChains (_levels : Nat) (link : Link) (more : Nat → Expr → Production Expr) : Prop :=
  ∀ count left, Reads (Follows link count left) (more count left)

variable {levels : Nat} {deeper : Level}

theorem ReadsPhrases.chain {link : Link} {operand : Production Expr}
    {more : Nat → Expr → Production Expr}
    (first : ReadsPhrases (levels + 1) link.operand operand)
    (tail : ReadsChains (levels + 1) link more) :
    ReadsPhrases (levels + 1) (.chain link) (Parser.chain operand more) := by
  intro before closed
  refine (first closed).bind closed ?_ ?_
  · rintro left front ⟨demand, derives⟩
    exact ⟨[], left, _, .chain derives .done⟩
  · rintro left front middle ⟨demand, derives⟩ closed_middle _
    refine (tail 0 left closed_middle).mono ?_
    rintro tree back ⟨rest, continues⟩
    exact ⟨_, .chain derives continues⟩

/-- What comes after an operator of a chain. -/
def afterOperator (operand : Production Expr) (more : Nat → Expr → Production Expr) (count : Nat)
    (join : Expr → Expr) : Production Expr := fun cursor => do
  let (right, after) ← operand cursor
  more (count + 1) (join right) after

theorem ReadsChains.chainTail {link : Link} {operand : Production Expr}
    {more : Nat → Expr → Production Expr} (first : ReadsPhrases levels link.operand operand)
    (tail : ReadsChains levels link more) :
    ReadsChains (levels + 1) link (Parser.chainTail link.joint? operand more) := by
  intro count left before closed
  cases found : link.joint? before.token with
  | none =>
      refine ReadsAt.congr closed (fun cursor => .ok (left, cursor.leave count)) ?_
        (readsAt_leave count ⟨0, .done⟩)
      intro tail _ same
      simp only [Parser.chainTail, token_on_eq same, found]
  | some join =>
      have joins := Link.joint?_eq_some_iff.mp found
      refine ReadsAt.advance closed joins.isFinish
        (fun cursor => cursor.enter >>= afterOperator operand more count (join left)) ?_
        (.enter ?_)
      · intro tail _ same
        simp only [Parser.chainTail, token_on_eq same, found]
        rfl
      · have closed_inside : Closed before.advance.opened.rest := closed.advance joins.isFinish
        refine (first closed_inside).bind closed_inside ?_ ?_
        · rintro right front ⟨demand, derives⟩
          exact ⟨[], _, _, .more joins derives .done⟩
        · rintro right front middle ⟨demand, derives⟩ closed_middle _
          refine (tail (count + 1) (join left right) closed_middle).mono ?_
          rintro tree back ⟨rest, continues⟩
          exact ⟨_, .more joins derives continues⟩

/-! ## Primary expressions -/

/-- The segments of a reference from a cursor on. -/
def segmentsAt : Production (List Segment) := fun cursor =>
  path cursor.index cursor.depth cursor.limit cursor.rest

theorem segmentsAt_of_dot {cursor : Cursor} (closed : Closed cursor.rest)
    (stands : cursor.token = .dot) :
    segmentsAt cursor = match segment? cursor.advance.token with
      | some segment => wrapped (segment :: ·) 0 segmentsAt cursor.advance.advance
      | none => .error (cursor.advance.fault .segment) := by
  have unfinished : cursor.token.isFinish = false := by rw [stands]; rfl
  have closed_next := closed.advance unfinished
  obtain ⟨⟨token, position, text⟩, later, rest_eq, token_eq, advance_eq⟩ :=
    exists_cons_of_unfinished unfinished
  obtain rfl : token = .dot := token_eq.trans stands
  rw [advance_eq] at closed_next ⊢
  obtain ⟨next, rest, rfl⟩ := List.exists_cons_of_ne_nil closed_next.ne_nil
  have next_eq : Cursor.token ⟨next :: rest, cursor.index + 1, cursor.depth, cursor.limit⟩ =
      next.token := rfl
  rw [segmentsAt, rest_eq, path, next_eq]
  cases found : segment? next.token with
  | none => rfl
  | some segment =>
      dsimp only
      rw [advance_cons (segment?_names found).2]
      rfl

theorem segmentsAt_of_ne_dot {cursor : Cursor} (stands : cursor.token ≠ .dot) :
    segmentsAt cursor = .ok ([], cursor.leave 0) := by
  rw [segmentsAt]
  unfold path
  split
  · rename_i rest_eq
    rw [token, lexeme, rest_eq] at stands
    exact absurd rfl stands
  · rfl

theorem reads_segments : Reads (fun path tokens => Segments tokens path) segmentsAt := by
  intro before closed
  -- Each segment takes two tokens, so what is left gets shorter.
  induction length_eq : before.rest.length using Nat.strongRecOn generalizing before with
  | ind length ih =>
  by_cases stands : before.token = .dot
  · have unfinished : before.token.isFinish = false := by rw [stands]; rfl
    have closed_next := closed.advance unfinished
    refine ReadsAt.advance closed unfinished
      (fun cursor => match segment? cursor.token with
        | some segment => wrapped (segment :: ·) 0 segmentsAt cursor.advance
        | none => .error (cursor.fault .segment)) ?_ ?_
    · intro tail closed_tail same
      exact segmentsAt_of_dot closed_tail ((token_on_eq same).trans stands)
    · rw [stands]
      cases found : segment? before.advance.token with
      | none =>
          refine ReadsAt.congr closed_next (fun cursor => .error (cursor.fault .segment)) ?_
            (readsAt_fault closed_next (.cons .wildcard .nil))
          intro tail _ same
          simp only [token_on_eq same, found]
      | some segment =>
          obtain ⟨names, unfinished_next⟩ := segment?_names found
          have closed_rest := closed_next.advance unfinished_next
          have shorter : before.advance.advance.rest.length < length := by
            rw [← length_eq]
            exact Nat.lt_trans (length_advance_lt unfinished_next) (length_advance_lt unfinished)
          refine ReadsAt.advance closed_next unfinished_next
            (wrapped (segment :: ·) 0 segmentsAt) ?_ ?_
          · intro tail _ same
            simp only [token_on_eq same, found]
          · refine (ih _ shorter closed_rest rfl).wrapped closed_rest ?_
            intro path tokens segments
            exact .cons names segments
  · refine ReadsAt.congr closed (fun cursor => .ok ([], cursor.leave 0)) ?_ (readsAt_leave 0 .nil)
    intro tail _ same
    exact segmentsAt_of_ne_dot fun here => stands ((token_on_eq same).symm.trans here)

section

variable {expression : Production Expr} {closes : Token → Bool} {close : Token}
  {expected : Expected} {cursor : Cursor}

/-- One item and, after a comma, more of them. -/
def itemStep (expression : Production Expr) (closes : Token → Bool) (expected : Expected)
    (more : Production (List Expr)) : Production (List Expr) := fun cursor => do
  let (item, after) ← expression cursor
  match after.token with
  | .comma => wrapped (item :: ·) 0 more after.advance
  | other =>
    if closes other then return ([item], after.advance.leave 1)
    else .error (after.fault expected)

/-- The items from a cursor on, of which there are no more than lexemes. -/
def itemsAt (expression : Production Expr) (closes : Token → Bool) (expected : Expected) :
    Production (List Expr) := fun cursor =>
  moreItems expression closes expected cursor.rest.length cursor

/-- What follows an item stands further on. -/
theorem itemStep_congr (reads : Reads (Phrase .expression) expression)
    {more other : Production (List Expr)} (closed : Closed cursor.rest)
    (same : ∀ next : Cursor, Closed next.rest → next.rest.length < cursor.rest.length →
      more next = other next) :
    itemStep expression closes expected more cursor =
      itemStep expression closes expected other cursor := by
  rw [itemStep, itemStep]
  cases run : expression cursor with
  | error fault => rfl
  | ok pair =>
      obtain ⟨item, after⟩ := pair
      obtain ⟨body, hinges, _⟩ := (reads closed).ok run
      cases stands : after.token with
      | comma =>
          have unfinished : after.token.isFinish = false := by rw [stands]; rfl
          have closed_next := (hinges.closed closed).advance unfinished
          have shorter := Nat.lt_of_lt_of_le (length_advance_lt unfinished) hinges.length_le
          simp only [Bind.bind, Except.bind, stands, wrapped, same _ closed_next shorter]
      | _ => simp only [Bind.bind, Except.bind, stands]

/-- How many items may be taken does not matter where it is no less than the lexemes. -/
theorem moreItems_eq (reads : Reads (Phrase .expression) expression) {fuel other : Nat}
    (closed : Closed cursor.rest) (enough : cursor.rest.length ≤ fuel)
    (enough_other : cursor.rest.length ≤ other) :
    moreItems expression closes expected fuel cursor =
      moreItems expression closes expected other cursor := by
  induction fuel generalizing cursor other with
  | zero => exact absurd (List.eq_nil_of_length_eq_zero (Nat.le_zero.mp enough)) closed.ne_nil
  | succ fuel ih =>
      have some_left := List.length_pos_iff.mpr closed.ne_nil
      obtain ⟨other, rfl⟩ := Nat.exists_eq_succ_of_ne_zero (Nat.ne_of_gt (by omega : 0 < other))
      exact itemStep_congr reads closed fun next closed_next shorter =>
        ih closed_next (by omega) (by omega)

theorem itemsAt_eq (reads : Reads (Phrase .expression) expression) (closed : Closed cursor.rest) :
    itemsAt expression closes expected cursor =
      itemStep expression closes expected (itemsAt expression closes expected) cursor := by
  obtain ⟨fuel, fuel_eq⟩ := Nat.exists_eq_succ_of_ne_zero
    (Nat.ne_of_gt (List.length_pos_iff.mpr closed.ne_nil))
  rw [itemsAt, fuel_eq]
  exact itemStep_congr reads closed fun next closed_next shorter =>
    moreItems_eq reads closed_next (by omega) (Nat.le_refl _)

theorem reads_items (closer : Closer closes close) (reads : Reads (Phrase .expression) expression) :
    Reads (Listed close) (itemsAt expression closes expected) := by
  intro before closed
  -- An item and the comma after it take a token, so what is left gets shorter.
  induction length_eq : before.rest.length using Nat.strongRecOn generalizing before with
  | ind length ih =>
  refine ReadsAt.congr closed (itemStep expression closes expected (itemsAt _ closes expected))
    (fun tail closed_tail _ => itemsAt_eq reads closed_tail) ?_
  have completed (item : Expr) (front : List Token) (is_phrase : Phrase .expression item front) :
      Listed close [item] (front ++ [close]) := by
    obtain ⟨demand, derives⟩ := is_phrase
    exact ⟨front, demand, rfl, .last derives⟩
  refine (reads closed).bind closed
    (fun item front is_phrase => ⟨_, _, completed item front is_phrase⟩) ?_
  intro item front middle is_phrase closed_middle length_le
  by_cases separated : middle.token = .comma
  · have unfinished : middle.token.isFinish = false := by rw [separated]; rfl
    have closed_next := closed_middle.advance unfinished
    have shorter := Nat.lt_of_lt_of_le (length_advance_lt unfinished) length_le
    refine ReadsAt.advance closed_middle unfinished
      (wrapped (item :: ·) 0 (itemsAt expression closes expected)) ?_ ?_
    · intro tail _ same
      simp only [token_on_eq same, separated]
    · refine (ih _ (length_eq ▸ shorter) closed_next rfl).wrapped closed_next ?_
      rintro items _ ⟨inner, demand, rfl, lists⟩
      obtain ⟨demand_item, derives⟩ := is_phrase
      rw [separated]
      exact ⟨front ++ .comma :: inner, _, by simp, .more derives lists⟩
  · by_cases ended : closes middle.token = true
    · have stands := closer.eq_true_iff.mp ended
      have unfinished : middle.token.isFinish = false := by rw [stands]; exact closer.isFinish
      refine ReadsAt.advance closed_middle unfinished
        (fun cursor => .ok ([item], cursor.leave 1)) ?_ (readsAt_leave 1 ?_)
      · intro tail _ same
        dsimp only
        rw [token_on_eq same]
        split
        · contradiction
        · rw [if_pos ended]
          rfl
      · rw [stands]
        exact completed item front is_phrase
    · refine ReadsAt.congr closed_middle (fun cursor => .error (cursor.fault expected)) ?_
        (readsAt_fault closed_middle (completed item front is_phrase))
      intro tail _ same
      dsimp only
      rw [token_on_eq same]
      split
      · contradiction
      · rw [if_neg ended]

theorem reads_enclosed (closer : Closer closes close)
    (reads : Reads (Phrase .expression) deeper.expression) :
    Reads (Enclosed close) (items deeper closes expected) := by
  intro before closed
  by_cases ended : closes before.token = true
  · have stands := closer.eq_true_iff.mp ended
    have unfinished : before.token.isFinish = false := by rw [stands]; exact closer.isFinish
    refine ReadsAt.advance closed unfinished (fun cursor => .ok ([], cursor.leave 0)) ?_
      (readsAt_leave 0 ?_)
    · intro tail _ same
      rw [items, token_on_eq same, if_pos ended]
      rfl
    · rw [stands]
      exact ⟨[], 0, rfl, .none⟩
  · refine ReadsAt.congr closed
      (fun cursor => cursor.enter >>= itemsAt deeper.expression closes expected) ?_ (.enter ?_)
    · intro tail _ same
      rw [items, token_on_eq same, if_neg ended]
      rfl
    · have closed_inside : Closed before.opened.rest := closed
      refine (reads_items closer reads closed_inside).mono ?_
      rintro trees _ ⟨inner, demand, rfl, lists⟩
      exact ⟨inner, _, rfl, .some lists⟩

end

theorem reads_literal {token : Token} {value : Value} (literal : Literal token value)
    {action : Production Expr} {before : Cursor} (closed : Closed before.rest)
    (stands : before.token = token)
    (same : ∀ cursor : Cursor, cursor.token = token →
      action cursor = .ok (.literal value, cursor.advance)) :
    ReadsAt (Phrase .primary) action before := by
  have unfinished : before.token.isFinish = false := by rw [stands]; cases literal <;> rfl
  refine ReadsAt.advance closed unfinished (fun cursor => .ok (.literal value, cursor.leave 0)) ?_
    (readsAt_leave 0 ?_)
  · intro tail _ same_lexeme
    exact same _ ((token_on_eq same_lexeme).trans stands)
  · rw [stands]
    exact ⟨0, .literal literal⟩

/-- The arguments of a call, whose fault stands at some place. -/
def argumentsAt (deeper : Level) (builtin : Builtin) (place : Cursor) : Production Expr :=
  fun cursor => do
    let (arguments, last) ← items deeper Token.isCloseParen .argumentSeparator cursor
    if builtin.takes arguments.length then return (.call builtin arguments, last)
    else .error (callFault place .arity (.argumentCount builtin arguments.length))

theorem reads_arguments (reads : Reads (Phrase .expression) deeper.expression) {name : String}
    {builtin : Builtin} (known : Builtin.ofName? name = some builtin) (place : Cursor) :
    Reads (fun tree tokens => Phrase .primary tree (.name name :: .openParen :: tokens))
      (argumentsAt deeper builtin place) := by
  intro before closed
  have completed (arguments : List Expr) (front : List Token)
      (enclosed : Enclosed .closeParen arguments front) :
      Phrase .primary (.call builtin arguments) (.name name :: .openParen :: (front ++ [])) := by
    obtain ⟨inner, demand, rfl, encloses⟩ := enclosed
    rw [List.append_nil]
    exact ⟨demand, .call known encloses rfl⟩
  refine (reads_enclosed .parenthesis reads closed).bind closed
    (fun arguments front enclosed => ⟨_, _, completed arguments front enclosed⟩) ?_
  intro arguments front middle enclosed closed_middle _
  dsimp only
  by_cases accepted : builtin.takes arguments.length = true
  · simp only [accepted, if_true]
    exact readsAt_leave 0 (completed arguments front enclosed)
  · simp only [accepted]
    exact readsAt_refuse (fun _ => callFault place .arity _) rfl

/-- What comes after a name, where the faults of a call stand at the name. -/
def afterName (deeper : Level) (name : String) (place : Cursor) : Production Expr := fun cursor =>
  match cursor.token with
  | .openParen =>
    match Builtin.ofName? name with
    | none => .error (callFault place .function .unknownFunction)
    | some builtin => argumentsAt deeper builtin place cursor.advance
  | _ => wrapped (fun path => .reference ⟨name, path⟩) 0 segmentsAt cursor

theorem reads_afterName (reads : Reads (Phrase .expression) deeper.expression) (name : String)
    (place : Cursor) :
    Reads (fun tree tokens => Phrase .primary tree (.name name :: tokens))
      (afterName deeper name place) := by
  intro before closed
  by_cases opens : before.token = .openParen
  · have unfinished : before.token.isFinish = false := by rw [opens]; rfl
    cases known : Builtin.ofName? name with
    | none =>
        refine ReadsAt.congr closed
          (fun _ => .error (callFault place .function .unknownFunction)) ?_ ?_
        · intro tail _ same
          simp only [afterName, token_on_eq same, opens, known]
        · exact readsAt_refuse (fun _ => callFault place .function .unknownFunction) rfl
    | some builtin =>
        refine ReadsAt.advance closed unfinished (argumentsAt deeper builtin place) ?_ ?_
        · intro tail _ same
          simp only [afterName, token_on_eq same, opens, known]
        · rw [opens]
          exact reads_arguments reads known place (closed.advance unfinished)
  · refine ReadsAt.congr closed (wrapped (fun path => .reference ⟨name, path⟩) 0 segmentsAt) ?_ ?_
    · intro tail _ same
      rw [← token_on_eq same] at opens
      rw [afterName]
      split
      · contradiction
      · rfl
    · refine (reads_segments closed).wrapped closed ?_
      intro path tokens segments
      exact ⟨0, .reference segments⟩

theorem callFault_on_eq {cursor : Cursor} {tail : List Lexeme}
    (same : (cursor.on tail).lexeme = cursor.lexeme) (expected : Expected)
    (problem : CallProblem) :
    callFault (cursor.on tail) expected problem = callFault cursor expected problem := by
  simp only [callFault, Cursor.fault, token, same]
  rfl

/-- An expression and the parenthesis that closes it. -/
def parenthesized (expression : Production Expr) : Production Expr := fun cursor => do
  let (inner, after) ← expression cursor
  match after.token with
  | .closeParen => return (inner, after.advance.leave 1)
  | _ => .error (after.fault .closeParen)

theorem reads_parenthesized {expression : Production Expr}
    (reads : Reads (Phrase .expression) expression) :
    Reads (fun tree tokens => Phrase .primary tree (.openParen :: tokens))
      (parenthesized expression) := by
  intro before closed
  have completed (tree : Expr) (front : List Token) (is_phrase : Phrase .expression tree front) :
      Phrase .primary tree (.openParen :: (front ++ [.closeParen])) := by
    obtain ⟨demand, derives⟩ := is_phrase
    exact ⟨_, .parentheses derives⟩
  refine (reads closed).bind closed
    (fun tree front is_phrase => ⟨_, _, completed tree front is_phrase⟩) ?_
  intro tree front middle is_phrase closed_middle _
  by_cases ended : middle.token = .closeParen
  · have unfinished : middle.token.isFinish = false := by rw [ended]; rfl
    refine ReadsAt.advance closed_middle unfinished (fun cursor => .ok (tree, cursor.leave 1)) ?_
      (readsAt_leave 1 ?_)
    · intro tail _ same
      simp only [token_on_eq same, ended]
      rfl
    · rw [ended]
      exact completed tree front is_phrase
  · refine ReadsAt.congr closed_middle (fun cursor => .error (cursor.fault .closeParen)) ?_
      (readsAt_fault closed_middle (completed tree front is_phrase))
    intro tail _ same
    rw [← token_on_eq same] at ended
    dsimp only
    split
    · contradiction
    · rfl

theorem reads_primary (reads : ReadsPhrases levels .expression deeper.expression) :
    ReadsPhrases (levels + 1) .primary (primary deeper) := by
  intro before closed
  cases stands : before.token with
  | int number =>
      exact reads_literal (.int number) closed stands fun _ here => by rw [primary, here]
  | float number =>
      exact reads_literal (.float number) closed stands fun _ here => by rw [primary, here]
  | text content =>
      exact reads_literal (.text content) closed stands fun _ here => by rw [primary, here]
  | truth value =>
      exact reads_literal (.truth value) closed stands fun _ here => by rw [primary, here]
  | name name =>
      have unfinished : before.token.isFinish = false := by rw [stands]; rfl
      refine ReadsAt.advance closed unfinished (afterName deeper name before) ?_ ?_
      · intro tail _ same
        rw [primary, token_on_eq same, stands]
        simp only [named, callFault_on_eq same]
        rfl
      · rw [stands]
        exact reads_afterName reads name before (closed.advance unfinished)
  | openParen =>
      have unfinished : before.token.isFinish = false := by rw [stands]; rfl
      refine ReadsAt.advance closed unfinished
        (fun cursor => cursor.enter >>= parenthesized deeper.expression) ?_ (.enter ?_)
      · intro tail _ same
        rw [primary, token_on_eq same, stands]
        rfl
      · rw [stands]
        exact reads_parenthesized reads (closed.advance unfinished)
  | openBracket =>
      have unfinished : before.token.isFinish = false := by rw [stands]; rfl
      have closed_inside := closed.advance unfinished
      refine ReadsAt.advance closed unfinished
        (wrapped Expr.list 0 (items deeper Token.isCloseBracket .listSeparator)) ?_ ?_
      · intro tail _ same
        rw [primary, token_on_eq same, stands]
        rfl
      · refine (reads_enclosed .bracket reads closed_inside).wrapped closed_inside ?_
        rintro elements _ ⟨inner, demand, rfl, encloses⟩
        rw [stands]
        exact ⟨demand, .list encloses⟩
  | _ =>
      refine ReadsAt.congr closed (fun cursor => .error (cursor.fault .operand)) ?_
        (readsAt_fault closed ⟨0, .literal (.truth true)⟩)
      intro tail _ same
      rw [primary, token_on_eq same, stands]

/-! ## Operators -/

/-- What stands one level down. -/
def nested (wrap : Expr → Expr) (production : Production Expr) : Production Expr := fun cursor =>
  cursor.enter >>= wrapped wrap 1 production

theorem reads_nested {category : Category} {production : Production Expr}
    (reads : Reads (Phrase category) production) (wrap : Expr → Expr)
    {whole : Expr → List Token → Prop}
    (completed : ∀ tree tokens, Phrase category tree tokens → whole (wrap tree) tokens) :
    Reads whole (nested wrap production) := by
  intro before closed
  have closed_inside : Closed before.opened.rest := closed
  exact .enter ((reads closed_inside).wrapped closed_inside completed)

/-- A phrase that may have an operator before it any number of times. -/
theorem reads_prefixed {category : Category} (operator : Token) (wrap : Expr → Expr)
    {action plain operand : Production Expr}
    (unfinished : operator.isFinish = false)
    (prefixed : ∀ cursor : Cursor, cursor.token = operator →
      action cursor = nested wrap operand cursor.advance)
    (bare : ∀ cursor : Cursor, cursor.token ≠ operator → action cursor = plain cursor)
    (reads_operand : Reads (Phrase category) operand)
    (reads_plain : Reads (Phrase category.inner) plain)
    (wraps : ∀ tree tokens, Phrase category tree tokens →
      Phrase category (wrap tree) (operator :: tokens)) :
    Reads (Phrase category) action := by
  intro before closed
  by_cases stands : before.token = operator
  · rw [← stands] at unfinished
    refine ReadsAt.advance closed unfinished (nested wrap operand) ?_ ?_
    · intro tail _ same
      exact prefixed _ ((token_on_eq same).trans stands)
    · rw [stands]
      exact reads_nested reads_operand wrap wraps (closed.advance unfinished)
  · refine ReadsAt.congr closed plain ?_ ((reads_plain closed).mono fun _ _ => .of_inner)
    intro tail _ same
    exact bare _ fun here => stands ((token_on_eq same).symm.trans here)

theorem reads_power (base : ReadsPhrases (levels + 1) .primary (Parser.primary deeper))
    (exponent : ReadsPhrases levels .signed deeper.signed) :
    ReadsPhrases (levels + 1) .power (Parser.power deeper) := by
  intro before closed
  have completed (tree : Expr) (front : List Token) (is_phrase : Phrase .primary tree front) :
      Phrase .power tree (front ++ []) := by
    rw [List.append_nil]
    exact .of_inner is_phrase
  refine (base closed).bind closed
    (fun tree front is_phrase => ⟨_, _, completed tree front is_phrase⟩) ?_
  intro tree front middle is_phrase closed_middle _
  by_cases raised : middle.token = .caret
  · have unfinished : middle.token.isFinish = false := by rw [raised]; rfl
    refine ReadsAt.advance closed_middle unfinished
      (nested (.binary .power tree) deeper.signed) ?_ ?_
    · intro tail _ same
      simp only [token_on_eq same, raised]
      rfl
    · refine reads_nested exponent (.binary .power tree) ?_ (closed_middle.advance unfinished)
      rintro right back ⟨rest, derives_exponent⟩
      obtain ⟨demand, derives⟩ := is_phrase
      rw [raised]
      exact ⟨_, .power derives derives_exponent⟩
  · refine ReadsAt.congr closed_middle (fun cursor => .ok (tree, cursor.leave 0)) ?_
      (readsAt_leave 0 (completed tree front is_phrase))
    intro tail _ same
    rw [← token_on_eq same] at raised
    dsimp only
    split
    · contradiction
    · rfl

theorem reads_signed (unsigned : ReadsPhrases (levels + 1) .power (Parser.power deeper))
    (operand : ReadsPhrases levels .signed deeper.signed) :
    ReadsPhrases (levels + 1) .signed (Parser.signed deeper) := by
  refine reads_prefixed .minus (.unary .negate) rfl ?_ ?_ operand unsigned ?_
  · intro cursor stands
    rw [Parser.signed, stands]
    rfl
  · intro cursor stands
    rw [Parser.signed]
    split
    · contradiction
    · rfl
  · rintro tree tokens ⟨demand, derives⟩
    exact ⟨_, .minus derives⟩

theorem reads_comparison (sum : ReadsPhrases (levels + 1) (.chain .sum) (Parser.sum deeper)) :
    ReadsPhrases (levels + 1) .comparison (Parser.comparison deeper) := by
  intro before closed
  have completed (tree : Expr) (front : List Token) (is_phrase : Phrase (.chain .sum) tree front) :
      Phrase .comparison tree (front ++ []) := by
    rw [List.append_nil]
    exact .of_inner is_phrase
  refine (sum closed).bind closed
    (fun tree front is_phrase => ⟨_, _, completed tree front is_phrase⟩) ?_
  intro tree front middle is_phrase closed_middle _
  cases found : comparison? middle.token with
  | some op =>
      have stands := comparison?_eq_some found
      have unfinished : middle.token.isFinish = false := by rw [stands]; cases op <;> rfl
      have closed_next := closed_middle.advance unfinished
      refine ReadsAt.advance closed_middle unfinished
        (wrapped (Expr.compare op tree) 0 (Parser.sum deeper)) ?_ ?_
      · intro tail _ same
        simp only [token_on_eq same, found]
        rfl
      · refine (sum closed_next).wrapped closed_next ?_
        rintro right back ⟨rest, derives_right⟩
        obtain ⟨demand, derives⟩ := is_phrase
        rw [stands]
        exact ⟨_, .compare derives derives_right⟩
  | none =>
      refine ReadsAt.congr closed_middle (fun cursor => .ok (tree, cursor.leave 0)) ?_
        (readsAt_leave 0 (completed tree front is_phrase))
      intro tail _ same
      simp only [token_on_eq same, found]
      rfl

theorem reads_negation (plain : ReadsPhrases (levels + 1) .comparison (Parser.comparison deeper))
    (operand : ReadsPhrases levels .negation deeper.negation) :
    ReadsPhrases (levels + 1) .negation (Parser.negation deeper) := by
  refine reads_prefixed .not (.unary .not) rfl ?_ ?_ operand plain ?_
  · intro cursor stands
    rw [Parser.negation, stands]
    rfl
  · intro cursor stands
    rw [Parser.negation]
    split
    · contradiction
    · rfl
  · rintro tree tokens ⟨demand, derives⟩
    exact ⟨_, .not derives⟩

theorem hereditary_reads : Hereditary ReadsPhrases ReadsChains where
  refuse := by
    intro category before _
    exact readsAt_refuse Cursor.tooDeep rfl
  refuseTail := by
    intro link count left before _
    exact readsAt_refuse Cursor.tooDeep rfl
  chain := .chain
  chainTail := .chainTail
  primary := reads_primary
  power := reads_power
  signed := reads_signed
  comparison := reads_comparison
  negation := reads_negation

end Grammar
end Assay
