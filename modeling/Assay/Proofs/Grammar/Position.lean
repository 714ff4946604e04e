import Assay.Proofs.Grammar.Soundness

/-!
# Reading regardless of positions

The productions look at the tokens of lexemes. They copy positions into faults but do nothing else
with them. Lexemes that differ in their positions only are therefore read as the same tree, or with
faults that differ in their positions only.
-/

namespace Assay

open Outcome

/-- The lexeme, wherever it stands. -/
def Lexeme.unplaced (lexeme : Lexeme) : Lexeme := { lexeme with position := 0 }

/-- The fault, wherever it happened. -/
def SyntaxFault.unplaced (fault : SyntaxFault) : SyntaxFault := { fault with position := 0 }

namespace Cursor

/-- The cursor among the same lexemes, wherever they stand. -/
def unplaced (cursor : Cursor) : Cursor :=
  { cursor with rest := cursor.rest.map Lexeme.unplaced }

variable {cursor : Cursor}

theorem lexeme_unplaced : cursor.unplaced.lexeme = cursor.lexeme.unplaced := by
  obtain ⟨lexemes, index, depth, limit⟩ := cursor
  cases lexemes <;> rfl

theorem token_unplaced : cursor.unplaced.token = cursor.token := by
  rw [token, lexeme_unplaced]
  rfl

theorem advance_unplaced : cursor.unplaced.advance = cursor.advance.unplaced := by
  obtain ⟨lexemes, index, depth, limit⟩ := cursor
  cases lexemes with
  | nil => rfl
  | cons lexeme rest =>
      cases ended : lexeme.token.isFinish <;> simp [unplaced, advance, Lexeme.unplaced, ended]

theorem fault_unplaced (expected : Expected) :
    cursor.unplaced.fault expected = (cursor.fault expected).unplaced := by
  rw [fault, fault, token_unplaced, lexeme_unplaced]
  rfl

theorem tooDeep_unplaced : cursor.unplaced.tooDeep = cursor.tooDeep.unplaced := by
  rw [tooDeep, tooDeep, lexeme_unplaced]
  rfl

end Cursor

namespace Grammar

open Assay.Parser Cursor

variable {α β : Type}

/-- What comes of an action, wherever the lexemes stand. -/
def unplaced (outcome : Except SyntaxFault (α × Cursor)) : Except SyntaxFault (α × Cursor) :=
  (outcome.map fun result => (result.1, result.2.unplaced)).mapError SyntaxFault.unplaced

/-- An action does the same wherever the lexemes stand. -/
def Blind (action : Production α) : Prop :=
  ∀ cursor : Cursor, action cursor.unplaced = unplaced (action cursor)

section Blind

variable {action : Production α} {next : α × Cursor → Except SyntaxFault (β × Cursor)}

theorem Blind.bind (first : Blind action)
    (second : ∀ value, Blind fun cursor => next (value, cursor)) :
    Blind fun cursor => action cursor >>= next := by
  intro cursor
  dsimp only
  rw [first cursor]
  cases action cursor with
  | error fault => rfl
  | ok result => exact second result.1 result.2

theorem Blind.advance (blind : Blind action) : Blind fun cursor => action cursor.advance := by
  intro cursor
  dsimp only
  rw [advance_unplaced]
  exact blind cursor.advance

theorem Blind.enter (blind : Blind action) : Blind fun cursor => cursor.enter >>= action := by
  intro cursor
  dsimp only
  by_cases room : cursor.depth < cursor.limit
  · have entered : cursor.unplaced.enter = .ok cursor.opened.unplaced := if_pos room
    rw [entered, enter_eq, if_pos room]
    exact blind cursor.opened
  · have refused : cursor.unplaced.enter = .error cursor.unplaced.tooDeep := if_neg room
    rw [refused, enter_eq, if_neg room, tooDeep_unplaced]
    rfl

theorem blind_ok (value : α) : Blind fun cursor => .ok (value, cursor) := fun _ => rfl

theorem blind_leave (value : α) (levels : Nat) :
    Blind fun cursor => .ok (value, cursor.leave levels) := fun _ => rfl

theorem blind_fault (expected : Expected) :
    Blind fun cursor => (.error (cursor.fault expected) : Except SyntaxFault (α × Cursor)) :=
  fun _ => congrArg Except.error (fault_unplaced expected)

theorem blind_tooDeep :
    Blind fun cursor => (.error cursor.tooDeep : Except SyntaxFault (α × Cursor)) :=
  fun _ => congrArg Except.error tooDeep_unplaced

end Blind

/-! ## Productions -/

variable {deeper : Level}

/-- The productions that read on in a chain are blind. -/
def BlindTail (more : Nat → Expr → Production Expr) : Prop :=
  ∀ count left, Blind (more count left)

theorem Blind.chain {operand : Production Expr} {more : Nat → Expr → Production Expr}
    (first : Blind operand) (tail : BlindTail more) : Blind (Parser.chain operand more) :=
  first.bind fun value => tail 0 value

theorem BlindTail.chainTail {joint? : Joint} {operand : Production Expr}
    {more : Nat → Expr → Production Expr} (first : Blind operand) (tail : BlindTail more) :
    BlindTail (Parser.chainTail joint? operand more) := by
  intro count left cursor
  rw [Parser.chainTail, Parser.chainTail, token_unplaced]
  cases joint? cursor.token with
  | none => rfl
  | some join =>
      exact (first.bind fun right => tail (count + 1) (join left right)).enter.advance
        cursor

theorem Blind.nested {production : Production Expr} (blind : Blind production)
    (wrap : Expr → Expr) : Blind fun cursor => do
      let inside ← cursor.enter
      let (operand, last) ← production inside
      return (wrap operand, last.leave 1) :=
  Blind.enter (blind.bind fun operand => blind_leave (wrap operand) 1)

theorem path_unplaced (index depth limit : Nat) (lexemes : List Lexeme) :
    Parser.path index depth limit (lexemes.map Lexeme.unplaced) =
      unplaced (Parser.path index depth limit lexemes) := by
  fun_induction Parser.path index depth limit lexemes with
  | case1 index position text next rest segment found ih =>
      have found_too : segment? next.unplaced.token = some segment := found
      rw [List.map_cons, List.map_cons, Lexeme.unplaced, Parser.path, found_too]
      dsimp only
      rw [ih]
      cases Parser.path (index + 2) depth limit rest <;> rfl
  | case2 index position text next rest missing =>
      have missing_too : segment? next.unplaced.token = none := missing
      rw [List.map_cons, List.map_cons, Lexeme.unplaced, Parser.path, missing_too]
      rfl
  | case3 index lexemes ended =>
      rw [Parser.path]
      · rfl
      · intro _ _ _ _ matched
        obtain ⟨first, others, rfl, first_eq, others_eq⟩ := List.map_eq_cons_iff.mp matched
        obtain ⟨next, rest, rfl, _⟩ := List.map_eq_cons_iff.mp others_eq
        obtain ⟨token, position, text⟩ := first
        cases first_eq
        exact ended position text next rest rfl

/-- The segments of a reference are read in the same way wherever they stand. -/
theorem blind_path : Blind fun cursor =>
    Parser.path cursor.index cursor.depth cursor.limit cursor.rest :=
  fun cursor => path_unplaced cursor.index cursor.depth cursor.limit cursor.rest

theorem blind_callFault (expected : Expected) (problem : CallProblem) :
    Blind fun cursor =>
      (.error (callFault cursor expected problem) : Except SyntaxFault (α × Cursor)) := by
  intro cursor
  dsimp only
  rw [callFault, fault_unplaced]
  rfl

theorem Blind.moreItems {production : Production Expr} (blind : Blind production)
    (closes : Token → Bool) (expected : Expected) (fuel : Nat) :
    Blind (Parser.moreItems production closes expected fuel) := by
  induction fuel with
  | zero => exact blind_fault expected
  | succ fuel ih =>
      refine blind.bind fun item cursor => ?_
      dsimp only
      rw [token_unplaced]
      split
      · exact (ih.bind fun items => blind_ok (item :: items)).advance cursor
      · split
        · exact (blind_leave [item] 1).advance cursor
        · exact blind_fault expected cursor

theorem Blind.items (blind : Blind deeper.expression) (closes : Token → Bool)
    (expected : Expected) : Blind (Parser.items deeper closes expected) := by
  intro cursor
  rw [Parser.items, Parser.items, token_unplaced]
  split
  · exact (blind_ok []).advance cursor
  · have opens : Blind fun cursor => cursor.enter >>= fun inside =>
        Parser.moreItems deeper.expression closes expected inside.rest.length inside := by
      refine Blind.enter fun inside => ?_
      have same_length : inside.unplaced.rest.length = inside.rest.length := List.length_map _
      rw [same_length]
      exact blind.moreItems closes expected _ inside
    exact opens cursor

theorem Blind.named (blind : Blind deeper.expression) (name : String) :
    Blind (Parser.named deeper name) := by
  intro cursor
  rw [Parser.named, Parser.named, advance_unplaced, token_unplaced]
  split
  · split
    · exact blind_callFault .function .unknownFunction cursor
    · rename_i builtin _
      -- A call with too few or too many arguments is reported where its name stands.
      have outcome (arguments : List Expr) (last : Cursor) :
          (if builtin.takes arguments.length then .ok (Expr.call builtin arguments, last.unplaced)
            else .error (callFault cursor.unplaced .arity
              (.argumentCount builtin arguments.length))) =
          unplaced (if builtin.takes arguments.length then .ok (Expr.call builtin arguments, last)
            else .error (callFault cursor .arity (.argumentCount builtin arguments.length))) := by
        split
        · rfl
        · exact blind_callFault .arity _ cursor
      rw [advance_unplaced,
        blind.items Token.isCloseParen .argumentSeparator cursor.advance.advance]
      cases Parser.items deeper Token.isCloseParen .argumentSeparator cursor.advance.advance with
      | error fault => rfl
      | ok result => exact outcome result.1 result.2
  · exact (blind_path.bind fun segments => blind_ok (Expr.reference ⟨name, segments⟩))
      cursor.advance

theorem Blind.primary (blind : Blind deeper.expression) : Blind (Parser.primary deeper) := by
  intro cursor
  rw [Parser.primary, Parser.primary, token_unplaced]
  split
  case h_5 =>
    rw [advance_unplaced]
    refine Blind.enter (blind.bind fun inner after => ?_) cursor.advance
    dsimp only
    rw [token_unplaced]
    split
    · exact (blind_leave inner 1).advance after
    · exact blind_fault .closeParen after
  case h_6 =>
    exact ((blind.items Token.isCloseBracket .listSeparator).bind
      fun elements => blind_ok (Expr.list elements)).advance cursor
  case h_7 name _ => exact blind.named name cursor
  case h_8 => exact blind_fault .operand cursor
  all_goals exact (blind_ok _).advance cursor

theorem Blind.power (base : Blind (Parser.primary deeper)) (exponent : Blind deeper.signed) :
    Blind (Parser.power deeper) := by
  refine base.bind fun value cursor => ?_
  dsimp only
  rw [token_unplaced]
  split
  · exact (exponent.nested (.binary .power value)).advance cursor
  · rfl

theorem Blind.signed (unsigned : Blind (Parser.power deeper)) (operand : Blind deeper.signed) :
    Blind (Parser.signed deeper) := by
  intro cursor
  rw [Parser.signed, Parser.signed, token_unplaced]
  split
  · exact (operand.nested (.unary .negate)).advance cursor
  · exact unsigned cursor

theorem Blind.comparison (sum : Blind (Parser.sum deeper)) :
    Blind (Parser.comparison deeper) := by
  refine sum.bind fun left cursor => ?_
  dsimp only
  rw [token_unplaced]
  split
  · rename_i op _
    exact (sum.bind fun right => blind_ok (Expr.compare op left right)).advance cursor
  · rfl

theorem Blind.negation (plain : Blind (Parser.comparison deeper))
    (operand : Blind deeper.negation) : Blind (Parser.negation deeper) := by
  intro cursor
  rw [Parser.negation, Parser.negation, token_unplaced]
  split
  · exact (operand.nested (.unary .not)).advance cursor
  · exact plain cursor

theorem hereditary_blind : Hereditary (fun _ _ => Blind) fun _ _ => BlindTail where
  refuse := blind_tooDeep
  refuseTail := fun _ _ => blind_tooDeep
  chain := .chain
  chainTail := .chainTail
  primary := .primary
  power := .power
  signed := .signed
  comparison := .comparison
  negation := .negation

/-! ## Lexemes -/

theorem ofLexemes_unplaced (lexemes : List Lexeme) :
    Expr.ofLexemes (lexemes.map Lexeme.unplaced) =
      (Expr.ofLexemes lexemes).mapError SyntaxFault.unplaced := by
  have blind : (Level.withRoom maxNesting).expression
        ⟨lexemes.map Lexeme.unplaced, 0, 0, maxNesting⟩ =
      unplaced ((Level.withRoom maxNesting).expression ⟨lexemes, 0, 0, maxNesting⟩) :=
    (hereditary_blind.withRoom maxNesting).expression ⟨lexemes, 0, 0, maxNesting⟩
  rw [Expr.ofLexemes, Expr.ofLexemes, blind]
  cases (Level.withRoom maxNesting).expression ⟨lexemes, 0, 0, maxNesting⟩ with
  | error fault => rfl
  | ok result =>
      obtain ⟨tree, after⟩ := result
      change (if after.unplaced.token.isFinish then Except.ok tree
        else .error (after.unplaced.fault .operatorOrEnd)) = Except.mapError SyntaxFault.unplaced
          (if after.token.isFinish then .ok tree else .error (after.fault .operatorOrEnd))
      rw [token_unplaced, fault_unplaced]
      split <;> rfl

/-- Lexemes that differ in their positions only are read as the same tree, or with faults of the
same signature. -/
theorem ofLexemes_eq_of_unplaced {lexemes others : List Lexeme}
    (same : lexemes.map Lexeme.unplaced = others.map Lexeme.unplaced) :
    (Expr.ofLexemes lexemes).mapError SyntaxFault.signature =
      (Expr.ofLexemes others).mapError SyntaxFault.signature := by
  have regardless (outcome : Except SyntaxFault Expr) : outcome.mapError SyntaxFault.signature =
      (outcome.mapError SyntaxFault.unplaced).mapError SyntaxFault.signature := by
    cases outcome <;> rfl
  rw [regardless, regardless (Expr.ofLexemes others), ← ofLexemes_unplaced, ← ofLexemes_unplaced,
    same]

end Grammar
end Assay
