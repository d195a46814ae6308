import SqlWeave.Proofs.Parser.Recursion

/-! What the readers of statements ask of the readers inside them. -/

namespace SqlWeave.Parser

variable {α : Type} {n m : Nat}

instance : Onward isAtStatementEnd := .still Nested.isAtStatementEnd_asks.still
instance : Onward ifNotExists := .parts
instance : Onward insertWords := .parts

instance (n : Nat) : Onward (targetTail n) := by
  induction n with
  | zero => exact inferInstanceAs (Onward outOfRounds)
  | succ n ih =>
    exact .seq inferInstance fun _ =>
      .ite (.seq inferInstance fun _ => .ite inferInstance .parts) inferInstance

instance : Onward deleteTarget := .parts

instance (n : Nat) : Onward (deleteTargets n) := by
  induction n with
  | zero => exact inferInstanceAs (Onward outOfRounds)
  | succ n ih => exact .seq inferInstance fun _ => .ite inferInstance .parts

instance (n depth : Nat) : Onward (skipGroupWithin n depth) := by
  induction n generalizing depth with
  | zero => exact inferInstanceAs (Onward outOfRounds)
  | succ n ih =>
    refine .seq inferInstance fun k => ?_
    cases k
    case symbol mark =>
      cases mark
      case leftParen => exact .seq inferInstance fun _ => ih _
      case rightParen => exact .seq inferInstance fun _ => .ite inferInstance (ih _)
      all_goals exact .seq inferInstance fun _ => ih _
    case eof => exact inferInstanceAs (Onward (unexpected _))
    all_goals exact .seq inferInstance fun _ => ih _

instance : Onward closeGroup := .parts
instance : Onward skipGroup := .parts
instance : Onward rawValue := .parts

instance : Onward optionKeyword? := by
  refine .seq inferInstance fun k => ?_
  cases k
  case identifier => exact .parts
  case keyword word =>
    cases word
    case DEFAULT => exact .parts
    case COLLATE => exact .parts
    case ORDER => exact .parts
    case PARTITION => exact .parts
    case PRIMARY => exact .parts
    all_goals exact .still (pure_still none)
  all_goals exact .still (pure_still none)

instance (n : Nat) : Onward (tableOptions n) := by
  induction n with
  | zero => exact inferInstanceAs (Onward outOfRounds)
  | succ n ih =>
    refine .seq inferInstance fun keyword => ?_
    cases keyword with
    | none => exact .still (pure_still [])
    | some keyword => exact .seq inferInstance fun _ => .parts

instance (name : String) : Onward (tableConstraint name) := .parts
instance : Onward semicolons := .parts

namespace Nested

instance (xs : List α) (f : α → Parser PUnit) [∀ x, Parser.Onward (f x)] :
    Parser.Onward (xs.forM f) := by
  induction xs with
  | nil => exact .still (pure_still _)
  | cons x xs ih => exact .seq inferInstance fun _ => ih

instance (table : String) : Parser.Onward (insertColumns table) := .parts
instance (c : Create Expr) : Parser.Onward (createDatabase c) := .parts

instance : Parser.Onward drop := by
  refine .seq inferInstance fun _ => .seq inferInstance fun _ => .seq inferInstance fun k => ?_
  cases objectKeyword? k with
  | none => exact inferInstanceAs (Parser.Onward (unexpected _))
  | some keyword =>
    exact .seq inferInstance fun _ => .seq inferInstance fun _ =>
      .ite (.seq inferInstance fun _ => .parts) .parts

instance : Parser.Onward showTarget := by
  refine .seq inferInstance fun _ => .seq inferInstance fun _ => .seq inferInstance fun k => ?_
  cases k
  case identifier => exact .parts
  case keyword => exact .parts
  all_goals exact inferInstanceAs (Parser.Onward (unexpected _))

namespace Agree

variable {i j : Nested} (h : i.Agree m j)
include h

theorem assignment : Same m i.assignment j.assignment := by
  refine .bind fun _ => .bind fun _ => .ite (.bind fun _ => .bind ?value) (.bind ?value)
  exact fun (_, _) => .bind fun _ => .bind fun _ => .andThen (h.expr 0) fun _ => .refl

theorem assignments : Same m i.assignments j.assignments := .commaSeparated h.assignment

theorem row : Same m i.row j.row := .bind fun _ => .andThen (h.exprsUpTo _) fun _ => .refl

theorem insertSource : Same m i.insertSource j.insertSource :=
  .bind fun _ => .ite (.andThen (.commaSeparated h.row) fun _ => .refl) (.bind fun _ => .ite
    (.andThen h.query fun _ => .refl)
      (.bind fun _ => .ite (.andThen h.parenthesizedQuery fun _ => .refl) .refl))

theorem onDuplicate? : Same m i.onDuplicate? j.onDuplicate? :=
  .bind fun _ => .ite (.bind fun _ => .bind fun _ => .bind fun _ => .andThen h.assignments fun _ =>
    .refl) .refl

theorem insert (verb : String) : Same m (i.insert verb) (j.insert verb) :=
  .bind fun _ => .bind fun _ => .bind fun _ => .bind fun _ => .bind fun _ =>
    .andThen h.insertSource fun _ =>
    .andThen h.onDuplicate? fun _ => .andThen h.returning? fun _ => .refl

theorem update (withs : Option (List (Cte Expr))) : Same m (i.update withs) (j.update withs) :=
  .bind fun _ => .bind fun _ => .andThen h.tableList fun _ => .bind fun _ =>
    .andThen h.assignments fun _ =>
    .andThen h.tables? fun _ => .andThen h.condition? fun _ => .andThen h.orderBy? fun _ =>
    .andThen h.limit? fun _ => .andThen h.returning? fun _ => .refl

theorem delete (withs : Option (List (Cte Expr))) : Same m (i.delete withs) (j.delete withs) :=
  .bind fun _ => .bind fun _ => .bind fun _ => .bind fun _ => .bind fun _ =>
    .andThen h.tableList fun _ =>
    .andThen h.condition? fun _ => .andThen h.orderBy? fun _ => .andThen h.limit? fun _ =>
    .andThen h.returning? fun _ => .refl

theorem columnConstraint (d : ColumnDefinition Expr) :
    Same m (i.columnConstraint d) (j.columnConstraint d) := by
  refine .bind fun k => ?_
  cases k
  case identifier =>
    exact .ite .refl (.ite (.bind fun _ => .andThen h.primary fun _ => .refl) .refl)
  case keyword word =>
    cases word
    case NOT => exact .refl
    case NULL => exact .refl
    case DEFAULT => exact .bind fun _ => .andThen (h.expr 7) fun _ => .refl
    case PRIMARY => exact .refl
    case UNIQUE => exact .refl
    case COLLATE => exact .refl
    all_goals exact .pure _
  all_goals exact .pure _

theorem columnConstraints (n : Nat) (d : ColumnDefinition Expr) :
    Same m (i.columnConstraints n d) (j.columnConstraints n d) := by
  induction n generalizing d with
  | zero => exact .outOfRounds
  | succ n ih =>
    refine .andThen (h.columnConstraint d) fun d' => ?_
    cases d' with
    | none => exact .pure d
    | some d' => exact ih d'

theorem columnDefinition : Same m i.columnDefinition j.columnDefinition :=
  .bind fun _ => .bind fun _ => .andThen h.dataType fun _ => .bind fun n => h.columnConstraints n _

theorem createDefinition : Same m i.createDefinition j.createDefinition := by
  refine .bind fun _ => .ite (.bind fun _ => ?definition) ?definition
  refine .bind fun _ => .ite .refl
    (.bind fun _ => .ite ?_ (.andThen h.columnDefinition fun _ => .refl))
  exact .bind fun _ => .bind fun _ => .ite (.bind fun _ => .refl) .refl

theorem createDefinitions? : Same m i.createDefinitions? j.createDefinitions? :=
  .bind fun _ => .ite (.andThen (.commaSeparated h.createDefinition) fun _ => .refl) .refl

theorem createTable (c : Create Expr) : Same m (i.createTable c) (j.createTable c) :=
  .bind fun _ => .bind fun _ => .andThen h.createDefinitions? fun _ => .bind fun _ => .bind fun _ =>
    .bind fun _ =>
    .ite (.andThen h.query fun _ => .refl) .refl

theorem createView (c : Create Expr) : Same m (i.createView c) (j.createView c) :=
  .bind fun _ => .bind fun _ => .bind fun _ => .andThen h.query fun _ => .refl

theorem create : Same m i.create j.create := by
  refine .bind fun _ => .bind fun _ => .bind fun _ => .ite (.bind fun _ => ?rest) ?rest
  refine .bind fun _ => .bind fun k => ?_
  cases objectKeyword? k with
  | none => exact .unexpected
  | some keyword => exact .bind fun _ => .ite (h.createTable _) (.ite (h.createView _) .refl)

end Agree

end Nested

end SqlWeave.Parser
