import GridQuery.Sql.Query

/-! The nodes of expressions, and conditions that hold at every node. -/
namespace GridQuery.Sql.Expr

mutual

/-- The expression and all that it is built from, in the order of the text. -/
def nodes : Expr → List Expr
  | column table name => [column table name]
  | literal constant => [literal constant]
  | param value => [param value]
  | binary operator left right => binary operator left right :: (left.nodes ++ right.nodes)
  | call function distinct arguments =>
    call function distinct arguments :: nodesOfList arguments
  | isIn subject choices => isIn subject choices :: (subject.nodes ++ nodesOfList choices)
  | asText inner => asText inner :: inner.nodes
  | truncate unit inner => truncate unit inner :: inner.nodes
  | star table => [star table]
  | group inner => group inner :: inner.nodes
  | verbatim content => [verbatim content]

def nodesOfList : List Expr → List Expr
  | [] => []
  | first :: rest => first.nodes ++ nodesOfList rest

end

theorem nodesOfList_eq_flatMap (exprs : List Expr) : nodesOfList exprs = exprs.flatMap nodes := by
  induction exprs with
  | nil => rfl
  | cons first rest ih => rw [nodesOfList, ih, List.flatMap_cons]

/-- Whether a condition holds at every node. -/
def Everywhere (here : Expr → Prop) (expr : Expr) : Prop := ∀ node ∈ expr.nodes, here node

instance (here : Expr → Prop) [DecidablePred here] : DecidablePred (Everywhere here) := fun expr =>
  List.decidableBAll here expr.nodes

section

variable {here : Expr → Prop}

@[simp]
theorem everywhere_column {table : Option String} {name : String} :
    (column table name).Everywhere here ↔ here (column table name) :=
  List.forall_mem_singleton

@[simp]
theorem everywhere_literal {constant : Literal} :
    (literal constant).Everywhere here ↔ here (literal constant) :=
  List.forall_mem_singleton

@[simp]
theorem everywhere_param {value : Value} :
    (param value).Everywhere here ↔ here (param value) :=
  List.forall_mem_singleton

@[simp]
theorem everywhere_binary {operator : Operator} {left right : Expr} :
    (binary operator left right).Everywhere here ↔
      here (binary operator left right) ∧ left.Everywhere here ∧ right.Everywhere here :=
  List.forall_mem_cons.trans (and_congr_right' List.forall_mem_append)

@[simp]
theorem everywhere_call {function : String} {distinct : Bool} {arguments : List Expr} :
    (call function distinct arguments).Everywhere here ↔
      here (call function distinct arguments) ∧
        ∀ argument ∈ arguments, argument.Everywhere here := by
  simp only [Everywhere, nodes, nodesOfList_eq_flatMap, List.forall_mem_cons,
    List.forall_mem_flatMap]

@[simp]
theorem everywhere_isIn {subject : Expr} {choices : List Expr} :
    (isIn subject choices).Everywhere here ↔
      here (isIn subject choices) ∧ subject.Everywhere here ∧
        ∀ choice ∈ choices, choice.Everywhere here := by
  simp only [Everywhere, nodes, nodesOfList_eq_flatMap, List.forall_mem_cons,
    List.forall_mem_append, List.forall_mem_flatMap]

@[simp]
theorem everywhere_asText {inner : Expr} :
    (asText inner).Everywhere here ↔ here (asText inner) ∧ inner.Everywhere here :=
  List.forall_mem_cons

@[simp]
theorem everywhere_truncate {unit : TimeUnit} {inner : Expr} :
    (truncate unit inner).Everywhere here ↔
      here (truncate unit inner) ∧ inner.Everywhere here :=
  List.forall_mem_cons

@[simp]
theorem everywhere_star {table : Option String} :
    (star table).Everywhere here ↔ here (star table) :=
  List.forall_mem_singleton

@[simp]
theorem everywhere_group {inner : Expr} :
    (group inner).Everywhere here ↔ here (group inner) ∧ inner.Everywhere here :=
  List.forall_mem_cons

@[simp]
theorem everywhere_verbatim {content : String} :
    (verbatim content).Everywhere here ↔ here (verbatim content) :=
  List.forall_mem_singleton

end

end GridQuery.Sql.Expr
