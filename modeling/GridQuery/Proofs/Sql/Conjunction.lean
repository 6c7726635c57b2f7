import GridQuery.Proofs.Sql.ReadingBack
import GridQuery.Proofs.Sql.Truth

/-! What the text of a conjunction says. Its members stand one behind the other without
parentheses, so that an AND takes of a disjunction beside it no more than the alternative next to
it. The text says the conjunction where no member is a disjunction without parentheses, and where
there is one member alone. -/
namespace GridQuery.Sql

namespace Truth

/-- Alternatives with an AND between them: the last one before it and the first one behind it become
one. -/
def joined : List Truth → List Truth → List Truth
  | [], behind => behind
  | [last], first :: others => last.and first :: others
  | alternative :: rest, behind => alternative :: joined rest behind

theorem joined_nil (before : List Truth) : joined before [] = before := by
  induction before with
  | nil => rfl
  | cons alternative rest ih => cases rest <;> simp [joined, ih]

/-- Only the last alternative before an AND goes together with what is behind it. -/
theorem joined_append (front : List Truth) {before : List Truth} (some : before ≠ [])
    (behind : List Truth) : joined (front ++ before) behind = front ++ joined before behind := by
  induction front with
  | nil => rfl
  | cons alternative rest ih =>
    obtain ⟨head, tail, same⟩ : ∃ head tail, rest ++ before = head :: tail :=
      List.exists_cons_of_ne_nil (by simp [some])
    rw [List.cons_append, List.cons_append, ← ih, same, joined]
    intro _ _ _ single
    cases single

/-- One alternative for each condition with an AND between them is the conjunction. -/
theorem foldr_joined_singletons (first : Truth) (rest : List Truth) :
    ((first :: rest).map ([·])).foldr joined [] = [all (first :: rest)] := by
  induction rest generalizing first with
  | nil => simp [joined, all]
  | cons second others ih =>
    rw [List.map_cons, List.foldr_cons, ih]
    rfl

end Truth

namespace Expr

section Chains

variable {atoms : Expr → Truth} {operator : Operator} {combine : Truth → Truth → Truth}
  {neutral : Truth}

/-- What the truth of an operation is made of: an associative function with a neutral value. -/
structure Combines (atoms : Expr → Truth) (operator : Operator) (combine : Truth → Truth → Truth)
    (neutral : Truth) : Prop where
  binary : ∀ left right, (Expr.binary operator left right).truth atoms =
    combine (left.truth atoms) (right.truth atoms)
  assoc : ∀ first second third,
    combine (combine first second) third = combine first (combine second third)
  before : ∀ truth, combine neutral truth = truth
  behind : ∀ truth, combine truth neutral = truth

theorem combines_and (atoms : Expr → Truth) : Combines atoms .and Truth.and .true :=
  ⟨fun _ _ => rfl, Truth.and_assoc, Truth.true_and, Truth.and_true⟩

theorem combines_or (atoms : Expr → Truth) : Combines atoms .or Truth.or .false :=
  ⟨fun _ _ => rfl, Truth.or_assoc, fun truth => by cases truth <;> rfl, Truth.or_false⟩

theorem Combines.foldr_append (combines : Combines atoms operator combine neutral)
    (first second : List Truth) :
    (first ++ second).foldr combine neutral =
      combine (first.foldr combine neutral) (second.foldr combine neutral) := by
  induction first with
  | nil => exact (combines.before _).symm
  | cons truth rest ih => rw [List.cons_append, List.foldr_cons, ih, ← combines.assoc]; rfl

/-- An expression has the truth of the members of its chain, however it is nested. -/
theorem Combines.truth_eq (combines : Combines atoms operator combine neutral) (expr : Expr) :
    expr.truth atoms = ((members operator expr).map (truth atoms)).foldr combine neutral := by
  have alone (single : Expr) :
      single.truth atoms = ([single].map (truth atoms)).foldr combine neutral :=
    (combines.behind _).symm
  induction expr with
  | binary other left right ihLeft ihRight =>
    rw [members]
    split
    next same =>
      rw [List.map_append, combines.foldr_append, ← ihLeft, ← ihRight, same, combines.binary]
    next => exact alone _
  | _ => exact alone _

theorem Combines.truth_chain (combines : Combines atoms operator combine neutral)
    (left right : Expr) :
    (chain operator left right).truth atoms = combine (left.truth atoms) (right.truth atoms) := by
  rw [combines.truth_eq, members_chain, List.map_append, combines.foldr_append,
    ← combines.truth_eq, ← combines.truth_eq]

end Chains

section Bare

theorem called_cases (dialect : Dialect) (function : String) (distinct : Bool)
    (arguments : List Expr) :
    called dialect function distinct arguments = call function distinct arguments ∨
      ∃ unit inner, called dialect function distinct arguments = truncate unit inner := by
  rw [called]
  cases spelled : truncation? dialect function distinct arguments with
  | none => exact .inl rfl
  | some tree =>
    right
    rw [truncation?.eq_def] at spelled
    split at spelled
    · split at spelled
      case h_5 => cases spelled
      all_goals
        obtain ⟨unit, _, rfl⟩ := Option.map_eq_some_iff.mp spelled
        exact ⟨unit, _, rfl⟩
    · cases spelled

/-- Parentheses and the nesting of chains make no difference to the truth. -/
theorem truth_bareIn (atoms : Expr → Truth) (dialect : Dialect) (expr : Expr) :
    (expr.bareIn dialect).truth atoms = expr.truth fun atom => atoms (atom.bareIn dialect) := by
  induction expr with
  | binary operator left right ihLeft ihRight =>
    cases operator with
    | and =>
      rw [(combines_and _).binary, ← ihLeft, ← ihRight]
      exact (combines_and atoms).truth_chain _ _
    | or =>
      rw [(combines_or _).binary, ← ihLeft, ← ihRight]
      exact (combines_or atoms).truth_chain _ _
    | _ => rfl
  | call function distinct arguments _ =>
    -- What a call spells out is an atom, too.
    show (called dialect function distinct _).truth atoms =
      atoms (called dialect function distinct _)
    rcases called_cases dialect function distinct (bareByOfList (called dialect) arguments)
      with same | ⟨unit, inner, same⟩
    · rw [same]
      rfl
    · rw [same]
      rfl
  | isIn subject choices _ _ => cases choices <;> rfl
  | group inner ih => exact ih
  | _ => rfl

end Bare

/-- The tree of the text of two conditions with an AND between them, of which the first one is no
disjunction. -/
def behindAnd (left : Expr) : Expr → Expr
  | binary .or first others => binary .or (left.behindAnd first) others
  | right => left.and right

/-- The tree of the text of two conditions with an AND between them. -/
def besideAnd : Expr → Expr → Expr
  | binary .or others last, right => binary .or others (last.besideAnd right)
  | left, right => left.behindAnd right

/-- The tree of the text of a conjunction. -/
def asWritten : Expr → List Expr → Expr
  | first, [] => first
  | first, second :: rest => first.besideAnd (asWritten second rest)

section Texts

variable (dialect : Dialect)

theorem tokens_behindAnd (left right : Expr) :
    (left.behindAnd right).tokens dialect = (left.and right).tokens dialect := by
  fun_induction behindAnd left right with
  | case1 first others ih =>
    rw [Expr.and, tokens, ih]
    simp [Expr.and, tokens]
  | case2 right other => rfl

theorem tokens_besideAnd (left right : Expr) :
    (left.besideAnd right).tokens dialect = (left.and right).tokens dialect := by
  fun_induction besideAnd left right with
  | case1 others last right ih =>
    rw [Expr.and, tokens, ih]
    simp [Expr.and, tokens]
  | case2 left right other => exact tokens_behindAnd dialect left right

/-- A conjunction and the tree that its text has are written alike. -/
theorem tokens_asWritten (first : Expr) (rest : List Expr) :
    (asWritten first rest).tokens dialect = (rest.foldl Expr.and first).tokens dialect := by
  induction rest generalizing first with
  | nil => rfl
  | cons second others ih =>
    rw [List.foldl_cons, ← ih, asWritten, tokens_besideAnd]
    cases others with
    | nil => rfl
    | cons third later =>
      rw [asWritten, asWritten, tokens_besideAnd, Expr.and, tokens, tokens_besideAnd]
      simp [Expr.and, tokens]

end Texts

section Safety

theorem isDisjunction_eq_false {condition : Expr}
    (other : ∀ left right, condition = binary .or left right → False) :
    condition.isDisjunction = false := by
  rw [isDisjunction.eq_def]
  split
  next left right => exact (other left right rfl).elim
  next => rfl

theorem isPrecedenceSafe_behindAnd {left right : Expr} (single : left.isDisjunction = false)
    (leftSafe : left.IsPrecedenceSafe) (rightSafe : right.IsPrecedenceSafe) :
    (left.behindAnd right).IsPrecedenceSafe := by
  fun_induction behindAnd left right with
  | case1 first others ih =>
    obtain ⟨_, firstSafe, othersSafe⟩ := everywhere_binary.mp rightSafe
    exact everywhere_binary.mpr ⟨trivial, ih firstSafe, othersSafe⟩
  | case2 right other =>
    exact everywhere_binary.mpr ⟨⟨single, isDisjunction_eq_false other⟩, leftSafe, rightSafe⟩

theorem isPrecedenceSafe_besideAnd {left right : Expr} (leftSafe : left.IsPrecedenceSafe)
    (rightSafe : right.IsPrecedenceSafe) : (left.besideAnd right).IsPrecedenceSafe := by
  fun_induction besideAnd left right with
  | case1 others last right ih =>
    obtain ⟨_, othersSafe, lastSafe⟩ := everywhere_binary.mp leftSafe
    exact everywhere_binary.mpr ⟨trivial, othersSafe, ih lastSafe rightSafe⟩
  | case2 left right other =>
    exact isPrecedenceSafe_behindAnd (isDisjunction_eq_false other) leftSafe rightSafe

/-- The tree of the text needs no parentheses, though the conjunction itself may. -/
theorem isPrecedenceSafe_asWritten {first : Expr} {rest : List Expr}
    (firstSafe : first.IsPrecedenceSafe)
    (restSafe : ∀ condition ∈ rest, condition.IsPrecedenceSafe) :
    (asWritten first rest).IsPrecedenceSafe := by
  induction rest generalizing first with
  | nil => exact firstSafe
  | cons second others ih =>
    obtain ⟨secondSafe, othersSafe⟩ := List.forall_mem_cons.mp restSafe
    exact isPrecedenceSafe_besideAnd firstSafe (ih secondSafe othersSafe)

end Safety

section Alternatives

variable (atoms : Expr → Truth)

/-- The truths of the alternatives of a condition, which is one itself if it is no disjunction. -/
def alternatives (condition : Expr) : List Truth := (members .or condition).map (truth atoms)

theorem alternatives_of_single {condition : Expr} (single : condition.isDisjunction = false) :
    condition.alternatives atoms = [condition.truth atoms] := by
  cases condition with
  | binary operator left right =>
    cases operator with
    | or => cases single
    | _ => rfl
  | _ => rfl

theorem alternatives_or (left right : Expr) :
    (binary .or left right).alternatives atoms =
      left.alternatives atoms ++ right.alternatives atoms :=
  List.map_append

theorem alternatives_ne_nil (condition : Expr) : condition.alternatives atoms ≠ [] :=
  mt List.map_eq_nil_iff.mp (members_ne_nil .or condition)

theorem alternatives_behindAnd (left right : Expr) :
    (left.behindAnd right).alternatives atoms =
      Truth.joined [left.truth atoms] (right.alternatives atoms) := by
  fun_induction behindAnd left right with
  | case1 first others ih =>
    obtain ⟨head, tail, same⟩ := List.exists_cons_of_ne_nil (first.alternatives_ne_nil atoms)
    rw [alternatives_or, alternatives_or, ih, same]
    rfl
  | case2 right other =>
    rw [alternatives_of_single atoms (isDisjunction_eq_false other)]
    rfl

/-- The text of two conditions with an AND between them joins what stands next to the AND. -/
theorem alternatives_besideAnd (left right : Expr) :
    (left.besideAnd right).alternatives atoms =
      Truth.joined (left.alternatives atoms) (right.alternatives atoms) := by
  fun_induction besideAnd left right with
  | case1 others last right ih =>
    rw [alternatives_or, alternatives_or, ih,
      Truth.joined_append _ (last.alternatives_ne_nil atoms)]
  | case2 left right other =>
    rw [alternatives_behindAnd, alternatives_of_single atoms (isDisjunction_eq_false other)]

theorem alternatives_asWritten (first : Expr) (rest : List Expr) :
    (asWritten first rest).alternatives atoms =
      ((first :: rest).map (alternatives atoms)).foldr Truth.joined [] := by
  induction rest generalizing first with
  | nil => exact (Truth.joined_nil _).symm
  | cons second others ih => rw [asWritten, alternatives_besideAnd, ih]; rfl

end Alternatives

/-- The truth of a condition as its text is read, given that of the atoms that are read. -/
def textTruth (dialect : Dialect) (atoms : Expr → Truth) (condition : Expr) : Option Truth :=
  (Reader.read dialect (condition.tokens dialect)).map (truth atoms)

/-- A condition that keeps the order of precedence has its truth by its text. -/
theorem textTruth_eq {condition : Expr} (safe : condition.IsPrecedenceSafe) (dialect : Dialect)
    (atoms : Expr → Truth) :
    condition.textTruth dialect atoms =
      some (condition.truth fun atom => atoms (atom.bareIn dialect)) := by
  rw [textTruth, Reader.read_tokens safe, Option.map_some, truth_bareIn]

/-- The text of a conjunction of conditions that each have their truth by their texts. It is true
if some of the alternatives is that are left when each AND has joined those next to it. So it has
the truth of the conjunction where no condition is a disjunction without parentheses, and where
there is one condition alone. -/
theorem textTruth_all {conditions : List Expr} (inhabited : conditions ≠ [])
    (safe : ∀ condition ∈ conditions, condition.IsPrecedenceSafe) :
    ∃ conjunction, all conditions = some conjunction ∧
      ∀ (dialect : Dialect) (atoms : Expr → Truth),
        let alone (atom : Expr) : Truth := atoms (atom.bareIn dialect)
        (∀ condition ∈ conditions,
          condition.textTruth dialect atoms = some (condition.truth alone)) ∧
        conjunction.textTruth dialect atoms =
          some (Truth.any ((conditions.map (alternatives alone)).foldr Truth.joined [])) ∧
        ((∀ condition ∈ conditions, condition.isDisjunction = false) ∨ conditions.length = 1 →
          conjunction.textTruth dialect atoms =
            some (Truth.all (conditions.map (truth alone)))) := by
  obtain ⟨first, rest, rfl⟩ := List.exists_cons_of_ne_nil inhabited
  obtain ⟨firstSafe, restSafe⟩ := List.forall_mem_cons.mp safe
  refine ⟨_, rfl, fun dialect atoms => ?_⟩
  intro alone
  have said : (rest.foldl Expr.and first).textTruth dialect atoms =
      some (Truth.any (((first :: rest).map (alternatives alone)).foldr Truth.joined [])) := by
    have written := textTruth_eq (isPrecedenceSafe_asWritten firstSafe restSafe) dialect atoms
    rw [textTruth, tokens_asWritten] at written
    rw [textTruth, written, (combines_or alone).truth_eq, ← alternatives_asWritten]
    rfl
  refine ⟨fun condition member => textTruth_eq (safe condition member) dialect atoms, said, ?_⟩
  rintro (single | one)
  · have each : (first :: rest).map (alternatives alone) =
        ((first :: rest).map (truth alone)).map ([·]) := by
      rw [List.map_map]
      exact List.map_congr_left fun condition member =>
        alternatives_of_single alone (single condition member)
    rw [said, each, List.map_cons, Truth.foldr_joined_singletons]
    exact congrArg some (Truth.or_false _)
  · obtain rfl : rest = [] := List.eq_nil_of_length_eq_zero (Nat.succ.inj one)
    -- One condition alone is written as it is.
    rw [List.foldl_nil, textTruth_eq firstSafe]
    exact congrArg some (Truth.and_true _).symm

/-- A condition on a column that stands for a truth value, and a disjunction of two. -/
def isNewOrActive : Expr :=
  (Expr.eq (.column none "new") (.literal (.boolean true))).or
    (.eq (.column none "status") (.text "active"))

def isAdult : Expr := .isIn (.column none "age") [.param (.integer 18), .param (.integer 19)]

/-- In parentheses the disjunction is a member as any other. -/
theorem textTruth_all_grouped :
    [isAdult, .group isNewOrActive] ≠ [] ∧
      (∀ condition ∈ [isAdult, .group isNewOrActive], condition.IsPrecedenceSafe) ∧
      ∃ conjunction, all [isAdult, .group isNewOrActive] = some conjunction ∧
        ∀ atoms : Expr → Truth, conjunction.textTruth .mysql atoms =
          some (Truth.all ([isAdult, .group isNewOrActive].map
            (truth fun atom => atoms (atom.bareIn .mysql)))) := by
  have inhabited : [isAdult, .group isNewOrActive] ≠ [] := nofun
  have safe : ∀ condition ∈ [isAdult, .group isNewOrActive], condition.IsPrecedenceSafe := by
    decide
  obtain ⟨conjunction, made, said⟩ := textTruth_all inhabited safe
  refine ⟨inhabited, safe, conjunction, made, fun atoms => ?_⟩
  obtain ⟨_, _, same⟩ := said .mysql atoms
  exact same (.inl (by decide))

/-- Without them the text holds for whoever is new, of whatever age. -/
theorem textTruth_all_of_disjunction :
    let atoms (atom : Expr) : Truth :=
      match atom with
      | .binary .eq (.column none "new") _ => .true
      | _ => .false
    (∀ condition ∈ [isNewOrActive, isAdult], condition.IsPrecedenceSafe) ∧
      ∃ conjunction, all [isNewOrActive, isAdult] = some conjunction ∧
        isNewOrActive.textTruth .postgres atoms = some .true ∧
        isAdult.textTruth .postgres atoms = some .false ∧
        conjunction.textTruth .postgres atoms = some .true := by
  intro atoms
  exact ⟨by decide, _, rfl, by decide, by decide, by decide⟩

end Expr

end GridQuery.Sql
