import EntitySql.Proofs.Compiled

/-! # Compilation preserves meaning

The builders make two sorts of predicates: values, which denote data, and conditions, which denote a
truth value in three-valued logic. An expression is evaluated over a row of the database with both
sorts kept apart: an operator whose sides are of the wrong sort is stuck. Both evaluations leave the
operators on data to an interpretation.

The evaluation of predicates does not look at what a unary node records about its operand, nor at
the position of a boolean field. So the main statement, `compile_preserves_truth`, says that the
compiler chooses the right negation and compares a boolean field with true exactly where a condition
is needed.
-/

namespace EntitySql

/-! ## Truth and interpretations -/

/-- A truth value of SQL. -/
inductive Truth where
  | holds
  | fails
  | unknown
  deriving DecidableEq, Repr

namespace Truth

/-- Both hold. -/
def and : Truth → Truth → Truth
  | holds, t => t
  | fails, _ => fails
  | unknown, fails => fails
  | unknown, _ => unknown

/-- One of both holds. -/
def or : Truth → Truth → Truth
  | holds, _ => holds
  | fails, t => t
  | unknown, holds => holds
  | unknown, _ => unknown

/-- It fails. -/
def not : Truth → Truth
  | holds => fails
  | fails => holds
  | unknown => unknown

end Truth

/-- The operator combines two values to a value. -/
def Operator.isValueOperator : Operator → Bool
  | add | subtract | multiply | divide | modulo | bitAnd | bitOr | bitXor => true
  | _ => false

/-- What constants and operators mean over a domain of data. -/
structure Interpretation (D : Type) where
  constant : Value → D
  binary : Operator → D → D → D
  unary : Operator → D → D
  compare : Operator → D → D → Truth
  like : Operator → D → D → Truth
  /-- The truth of the data in a boolean column. -/
  truth : D → Truth
  /-- A boolean column is compared with true to test it. -/
  compare_true : ∀ d, compare .equal d (constant (.bool true)) = truth d
  /-- The absent value is neither true nor false. -/
  truth_null : truth (constant .null) = .unknown

variable {D : Type}

/-! ## Expressions -/

/-- What an expression denotes: data or a truth value. -/
inductive Meaning (D : Type) where
  | value (data : D)
  | truth (truth : Truth)

namespace Interpretation

variable (I : Interpretation D)

/-- The meaning of a node with two sides: values are combined, compared or matched, and truth values
are joined. -/
def joined (op : Operator) : Meaning D → Meaning D → Option (Meaning D)
  | .value a, .value b =>
    if op.isValueOperator then some (.value (I.binary op a b))
    else if op.isComparison then some (.truth (I.compare op a b))
    else if op.isStringMatch then some (.truth (I.like op a b))
    else none
  | .truth s, .truth t =>
    match op with
    | .and => some (.truth (s.and t))
    | .or => some (.truth (s.or t))
    | _ => none
  | _, _ => none

/-- The meaning of a node without a left side: a logical negation takes a truth value, and the other
ones take a value. -/
def prefixed (op : Operator) (logical : Bool) : Meaning D → Option (Meaning D)
  | .value a =>
    match op, logical with
    | .not, false => some (.value (I.unary .not a))
    | .negate, _ => some (.value (I.unary .negate a))
    | _, _ => none
  | .truth t =>
    match op, logical with
    | .not, true => some (.truth t.not)
    | _, _ => none

end Interpretation

namespace Expression

/-- The meaning of an expression over a row; there is none when a side is of the wrong sort. -/
def eval (I : Interpretation D) (row : String → D) : Expression → Option (Meaning D)
  | absent => none
  | column name => some (.value (row name))
  | literal value => some (.value (I.constant value))
  | node absent op right logical => (right.eval I row).bind (I.prefixed op logical)
  | node left op right _ =>
    match left.eval I row, right.eval I row with
    | some l, some r => I.joined op l r
    | _, _ => none

variable {I : Interpretation D} {row : String → D} {left right : Expression} {l r : Meaning D}

theorem eval_joined (hl : left.eval I row = some l) (hr : right.eval I row = some r)
    (op : Operator) (logical : Bool) :
    (node left op right logical).eval I row = I.joined op l r := by
  rw [eval, hl, hr]
  rintro rfl
  cases hl

theorem eval_prefixed (hr : right.eval I row = some r) (op : Operator) (logical : Bool) :
    (node absent op right logical).eval I row = I.prefixed op logical r := by
  rw [eval, hr, Option.bind_some]

end Expression

/-! ## Predicates -/

namespace Predicate

/-- A predicate that the builders make of values: fields, constants, operators on values, and the
negation of every bit of a value that is no truth value. -/
inductive IsValue : Predicate → Prop where
  | field (handle : Handle) : IsValue (.field handle)
  | constant (value : Value) : IsValue (.constant value)
  | binary {op : Operator} {left right : Predicate} (hop : op.isValueOperator = true)
      (hl : IsValue left) (hr : IsValue right) : IsValue (.binary op left right)
  | neg {operand : Predicate} (h : IsValue operand) : IsValue operand.neg
  | complement {operand : Predicate} (htype : operand.type ≠ .boolean) (h : IsValue operand) :
      IsValue operand.not

/-- A predicate that the builders make of conditions: boolean fields, comparisons and string matches
of values, and what AND, OR and NOT make of these. -/
inductive IsCondition : Predicate → Prop where
  | isTrue {handle : Handle} (htype : handle.type = .boolean) : IsCondition (.field handle)
  | compare {op : Operator} {left right : Predicate} (hop : op.isComparison = true)
      (hl : IsValue left) (hr : IsValue right) : IsCondition (.binary op left right)
  | stringMatch {op : Operator} {method : String} {argument : Predicate} (handle : Handle)
      (hmethod : Operator.ofMethod? method = some op) (hop : op.isStringMatch = true)
      (h : IsValue argument) : IsCondition ((Predicate.field handle).method method argument)
  | and {left right : Predicate} (hl : IsCondition left) (hr : IsCondition right) :
      IsCondition (left.and right)
  | or {left right : Predicate} (hl : IsCondition left) (hr : IsCondition right) :
      IsCondition (left.or right)
  | not {operand : Predicate} (h : IsCondition operand) : IsCondition operand.not

mutual

/-- The names of the fields in the tree. -/
def fieldNames : Predicate → List String
  | binary _ left right => left.fieldNames ++ right.fieldNames
  | unary _ operand _ => operand.fieldNames
  | call target _ arguments => targetFields target ++ argumentFields arguments
  | field handle => [handle.field]
  | constant _ => []

/-- The names of the fields in the target of a call. -/
def targetFields : Option Predicate → List String
  | none => []
  | some target => target.fieldNames

/-- The names of the fields in the arguments of a call. -/
def argumentFields : List Predicate → List String
  | [] => []
  | argument :: rest => argument.fieldNames ++ argumentFields rest

end

/-- Every field of the tree has a column. -/
def IsMapped (p : Predicate) (columns : Resolver) : Prop :=
  ∀ name ∈ p.fieldNames, ∃ column, columns name = some column

/-- The data that a value denotes over the data of the fields. -/
def value? (I : Interpretation D) (fields : String → D) : Predicate → Option D
  | field handle => some (fields handle.field)
  | constant value => some (I.constant value)
  | binary op left right =>
    if op.isValueOperator then
      match left.value? I fields, right.value? I fields with
      | some a, some b => some (I.binary op a b)
      | _, _ => none
    else none
  | unary .not operand _ => (operand.value? I fields).map (I.unary .not)
  | unary .negate operand _ => (operand.value? I fields).map (I.unary .negate)
  | _ => none

/-- The truth value that a condition denotes over the data of the fields. -/
def truth? (I : Interpretation D) (fields : String → D) : Predicate → Option Truth
  | field handle =>
    if handle.type = .boolean then some (I.truth (fields handle.field)) else none
  | binary .and left right =>
    match left.truth? I fields, right.truth? I fields with
    | some s, some t => some (s.and t)
    | _, _ => none
  | binary .or left right =>
    match left.truth? I fields, right.truth? I fields with
    | some s, some t => some (s.or t)
    | _, _ => none
  | binary op left right =>
    if op.isComparison then
      match left.value? I fields, right.value? I fields with
      | some a, some b => some (I.compare op a b)
      | _, _ => none
    else none
  | unary .not operand _ => (operand.truth? I fields).map Truth.not
  | call (some (field handle)) method [argument] =>
    match Operator.ofMethod? method, argument.value? I fields with
    | some op, some b =>
      if op.isStringMatch then some (I.like op (fields handle.field) b) else none
    | _, _ => none
  | _ => none

/-- Every condition that the builders make has the type of truth values, so its negation is logical
and no other one is. -/
theorem IsCondition.isBoolean {p : Predicate} (h : p.IsCondition) : p.isBoolean = true := by
  rw [Predicate.isBoolean, beq_iff_eq]
  induction h with
  | isTrue htype => exact htype
  | compare hop hl hr => simp [type, hop]
  | stringMatch handle hmethod hop h =>
      rename_i op method argument
      have hclass : Operator.methodClass method = .boolean := by
        rw [Operator.methodClass, hmethod]
        cases op <;> first | rfl | cases hop
      exact hclass
  | and hl hr ihl ihr => rfl
  | or hl hr ihl ihr => rfl
  | not h ih => exact ih

/-! ## Compilation -/

variable {I : Interpretation D} {columns : Resolver} {fields row : String → D}

/-- The sides of a node are mapped when the node is. -/
theorem IsMapped.binary {op : Operator} {left right : Predicate}
    (h : (binary op left right).IsMapped columns) :
    left.IsMapped columns ∧ right.IsMapped columns :=
  ⟨fun name hname => h name (List.mem_append_left _ hname),
    fun name hname => h name (List.mem_append_right _ hname)⟩

/-- A value compiles as an operand to an expression that denotes the same data. -/
theorem IsValue.compiles {p : Predicate} (h : p.IsValue) (hmapped : p.IsMapped columns)
    (hrow : ∀ name column, columns name = some column → row column = fields name) :
    ∃ e d, Compiles columns false p e ∧ p.value? I fields = some d ∧
      e.eval I row = some (.value d) := by
  induction h with
  | field handle =>
      rcases hmapped handle.field List.mem_cons_self with ⟨column, hcolumn⟩
      refine ⟨.column column, fields handle.field, Compiles.column rfl hcolumn, rfl, ?_⟩
      rw [Expression.eval, hrow _ _ hcolumn]
  | constant value => exact ⟨.literal value, I.constant value, Compiles.constant, rfl, rfl⟩
  | @binary op left right hop hl hr ihl ihr =>
      rcases hmapped.binary with ⟨hmappedLeft, hmappedRight⟩
      rcases ihl hmappedLeft with ⟨l, a, hcl, hvl, hel⟩
      rcases ihr hmappedRight with ⟨r, b, hcr, hvr, her⟩
      have hplain : op.isLogical = false := by cases op <;> first | rfl | cases hop
      refine ⟨.node l op r false, I.binary op a b, ?_, ?_, ?_⟩
      · exact Compiles.binary (hplain ▸ hcl) (hplain ▸ hcr)
      · rw [value?, if_pos hop, hvl, hvr]
      · rw [Expression.eval_joined hel her, Interpretation.joined, if_pos hop]
  | neg h ih =>
      rcases ih hmapped with ⟨r, a, hcr, hvr, her⟩
      refine ⟨.node .absent .negate r false, I.unary .negate a, Compiles.unary hcr, ?_, ?_⟩
      · rw [Predicate.neg, value?, hvr, Option.map_some]
      · exact Expression.eval_prefixed her .negate false
  | @complement operand htype h ih =>
      rcases ih hmapped with ⟨r, a, hcr, hvr, her⟩
      -- the builder negates the bits, since the operand is no truth value
      have hplain : operand.isBoolean = false := by
        rw [Predicate.isBoolean, beq_eq_false_iff_ne]
        exact htype
      refine ⟨.node .absent .not r false, I.unary .not a, ?_, ?_, ?_⟩
      · rw [Predicate.not, hplain]
        exact Compiles.unary hcr
      · rw [Predicate.not, value?, hvr, Option.map_some]
      · exact Expression.eval_prefixed her .not false

/-- A condition compiles in a logical position to an expression that denotes the same truth value.
-/
theorem IsCondition.compiles {p : Predicate} (h : p.IsCondition) (hmapped : p.IsMapped columns)
    (hrow : ∀ name column, columns name = some column → row column = fields name) :
    ∃ e t, Compiles columns true p e ∧ p.truth? I fields = some t ∧
      e.eval I row = some (.truth t) := by
  induction h with
  | @isTrue handle htype =>
      rcases hmapped handle.field List.mem_cons_self with ⟨column, hcolumn⟩
      refine ⟨_, I.truth (fields handle.field), Compiles.isTrue htype hcolumn, ?_, ?_⟩
      · rw [truth?, if_pos htype]
      -- the comparison with true is the truth of the column
      · rw [@Expression.eval_joined _ _ _ _ _ (.value (row column))
          (.value (I.constant (.bool true))) rfl rfl, hrow _ _ hcolumn, ← I.compare_true]
        rfl
  | @compare op left right hop hl hr =>
      rcases hmapped.binary with ⟨hmappedLeft, hmappedRight⟩
      rcases hl.compiles (I := I) hmappedLeft hrow with ⟨l, a, hcl, hvl, hel⟩
      rcases hr.compiles (I := I) hmappedRight hrow with ⟨r, b, hcr, hvr, her⟩
      have hplain : op.isLogical = false := by cases op <;> first | rfl | cases hop
      have hvalue : op.isValueOperator = false := by cases op <;> first | rfl | cases hop
      refine ⟨.node l op r false, I.compare op a b, ?_, ?_, ?_⟩
      · exact Compiles.binary (hplain ▸ hcl) (hplain ▸ hcr)
      · rw [truth?, if_pos hop, hvl, hvr]
        · rintro rfl
          cases hop
        · rintro rfl
          cases hop
      · rw [Expression.eval_joined hel her, Interpretation.joined, hvalue, hop]
        rfl
  | @stringMatch op method argument handle hmethod hop h =>
      have hfield : handle.field ∈
          ((Predicate.field handle).method method argument).fieldNames := List.mem_cons_self
      have hargument : argument.IsMapped columns := by
        intro name hname
        refine hmapped name (List.mem_append_right [handle.field] ?_)
        rwa [argumentFields, argumentFields, List.append_nil]
      rcases hmapped handle.field hfield with ⟨column, hcolumn⟩
      rcases h.compiles (I := I) hargument hrow with ⟨r, b, hcr, hvr, her⟩
      have hvalue : op.isValueOperator = false := by cases op <;> first | rfl | cases hop
      have hcompare : op.isComparison = false := by cases op <;> first | rfl | cases hop
      refine ⟨.node (.column column) op r false, I.like op (fields handle.field) b,
        Compiles.call hmethod hcolumn hcr, ?_, ?_⟩
      · rw [Predicate.method, truth?, hmethod, hvr]
        exact if_pos hop
      · have hleft : (Expression.column column).eval I row =
            some (.value (fields handle.field)) := by
          rw [Expression.eval, hrow _ _ hcolumn]
        rw [Expression.eval_joined hleft her, Interpretation.joined, hvalue, hcompare, hop]
        rfl
  | and hl hr ihl ihr =>
      rcases hmapped.binary with ⟨hmappedLeft, hmappedRight⟩
      rcases ihl hmappedLeft with ⟨l, s, hcl, htl, hel⟩
      rcases ihr hmappedRight with ⟨r, t, hcr, htr, her⟩
      refine ⟨.node l .and r false, s.and t, Compiles.binary hcl hcr, ?_, ?_⟩
      · rw [Predicate.and, truth?, htl, htr]
      · exact Expression.eval_joined hel her .and false
  | or hl hr ihl ihr =>
      rcases hmapped.binary with ⟨hmappedLeft, hmappedRight⟩
      rcases ihl hmappedLeft with ⟨l, s, hcl, htl, hel⟩
      rcases ihr hmappedRight with ⟨r, t, hcr, htr, her⟩
      refine ⟨.node l .or r false, s.or t, Compiles.binary hcl hcr, ?_, ?_⟩
      · rw [Predicate.or, truth?, htl, htr]
      · exact Expression.eval_joined hel her .or false
  | @not operand h ih =>
      rcases ih hmapped with ⟨r, t, hcr, htr, her⟩
      refine ⟨.node .absent .not r true, t.not, ?_, ?_, ?_⟩
      -- the operand is a truth value, so the compiler takes it in a logical position
      · rw [Predicate.not, h.isBoolean]
        exact Compiles.unary hcr
      · rw [Predicate.not, truth?, htr, Option.map_some]
      · exact Expression.eval_prefixed her .not true

/-- An operand stands for one expression. -/
theorem compiles_unique {condition : Bool} {p : Predicate} {e e' : Expression}
    (h : Compiles columns condition p e) (h' : Compiles columns condition p e') : e = e' :=
  Except.ok.inj ((operand_of_compiles h 1).symm.trans (operand_of_compiles h' 1))

/-- What denotes a truth value is a node. -/
theorem isNode_of_eval {e : Expression} {t : Truth} (h : e.eval I row = some (.truth t)) :
    e.isNode = true := by
  cases e with
  | node left op right logical => rfl
  | absent => cases h
  | column name => cases h
  | literal value => cases h

end Predicate

/-- A condition over mapped fields denotes a truth value; without a limit it is compiled, and
whatever it is compiled to denotes the same truth value over every row that holds the data of the
fields. -/
theorem compile_preserves_truth (I : Interpretation D) {p : Predicate} (h : p.IsCondition)
    {columns : Resolver} (hmapped : p.IsMapped columns) {fields row : String → D}
    (hrow : ∀ name column, columns name = some column → row column = fields name) :
    ∃ t, p.truth? I fields = some t ∧
      (∃ e, p.compile columns none = .ok e) ∧
      ∀ limit e, p.compile columns limit = .ok e → e.eval I row = some (.truth t) := by
  rcases h.compiles (I := I) hmapped hrow with ⟨e, t, hcompiles, htruth, heval⟩
  refine ⟨t, htruth, ⟨e, Predicate.compile_of_compiles hcompiles ?_⟩, ?_⟩
  · exact Predicate.isNode_of_eval heval
  · intro limit e' he'
    -- a limit may refuse the predicate, but it does not change the expression
    have hsame : e = e' :=
      Predicate.compiles_unique hcompiles (Predicate.compiles_of_compile he').1
    rw [← hsame]
    exact heval

/-- Whole numbers with an absent one. Texts are not in this domain, so string matches are unknown.
-/
def Interpretation.integers : Interpretation (Option Int) where
  constant
    | .bool b => some (if b then 1 else 0)
    | .int n => some n.toInt
    | .uint n => some n.toNat
    | _ => none
  binary
    | .add, some a, some b => some (a + b)
    | .subtract, some a, some b => some (a - b)
    | .multiply, some a, some b => some (a * b)
    | _, _, _ => none
  unary
    | .not, some a => some (-a - 1)
    | .negate, some a => some (-a)
    | _, _ => none
  compare
    | .equal, some a, some b => if a = b then .holds else .fails
    | .notEqual, some a, some b => if a = b then .fails else .holds
    | .greater, some a, some b => if b < a then .holds else .fails
    | .greaterEqual, some a, some b => if b ≤ a then .holds else .fails
    | .less, some a, some b => if a < b then .holds else .fails
    | .lessEqual, some a, some b => if a ≤ b then .holds else .fails
    | _, _, _ => .unknown
  like _ _ _ := .unknown
  truth
    | some a => if a = 1 then .holds else .fails
    | none => .unknown
  compare_true := by
    intro d
    cases d <;> rfl
  truth_null := rfl

/-- Both negations in one condition: `NOT` of a boolean field and `~` of a number. -/
theorem compile_preserves_truth_integers :
    let columns := Resolver.ofPairs [("active", "Is]Active"), ("age", "Age")]
    let row : String → Option Int := fun column => if column = "Age" then some (-10) else some 0
    let p := (Predicate.field ⟨"active", .boolean⟩).not.and
      (.gt (Predicate.field ⟨"age", .integer⟩).not (.constant (.int 5)))
    p.IsCondition ∧ p.IsMapped columns ∧
      p.truth? .integers (fun name => row ((columns name).getD "")) = some .holds ∧
      ∃ e, p.compile columns none = .ok e ∧ e.eval .integers row = some (.truth .holds) := by
  intro columns row p
  have hcondition : p.IsCondition := by
    refine .and (.not (.isTrue rfl)) (.compare rfl (.complement ?_ (.field _)) (.constant _))
    decide
  have hmapped : p.IsMapped columns := by
    intro name hname
    simp only [p, Predicate.and, Predicate.gt, Predicate.not, Predicate.fieldNames, List.mem_append,
      List.mem_singleton, List.not_mem_nil, or_false] at hname
    rcases hname with rfl | rfl
    · exact ⟨"Is]Active", rfl⟩
    · exact ⟨"Age", rfl⟩
  have hrow : ∀ name column, columns name = some column →
      row column = row ((columns name).getD "") := by
    intro name column hcolumn
    rw [hcolumn]
    rfl
  obtain ⟨t, htruth, ⟨e, he⟩, heval⟩ :=
    compile_preserves_truth .integers hcondition hmapped hrow
  have hholds : p.truth? .integers (fun name => row ((columns name).getD "")) = some .holds := by
    decide
  obtain rfl : t = .holds := Option.some.inj (htruth.symm.trans hholds)
  exact ⟨hcondition, hmapped, hholds, e, he, heval none e he⟩

end EntitySql
