import KeyedIndex.Document.Basic
import KeyedIndex.Number.Integer
import KeyedIndex.Query.Basic
import KeyedIndex.Text.Lowercase
import KeyedIndex.Time.Instant

/-!
From predicates to queries. A leaf becomes terms in the column of its field, in the
form in which the values of the field are indexed; a node becomes the clauses of its
children. A negation stands among the clauses of its parent if that is a conjunction,
and everything stands beside negative clauses that would be alone.

In the source, `QueryCompiler`: `compile` (`Binding.compile`), `compile_and` (`conjunction` of
`compileConjuncts`), `compile_or` (`compileDisjuncts`), `compile_leaf` (`Binding.leafQuery` and
`Binding.valueQuery`), `full_text` (`Binding.fullTextQuery`), `key_query` (`Binding.keyQuery`)
and `parse_timestamp` (`readTimestamp?`).
-/
namespace KeyedIndex

/-- The milliseconds that a text stands for: an integer, or a date with time and offset. -/
def readTimestamp? (text : String) : Option Int :=
  match Number.int64.read? text with
  | some millis => some millis
  | none => Time.Rfc3339.millis? text

variable {α κ : Type}

/-- The query of a text in a column: all its terms must be there. -/
def termsQuery (column : Nat) : List String → Query
  | [term] => .term ⟨column, .text term⟩
  | terms => .combine (terms.map (fun term => (.must, .term ⟨column, .text term⟩)))

/-- A full-text value must have terms, as the column in the layout has them. -/
def Binding.fullTextQuery (binding : Binding α) (field : Field α) (value : String) :
    Except QueryFault Query :=
  let column := binding.column field
  match binding.layout.type? column with
  | some (.text analysis) =>
    match analysis.terms value with
    | [] => .error (.noTerms field.name value)
    | terms => .ok (termsQuery column terms)
  | _ => .error (.noWords field.name)

/-- The query of a value that is not empty. -/
def Binding.valueQuery (binding : Binding α) (field : Field α) (operator : Operator)
    (value : String) : Except QueryFault Query :=
  let column := binding.column field
  let numberQuery (number : Int) : Query := .term ⟨column, .number (Int64.ofInt number)⟩
  match field.kind, operator with
  | .exact, .equals => .ok (.term ⟨column, .text value⟩)
  | .exact, .startsWith => .ok (.startsWith column value)
  | .prefixed, .equals => .ok (.term ⟨column, .text (Text.lower value)⟩)
  | .prefixed, .startsWith => .ok (.startsWith column (Text.lower value))
  | .fullText, .contains => binding.fullTextQuery field value
  | .integer, .equals =>
    match Number.int64.read? value with
    | some number => .ok (numberQuery number)
    | none => .error (.notAnInteger field.name value)
  | .timestamp, .equals =>
    match readTimestamp? value with
    | some millis => .ok (numberQuery millis)
    | none => .error (.notATimestamp field.name value)
  | kind, operator => .error (.unsupported operator kind field.name)

def Binding.leafQuery (binding : Binding α) (leaf : Leaf α) : Except QueryFault Query :=
  match binding.schema.field? leaf.field with
  | none => .error (.unknownField leaf.field)
  | some field =>
    if leaf.value = "" then .error (.emptyValue field.name)
    else binding.valueQuery field leaf.operator leaf.value

/-- The complement of a query. -/
def Query.complement (query : Query) : Query :=
  .combine [(.must, .everything), (.mustNot, query)]

/-- The clauses of a conjunction, with a positive one among them. -/
def conjunction (clauses : List (Occur × Query)) : Query :=
  if clauses.any (fun clause => clause.1 = .must) then .combine clauses
  else .combine (clauses ++ [(.must, .everything)])

mutual
/-- The query of a predicate, or the fault of its first faulty leaf. -/
def Binding.compile (binding : Binding α) : Predicate α → Except QueryFault Query
  | .any => .ok .everything
  | .leaf condition => binding.leafQuery condition
  | .and [] => .ok .everything
  | .and [only] => binding.compile only
  | .and children => (compileConjuncts binding children).map conjunction
  | .or [] => .ok .nothing
  | .or [only] => binding.compile only
  | .or children => (compileDisjuncts binding children).map .combine
  | .not child => (binding.compile child).map Query.complement

/-- The clauses of the children of a conjunction. -/
def compileConjuncts (binding : Binding α) :
    List (Predicate α) → Except QueryFault (List (Occur × Query))
  | [] => .ok []
  | .not inner :: rest => do
    let query ← binding.compile inner
    return (.mustNot, query) :: (← compileConjuncts binding rest)
  | child :: rest => do
    let query ← binding.compile child
    return (.must, query) :: (← compileConjuncts binding rest)

/-- The clauses of the children of a disjunction. -/
def compileDisjuncts (binding : Binding α) :
    List (Predicate α) → Except QueryFault (List (Occur × Query))
  | [] => .ok []
  | child :: rest => do
    let query ← binding.compile child
    return (.should, query) :: (← compileDisjuncts binding rest)
end

/-- The query of one key, which needs no predicate. -/
def Binding.keyQuery [Key κ] (binding : Binding α) (key : κ) : Query :=
  .term (binding.keyTerm key)

end KeyedIndex
