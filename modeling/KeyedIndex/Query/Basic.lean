import KeyedIndex.Document.Basic
import KeyedIndex.Predicate.Basic
import KeyedIndex.Schema.Basic
import KeyedIndex.Text.Quoted

/-!
Queries as the engine takes them, which documents they match, and why a predicate is no query.

In the source, `QueryParseError` (`QueryFault`); what a query matches is the engine's.
-/
namespace KeyedIndex

/-! ### Queries

Queries as the engine takes them: terms and beginnings of terms in a column, combined
by clauses. A combination without a clause that must hold needs one that should, so
one with negative clauses only matches nothing.
-/

inductive Occur where
  | must
  | should
  | mustNot
deriving DecidableEq, Repr

inductive Query where
  | everything
  | nothing
  | term (term : Term)
  /-- Some term of the column starts with the text. -/
  | startsWith (column : Nat) (text : String)
  | combine (clauses : List (Occur × Query))

/-! ### Matching

Which documents a query matches, told by the terms of the documents.
-/

/-- Whether clauses hold: all that must, none that must not, and one that should if there
    is none that must. -/
def clausesHold (clauses : List (Occur × Bool)) : Bool :=
  let all := fun occur truth =>
    clauses.all (fun clause => clause.1 ≠ occur || clause.2 = truth)
  let present := fun occur => clauses.any (fun clause => clause.1 = occur)
  all .must true && all .mustNot false && (present .must || clauses.any (fun clause =>
    clause.1 = .should && clause.2))

/-- Whether a term is a text of the column that starts with a text. -/
def Term.startsWith (term : Term) (column : Nat) (text : String) : Bool :=
  match term.value with
  | .text content => term.column = column && text.toList.isPrefixOf content.toList
  | .number _ => false

mutual
/-- Whether a query matches a document with the given terms. -/
def Query.matches (terms : List Term) : Query → Bool
  | .everything => true
  | .nothing => false
  | .term wanted => terms.contains wanted
  | .startsWith column text => terms.any (fun term => term.startsWith column text)
  | .combine clauses => clausesHold (clauseValues terms clauses)

def clauseValues (terms : List Term) : List (Occur × Query) → List (Occur × Bool)
  | [] => []
  | (occur, query) :: rest => (occur, query.matches terms) :: clauseValues terms rest
end

/-! ### Faults

Why a predicate is no query: what is wrong with its first faulty leaf.
-/

inductive QueryFault where
  | unknownField (field : String)
  | emptyValue (field : String)
  | unsupported (operator : Operator) (kind : FieldKind) (field : String)
  | notAnInteger (field value : String)
  | notATimestamp (field value : String)
  /-- The column of a full-text field holds numbers. -/
  | noWords (field : String)
  /-- The value of a full-text leaf has no words. -/
  | noTerms (field value : String)
deriving DecidableEq

def QueryFault.reason : QueryFault → String
  | .unknownField field => s!"unknown field: {field}"
  | .emptyValue field => s!"empty value for field {field}"
  | .unsupported operator kind field =>
    s!"operator {operator.symbol} is not supported for {kind.name} field {field}"
  | .notAnInteger field value => s!"field {field} expects an integer, got {Text.quote value}"
  | .notATimestamp field value =>
    s!"field {field} expects epoch millis or RFC 3339, got {Text.quote value}"
  | .noWords field =>
    s!"no tokenizer for {field}: Schema error: '{Text.quote field} is not a text field.'"
  | .noTerms field value => s!"no searchable terms in {Text.quote value} for field {field}"

end KeyedIndex
