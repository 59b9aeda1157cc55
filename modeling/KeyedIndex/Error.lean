import KeyedIndex.Group.Basic
import KeyedIndex.Query.Basic
import KeyedIndex.Schema.Layout
import KeyedIndex.Settings.Basic

/-!
Errors of an index. Each is of a kind, which gives its message and says whether the
storage or the request is to blame.

In the source, `IndexError` (`Error`, where `is_io` is `ErrorKind.isStorage`), with the error of
identifiers and of settings, `TypesError`, beside it.
-/
namespace KeyedIndex

inductive ErrorKind where
  | engine
  | storage
  | query
  | execution
  | write
  | writerClosed
  | schemaMismatch
  | invalidSchema
  | serialization
  | settings
  | input
deriving DecidableEq, Repr

/-- The message of an error of a kind, with the key that it is about and its reason. -/
def ErrorKind.message (kind : ErrorKind) (key reason : String) : String :=
  match kind with
  | .engine => "Tantivy error: " ++ reason
  | .storage => "IO error: " ++ reason
  | .query => "Query parse error: " ++ reason
  | .execution => "Query execution failed: " ++ reason
  | .write => "Write failed for " ++ key ++ ": " ++ reason
  | .writerClosed => "Index writer is closed"
  | .schemaMismatch => "Schema mismatch: " ++ reason
  | .invalidSchema => "Invalid schema: " ++ reason
  | .serialization => "Serialization error: " ++ reason
  | .settings => "Configuration error: " ++ reason
  | .input => "Invalid input: " ++ reason

/-- Whether an error comes from the storage or the engine, and not from an invalid request. -/
def ErrorKind.isStorage (kind : ErrorKind) : Bool :=
  kind ∉ [.query, .invalidSchema, .settings, .input]

inductive Error where
  /-- The engine refuses; its reasons are its own. -/
  | engine
  | storage
  | query (fault : QueryFault)
  | execution
  | write (key : String)
  | writerClosed
  | schemaMismatch (fault : MismatchFault)
  | invalidSchema (fault : SchemaFault)
  | serialization
  | settings (fault : SettingsFault)
  | input (fault : InputFault)
deriving DecidableEq

def Error.kind : Error → ErrorKind
  | .engine => .engine
  | .storage => .storage
  | .query _ => .query
  | .execution => .execution
  | .write _ => .write
  | .writerClosed => .writerClosed
  | .schemaMismatch _ => .schemaMismatch
  | .invalidSchema _ => .invalidSchema
  | .serialization => .serialization
  | .settings _ => .settings
  | .input _ => .input

/-- The reason of an error, as far as it is not the engine's own. -/
def Error.reason : Error → String
  | .query fault => fault.reason
  | .schemaMismatch fault => fault.reason
  | .invalidSchema fault => fault.reason
  | .settings fault => fault.reason
  | .input fault => fault.reason
  | .engine | .storage | .execution | .write _ | .writerClosed | .serialization => ""

def Error.key : Error → String
  | .write key => key
  | _ => ""

def Error.message (error : Error) : String := error.kind.message error.key error.reason

end KeyedIndex
