import TypedSql.Value
/-!
# Errors

What can go wrong when a statement is built, when a value is read from a row and when a statement
is executed, and the message of each case.

## Main definitions

- `QueryError`: a statement that cannot be built or whose parameters cannot be filled.
- `DecodeError`: a value that cannot be read as the type asked for.
- `ExecError`: an execution that fails.
-/

namespace TypedSql

/-- A statement that cannot be built, or whose parameters cannot be filled. -/
inductive QueryError where
  | emptyInList
  | whereAlreadySet
  | havingAlreadySet
  | invalidTop
  | missingFrom
  | noSelectFields
  | updateTableInFrom (table : String)
  | emptyTableName
  | emptySetList (statement : String)
  | unboundParameter (slot : Nat)
deriving DecidableEq, Repr

/-- The wording of the error. -/
def QueryError.message : QueryError → String
  | emptyInList => "IN list must contain at least one item"
  | whereAlreadySet => "WHERE condition has already been set on this query"
  | havingAlreadySet => "HAVING condition has already been set on this query"
  | invalidTop => "TOP must be greater than zero"
  | missingFrom => "query has no FROM table"
  | noSelectFields => "SELECT must read at least one field"
  | updateTableInFrom table =>
    "table '" ++ table ++ "' is the UPDATE target and cannot appear in its FROM list"
  | emptyTableName => "table name must not be empty"
  | emptySetList statement => statement ++ " requires at least one column assignment"
  | unboundParameter slot =>
    "parameter slot " ++ toString slot ++ " has no value; use the prepared query API"

/-- A value that cannot be read as the type asked for. -/
inductive DecodeError where
  | typeMismatch (ordinal : Nat) (expected : SqlType) (found : String)
  | outOfRange (ordinal : Nat) (expected : SqlType) (value : Int)
  | unknownEnumValue (typeName : String) (value : Int)
  | columnOutOfRange (ordinal : Nat) (fieldCount : Nat)
  | noCurrentRow
deriving DecidableEq, Repr

namespace DecodeError

/-- The wording of the error. -/
def message : DecodeError → String
  | typeMismatch ordinal expected found =>
    "column " ++ toString ordinal ++ ": expected " ++ expected.name ++ ", found " ++ found
  | outOfRange ordinal expected value =>
    "column " ++ toString ordinal ++ ": value " ++ toString value ++ " is out of range for "
      ++ expected.name
  | unknownEnumValue typeName value => "value " ++ toString value ++ " is not a valid " ++ typeName
  | columnOutOfRange ordinal fieldCount =>
    "column ordinal " ++ toString ordinal ++ " is out of range (row has " ++ toString fieldCount
      ++ " columns)"
  | noCurrentRow => "cursor is not positioned on a row"

/-- The error as it is reported for a column; only type and range errors name one. -/
def atOrdinal (ordinal : Nat) : DecodeError → DecodeError
  | typeMismatch _ expected found => typeMismatch ordinal expected found
  | outOfRange _ expected value => outOfRange ordinal expected value
  | other => other

end DecodeError

/-- An execution that fails. -/
inductive ExecError where
  | query (error : QueryError)
  | decode (error : DecodeError)
  | connection (text : String)
  | database (text : String)
  | timeout
  | multipleRows
  | noRows
  | transactionDatabaseMismatch (bound requested : String)
  | transactionCompleted
deriving DecidableEq, Repr

/-- The wording of the error. -/
def ExecError.message : ExecError → String
  | query error => "query error: " ++ error.message
  | decode error => "decode error: " ++ error.message
  | connection text => "connection error: " ++ text
  | database text => "database error: " ++ text
  | timeout => "command timed out"
  | multipleRows => "query returned more than one row when at most one was expected"
  | noRows => "query returned no rows when exactly one was expected"
  | transactionDatabaseMismatch bound requested =>
    "transaction is bound to database '" ++ bound ++ "' and cannot be used with '" ++ requested
      ++ "'"
  | transactionCompleted => "transaction has already been completed"

end TypedSql
