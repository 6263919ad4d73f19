import TypedSql.Execution.Transaction
import TypedSql.Inspect
/-!
# Diagnostics of executions

What timeouts, databases and transactions look like in diagnostics.

## Main definitions

- `Timeout.inspect`, `Database.inspect`, `Transaction.inspect`.
-/

namespace TypedSql

namespace Timeout

/-- The digits of thousandths without the zeros at their end. -/
def thousandths (n : Nat) : String :=
  let digits := [n / 100, n / 10 % 10, n % 10].map Nat.digitChar
  String.ofList (digits.reverse.dropWhile (· = '0')).reverse

/-- The time in the greatest unit that it reaches. -/
def inspect (t : Timeout) : String :=
  if t.millis = 0 then "0ns"
  else if t.millis < 1000 then toString t.millis ++ "ms"
  else if t.millis % 1000 = 0 then toString (t.millis / 1000) ++ "s"
  else toString (t.millis / 1000) ++ "." ++ thousandths (t.millis % 1000) ++ "s"

end Timeout

/-- A database with its settings; what it connects to is left out. -/
def Database.inspect (db : Database) : String :=
  let timeout := db.timeout?.elim "None" fun t => "Some(" ++ t.inspect ++ ")"
  "Database \x7b name: " ++ Quoted.text db.name ++ ", default_timeout: " ++ timeout
    ++ ", events: " ++ toString db.observer?.isSome ++ ", .. \x7d"

/-- A transaction with the name of its state. -/
def Transaction.inspect {κ : Type} (t : Transaction κ) : String :=
  inspectFields "Transaction"
    [("isolation", t.isolation.name), ("state", Quoted.text t.state.name)]

end TypedSql
