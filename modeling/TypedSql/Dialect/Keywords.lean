/-!
# Reserved words

The words that a dialect reserves and that a name therefore has to be quoted for. Case does not
matter; the tables hold the upper-case spelling.

## Main definitions

- `Keywords.shared`, `Keywords.sqlServer`, `Keywords.postgres`: the tables.
- `Keywords.reserves`: whether a table reserves a word.
-/

namespace TypedSql.Keywords

/-- Reserved by both dialects. -/
def shared : List String :=
  ["ADD", "ALL", "ALTER", "AND", "ANY", "AS", "ASC", "AUTHORIZATION", "BETWEEN", "BY", "CASE",
   "CHECK", "COLUMN", "CONSTRAINT", "CREATE", "CROSS", "CURRENT_DATE", "CURRENT_TIME",
   "CURRENT_TIMESTAMP", "CURRENT_USER", "DEFAULT", "DELETE", "DESC", "DISTINCT", "DROP", "ELSE",
   "END", "EXCEPT", "EXISTS", "FOR", "FOREIGN", "FROM", "FULL", "GRANT", "GROUP", "HAVING", "IN",
   "INNER", "INSERT", "INTERSECT", "INTO", "IS", "JOIN", "LEFT", "LIKE", "NOT", "NULL", "OF",
   "ON", "OR", "ORDER", "OUTER", "PRIMARY", "REFERENCES", "RIGHT", "SELECT", "SESSION_USER",
   "SET", "SOME", "TABLE", "THEN", "TO", "UNION", "UNIQUE", "UPDATE", "USER", "USING", "VALUES",
   "WHEN", "WHERE", "WITH"]

/-- Reserved by SQL Server only. -/
def sqlServer : List String :=
  ["BACKUP", "BEGIN", "BREAK", "BROWSE", "BULK", "CLOSE", "CLUSTERED", "COMMIT", "COMPUTE",
   "CONTAINS", "CONTINUE", "CONVERT", "CURSOR", "DATABASE", "DBCC", "DEALLOCATE", "DECLARE",
   "DENY", "DISK", "DUMP", "ERRLVL", "ESCAPE", "EXEC", "EXECUTE", "EXIT", "FILE", "FILLFACTOR",
   "FUNCTION", "GOTO", "HOLDLOCK", "IDENTITY", "IF", "INDEX", "KEY", "KILL", "LINENO", "LOAD",
   "MERGE", "NOCHECK", "NONCLUSTERED", "OPEN", "OPTION", "OUTPUT", "OVER", "PERCENT", "PIVOT",
   "PLAN", "PRINT", "PROC", "PROCEDURE", "PUBLIC", "RAISERROR", "READ", "RESTORE", "RETURN",
   "REVERT", "REVOKE", "ROLLBACK", "ROWCOUNT", "RULE", "SAVE", "SCHEMA", "SHUTDOWN", "STATISTICS",
   "TOP", "TRAN", "TRANSACTION", "TRIGGER", "TRUNCATE", "UNPIVOT", "USE", "VIEW", "WAITFOR",
   "WHILE"]

/-- Reserved by PostgreSQL only. -/
def postgres : List String :=
  ["ANALYSE", "ANALYZE", "ARRAY", "ASYMMETRIC", "BOTH", "CAST", "COLLATE", "CONCURRENTLY",
   "DEFERRABLE", "DO", "FALSE", "FETCH", "FREEZE", "ILIKE", "INITIALLY", "ISNULL", "LATERAL",
   "LEADING", "LIMIT", "LOCALTIME", "LOCALTIMESTAMP", "NATURAL", "NOTNULL", "OFFSET", "ONLY",
   "OVERLAPS", "PLACING", "RETURNING", "SIMILAR", "SYMMETRIC", "TABLESAMPLE", "TRAILING", "TRUE",
   "VARIADIC", "VERBOSE", "WINDOW"]

/-- Whether a table holds the word in some letter case. -/
def reserves (table : List String) (word : String) : Bool :=
  table.contains (word.map Char.toUpper)

end TypedSql.Keywords
