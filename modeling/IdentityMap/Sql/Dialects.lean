import IdentityMap.Sql.Dialect
/-!
# The built-in dialects
-/

namespace IdentityMap.Sql

/-- A type name with its length, or the name for unlimited length. -/
def sized (base : String) (limit : Option Nat) (unlimited : String) : String :=
  match limit with
  | some limit => base ++ "(" ++ toString limit ++ ")"
  | none => unlimited

def scaled (base : String) (precision scale : Nat) : String :=
  base ++ "(" ++ toString precision ++ "," ++ toString scale ++ ")"

namespace Dialect

def ansiType : ScalarType → Option String
  | .boolean => some "BOOLEAN"
  | .tinyInt | .smallInt => some "SMALLINT"
  | .integer => some "INTEGER"
  | .bigInt => some "BIGINT"
  | .float => some "REAL"
  | .double => some "DOUBLE PRECISION"
  | .decimal precision scale => some (scaled "DECIMAL" precision scale)
  | .string limit => some (sized "VARCHAR" limit "CLOB")
  | .binary limit => some (sized "VARBINARY" limit "BLOB")
  | .date => some "DATE"
  | .time => some "TIME"
  | .dateTime => some "TIMESTAMP"
  | .other _ => none

def ansiKey (type : ScalarType) : String :=
  (ansiType type).getD "INTEGER" ++ " GENERATED BY DEFAULT AS IDENTITY PRIMARY KEY"

def ansi : Dialect where
  name := "ansi"
  nativeType := ansiType
  generatedKey name type := Quoting.double.quote name ++ " " ++ ansiKey type

def postgresType : ScalarType → Option String
  | .boolean => some "BOOLEAN"
  | .tinyInt | .smallInt => some "SMALLINT"
  | .integer => some "INTEGER"
  | .bigInt => some "BIGINT"
  | .float => some "REAL"
  | .double => some "DOUBLE PRECISION"
  | .decimal precision scale => some (scaled "NUMERIC" precision scale)
  | .string limit => some (sized "VARCHAR" limit "TEXT")
  | .binary _ => some "BYTEA"
  | .date => some "DATE"
  | .time => some "TIME"
  | .dateTime => some "TIMESTAMP"
  | .other _ => none

/-- The type of a key that counts by itself. -/
def serialType : ScalarType → String
  | .bigInt => "BIGSERIAL"
  | .tinyInt | .smallInt => "SMALLSERIAL"
  | _ => "SERIAL"

def postgresKey (type : ScalarType) : String := serialType type ++ " PRIMARY KEY"

def postgres : Dialect where
  name := "postgres"
  placeholder := .numbered "$"
  nativeType := postgresType
  generatedKey name type := Quoting.double.quote name ++ " " ++ postgresKey type
  returnsKey := true
  maxParams := 65535

def mySqlType : ScalarType → Option String
  | .boolean => some "TINYINT(1)"
  | .tinyInt => some "TINYINT"
  | .smallInt => some "SMALLINT"
  | .integer => some "INT"
  | .bigInt => some "BIGINT"
  | .float => some "FLOAT"
  | .double => some "DOUBLE"
  | .decimal precision scale => some (scaled "DECIMAL" precision scale)
  | .string limit => some (sized "VARCHAR" limit "TEXT")
  | .binary limit => some (sized "VARBINARY" limit "BLOB")
  | .date => some "DATE"
  | .time => some "TIME"
  | .dateTime => some "DATETIME"
  | .other _ => none

def mySqlKey (type : ScalarType) : String :=
  (mySqlType type).getD "INT" ++ " NOT NULL AUTO_INCREMENT PRIMARY KEY"

def mySql : Dialect where
  name := "mysql"
  quoting := .graves
  nativeType := mySqlType
  generatedKey name type := Quoting.graves.quote name ++ " " ++ mySqlKey type
  emptyInsert := .emptyLists
  maxParams := 65535

def sqliteType : ScalarType → Option String
  | .boolean | .tinyInt | .smallInt | .integer | .bigInt => some "INTEGER"
  | .float | .double => some "REAL"
  | .decimal _ _ | .string _ => some "TEXT"
  | .binary _ => some "BLOB"
  | .date | .time | .dateTime => some "TEXT"
  | .other _ => none

def sqliteKey : String := "INTEGER PRIMARY KEY AUTOINCREMENT"

def sqlite : Dialect where
  name := "sqlite"
  nativeType := sqliteType
  generatedKey name _ := Quoting.double.quote name ++ " " ++ sqliteKey

def sqlServerType : ScalarType → Option String
  | .boolean => some "BIT"
  | .tinyInt => some "TINYINT"
  | .smallInt => some "SMALLINT"
  | .integer => some "INT"
  | .bigInt => some "BIGINT"
  | .float => some "REAL"
  | .double => some "FLOAT"
  | .decimal precision scale => some (scaled "DECIMAL" precision scale)
  | .string limit => some (sized "NVARCHAR" limit "NVARCHAR(MAX)")
  | .binary limit => some (sized "VARBINARY" limit "VARBINARY(MAX)")
  | .date => some "DATE"
  | .time => some "TIME"
  | .dateTime => some "DATETIME2"
  | .other _ => none

def sqlServerKey (type : ScalarType) : String :=
  (sqlServerType type).getD "INT" ++ " IDENTITY(1,1) PRIMARY KEY"

def sqlServer : Dialect where
  name := "sqlserver"
  quoting := .brackets
  placeholder := .numbered "@p"
  nativeType := sqlServerType
  generatedKey name type := Quoting.brackets.quote name ++ " " ++ sqlServerKey type
  tableGuard := .objectTest
  clusteredIndexes := true
  maxParams := 2100
  maxRows := some 1000

end Dialect

/-- The dialects that can be chosen by name. -/
inductive DialectKind
  | ansi
  | postgres
  | mySql
  | sqlite
  | sqlServer
deriving DecidableEq, Repr

namespace DialectKind

def dialect : DialectKind → Dialect
  | ansi => .ansi
  | postgres => .postgres
  | mySql => .mySql
  | sqlite => .sqlite
  | sqlServer => .sqlServer

def name : DialectKind → String
  | ansi => "ansi"
  | postgres => "postgres"
  | mySql => "mysql"
  | sqlite => "sqlite"
  | sqlServer => "sqlserver"

/-- The dialect with exactly this name. -/
def ofName? : String → Option DialectKind
  | "ansi" => some ansi
  | "postgres" => some postgres
  | "mysql" => some mySql
  | "sqlite" => some sqlite
  | "sqlserver" => some sqlServer
  | _ => none

@[simp] theorem ofName?_name (k : DialectKind) : ofName? k.name = some k := by
  cases k <;> rfl

/-- The dialect that a person means: letter case is passed over, and some have a second name. -/
def parse (text : String) : Except Error DialectKind :=
  let lowered := text.toLower
  let canonical :=
    if lowered = "postgresql" then "postgres"
    else if lowered = "mariadb" then "mysql"
    else if lowered = "mssql" then "sqlserver"
    else lowered
  match ofName? canonical with
  | some kind => .ok kind
  | none => .error (.config ("unknown dialect '" ++ lowered ++ "'"))

end DialectKind

end IdentityMap.Sql
