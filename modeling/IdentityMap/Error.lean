import IdentityMap.Value.Key
/-!
# Errors

`Fault` lists what can be wrong with the arguments of a call, `Error` everything that a call can
fail with. Their wording is in `Fault.message` and `Error.message`, and nowhere else.
-/

namespace IdentityMap

/-- The kinds of events in an instance's life. -/
inductive EventKind
  | created
  | updated
  | deleted
deriving DecidableEq, Repr

namespace EventKind

def name : EventKind → String
  | created => "created"
  | updated => "updated"
  | deleted => "deleted"

def ofName? : String → Option EventKind
  | "created" => some created
  | "updated" => some updated
  | "deleted" => some deleted
  | _ => none

end EventKind

/-- A cause for refusing the arguments of a call. -/
inductive Fault
  | blankTypeName
  | blankTableName (entityType : String)
  | emptyFieldName (entityType : String)
  | repeatedField (entityType field : String)
  | repeatedColumn (entityType column : String)
  | noKeyField (entityType : String)
  | missingKeyField (entityType : String)
  | nullableKey (entityType field : String)
  | unsuitableKeyType (entityType field type : String)
  | generatedKeyNotInteger (entityType : String)
  | emptyIndex (entityType : String)
  | unknownIndexField (entityType index field : String)
  | unknownField (entityType field : String)
  | missingValue (entityType field : String)
  | tooLong (field : String) (limit : Nat)
  | noKeyValue (entityType field : String)
  | emptyKeyList
  | noRows
  | noInsertColumns (table : String)
  | recordCount (rows records : Nat)
  | recordWithoutKey (table : String)
  | keyFromCaller (entityType field : String)
  | keyFromStore (entityType field : String)
  | repeatedKey (entityType key : String)
  | changedKey (entityType key : String)
  | unnamedTrigger
  | unnamedType
  /-- A fault in the words of whoever found it. -/
  | stated (text : String)
deriving DecidableEq, Repr

def Fault.message : Fault → String
  | blankTypeName => "entity type name must not be empty"
  | blankTableName t => s!"{t}: table name must not be empty"
  | emptyFieldName t => s!"{t}: field and column names must not be empty"
  | repeatedField t f => s!"{t}: field '{f}' declared twice"
  | repeatedColumn t c => s!"{t}: column '{c}' declared twice"
  | noKeyField t => s!"{t}: no key field declared"
  | missingKeyField t => s!"{t}: key field missing"
  | nullableKey t f => s!"{t}: key field '{f}' must not be nullable"
  | unsuitableKeyType t f type =>
    s!"{t}: key field '{f}' has type {type}; keys must be integer, string or binary(16)"
  | generatedKeyNotInteger t => s!"{t}: generated keys require an integer key field"
  | emptyIndex t => s!"{t}: index needs a name and at least one field"
  | unknownIndexField t index f => s!"{t}: index '{index}' references unknown field '{f}'"
  | unknownField t f => s!"{t} has no field '{f}'"
  | missingValue t f => s!"{t}.{f} is not nullable"
  | tooLong f limit => s!"value for {f} exceeds {limit} characters"
  | noKeyValue t f => s!"{t} record has no value for key field '{f}'"
  | emptyKeyList => "key list must not be empty"
  | noRows => "row count must not be zero"
  | noInsertColumns table => s!"{table} has no insertable column"
  | recordCount rows records => s!"statement takes {rows} rows, got {records} records"
  | recordWithoutKey table => s!"{table} record has no key"
  | keyFromCaller t f => s!"{t} assigns keys by caller but '{f}' is missing"
  | keyFromStore t f => s!"{t} keys are assigned by the store; do not set '{f}'"
  | repeatedKey t key => s!"{t} key {key} appears twice in one batch"
  | changedKey t key => s!"{t} key {key} cannot be changed"
  | unnamedTrigger => "trigger name must not be empty"
  | unnamedType => "entity type name must not be empty"
  | stated text => text

inductive Error
  /-- The type was never registered. -/
  | unregisteredType (name : String)
  /-- The type has no table mapping. -/
  | unmappedType (name : String)
  /-- The type's name is taken. -/
  | duplicateType (name : String)
  /-- The dialect cannot express what was asked. -/
  | unsupported (dialect feature : String)
  /-- A call of the row store failed. -/
  | backend (operation reason : String)
  /-- A trigger failed while an event was dispatched. -/
  | triggerFailed (trigger : String) (event : EventKind) (entityType key reason : String)
  | illegal (fault : Fault)
  /-- A draft changes a key that the row store does not hold. -/
  | notFound (entityType key : String)
  /-- A value does not fit its field's type. -/
  | typeMismatch (field expected actual : String)
  | config (text : String)
  /-- A file could not be read or written. -/
  | io
deriving DecidableEq, Repr

namespace Error

/-- The name of the error's kind. -/
def kindName : Error → String
  | unregisteredType _ => "UnregisteredType"
  | unmappedType _ => "UnmappedType"
  | duplicateType _ => "DuplicateType"
  | unsupported _ _ => "UnsupportedDialectFeature"
  | backend _ _ => "BackendUnavailable"
  | triggerFailed _ _ _ _ _ => "TriggerFailed"
  | illegal _ => "IllegalArgument"
  | notFound _ _ => "NotFound"
  | typeMismatch _ _ _ => "TypeMismatch"
  | config _ => "Config"
  | io => "Io"

def message : Error → String
  | unregisteredType name => s!"Entity type '{name}' is not registered"
  | unmappedType name => s!"Entity type '{name}' has no field mapping"
  | duplicateType name => s!"Entity type '{name}' is already registered"
  | unsupported dialect feature => s!"Dialect {dialect} does not support {feature}"
  | backend operation reason => s!"Backend unavailable during {operation}: {reason}"
  | triggerFailed trigger event entityType key reason =>
    "Trigger '" ++ trigger ++ "' failed on " ++ event.name ++ " of " ++ entityType
      ++ "[" ++ key ++ "]: " ++ reason
  | illegal fault => "Illegal argument: " ++ fault.message
  | notFound entityType key => s!"No {entityType} with key {key}"
  | typeMismatch field expected actual =>
    s!"Type mismatch for {field}: expected {expected}, got {actual}"
  | config text => "Configuration error: " ++ text
  | io => "I/O error"

/-- The error comes from the row store. -/
def isBackend : Error → Bool
  | backend _ _ => true
  | _ => false

end Error

end IdentityMap
