import IdentityMap.Draft
import IdentityMap.Session.Basic
/-!
# Persisting drafts

A new instance is inserted and then cached; its key comes from the draft, from the row store, or
from the type's sequence. A change is laid over the cached record, or over the row where nothing is
cached, and the whole record is written back.
-/

namespace IdentityMap

namespace EntityType

/-- The key of a new record, where callers assign keys. -/
def requireKey (t : EntityType) (r : Record) : Except Error EntityKey :=
  match t.keyOf? r with
  | some key => .ok key
  | none => .error (.illegal (.keyFromCaller t.name t.key.name))

/-- A new record must leave its key open where the store assigns keys. -/
def rejectKey (t : EntityType) (r : Record) : Except Error Unit :=
  match r.get? t.key.name with
  | none | some .null => .ok ()
  | some _ => .error (.illegal (.keyFromStore t.name t.key.name))

def rejectKeys (t : EntityType) : List Record → Except Error Unit
  | [] => .ok ()
  | r :: rest =>
    match t.rejectKey r with
    | .error e => .error e
    | .ok () => t.rejectKeys rest

/-- Every new record has a key of its own, and none of `seen`. -/
def requireKeys (t : EntityType) (seen : List EntityKey) : List Record → Except Error Unit
  | [] => .ok ()
  | r :: rest =>
    match t.requireKey r with
    | .error e => .error e
    | .ok key =>
      if key ∈ seen then .error (.illegal (.repeatedKey t.name key.display))
      else t.requireKeys (key :: seen) rest

def checkAll (t : EntityType) : List Record → Except Error Unit
  | [] => .ok ()
  | r :: rest =>
    match t.check r with
    | .error e => .error e
    | .ok () => t.checkAll rest

def withKey (t : EntityType) (r : Record) (key : Value) : Record := r.insert t.key.name key

/-- The records with ascending keys from `first` on. -/
def numbered (t : EntityType) : (first : Int64) → List Record → List Record
  | _, [] => []
  | first, r :: rest => t.withKey r (.int first) :: t.numbered (first + 1) rest

def notFound (t : EntityType) (key : EntityKey) : Error := .notFound t.name key.display

end EntityType

namespace Draft

/-- The draft makes an instance whose key is known before its row is inserted. -/
def isBatchable (d : Draft) : Bool := d.intent = .create && d.entityType.assignment ≠ .backend

end Draft

namespace Session

variable {σ : Type}

/-- Note the last key that a sequence handed out. -/
def advance (typeName : String) (last : Int64) : Work σ Unit := fun s =>
  (.ok (), { s with sequences := s.sequences.insert typeName last })

variable [RowStore σ]

/-- The key after which a type's sequence goes on: the last one that it handed out, at first the
largest key in the table, or 0 if the table is empty. -/
def lastKey (m : TableMapping) : Work σ Int64 := do
  let s ← MonadState.get
  match s.sequences.get? m.entityType.name with
  | some last => return last
  | none =>
    let largest ← Work.access m.largestKey
    return largest.getD 0

/-- Take `count` keys in a row from a type's sequence; the first of them. They are gone, whatever
becomes of the records that they are for. -/
def allocateKeys (m : TableMapping) (count : Nat) : Work σ Int64 := do
  let last ← lastKey m
  advance m.entityType.name (last + Int64.ofNat count)
  return last + 1

/-- The record to insert for the values of a new instance. A key that the row store generates is
still missing from it. -/
def newRecord (m : TableMapping) (values : Record) : Work σ Record := do
  let t := m.entityType
  match t.assignment with
  | .caller =>
    let _ ← Work.ofExcept (t.requireKey values)
    Work.ofExcept (t.check values)
    return values
  | .backend =>
    Work.ofExcept (t.rejectKey values)
    Work.ofExcept (t.check (t.withKey values (.int 0)))
    return values
  | .sequence =>
    Work.ofExcept (t.rejectKey values)
    let key ← allocateKeys m 1
    let record := t.withKey values (.int key)
    Work.ofExcept (t.check record)
    return record

/-- Insert a new instance. -/
def create (m : TableMapping) (values : Record) : Work σ Handle := do
  let record ← newRecord m values
  let generated ← Work.access (m.insertRow record)
  let record := match generated with
    | some key => m.entityType.withKey record key.toValue
    | none => record
  Work.changeCache m.entityType.name fun c => c.mergeRecord record

def createEach (m : TableMapping) : List Record → Work σ (List Handle)
  | [] => return []
  | values :: rest => do
    let h ← create m values
    let others ← createEach m rest
    return h :: others

/-- Insert complete records together. -/
def insertTogether (m : TableMapping) (records : List Record) : Work σ (List Handle) := do
  let s ← MonadState.get
  Work.ofExcept (m.entityType.checkAll records)
  let _ ← Work.access (m.insertRows records s.settings.batchSize)
  Work.changeCache m.entityType.name fun c => c.mergeRecords records

/-- Insert several new instances of one type. -/
def createBatch (typeName : String) (values : List Record) : Work σ (List Handle) := do
  let (_, m) ← Work.resolve typeName
  let t := m.entityType
  match t.assignment with
  | .caller =>
    Work.ofExcept (t.requireKeys [] values)
    insertTogether m values
  | .sequence =>
    Work.ofExcept (t.rejectKeys values)
    let first ← allocateKeys m values.length
    insertTogether m (t.numbered first values)
  | .backend => createEach m values

/-- What a change is laid over. -/
def baseRecord (c : IdentityCache) (m : TableMapping) (key : EntityKey) : Work σ Record := do
  match c.get? key with
  | some i => return i.record
  | none =>
    let records ← Work.access (m.fetchKeys [key])
    match records with
    | r :: _ => return r
    | [] => throw (m.entityType.notFound key)

/-- Write a change. A row store may count only rows that really changed, so a row is gone only if a
look-up does not find it either. -/
def modify (c : IdentityCache) (m : TableMapping) (key : EntityKey) (values : Record) :
    Work σ Handle := do
  let t := m.entityType
  match values.get? t.key.name with
  | some v =>
    if EntityKey.ofValue? v ≠ some key then throw (.illegal (.changedKey t.name key.display))
  | none => pure ()
  let base ← baseRecord c m key
  let record := t.withKey (base.merge values) key.toValue
  Work.ofExcept (t.check record)
  let met ← Work.access (m.updateRow record)
  if met = 0 then
    let present ← Work.access (m.rowExists key)
    if !present then
      Work.changeCache t.name fun c => .ok (c.evict key)
      throw (t.notFound key)
  Work.changeCache t.name fun c => c.mergeChange base record

/-- Persist a draft; the canonical instance. -/
def persist (d : Draft) : Work σ Handle := do
  let (c, m) ← Work.resolve d.entityType.name
  match d.intent with
  | .create => create m d.values
  | .modify key => modify c m key d.values

/-- Persist drafts one after the other, each with its place. -/
def persistEach : List (Draft × Nat) → Work σ (List (Nat × Handle))
  | [] => return []
  | (d, place) :: rest => do
    let h ← persist d
    let others ← persistEach rest
    return (place, h) :: others

/-- Insert the new instances of each type together. -/
def createBatches : List (String × List (Draft × Nat)) → Work σ (List (Nat × Handle))
  | [] => return []
  | (typeName, drafts) :: rest => do
    let handles ← createBatch typeName (drafts.map (·.1.values))
    let others ← createBatches rest
    return (drafts.map (·.2)).zip handles ++ others

/-- Persist several drafts; the instances are in the order of the drafts. New instances whose keys
are known beforehand are inserted first, together for each type. -/
def persistAll (drafts : List Draft) : Work σ (List Handle) := do
  let (batchable, single) := drafts.zipIdx.partition (·.1.isBatchable)
  let created ← createBatches (grouped (·.1.entityType.name) batchable)
  let others ← persistEach single
  let placed := created ++ others
  return (List.range drafts.length).filterMap fun place => List.lookup place placed

end Session

end IdentityMap
