import IdentityMap.Proofs.Cache.Merges
import IdentityMap.Proofs.Sql.Binding
import IdentityMap.Proofs.Value.Stored
/-!
# Caches that mirror a table

A record reflects a row if every declared field decodes to the same in both (`Reflects`); then the
normalised record is what the row decodes to. A cache mirrors rows (`IdentityCache.Mirrors`) if
every cached record reflects the row of its key and, once the cache is marked as synced, every row
has its key cached. Putting a record and its row keeps this up, and so does removing a key and its
row; the merges are made of these steps.
-/

namespace IdentityMap

open Sql

/-! ### Records and rows -/

namespace EntityType

/-- Decode the values of some fields into `normal`; a field without a value is null. -/
def normaliseFields (r : Record) : List Field → Record → Except Error Record
  | [], normal => .ok normal
  | f :: rest, normal =>
    match f.type.decode f.name (r.valueOf f.name) with
    | .error e => .error e
    | .ok v => normaliseFields r rest (normal.insert f.name v)

/-- The record with each declared field as its type decodes it. -/
def normalise (t : EntityType) (r : Record) : Except Error Record :=
  normaliseFields r t.fields .empty

end EntityType

/-- The record and the row decode to the same, field by field, and storage keeps the values of the
record. -/
def Reflects (t : EntityType) (r : Record) (cells : Cells) : Prop :=
  ∀ f ∈ t.fields, (r.valueOf f.name).isKept = true ∧
    ∃ v, f.type.decode f.name (r.valueOf f.name) = .ok v ∧
      f.type.decode f.name (cells.cell f.column).toValue = .ok v

/-- What is asked for of a row of the type. -/
def Sql.Cells.rowOf (cells : Cells) (t : EntityType) : Row :=
  cells.row (Dialect.columnNames (TableMapping.mk t).columns)

section Reflection

variable {t : EntityType} {r : Record} {cells : Cells}

theorem rowOf_eq (cells : Cells) (t : EntityType) : cells.rowOf t =
    ⟨(TableMapping.mk t).columns.map Column.name,
      (TableMapping.mk t).columns.map fun c => (cells.cell c.name).toValue⟩ := by
  simp [Cells.rowOf, Cells.row, Dialect.columnNames, Function.comp_def]

/-- The row shows the cell of each declared field under the field's column. -/
theorem Sql.Cells.byName?_rowOf {f : Field} (declared : f ∈ t.fields) :
    (cells.rowOf t).byName? f.column = some (cells.cell f.column).toValue := by
  rw [rowOf_eq]
  exact Row.valueIn_own t.columns_apart (List.mem_map_of_mem declared)

/-- A normalised record is what the row decodes to that it reflects. -/
theorem Reflects.normalise (reflects : Reflects t r cells) :
    ∃ normal, t.normalise r = .ok normal ∧ (cells.rowOf t).decode ⟨t⟩ = .ok normal := by
  have fields : ∀ fields : List Field, (∀ f ∈ fields, f ∈ t.fields) → ∀ start : Record,
      ∃ normal, EntityType.normaliseFields r fields start = .ok normal ∧
        (cells.rowOf t).decodeColumns t.table (fields.map t.columnOf) start = .ok normal := by
    intro fields
    induction fields with
    | nil => exact fun _ start => ⟨start, rfl, rfl⟩
    | cons f rest ih =>
      intro declared start
      have here := declared f List.mem_cons_self
      obtain ⟨_, v, normal, stored⟩ := reflects f here
      have found := cells.byName?_rowOf here
      obtain ⟨last, same, decoded⟩ :=
        ih (fun g listed => declared g (List.mem_cons_of_mem _ listed)) (start.insert f.name v)
      refine ⟨last, ?_, ?_⟩
      · rw [EntityType.normaliseFields, normal]
        exact same
      · rw [List.map_cons, Row.decodeColumns]
        simp only [EntityType.columnOf, found, stored]
        exact decoded
  exact fields t.fields (fun _ listed => listed) .empty

/-- A decoded record reflects its row. -/
theorem reflects_decoded (decoded : (cells.rowOf t).decode ⟨t⟩ = .ok r) : Reflects t r cells := by
  intro f declared
  rw [rowOf_eq] at decoded
  obtain ⟨v, fits, stored⟩ := Row.decode_ok decoded declared
  have value : r.valueOf f.name = v := by simp [Record.valueOf, stored]
  rw [value]
  exact ⟨ScalarType.isKept_decode fits (Value.isKept_toValue (cells.numbers _)), v,
    ScalarType.decode_again fits, fits⟩

/-- What a field of a checked record decodes to. -/
theorem decode_of_check (fits : t.check r = .ok ()) {f : Field} (declared : f ∈ t.fields) :
    ∃ v, f.type.decode f.name (r.valueOf f.name) = .ok v := by
  have field := (EntityType.check_ok_iff.1 fits).2 f declared
  unfold EntityType.checkField at field
  unfold Record.valueOf
  cases found : r.get? f.name with
  | none => exact ⟨.null, ScalarType.decode_null ..⟩
  | some v =>
    simp only [found] at field
    split at field
    · cases field
    · cases decoded : f.type.decode f.name v with
      | error e => simp [decoded, Except.map] at field
      | ok w => exact ⟨w, by simpa using decoded⟩

/-- A record that can be decoded reflects the row that stores it. -/
theorem Sql.Stores.reflects (stores : Stores t r cells)
    (known : ∀ f ∈ t.fields, ∀ name, f.type ≠ .other name)
    (kept : ∀ f ∈ t.fields, (r.valueOf f.name).isKept = true)
    (fits : ∀ f ∈ t.fields, ∃ v, f.type.decode f.name (r.valueOf f.name) = .ok v) :
    Reflects t r cells := by
  intro f declared
  obtain ⟨v, decoded⟩ := fits f declared
  refine ⟨kept f declared, v, decoded, ?_⟩
  rw [stores f declared]
  exact ScalarType.decode_stored (known f declared) (kept f declared) decoded

/-- A record that was decoded carries the key of its row. -/
theorem cell_key_of_decoded (decoded : (cells.rowOf t).decode ⟨t⟩ = .ok r) {key : EntityKey}
    (carries : t.keyOf? r = some key) : cells.cell t.key.column = key.stored := by
  rw [rowOf_eq] at decoded
  obtain ⟨v, fits, stored⟩ := Row.decode_ok decoded t.wellFormed.keyDeclared
  obtain rfl := ScalarType.decode_key t.wellFormed.keyType fits
  unfold EntityType.keyOf? at carries
  rw [stored, Option.bind_some] at carries
  exact EntityKey.stored_of_ofValue? carries

/-- The record of a row carries the key of the row. -/
theorem keyOf?_decoded (decoded : (cells.rowOf t).decode ⟨t⟩ = .ok r) {key : EntityKey}
    (own : cells.cell t.key.column = key.stored) : t.keyOf? r = some key := by
  rw [rowOf_eq] at decoded
  obtain ⟨v, fits, stored⟩ := Row.decode_ok decoded t.wellFormed.keyDeclared
  obtain rfl := ScalarType.decode_key t.wellFormed.keyType fits
  rw [EntityType.columnOf, own, EntityKey.toValue_stored] at stored
  simp [EntityType.keyOf?, stored]

/-- A row without a NaN is decoded to a record without one. -/
theorem Row.hasNaN_decode {row : Row} (numbers : ∀ v ∈ row.values, v.isNaN = false)
    (decoded : row.decode ⟨t⟩ = .ok r) : r.hasNaN = false := by
  refine Record.hasNaN_eq_false_iff.2 fun name v found => ?_
  by_cases declared : ∃ f ∈ t.fields, f.name = name
  · obtain ⟨f, declared, rfl⟩ := declared
    obtain ⟨raw, w, there, fits, stored⟩ := (Row.decodeColumns_ok t.fields_apart decoded).1
      (t.columnOf f) (List.mem_map_of_mem declared)
    obtain rfl : v = w := Option.some.inj (found.symm.trans stored)
    exact ScalarType.isNaN_decode fits (numbers raw (Row.mem_values_of_byName? there))
  · have others : r.get? name = none :=
      Row.get?_decode_undeclared decoded fun f listed same => declared ⟨f, listed, same⟩
    rw [others] at found
    cases found

/-- No row has a NaN to be decoded. -/
theorem hasNaN_decoded (decoded : (cells.rowOf t).decode ⟨t⟩ = .ok r) : r.hasNaN = false := by
  refine Row.hasNaN_decode (fun v listed => ?_) decoded
  rw [rowOf_eq] at listed
  obtain ⟨c, -, rfl⟩ := List.mem_map.1 listed
  exact cells.numbers c.name

/-- So does a record that is stored. -/
theorem Sql.Stores.cell_key (stores : Stores t r cells) {key : EntityKey}
    (carries : t.keyOf? r = some key) : cells.cell t.key.column = key.stored := by
  obtain ⟨v, found, made⟩ := Option.bind_eq_some_iff.1 carries
  have value : r.valueOf t.key.name = v := by simp [Record.valueOf, found]
  rw [stores t.key t.wellFormed.keyDeclared, value, EntityKey.toValue_of_ofValue? made]
  rfl

end Reflection

/-! ### Caches and rows -/

namespace IdentityCache

variable {c c' : IdentityCache} {row? row?' : Stored → Option Cells}

/-- Every cached record reflects the row of its key, and a synced cache leaves no row out. -/
structure Mirrors (c : IdentityCache) (row? : Stored → Option Cells) : Prop where
  cached : ∀ key i, c.get? key = some i →
    ∃ cells, row? key.stored = some cells ∧ Reflects c.entityType i.record cells
  complete : c.synced = true → ∀ k cells, row? k = some cells →
    ∃ key i, key.stored = k ∧ c.get? key = some i

theorem mirrors_new (t : EntityType) (row? : Stored → Option Cells) : (new t).Mirrors row? :=
  ⟨fun _ _ found => (nomatch found), fun synced => (nomatch synced)⟩

/-! ### Lookups -/

/-- The records of an answer are what the wanted rows decode to, one for each. -/
structure Brought (t : EntityType) (row? : Stored → Option Cells) (wanted : Stored → Prop)
    (records : List Record) : Prop where
  keyed : ∀ k cells, row? k = some cells → cells.cell t.key.column = k
  origin : ∀ r ∈ records, ∃ k cells, wanted k ∧ row? k = some cells ∧
    (cells.rowOf t).decode ⟨t⟩ = .ok r
  complete : ∀ k cells, wanted k → row? k = some cells →
    ∃ r ∈ records, (cells.rowOf t).decode ⟨t⟩ = .ok r

variable {wanted : Stored → Prop} {records : List Record} {handles : List Handle}
  {events : List Event}

/-- A record of an answer reflects the row of its key. -/
theorem Brought.reflects {t : EntityType} (brought : Brought t row? wanted records) {r : Record}
    (member : r ∈ records) {key : EntityKey} (carries : t.keyOf? r = some key) :
    ∃ cells, row? key.stored = some cells ∧ Reflects t r cells := by
  obtain ⟨k, cells, _, found, decoded⟩ := brought.origin r member
  have own := brought.keyed k cells found
  rw [cell_key_of_decoded decoded carries] at own
  exact ⟨cells, own ▸ found, reflects_decoded decoded⟩

/-- A wanted row is cached if all that was brought is. -/
theorem Brought.cached {t : EntityType} (brought : Brought t row? wanted records)
    (cached : ∀ r ∈ records, ∃ key i, t.keyOf? r = some key ∧ c'.get? key = some i) {k : Stored}
    {cells : Cells} (asked : wanted k) (found : row? k = some cells) :
    ∃ key i, key.stored = k ∧ c'.get? key = some i := by
  obtain ⟨r, member, decoded⟩ := brought.complete k cells asked found
  obtain ⟨key, i, carries, present⟩ := cached r member
  have own := brought.keyed k cells found
  rw [cell_key_of_decoded decoded carries] at own
  exact ⟨key, i, own, present⟩

theorem Mirrors.mergeFetched (mirrors : c.Mirrors row?) (sound : c.Sound) {keys : List EntityKey}
    (brought : Brought c.entityType row? (· ∈ keys.map EntityKey.stored) records)
    (merge : c.mergeFetched keys records = .ok ((handles, events), c')) : c'.Mirrors row? where
  cached key i found := by
    rw [(mergeFetched_merged sound merge).steps.entityType]
    rcases get?_mergeFetched sound merge found with ⟨member, carries⟩ | ⟨_, before⟩
    · exact brought.reflects member carries
    · exact mirrors.cached key i before
  complete synced k cells found := by
    rw [synced_mergeFetched sound merge] at synced
    obtain ⟨key, i, same, present⟩ := mirrors.complete synced k cells found
    by_cases asked : key ∈ keys
    · exact brought.cached (fun r member => cached_mergeFetched sound merge member)
        (same ▸ List.mem_map_of_mem asked) found
    · obtain ⟨i', present', _⟩ := mergeFetched_kept sound merge asked present
      exact ⟨key, i', same, present'⟩

theorem Mirrors.mergeTable (sound : c.Sound)
    (brought : Brought c.entityType row? (fun _ => True) records)
    (merge : c.mergeTable records = .ok ((handles, events), c')) : c'.Mirrors row? where
  cached key i found := by
    rw [(mergeTable_merged sound merge).steps.entityType]
    obtain ⟨member, carries⟩ := get?_mergeTable merge found
    exact brought.reflects member carries
  complete _ k cells found :=
    brought.cached (fun r member => cached_mergeTable merge member) trivial found

/-! ### Changes -/

/-- A record is put, and its row is stored. -/
theorem Mirrors.put (mirrors : c.Mirrors row?) {key : EntityKey} {r : Record} {cells : Cells}
    (reflects : Reflects c.entityType r cells)
    (stored : ∀ k, row?' k = if k = key.stored then some cells else row? k) :
    (c.putKeyed key r).2.Mirrors row?' where
  cached k i found := by
    rw [putKeyed_entityType, stored]
    by_cases same : k = key
    · subst same
      rw [get?_putKeyed_self] at found
      cases found
      rw [if_pos rfl, instanceAfter_record]
      exact ⟨cells, rfl, reflects⟩
    · rw [get?_putKeyed_of_ne c r (Ne.symm same)] at found
      rw [if_neg fun equal => same (EntityKey.stored_injective equal)]
      exact mirrors.cached k i found
  complete synced k cells' found := by
    rw [putKeyed_synced] at synced
    rw [stored] at found
    by_cases same : k = key.stored
    · exact ⟨key, _, same.symm, get?_putKeyed_self c key r⟩
    · rw [if_neg same] at found
      obtain ⟨key', i, own, present⟩ := mirrors.complete synced k cells' found
      have other : key ≠ key' := fun equal => same (by rw [equal, own])
      exact ⟨key', i, own, (get?_putKeyed_of_ne c r other).trans present⟩

/-- Keys are removed, and so are their rows. -/
theorem Mirrors.removeAll (mirrors : c.Mirrors row?) {keys : List EntityKey}
    (removed : ∀ k, row?' k = if k ∈ keys.map EntityKey.stored then none else row? k) :
    (removeAll keys c).2.Mirrors row?' where
  cached k i found := by
    rw [removeAll_entityType, removed]
    rw [get?_removeAll] at found
    split at found
    · cases found
    · rename_i stays
      have other : k.stored ∉ keys.map EntityKey.stored := by
        intro listed
        obtain ⟨key, member, same⟩ := List.mem_map.1 listed
        exact stays (EntityKey.stored_injective same ▸ member)
      rw [if_neg other]
      exact mirrors.cached k i found
  complete synced k cells found := by
    rw [removeAll_synced] at synced
    rw [removed] at found
    split at found
    · cases found
    · rename_i stays
      obtain ⟨key, i, own, present⟩ := mirrors.complete synced k cells found
      refine ⟨key, i, own, ?_⟩
      rw [get?_removeAll, if_neg fun listed => stays (own ▸ List.mem_map_of_mem listed)]
      exact present

/-- A cache whose keys are all removed mirrors an empty table. -/
theorem mirrors_clear (c : IdentityCache) :
    (c.clear.2.markSynced true).Mirrors fun _ => none where
  cached key i found := by
    rw [get?_markSynced, clear, get?_removeAll] at found
    split at found
    · cases found
    · rename_i absent
      exact absurd (OrderedMap.mem_keys_iff.2 ⟨i, found⟩) absent
  complete _ k cells found := nomatch found

end IdentityCache

end IdentityMap
