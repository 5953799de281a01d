import IdentityMap.Proofs.Store.Coherence
/-!
# Changes in front of shared rows

Other writers may change the rows between the operations of a store (`Store.Shared`); then what is
cached can be older than its row. A change writes the whole record back: the fields of its draft,
and for the other fields what it is laid over (`Store.change_writes`). That is the row itself if the
key is not cached, so its other columns keep what they hold. If the key is cached it is the cached
record, and columns that the draft does not name fall back to what was cached
(`Store.change_restores_stale_column`).
-/

namespace IdentityMap

open Sql

variable {σ τ : Type} [RowStore σ] [TriggerHost τ] {tables : σ → Tables}

/-! ### Other writers -/

namespace Store

omit [RowStore σ] [TriggerHost τ] in
/-- Whatever other writers leave behind in the row store. -/
def withRows (rows : σ) (s : Store σ τ) : Store σ τ :=
  { s with session := { s.session with gateway := { s.session.gateway with rows } } }

/-- The states that a store gets into while others write to its rows in between. -/
inductive Shared : Store σ τ → Prop
  | opened {dialect : Dialect} {settings : Settings} {rows : σ} {host : τ} {s : Store σ τ}
    (opened : openWith dialect settings rows host = .ok s) : Shared s
  | operation {s : Store σ τ} (op : Operation) (shared : Shared s) : Shared (op.run s).2
  | others {s : Store σ τ} (rows : σ) (shared : Shared s) : Shared (s.withRows rows)

theorem Shared.sound {s : Store σ τ} (shared : s.Shared) : s.session.Sound := by
  induction shared with
  | opened opened =>
    obtain rfl := opened_session opened
    exact sound_new _ _
  | @operation s op _ sound =>
    exact (op.serves s).keeps sound (fun _ _ _ _ sound => (Request.run_sound sound rfl).1)
      fun _ sound => sound.told
  | others rows _ sound => exact sound.quiet ⟨rfl, rfl, rfl, rfl⟩

/-- Between operations the triggers have been told of everything. -/
theorem Shared.outbox {s : Store σ τ} (shared : s.Shared) : s.session.outbox = [] := by
  induction shared with
  | opened opened =>
    obtain rfl := opened_session opened
    rfl
  | @operation s op _ told => exact (op.serves s).outbox told
  | others _ _ told => exact told

theorem Shared.after {s : Store σ τ} (shared : s.Shared) (ops : List Operation) :
    (s.after ops).Shared := by
  induction ops generalizing s with
  | nil => exact shared
  | cons op rest ih => exact ih (.operation op shared)

end Store

/-! ### The record that a change writes -/

namespace Session

variable {t : EntityType} {base values : Record} {key : EntityKey} {name : String}

theorem valueOf_changed_given (names : NamesKey t values key) {v : Value}
    (given : values.get? name = some v) : (changed t base values key).valueOf name = v := by
  by_cases own : name = t.key.name
  · subst own
    rw [changed, valueOf_withKey_self]
    exact (EntityKey.toValue_of_ofValue? (names v given)).symm
  · rw [changed, valueOf_withKey_of_ne _ own]
    simp [Record.valueOf, OrderedMap.get?_merge, given]

theorem valueOf_changed_left (left : values.get? name = none) (other : name ≠ t.key.name) :
    (changed t base values key).valueOf name = base.valueOf name := by
  rw [changed, valueOf_withKey_of_ne _ other]
  simp [Record.valueOf, OrderedMap.get?_merge, left]

end Session

/-- What becomes of a field that a change leaves out: the column gets the cached value, whatever it
held; if nothing is cached it decodes as before. -/
def LeftOut (c : IdentityCache) (key : EntityKey) (f : Field) (before after : Cells) : Prop :=
  match c.get? key with
  | some i => after.cell f.column = (i.record.valueOf f.name).toStored
  | none => ∃ v, f.type.decode f.name (before.cell f.column).toValue = .ok v ∧
    f.type.decode f.name (after.cell f.column).toValue = .ok v

open Session in
theorem Session.Base.leftOut {s t : Session σ} {c : IdentityCache} {key : EntityKey}
    {base values : Record} (faithful : Faithful tables)
    (keyed : Keyed (Eq c.entityType) (tables s.gateway.rows)) (found : Base s t c key base)
    {before after : Cells}
    (row : (tables s.gateway.rows).row? c.entityType.table key.stored = some before)
    (stores : Stores c.entityType (changed c.entityType base values key) after) {f : Field}
    (declared : f ∈ c.entityType.fields) (left : values.get? f.name = none)
    (other : f.name ≠ c.entityType.key.name) : LeftOut c key f before after := by
  have written := stores f declared
  rw [valueOf_changed_left left other] at written
  unfold LeftOut
  cases found with
  | cached i found same =>
    rw [found]
    exact written
  | fetched _ others missing fetched quiet =>
    rw [missing]
    obtain ⟨k, cells, asked, present, decoded⟩ :=
      (fetchKeys_brings faithful rfl keyed fetched).origin base List.mem_cons_self
    obtain rfl : k = key.stored := by simpa using asked
    rw [row] at present
    obtain rfl := Option.some.inj present
    rw [rowOf_eq] at decoded
    obtain ⟨v, fits, held⟩ := Row.decode_ok decoded declared
    have value : base.valueOf f.name = v := by simp [Record.valueOf, held]
    refine ⟨v, fits, ?_⟩
    rw [written, value]
    exact ScalarType.decode_restored (before.numbers _) fits

namespace Store

open Session

/-- A change that succeeds touches one row. In this row each column of a field that the draft names
holds the draft's value; the other columns are written too, from what is cached under the key, or
with what they hold if nothing is. -/
theorem change_writes (faithful : Faithful tables) {s : Store σ τ} (shared : s.Shared) {d : Draft}
    {key : EntityKey} (intent : d.intent = .modify key) {c : IdentityCache}
    (registered : s.session.caches.get? d.entityType.name = some c)
    (keyed : ∀ table, tables s.session.gateway.rows c.entityType.table = some table →
      table.key = c.entityType.key.column) {handles : List Handle}
    (done : (s.ask (.persist d)).1 = .ok handles) :
    let row? := (tables s.session.gateway.rows).row?
    let row?' := (tables (s.ask (.persist d)).2.session.gateway.rows).row?
    (∀ name k, name ≠ c.entityType.table ∨ k ≠ key.stored → row?' name k = row? name k) ∧
    ∃ before after, row? c.entityType.table key.stored = some before ∧
      row?' c.entityType.table key.stored = some after ∧
      ∀ f ∈ c.entityType.fields,
        (∀ v, d.values.get? f.name = some v → after.cell f.column = v.toStored) ∧
        (f.name = c.entityType.key.name → after.cell f.column = before.cell f.column) ∧
        (d.values.get? f.name = none → f.name ≠ c.entityType.key.name →
          LeftOut c key f before after) := by
  obtain ⟨o, s', ran, outcome, after, -⟩ := ask_cases (.persist d) s
  obtain ⟨answer, persisted, same⟩ := Request.instancesIn_cases ran
  rw [after]
  rw [outcome] at done
  rcases persist_cases shared.sound persisted with ⟨e, rfl, -⟩ | ⟨c₁, cached, named, ends⟩
  · rw [same] at done
    cases done
  rw [registered] at cached
  obtain rfl := Option.some.inj cached
  rcases ends with ⟨create, -⟩ | ⟨key₁, modify, ends⟩
  · rw [intent] at create
    cases create
  rw [intent] at modify
  obtain rfl := Intent.modify.inj modify
  have keyed : Keyed (Eq c.entityType) (tables s.session.gateway.rows) := by
    rintro _ rfl
    exact keyed
  cases ends with
  | @written t base met g events c' h begun updated present merged alters =>
    obtain ⟨cells, there, stores, changed⟩ := begun.stored faithful rfl keyed updated present
    obtain ⟨before, row⟩ := Option.ne_none_iff_exists'.1 there
    have own : cells.cell c.entityType.key.column = key.stored :=
      stores.cell_key (by simp [Session.changed])
    refine ⟨?_, before, cells, row, ?_, ?_⟩
    · intro name k elsewhere
      by_cases here : name = c.entityType.table
      · have other : k ≠ key.stored := elsewhere.resolve_left (not_not_intro here)
        rw [here, changed.row?, putRow, own, if_neg other]
      · rw [changed.others name here]
    · rw [changed.row?, putRow, own, if_pos rfl]
    · intro f declared
      refine ⟨fun v given => ?_, fun key => ?_, fun left other => ?_⟩
      · rw [stores f declared, valueOf_changed_given begun.named given]
      · obtain rfl := EntityType.field_eq declared c.entityType.wellFormed.keyDeclared key
        rw [own, keyed.row_key rfl row]
      · exact begun.base.leftOut faithful keyed row stores declared left other
  | _ =>
    rw [same] at done
    cases done

end Store

/-! ### Meters that two stores write to -/

namespace Sample

/-- A meter has a label and a level. -/
def meter : EntityType where
  name := "Meter"
  table := "meter"
  fields := [.required "id" .bigInt, .required "label" (.string none), .required "level" .double]
  key := .required "id" .bigInt
  assignment := .caller
  indexes := []
  wellFormed := {
    named := by decide +kernel
    tabled := by decide +kernel
    fields := ⟨by decide +kernel, by decide +kernel, by decide +kernel⟩
    keyDeclared := by decide +kernel
    keyRequired := rfl
    keyType := rfl
    keyInteger := by simp
    indexes := by simp }

/-- A store has created a meter with the label A. -/
def ours : Store Memory ScriptedHost :=
  (memorising []).after [
    .request (.register meter),
    .request (.persist ⟨meter, .create, OrderedMap.ofList
      [("id", .int 1), ("label", .text "A"), ("level", .float (Binary64.ofInt 5))]⟩)]

/-- Another store in front of the same rows has labelled the meter B. -/
def theirs : Store Memory ScriptedHost :=
  ((memorising []).withRows ours.session.gateway.rows).after [
    .request (.register meter),
    .request (.persist ⟨meter, .modify (.int 1), OrderedMap.ofList [("label", .text "B")]⟩)]

/-- The level is changed, and nothing else. -/
def raise : Draft :=
  ⟨meter, .modify (.int 1), OrderedMap.ofList [("level", .float (Binary64.ofInt 6))]⟩

/-- The label in the meter's row. -/
def label? (s : Store Memory ScriptedHost) : Option Stored :=
  ((Memory.tables s.session.gateway.rows).row? "meter" (.integer 1)).map (·.cell "label")

end Sample

namespace Store

theorem shared_memorising (ops : List Operation) : ((Sample.memorising []).after ops).Shared :=
  (Shared.opened (Sample.opened_memorising [])).after ops

/-- A meter is raised by a store that has not cached it: its label stays. -/
theorem change_writes_meter :
    let s := ((Sample.memorising []).after [.request (.register Sample.meter)]).withRows
      Sample.theirs.session.gateway.rows
    ∃ before after,
      (Memory.tables s.session.gateway.rows).row? "meter" (.integer 1) = some before ∧
      (Memory.tables (s.ask (.persist Sample.raise)).2.session.gateway.rows).row? "meter"
        (.integer 1) = some after ∧
      after.cell "level" = .real (Binary64.ofInt 6) ∧
      ∃ v, (ScalarType.string none).decode "label" (before.cell "label").toValue = .ok v ∧
        (ScalarType.string none).decode "label" (after.cell "label").toValue = .ok v := by
  intro s
  have registered : s.session.caches.get? "Meter" = some (.new Sample.meter) := by decide +kernel
  have done : (s.ask (.persist Sample.raise)).1 = .ok [⟨"Meter", .int 1, 0⟩] := by decide +kernel
  have key : (Memory.tables s.session.gateway.rows "meter").map (·.key) = some "id" := by
    decide +kernel
  obtain ⟨-, before, after, row, row', fields⟩ := change_writes Memory.faithful
    (.others _ (shared_memorising _)) (d := Sample.raise) rfl registered
    (fun _ => Tables.key_of_map key) done
  have level := (fields (.required "level" .double) (by decide +kernel)).1
    (.float (Binary64.ofInt 6)) (by decide +kernel)
  have label := (fields (.required "label" (.string none)) (by decide +kernel)).2.2
    (by decide +kernel) (by decide +kernel)
  exact ⟨before, after, row, row', level, label⟩

/-- One store has cached a meter with the label A, another one has labelled it B. A change of the
level through the first store puts the label A back. -/
theorem change_restores_stale_column :
    let s := Sample.ours.withRows Sample.theirs.session.gateway.rows
    Faithful Memory.tables ∧ s.Shared ∧
      (s.ask (.persist Sample.raise)).1 = .ok [⟨"Meter", .int 1, 0⟩] ∧
      Sample.raise.values.get? "label" = none ∧ Sample.label? s = some (.text "B") ∧
      Sample.label? (s.ask (.persist Sample.raise)).2 = some (.text "A") := by
  refine ⟨Memory.faithful, .others _ (shared_memorising _), ?_, ?_, ?_, ?_⟩
  all_goals decide +kernel

end Store

end IdentityMap
