import IdentityMap.Proofs.Session.Accounts
import IdentityMap.Proofs.Store.Operation
/-!
# Events as the difference between two states of a store

What triggers are told of a request is what has become of the cached keys, once for each key
(`Store.events_account`). A request that leaves a key as it was tells nothing of the key, not even
if its record differs from itself because it holds a NaN (`Store.untouched_untold`). A change of a
key that is not cached is told as the difference between its row and the record that is written.
-/

namespace IdentityMap

open IdentityCache (changeBetween?)

variable {σ τ : Type} [RowStore σ] {s s' : Session σ}

namespace Request

open Session

/-- The requests whose events are the difference between two states of the caches: they look up,
refresh, clear, create one instance, or change one that is cached. -/
def ToldByCache (s : Session σ) : Request → Prop
  | get .. | getSome .. | getAll .. | getSize .. => True
  | deleteAll _ | refreshKeys .. | refreshType _ => True
  | persist d => ∀ key, d.intent = .modify key →
    ∃ c i, s.caches.get? d.entityType.name = some c ∧ c.get? key = some i
  | register _ | persistAll _ | deleteKeys .. => False

theorem run_accounts (sound : s.Sound) {observed : String → Bool} {r : Request}
    {o : Except Error (List Handle)}
    (once : ∀ n c, s.caches.get? n = some c → s.gateway.RepeatsNoKey c.entityType)
    (told : r.ToldByCache s) (run : r.run observed s = (o, s')) :
    ∃ events, s'.outbox = s.outbox ++ events ∧ Accounts s s' events := by
  have quiet (looks : Looks s s') :
      ∃ events, s'.outbox = s.outbox ++ events ∧ Accounts s s' events :=
    ⟨[], by simp [looks.outbox], .of_caches looks.caches⟩
  cases r with
  | register t => exact told.elim
  | persistAll drafts => exact told.elim
  | deleteKeys typeName keys => exact told.elim
  | get typeName key policy =>
    obtain ⟨answer, ran, _⟩ := instancesIn_cases run
    exact (get_ends sound ran).accounts sound once
  | getSome typeName keys policy => exact (getSome_ends sound run).accounts sound once
  | getAll typeName policy => exact (getAll_ends sound run).accounts sound once
  | getSize typeName policy =>
    obtain ⟨answer, ran, _⟩ := instancesIn_cases run
    exact (getSize_ends sound ran).accounts sound once
  | persist d =>
    obtain ⟨answer, ran, _⟩ := instancesIn_cases run
    rcases persist_cases sound ran with ⟨_, _, looks⟩ |
      ⟨c, cached, _, ⟨_, ends⟩ | ⟨key, intent, ends⟩⟩
    · exact quiet looks
    · exact ends.accounts sound
    · obtain ⟨c₁, i, cached₁, found⟩ := told key intent
      rw [cached] at cached₁
      cases cached₁
      exact ends.accounts sound found
  | deleteAll typeName =>
    obtain ⟨answer, ran, _⟩ := instancesIn_cases run
    rcases deleteAll_cases sound ran with ⟨_, _, looks⟩ | ⟨c, _, _, ends⟩
    · exact quiet looks
    · exact ends.accounts sound
  | refreshKeys typeName keys => exact (refreshKeys_ends sound run).accounts sound once
  | refreshType typeName =>
    obtain ⟨answer, ran, _⟩ := instancesIn_cases run
    exact (refreshType_ends sound ran).accounts sound once

end Request

namespace Store

open Session

variable [TriggerHost τ] {store : Store σ τ}

/-- Of a request that looks up, refreshes, clears, creates or changes what is cached, triggers are
told exactly what has become of the cached keys: of every key that is cached now and was not before,
of every key that no longer is, and of every key whose record was put anew and differs now, each
once. Of a change of a key that is not cached, they are told only if it succeeds, and then only that
the record which is cached now differs from the row that was read. -/
theorem events_account (reachable : store.Reachable)
    (once : ∀ n c, store.session.caches.get? n = some c →
      store.session.gateway.RepeatsNoKey c.entityType) :
    (∀ r : Request, r.ToldByCache store.session →
      Accounts store.session (store.ask r).2.session (store.dispatched r)) ∧
    ∀ d key, d.intent = .modify key →
      (∀ c, store.session.caches.get? d.entityType.name = some c → c.get? key = none) →
      (∀ e, (store.ask (.persist d)).1 = .error e → store.dispatched (.persist d) = []) ∧
      ∀ handles, (store.ask (.persist d)).1 = .ok handles →
        ∃ c row others g c' i, store.session.caches.get? d.entityType.name = some c ∧
          TableMapping.fetchKeys ⟨c.entityType⟩ [key] store.session.gateway
            = (.ok (row :: others), g) ∧
          (store.ask (.persist d)).2.session.caches.get? d.entityType.name = some c' ∧
          c'.get? key = some i ∧
          store.dispatched (.persist d) = if Record.same i.record row then []
            else [⟨c.entityType, key, .updated row i.record⟩] := by
  have sound := reachable.sound
  constructor
  · intro r told
    obtain ⟨o, s', ran, _, after, events⟩ := ask_cases r store
    obtain ⟨told, outbox, accounts⟩ := r.run_accounts sound once told ran
    rw [reachable.outbox, List.nil_append] at outbox
    rw [events, outbox, after]
    exact ⟨accounts.once, accounts.tells⟩
  · intro d key intent missing
    obtain ⟨o, s', ran, outcome, after, events⟩ := ask_cases (.persist d) store
    obtain ⟨answer, persisted, same⟩ := Request.instancesIn_cases ran
    rw [outcome, after, events]
    rcases persist_cases sound persisted with ⟨e, rfl, looks⟩ | ⟨c, cached, named, ends⟩
    · cases same
      exact ⟨fun _ _ => looks.outbox.trans reachable.outbox, by simp [Except.map]⟩
    rcases ends with ⟨create, _⟩ | ⟨key', modify, ends⟩
    · rw [intent] at create
      cases create
    rw [intent] at modify
    cases modify
    rcases ends.uncached sound (missing c cached) with ⟨e, rfl, outbox⟩ |
      ⟨h, row, others, g, c', i, rfl, asked, cached', found, outbox⟩
    · cases same
      exact ⟨fun _ _ => outbox.trans reachable.outbox, by simp [Except.map]⟩
    · cases same
      rw [reachable.outbox, List.nil_append] at outbox
      rw [named] at cached'
      refine ⟨by simp [Except.map], fun _ _ => ?_⟩
      exact ⟨c, row, others, g, c', i, cached, asked, cached', found, outbox⟩

omit [TriggerHost τ] in
/-- The next answer of a script is known, so it is known which keys it repeats. -/
theorem repeatsNoKey_script {store : Store Script τ} {t : EntityType} (rows : List Row)
    (records : List Record) (types : ∀ c ∈ store.session.caches.values, c.entityType = t)
    (replies : (store.session.gateway.rows.replies.head?.bind Script.rows?).getD [] = rows)
    (decoded : TableMapping.decodeRows ⟨t⟩ rows = .ok records)
    (once : (records.filterMap t.keyOf?).Nodup) : ∀ n c, store.session.caches.get? n = some c →
      store.session.gateway.RepeatsNoKey c.entityType := by
  intro n c found statement _ params answer next records' asked decoded'
  rw [types c (OrderedMap.mem_values_iff.2 ⟨n, found⟩)] at decoded' ⊢
  simp only [RowStore.query, Script.answer] at asked
  split at asked
  · cases asked
  · cases asked
  · rename_i reply rest _ left
    cases brought : Script.rows? reply with
    | none => simp [brought] at asked
    | some rows' =>
      simp only [brought, Prod.mk.injEq, Except.ok.injEq] at asked
      obtain ⟨rfl, _⟩ := asked
      simp only [left, List.head?_cons, Option.bind_some, brought, Option.getD_some] at replies
      rw [replies, decoded] at decoded'
      cases decoded'
      exact once

/-- A table of gauges is read again after its first row was changed, its second one deleted and a
third one added; in another store the third gauge is changed while it is not cached. -/
theorem events_account_gauge :
    let s := (Sample.opened [.rows [Sample.row 1 5, Sample.row 2 6],
      .rows [Sample.row 1 7, Sample.row 3 8]]).after
        [.request (.register Sample.gauge), .request (.getAll "Gauge" .cacheFirst)]
    let again := Request.getAll "Gauge" .forceRefresh
    let s₂ := Sample.store [.rows [Sample.row 3 8], .count 1]
    let change : Draft := ⟨Sample.gauge, .modify (.int 3), Sample.level 3 9⟩
    Accounts s.session (s.ask again).2.session (s.dispatched again) ∧
      s.dispatched again = [
        ⟨Sample.gauge, .int 1, .updated (Sample.level 1 5) (Sample.level 1 7)⟩,
        ⟨Sample.gauge, .int 3, .created (Sample.level 3 8)⟩,
        ⟨Sample.gauge, .int 2, .deleted (some (Sample.level 2 6))⟩] ∧
      (∃ row after : Record, s₂.dispatched (.persist change) =
        if Record.same after row then [] else [⟨Sample.gauge, .int 3, .updated row after⟩]) ∧
      s₂.dispatched (.persist change)
        = [⟨Sample.gauge, .int 3, .updated (Sample.level 3 8) (Sample.level 3 9)⟩] := by
  intro s again s₂ change
  have gauges : ∀ c ∈ s.session.caches.values, c.entityType = Sample.gauge := by decide +kernel
  have gauges₂ : ∀ c ∈ s₂.session.caches.values, c.entityType = Sample.gauge := by decide +kernel
  have once := repeatsNoKey_script [Sample.row 1 7, Sample.row 3 8]
    [Sample.level 1 7, Sample.level 3 8] gauges (by decide +kernel) (by decide +kernel)
    (by decide +kernel)
  have once₂ := repeatsNoKey_script [Sample.row 3 8] [Sample.level 3 8] gauges₂
    (by decide +kernel) (by decide +kernel) (by decide +kernel)
  have accounts := (events_account (Sample.reachable_after _ _) once).1 again trivial
  have uncached : ∀ c, s₂.session.caches.get? "Gauge" = some c → c.get? (.int 3) = none := by
    intro c cached
    have new : s₂.session.caches.get? "Gauge" = some (.new Sample.gauge) := by decide +kernel
    rw [new] at cached
    cases cached
    rfl
  obtain ⟨c, row, _, _, _, i, cached, _, _, _, told⟩ :=
    ((events_account (Sample.reachable_after _ _) once₂).2 change (.int 3) rfl uncached).2
      [⟨"Gauge", .int 3, 0⟩] (by decide +kernel)
  rw [gauges₂ c (OrderedMap.mem_values_iff.2 ⟨_, cached⟩)] at told
  exact ⟨accounts, by decide +kernel, ⟨row, i.record, told⟩, by decide +kernel⟩

/-- A gauge whose level is no number was read, and nothing has happened to it since. Its record
differs from itself, but of a request that does not touch it no change is told. -/
theorem untouched_untold :
    let s := (Sample.opened [.rows [⟨["id", "level"], [.int 1, .float Binary64.nan]⟩]]).after
      [.request (.register Sample.gauge), .request (.getSome "Gauge" [.int 1] .forceRefresh)]
    let size := Request.getSize "Gauge" .cacheOnly
    s.Reachable ∧
      (∀ n c, s.session.caches.get? n = some c →
        s.session.gateway.RepeatsNoKey c.entityType) ∧
      (∃ c c' i i', s.session.caches.get? "Gauge" = some c ∧ c.get? (.int 1) = some i ∧
        (s.ask size).2.session.caches.get? "Gauge" = some c' ∧ c'.get? (.int 1) = some i' ∧
        Record.same i'.record i.record = false) ∧
      s.dispatched size = [] := by
  intro s size
  refine ⟨Sample.reachable_after _ _, ?_, ?_, by decide +kernel⟩
  · have gauges : ∀ c ∈ s.session.caches.values, c.entityType = Sample.gauge := by decide +kernel
    exact repeatsNoKey_script [] [] gauges (by decide +kernel) rfl .nil
  · let record : Record := OrderedMap.ofList [("id", .int 1), ("level", .float Binary64.nan)]
    let i : Instance := ⟨0, .int 1, record, 0⟩
    let c : IdentityCache := ⟨Sample.gauge, OrderedMap.ofList [(.int 1, i)], [], 1, false⟩
    exact ⟨c, c, i, i, by decide +kernel, by decide +kernel, by decide +kernel, by decide +kernel,
      by decide +kernel⟩

end Store

end IdentityMap
