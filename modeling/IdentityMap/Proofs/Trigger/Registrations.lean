import IdentityMap.Proofs.OrderedMapLookup
import IdentityMap.Trigger.Dispatcher
import Mathlib.Algebra.BigOperators.Group.Finset.Basic
/-!
# Registrations of triggers over time

Triggers are registered in scopes: for every event, or for the events of one type. After any calls
that register and remove triggers, a scope lists just the registrations that stand: they were made
there, were not removed since, and repeat no other one that lasts (`Stands`). They are listed in the
order in which they were made (`lists_after`), so no trigger is there twice.

A call matters to its own scope only, and there to the list alone (`triggersIn_edit`), so what a
scope lists is a matter of lists. That a type without triggers is forgotten (`KeepsNoneEmpty`) is
what `hasTriggers` relies on: it asks whether the type is known.
-/

namespace IdentityMap

/-- The events that a registration is for. -/
inductive Scope
  | every
  | ofType (typeName : String)
deriving DecidableEq

/-- Why a trigger cannot be registered in the scope. -/
def Scope.refusal? (scope : Scope) (t : Trigger) : Option Error :=
  if scope = .ofType "" then some (.illegal .unnamedType)
  else if t.name = "" then some (.illegal .unnamedTrigger)
  else none

theorem Scope.refusal?_eq_none_iff {scope : Scope} {t : Trigger} :
    scope.refusal? t = none ↔ scope ≠ .ofType "" ∧ t.name ≠ "" := by
  unfold refusal?
  split
  · simp_all
  · split <;> simp_all

namespace Dispatcher

variable {d : Dispatcher} {scope : Scope} {t : Trigger}

/-- The triggers of a scope, in the order of their calls. -/
def triggersIn (d : Dispatcher) : Scope → List Trigger
  | .every => d.global
  | .ofType typeName => d.forType typeName

/-- A call that registers a trigger, or removes one. -/
inductive Edit
  | add (scope : Scope) (t : Trigger)
  | drop (scope : Scope) (t : Trigger)

/-- The answer to a registration, and the dispatcher afterwards. -/
def settled (d : Dispatcher) : Except Error (Bool × Dispatcher) → Except Error Bool × Dispatcher
  | .ok (fresh, later) => (.ok fresh, later)
  | .error e => (.error e, d)

/-- Make a call. -/
def edit (d : Dispatcher) : Edit → Except Error Bool × Dispatcher
  | .add .every t => d.settled (d.addGlobal t)
  | .add (.ofType typeName) t => d.settled (d.addForType typeName t)
  | .drop .every t => (d.dropGlobal t).map .ok id
  | .drop (.ofType typeName) t => (d.dropForType typeName t).map .ok id

/-- A new dispatcher after some calls. -/
def after (edits : List Edit) : Dispatcher := edits.foldl (fun d e => (d.edit e).2) {}

theorem after_concat (edits : List Edit) (e : Edit) :
    after (edits ++ [e]) = ((after edits).edit e).2 := by
  rw [after, List.foldl_append]
  rfl

/-! ### One call -/

/-- The dispatcher with other triggers in a scope. -/
def put (d : Dispatcher) : Scope → List Trigger → Dispatcher
  | .every, triggers => { d with global := triggers }
  | .ofType typeName, triggers => { d with typed := d.typed.insert typeName triggers }

theorem triggersIn_put (triggers : List Trigger) (other : Scope) :
    (d.put scope triggers).triggersIn other
      = if other = scope then triggers else d.triggersIn other := by
  cases scope with
  | every => cases other <;> simp [put, triggersIn, forType]
  | ofType n =>
    cases other with
    | every => simp [put, triggersIn]
    | ofType m =>
      by_cases own : m = n
      · subst own
        simp [put, triggersIn, forType]
      · simp [put, triggersIn, forType, own, OrderedMap.get?_insert_of_ne _ _ (Ne.symm own)]

theorem holds_iff {triggers : List Trigger} :
    holds triggers t = true ↔ ∃ u ∈ triggers, u.id = t.id := by
  simp [holds]

/-- A registration is refused for a type without a name, and of a trigger without one. -/
theorem edit_add_refused {e : Error} (refused : scope.refusal? t = some e) :
    d.edit (.add scope t) = (.error e, d) := by
  unfold Scope.refusal? at refused
  cases scope with
  | every =>
    by_cases nameless : t.name = ""
    · simp_all [edit, addGlobal, settled]
    · simp [nameless] at refused
  | ofType n =>
    by_cases unnamed : n = ""
    · simp_all [edit, addForType, settled]
    · by_cases nameless : t.name = ""
      · simp_all [edit, addForType, settled]
      · simp [unnamed, nameless] at refused

/-- A trigger that is registered already is left where it is, and another one comes last. -/
theorem edit_add (legal : scope.refusal? t = none) :
    d.edit (.add scope t) = if holds (d.triggersIn scope) t then (.ok false, d)
      else (.ok true, d.put scope (d.triggersIn scope ++ [t])) := by
  obtain ⟨known, named⟩ := Scope.refusal?_eq_none_iff.1 legal
  cases scope with
  | every =>
    simp only [edit, addGlobal, triggersIn, named, if_false]
    exact apply_ite d.settled _ _ _
  | ofType n =>
    have known : n ≠ "" := fun same => known (same ▸ rfl)
    simp only [edit, addForType, triggersIn, known, named, if_false]
    exact apply_ite d.settled _ _ _

/-- Of a type that has lost its triggers nothing is kept, and that is as if it had none. -/
theorem dropForType_eq (n : String) :
    (d.dropForType n t).1 = holds (d.forType n) t ∧
      (d.dropForType n t).2.global = d.global ∧
      ∀ m, (d.dropForType n t).2.forType m
        = if m = n then without (d.forType n) t else d.forType m := by
  unfold dropForType
  cases known : d.typed.get? n with
  | none =>
    have empty : d.forType n = [] := by rw [forType, known]; rfl
    refine ⟨by rw [empty]; rfl, rfl, fun m => ?_⟩
    by_cases own : m = n
    · rw [if_pos own, own, empty]
      rfl
    · exact (if_neg own).symm
  | some triggers =>
    have listed : d.forType n = triggers := by rw [forType, known]; rfl
    refine ⟨by rw [listed], rfl, fun m => ?_⟩
    by_cases own : m = n
    · subst own
      rw [if_pos rfl, listed]
      by_cases none : without triggers t = []
      · simp [forType, none]
      · simp [forType, none]
    · have other : n ≠ m := Ne.symm own
      by_cases none : without triggers t = []
      · simp [forType, none, own, OrderedMap.get?_erase_of_ne _ other]
      · simp [forType, none, own, OrderedMap.get?_insert_of_ne _ _ other]

/-- The answer tells whether the trigger is new to the scope. -/
theorem edit_add_fst (legal : scope.refusal? t = none) :
    (d.edit (.add scope t)).1 = .ok (decide ¬∃ u ∈ d.triggersIn scope, u.id = t.id) := by
  rw [edit_add legal]
  split
  · rename_i held
    rw [decide_eq_false (not_not.2 (holds_iff.1 held))]
  · rename_i missing
    rw [decide_eq_true (mt holds_iff.2 missing)]

theorem edit_drop :
    (d.edit (.drop scope t)).1 = .ok (holds (d.triggersIn scope) t) ∧
      ∀ other, (d.edit (.drop scope t)).2.triggersIn other
        = if other = scope then without (d.triggersIn scope) t else d.triggersIn other := by
  cases scope with
  | every =>
    refine ⟨rfl, fun other => ?_⟩
    cases other <;> simp [edit, dropGlobal, triggersIn, forType]
  | ofType n =>
    obtain ⟨found, still, lists⟩ := d.dropForType_eq (t := t) n
    refine ⟨congrArg Except.ok found, fun other => ?_⟩
    cases other with
    | every => simp [edit, triggersIn, still]
    | ofType m => simp [edit, triggersIn, lists]

/-- What a call makes of the triggers of a scope. -/
def Edit.changes (scope : Scope) : Edit → List Trigger → List Trigger
  | .add other t, triggers =>
    if other = scope ∧ scope.refusal? t = none ∧ holds triggers t = false then triggers ++ [t]
    else triggers
  | .drop other t, triggers => if other = scope then without triggers t else triggers

/-- What becomes of a scope depends on its own triggers alone. -/
theorem triggersIn_edit (e : Edit) :
    (d.edit e).2.triggersIn scope = e.changes scope (d.triggersIn scope) := by
  cases e with
  | add other t =>
    cases legal : other.refusal? t with
    | some e =>
      rw [edit_add_refused legal, Edit.changes, if_neg]
      rintro ⟨rfl, own, -⟩
      rw [legal] at own
      cases own
    | none =>
      rw [edit_add legal, Edit.changes]
      by_cases own : other = scope
      · subst own
        cases holds (d.triggersIn other) t <;> simp [legal, triggersIn_put]
      · split <;> simp [own, triggersIn_put, Ne.symm own]
  | drop other t =>
    rw [edit_drop.2, Edit.changes]
    by_cases own : other = scope
    · rw [if_pos own, if_pos own.symm, own]
    · rw [if_neg own, if_neg (Ne.symm own)]

/-! ### The registrations that stand -/

/-- Call number `i` registers the trigger in the scope, and no later call removes it from there. -/
structure Lasting (scope : Scope) (edits : List Edit) (i : Nat) (t : Trigger) : Prop where
  made : edits[i]? = some (.add scope t)
  legal : scope.refusal? t = none
  kept : ∀ u, .drop scope u ∈ edits.drop (i + 1) → u.id ≠ t.id

/-- The trigger is registered by call number `i`, and not by an earlier one that lasts. -/
structure Stands (scope : Scope) (edits : List Edit) (i : Nat) (t : Trigger) : Prop
    extends Lasting scope edits i t where
  first : ∀ h u, h < i → Lasting scope edits h u → u.id ≠ t.id

/-- The triggers are those of the registrations that stand, in the order in which these were
made. -/
def Lists (scope : Scope) (edits : List Edit) (triggers : List Trigger) : Prop :=
  ∃ made : List (Nat × Trigger), triggers = made.map (·.2) ∧ made.Pairwise (·.1 < ·.1) ∧
    ∀ i t, (i, t) ∈ made ↔ Stands scope edits i t

section Spec

variable {edits : List Edit} {e : Edit} {i : Nat}

theorem Lasting.lt_length (lasting : Lasting scope edits i t) : i < edits.length :=
  (List.getElem?_eq_some_iff.1 lasting.made).1

/-- What lasts after one more call: it has lasted and is not removed now, or it is new. -/
theorem lasting_concat :
    Lasting scope (edits ++ [e]) i t ↔
      (Lasting scope edits i t ∧ ∀ u, e = .drop scope u → u.id ≠ t.id) ∨
        (i = edits.length ∧ e = .add scope t ∧ scope.refusal? t = none) := by
  rcases Nat.lt_trichotomy i edits.length with earlier | rfl | later
  · have made : (edits ++ [e])[i]? = edits[i]? := List.getElem?_append_left earlier
    have rest : (edits ++ [e]).drop (i + 1) = edits.drop (i + 1) ++ [e] :=
      List.drop_append_of_le_length earlier
    constructor
    · rintro ⟨made', legal, kept⟩
      rw [made] at made'
      rw [rest] at kept
      refine .inl ⟨⟨made', legal, fun u dropped => kept u (List.mem_append_left _ dropped)⟩, ?_⟩
      rintro u rfl
      exact kept u (List.mem_append_right _ List.mem_cons_self)
    · rintro (⟨⟨made', legal, kept⟩, spared⟩ | ⟨rfl, -⟩)
      · refine ⟨made.trans made', legal, fun u dropped => ?_⟩
        rw [rest] at dropped
        rcases List.mem_append.1 dropped with dropped | last
        · exact kept u dropped
        · exact spared u (List.mem_singleton.1 last).symm
      · exact absurd earlier (Nat.lt_irrefl _)
  · have made : (edits ++ [e])[edits.length]? = some e := List.getElem?_concat_length
    constructor
    · rintro ⟨made', legal, -⟩
      rw [made, Option.some.injEq] at made'
      exact .inr ⟨rfl, made', legal⟩
    · rintro (⟨lasting, -⟩ | ⟨-, rfl, legal⟩)
      · exact absurd lasting.lt_length (Nat.lt_irrefl _)
      · exact ⟨made, legal, by simp⟩
  · constructor
    · intro lasting
      have within := lasting.lt_length
      rw [List.length_append, List.length_singleton] at within
      omega
    · rintro (⟨lasting, -⟩ | ⟨rfl, -⟩)
      · exact absurd (Nat.lt_trans lasting.lt_length later) (Nat.lt_irrefl _)
      · exact absurd later (Nat.lt_irrefl _)

theorem lasting_concat_drop (t u : Trigger) :
    Lasting scope (edits ++ [.drop scope t]) i u ↔ Lasting scope edits i u ∧ u.id ≠ t.id := by
  rw [lasting_concat]
  constructor
  · rintro (⟨lasting, spared⟩ | ⟨-, other, -⟩)
    · exact ⟨lasting, Ne.symm (spared t rfl)⟩
    · cases other
  · rintro ⟨lasting, differs⟩
    refine .inl ⟨lasting, fun v dropped => ?_⟩
    cases dropped
    exact Ne.symm differs

theorem lasting_concat_add (legal : scope.refusal? t = none) (u : Trigger) :
    Lasting scope (edits ++ [.add scope t]) i u ↔
      Lasting scope edits i u ∨ (i = edits.length ∧ u = t) := by
  rw [lasting_concat]
  constructor
  · rintro (⟨lasting, -⟩ | ⟨rfl, same, -⟩)
    · exact .inl lasting
    · cases same
      exact .inr ⟨rfl, rfl⟩
  · rintro (lasting | ⟨rfl, rfl⟩)
    · exact .inl ⟨lasting, fun _ other => nomatch other⟩
    · exact .inr ⟨rfl, rfl, legal⟩

/-- A call that neither registers nor removes in the scope leaves there what lasts. -/
theorem lasting_concat_aside (spared : ∀ u, e ≠ .drop scope u)
    (unmade : ∀ u, e = .add scope u → scope.refusal? u ≠ none) :
    Lasting scope (edits ++ [e]) i t ↔ Lasting scope edits i t := by
  rw [lasting_concat]
  constructor
  · rintro (⟨lasting, -⟩ | ⟨-, made, legal⟩)
    · exact lasting
    · exact absurd legal (unmade t made)
  · exact fun lasting => .inl ⟨lasting, fun u drops => absurd drops (spared u)⟩

/-- Of registrations of one trigger that last, the earliest stands. -/
theorem Lasting.exists_stands (lasting : Lasting scope edits i t) :
    ∃ h u, Stands scope edits h u ∧ u.id = t.id := by
  induction i using Nat.strongRecOn generalizing t with
  | ind i ih =>
    by_cases repeated : ∃ h u, h < i ∧ Lasting scope edits h u ∧ u.id = t.id
    · obtain ⟨h, u, earlier, lasts, same⟩ := repeated
      obtain ⟨k, v, stands, found⟩ := ih h earlier lasts
      exact ⟨k, v, stands, found.trans same⟩
    · exact ⟨i, t, ⟨lasting, fun h u earlier lasts same => repeated ⟨h, u, earlier, lasts, same⟩⟩,
        rfl⟩

/-- Removing a trigger takes away its own registration only. -/
theorem stands_concat_drop (t u : Trigger) :
    Stands scope (edits ++ [.drop scope t]) i u ↔ Stands scope edits i u ∧ u.id ≠ t.id := by
  constructor
  · rintro ⟨lasts, first⟩
    obtain ⟨lasts, differs⟩ := (lasting_concat_drop t u).1 lasts
    refine ⟨⟨lasts, fun h v earlier later same => ?_⟩, differs⟩
    exact first h v earlier ((lasting_concat_drop t v).2 ⟨later, same ▸ differs⟩) same
  · rintro ⟨⟨lasts, first⟩, differs⟩
    exact ⟨(lasting_concat_drop t u).2 ⟨lasts, differs⟩, fun h v earlier later =>
      first h v earlier ((lasting_concat_drop t v).1 later).1⟩

/-- A new registration stands unless another one of the trigger lasts, and displaces none. -/
theorem stands_concat_add (legal : scope.refusal? t = none) (u : Trigger) :
    Stands scope (edits ++ [.add scope t]) i u ↔ Stands scope edits i u ∨
      (i = edits.length ∧ u = t ∧ ¬∃ h v, Lasting scope edits h v ∧ v.id = t.id) := by
  constructor
  · rintro ⟨lasts, first⟩
    have before (h : Nat) (v : Trigger) (earlier : h < i) (later : Lasting scope edits h v) :=
      first h v earlier ((lasting_concat_add legal v).2 (.inl later))
    rcases (lasting_concat_add legal u).1 lasts with lasts | ⟨rfl, rfl⟩
    · exact .inl ⟨lasts, before⟩
    · refine .inr ⟨rfl, rfl, ?_⟩
      rintro ⟨h, v, lasts, same⟩
      exact before h v lasts.lt_length lasts same
  · rintro (⟨lasts, first⟩ | ⟨rfl, rfl, fresh⟩)
    · refine ⟨(lasting_concat_add legal u).2 (.inl lasts), fun h v earlier later => ?_⟩
      have old := ((lasting_concat_add legal v).1 later).resolve_right fun last =>
        Nat.ne_of_lt (Nat.lt_trans earlier lasts.lt_length) last.1
      exact first h v earlier old
    · refine ⟨(lasting_concat_add legal u).2 (.inr ⟨rfl, rfl⟩), fun h v earlier later same => ?_⟩
      have old := ((lasting_concat_add legal v).1 later).resolve_right fun last =>
        Nat.ne_of_lt earlier last.1
      exact fresh ⟨h, v, old, same⟩

namespace Lists

variable {triggers : List Trigger}

theorem holds_iff (lists : Lists scope edits triggers) :
    holds triggers t = true ↔ ∃ i u, Lasting scope edits i u ∧ u.id = t.id := by
  obtain ⟨made, rfl, -, stand⟩ := lists
  rw [Dispatcher.holds_iff]
  constructor
  · rintro ⟨u, listed, same⟩
    obtain ⟨⟨i, v⟩, member, rfl⟩ := List.mem_map.1 listed
    exact ⟨i, v, ((stand i v).1 member).toLasting, same⟩
  · rintro ⟨i, u, lasting, same⟩
    obtain ⟨h, v, stands, found⟩ := lasting.exists_stands
    exact ⟨v, List.mem_map.2 ⟨(h, v), (stand h v).2 stands, rfl⟩, found.trans same⟩

theorem concat_aside (lists : Lists scope edits triggers)
    (same : ∀ i t, Lasting scope (edits ++ [e]) i t ↔ Lasting scope edits i t) :
    Lists scope (edits ++ [e]) triggers := by
  obtain ⟨made, listed, rising, stand⟩ := lists
  refine ⟨made, listed, rising, fun i t => (stand i t).trans ?_⟩
  constructor
  · rintro ⟨lasting, first⟩
    exact ⟨(same i t).2 lasting, fun h u earlier lasts => first h u earlier ((same h u).1 lasts)⟩
  · rintro ⟨lasting, first⟩
    exact ⟨(same i t).1 lasting, fun h u earlier lasts => first h u earlier ((same h u).2 lasts)⟩

theorem concat_drop (lists : Lists scope edits triggers) (t : Trigger) :
    Lists scope (edits ++ [.drop scope t]) (without triggers t) := by
  obtain ⟨made, rfl, rising, stand⟩ := lists
  refine ⟨made.filter (·.2.id ≠ t.id), ?_, rising.filter _, fun i u => ?_⟩
  · rw [without, List.filter_map]
    rfl
  · rw [List.mem_filter, stand, decide_eq_true_iff, stands_concat_drop]

theorem concat_add (lists : Lists scope edits triggers) (legal : scope.refusal? t = none) :
    Lists scope (edits ++ [.add scope t])
      (if holds triggers t = false then triggers ++ [t] else triggers) := by
  have known : holds triggers t = true ↔ _ := lists.holds_iff
  obtain ⟨made, listed, rising, stand⟩ := lists
  split
  · rename_i fresh
    rw [fresh] at known
    refine ⟨made ++ [(edits.length, t)], by rw [listed, List.map_append]; rfl, ?_, fun i u => ?_⟩
    · refine List.pairwise_append.2 ⟨rising, List.pairwise_singleton _ _, fun a before b last => ?_⟩
      rw [List.mem_singleton.1 last]
      exact ((stand a.1 a.2).1 before).lt_length
    · rw [List.mem_append, stand, stands_concat_add legal, List.mem_singleton, Prod.mk.injEq,
        ← known]
      simp
  · rename_i held
    refine ⟨made, listed, rising, fun i u => ?_⟩
    rw [stand, stands_concat_add legal, ← known]
    exact (or_iff_left fun last => held (Bool.eq_false_iff.2 last.2.2)).symm

/-- One more call leaves the scope with what stands then. -/
theorem concat (lists : Lists scope edits triggers) (e : Edit) :
    Lists scope (edits ++ [e]) (e.changes scope triggers) := by
  cases e with
  | add other t =>
    rw [Edit.changes]
    by_cases makes : other = scope ∧ scope.refusal? t = none
    · obtain ⟨rfl, legal⟩ := makes
      simpa only [legal, true_and] using lists.concat_add legal
    · rw [if_neg fun changes => makes ⟨changes.1, changes.2.1⟩]
      refine lists.concat_aside fun i u => lasting_concat_aside (fun _ => nofun) fun v adds => ?_
      cases adds
      exact fun legal => makes ⟨rfl, legal⟩
  | drop other t =>
    rw [Edit.changes]
    by_cases own : other = scope
    · rw [if_pos own, own]
      exact lists.concat_drop t
    · rw [if_neg own]
      refine lists.concat_aside fun i u => lasting_concat_aside (fun v drops => ?_) fun _ => nofun
      cases drops
      exact own rfl

/-- No trigger is listed twice in a scope. -/
theorem nodup (lists : Lists scope edits triggers) : (triggers.map (·.id)).Nodup := by
  obtain ⟨made, rfl, rising, stand⟩ := lists
  rw [List.map_map]
  refine List.pairwise_map.2 (rising.imp_of_mem fun {a b} before after earlier => ?_)
  exact ((stand b.1 b.2).1 after).first a.1 a.2 earlier ((stand a.1 a.2).1 before).toLasting

end Lists

/-- **Every scope lists what stands there.** After any calls the triggers of a scope are those whose
registration stands, in the order in which they were registered. -/
theorem lists_after (edits : List Edit) (scope : Scope) :
    Lists scope edits ((after edits).triggersIn scope) := by
  induction edits using List.reverseRecOn with
  | nil =>
    refine ⟨[], by cases scope <;> rfl, List.Pairwise.nil, fun i t => ?_⟩
    refine iff_of_false List.not_mem_nil fun stands => ?_
    exact absurd stands.made (by simp)
  | append_singleton edits e ih =>
    rw [after_concat, triggersIn_edit]
    exact ih.concat e

end Spec

/-! ### Types without triggers -/

/-- A type is known only while it has triggers. -/
def KeepsNoneEmpty (d : Dispatcher) : Prop := ∀ typeName, d.typed.get? typeName ≠ some []

theorem KeepsNoneEmpty.put (kept : d.KeepsNoneEmpty) {triggers : List Trigger}
    (some : triggers ≠ []) : (d.put scope triggers).KeepsNoneEmpty := by
  cases scope with
  | every => exact kept
  | ofType n =>
    intro m
    by_cases own : n = m
    · subst own
      simpa [Dispatcher.put] using some
    · simpa [Dispatcher.put, OrderedMap.get?_insert_of_ne _ _ own] using kept m

theorem KeepsNoneEmpty.dropForType (kept : d.KeepsNoneEmpty) (n : String) (t : Trigger) :
    (d.dropForType n t).2.KeepsNoneEmpty := by
  unfold Dispatcher.dropForType
  cases d.typed.get? n with
  | none => exact kept
  | some triggers =>
    by_cases none : without triggers t = []
    · intro m
      by_cases own : n = m
      · subst own
        simp [none]
      · simpa [none, OrderedMap.get?_erase_of_ne _ own] using kept m
    · have rest : (d.put (.ofType n) (without triggers t)).KeepsNoneEmpty := kept.put none
      simpa [none, Dispatcher.put] using rest

theorem KeepsNoneEmpty.edit (kept : d.KeepsNoneEmpty) (e : Edit) :
    (d.edit e).2.KeepsNoneEmpty := by
  cases e with
  | add scope t =>
    cases legal : scope.refusal? t with
    | some e => rwa [edit_add_refused legal]
    | none =>
      rw [edit_add legal]
      split
      · exact kept
      · exact kept.put (by simp)
  | drop scope t =>
    cases scope with
    | every => exact kept
    | ofType n => exact kept.dropForType n t

theorem keepsNoneEmpty_after (edits : List Edit) : (after edits).KeepsNoneEmpty := by
  induction edits using List.reverseRecOn with
  | nil => exact fun _ => nofun
  | append_singleton edits e ih =>
    rw [after_concat]
    exact ih.edit e

theorem KeepsNoneEmpty.known_iff (kept : d.KeepsNoneEmpty) (n : String) :
    (∃ triggers, d.typed.get? n = some triggers) ↔ d.forType n ≠ [] := by
  unfold forType
  cases found : d.typed.get? n with
  | none => simp
  | some triggers =>
    have listed : triggers ≠ [] := fun none => kept n (found.trans (congrArg some none))
    simp [listed]

/-- A type counts as having triggers just where some trigger sees its events. -/
theorem KeepsNoneEmpty.hasTriggers_iff (kept : d.KeepsNoneEmpty) (n : String) :
    d.hasTriggers n = true ↔ d.targets n ≠ [] := by
  have known := kept.known_iff n
  rw [← Option.isSome_iff_exists] at known
  simp only [hasTriggers, targets, OrderedMap.contains, Bool.or_eq_true, known]
  rw [Bool.not_eq_true', List.isEmpty_eq_false_iff, ne_eq, ne_eq, ne_eq, List.append_eq_nil_iff,
    not_and_or]

/-- The number of registrations is the sum over all scopes. -/
theorem KeepsNoneEmpty.size_eq (kept : d.KeepsNoneEmpty) :
    ∃ types : Finset String, (∀ n, n ∈ types ↔ d.forType n ≠ []) ∧
      d.size = d.global.length + ∑ n ∈ types, (d.forType n).length := by
  refine ⟨d.typed.keys.toFinset, fun n => ?_, ?_⟩
  · rw [List.mem_toFinset, OrderedMap.mem_keys_iff, kept.known_iff]
  · have lengths : d.typed.keys.map (fun n => (d.forType n).length)
        = d.typed.values.map List.length := by
      rw [OrderedMap.keys, OrderedMap.values, List.map_map, List.map_map]
      refine List.map_congr_left fun e listed => ?_
      have found := (d.typed.mem_entries_iff e).1 listed
      simp [forType, found]
    rw [List.sum_toFinset _ d.typed.nodup_keys, lengths, ← List.length_flatten]
    rfl

end Dispatcher

end IdentityMap
