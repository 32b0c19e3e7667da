import SqlEngine.Proofs.Catalog.Soundness
import SqlEngine.Proofs.Database.Invariants

/-!
Numbers that sequences hand out.

A sequence hands out numbers within its bounds as long as its counter does not wait with a number out
of them. Neither evaluation nor any statement makes a counter wait so, except one that alters the
sequence: `RESTART` with a number is not held against the bounds, nor are new bounds held against the
number that the counter waits with.
-/

namespace SqlEngine

open Run (bind_ok)
open DataView (Robust)

namespace Catalog

/-- Sequences have numbers of their own and valid options, and none of their counters waits with a
number out of the bounds. There are no counters under numbers that were not taken yet. -/
structure Counted (c : Catalog) (view : DataView) : Prop where
  ordered : c.Ordered
  placed : ∀ schema id d, c.Has schema id (.sequence d) →
    d.id = id ∧ d.schema = schema ∧ id < c.nextId
  apart : ∀ schema other id d e, c.Has schema id (.sequence d) → c.Has other id (.sequence e) →
    schema = other
  valid : ∀ schema id d, c.Has schema id (.sequence d) → d.options.Valid
  ready : ∀ schema id d, c.Has schema id (.sequence d) → (view.sequence d).Ready d.options
  fresh : ∀ id, c.nextId ≤ id → view (.sequence id) = none

namespace Counted

variable {c next : Catalog} {view : DataView} {schema : String} {id : Nat} {d e : SequenceDef}
  {slot : Option Relation}

theorem unique (counted : c.Counted view) {other : String} (one : c.Has schema id (.sequence d))
    (two : c.Has other id (.sequence e)) : d = e := by
  cases counted.apart _ _ _ _ _ one two
  exact Relation.sequence.inj (counted.ordered.relation_unique one two)

theorem mono (counted : c.Counted view) (ordered : next.Ordered) (later : c.nextId ≤ next.nextId)
    (before : ∀ schema id d, next.Has schema id (.sequence d) →
      ∃ name, c.Has schema id (.sequence { d with name })) : next.Counted view where
  ordered := ordered
  placed schema id d has := by
    obtain ⟨name, old⟩ := before schema id d has
    obtain ⟨number, place, given⟩ := counted.placed _ _ _ old
    exact ⟨number, place, Nat.lt_of_lt_of_le given later⟩
  apart schema other id d e one two := by
    obtain ⟨_, first⟩ := before schema id d one
    obtain ⟨_, second⟩ := before other id e two
    exact counted.apart _ _ _ _ _ first second
  valid schema id d has := by
    obtain ⟨name, old⟩ := before schema id d has
    exact (counted.valid _ _ _ old :)
  ready schema id d has := by
    obtain ⟨name, old⟩ := before schema id d has
    exact (counted.ready _ _ _ old :)
  fresh id above := counted.fresh id (Nat.le_trans later above)

theorem altered (counted : c.Counted view) (altered : c.Altered next schema id slot)
    (kept : ∀ d, slot = some (.sequence d) → ∃ name, c.Has schema id (.sequence { d with name })) :
    next.Counted view := by
  refine counted.mono altered.ordered (Nat.le_of_eq altered.nextId.symm) fun other number d has => ?_
  rw [altered.has] at has
  split at has
  · rename_i same
    obtain ⟨rfl, rfl⟩ := same
    exact kept d has
  · exact ⟨d.name, has⟩

theorem of_has (counted : c.Counted view) (ordered : next.Ordered) (later : c.nextId ≤ next.nextId)
    (has : ∀ schema id r, next.Has schema id r ↔ c.Has schema id r) : next.Counted view :=
  counted.mono ordered later fun schema id d there => ⟨d.name, (has schema id _).mp there⟩

theorem recatalog (counted : c.Counted view) (same : next.schemas = c.schemas)
    (later : c.nextId ≤ next.nextId) : next.Counted view :=
  counted.of_has
    ⟨same ▸ counted.ordered.schemas, same ▸ counted.ordered.relations, same ▸ counted.ordered.names⟩
    later fun schema id r => by rw [Has, Has, same]

theorem register (counted : c.Counted view) {r : Relation} (other : r.sequence? = none)
    (made : c.register schema id r = .ok next) : next.Counted view := by
  refine counted.altered (counted.ordered.register_altered made) ?_
  rintro d ⟨⟩
  cases other

theorem registerSequence (counted : c.Counted view) {name : String} {options : SequenceOptions}
    (valid : options.Valid)
    (made : c.registerNext schema (fun id => .sequence ⟨id, schema, name, options⟩) = .ok next) :
    next.Counted view := by
  obtain ⟨_, -, made⟩ := bind_ok made
  have taken : Counted c.allocate.2 view := counted.recatalog rfl (Nat.le_succ _)
  have altered := taken.ordered.register_altered made
  have number : next.nextId = c.nextId + 1 := altered.nextId
  have has : ∀ {other id d}, next.Has other id (.sequence d) →
      (other = schema ∧ id = c.nextId ∧ d = ⟨c.nextId, schema, name, options⟩) ∨
        c.Has other id (.sequence d) := by
    intro other id d there
    rw [altered.has] at there
    split at there
    · rename_i same
      cases there
      exact .inl ⟨same.1, same.2, rfl⟩
    · exact .inr there
  have older : ∀ {other id d}, c.Has other id (.sequence d) → id ≠ c.nextId := fun there =>
    Nat.ne_of_lt (counted.placed _ _ _ there).2.2
  refine ⟨altered.ordered, ?_, ?_, ?_, ?_, ?_⟩
  · intro other id d there
    rcases has there with ⟨rfl, rfl, rfl⟩ | old
    · exact ⟨rfl, rfl, number ▸ Nat.lt_succ_self _⟩
    · obtain ⟨same, place, below⟩ := counted.placed _ _ _ old
      exact ⟨same, place, number ▸ Nat.lt_succ_of_lt below⟩
  · intro left right id d e one two
    rcases has one with ⟨rfl, rfl, _⟩ | first <;> rcases has two with ⟨rfl, same, _⟩ | second
    · rfl
    · exact absurd rfl (older second)
    · exact absurd same (older first)
    · exact counted.apart _ _ _ _ _ first second
  · intro other id d there
    rcases has there with ⟨_, _, rfl⟩ | old
    · exact valid
    · exact counted.valid _ _ _ old
  · intro other id d there
    rcases has there with ⟨_, _, rfl⟩ | old
    · rw [DataView.sequence, counted.fresh _ (Nat.le_refl _)]
      exact SequenceDef.ready_fresh valid
    · exact counted.ready _ _ _ old
  · exact fun id above => counted.fresh id (by omega)

theorem rename (counted : c.Counted view) {name : String} (made : c.rename id name = .ok next) :
    next.Counted view := by
  obtain ⟨schema, r, has, altered⟩ := counted.ordered.rename_altered made
  refine counted.altered altered fun d renamed => ?_
  cases r with
  | sequence e =>
      cases renamed
      exact ⟨e.name, has⟩
  | table e => cases renamed
  | index table name => cases renamed
  | type t => cases renamed

/-! ### Other data -/

theorem revise (counted : c.Counted view) {other : DataView}
    (ready : ∀ schema id d, c.Has schema id (.sequence d) → (other.sequence d).Ready d.options)
    (fresh : ∀ id, c.nextId ≤ id → other (.sequence id) = none) : c.Counted other :=
  { counted with ready, fresh }

theorem write (counted : c.Counted view) {key : DataKey} (value : DataValue)
    (elsewhere : ∀ id, key ≠ .sequence id) : c.Counted (view.set key value) := by
  have same : ∀ id, view.set key value (.sequence id) = view (.sequence id) := fun id =>
    if_neg (Ne.symm (elsewhere id))
  refine counted.revise (fun schema id d has => ?_) fun id above => (same id).trans (counted.fresh id above)
  rw [DataView.sequence, same]
  exact counted.ready _ _ _ has

theorem remove (counted : c.Counted view) (key : DataKey) : c.Counted (view.remove key) := by
  refine counted.revise (fun schema id d has => ?_) fun id above => ?_
  · rw [DataView.sequence, DataView.remove]
    split
    · rename_i found
      split at found
      · cases found
      · have ready := counted.ready _ _ _ has
        rwa [DataView.sequence, found] at ready
    · exact SequenceDef.ready_fresh (counted.valid _ _ _ has)
  · rw [DataView.remove]
    split
    · rfl
    · exact counted.fresh id above

theorem put (counted : c.Counted view) (has : c.Has schema d.id (.sequence d)) {state : SequenceState}
    (ready : state.Ready d.options) : c.Counted (view.set (.sequence d.id) (.sequence state)) := by
  refine counted.revise (fun other id e there => ?_) fun id above => ?_
  · rw [DataView.sequence, DataView.set]
    by_cases same : e.id = d.id
    · obtain ⟨rfl, -, -⟩ := counted.placed _ _ _ there
      rw [same] at there
      cases counted.unique there has
      rw [if_pos rfl]
      exact ready
    · rw [if_neg (by simpa using same)]
      exact counted.ready _ _ _ there
  · have below := (counted.placed _ _ _ has).2.2
    rw [DataView.set, if_neg (by simpa using fun equal : id = d.id => by omega)]
    exact counted.fresh id above

theorem named (counted : c.Counted view) {name : QName} (found : c.sequence name = .ok d) :
    c.Has d.schema d.id (.sequence d) := by
  obtain ⟨schema, id, has⟩ := counted.ordered.sequence_has found
  obtain ⟨rfl, rfl, -⟩ := counted.placed _ _ _ has
  exact has

theorem move (counted : c.Counted view) {name : QName} {state : SequenceState}
    (found : c.sequence name = .ok d) (moves : d.Moves (view.sequence d) state) :
    c.Counted (view.set (.sequence d.id) (.sequence state)) := by
  have has := counted.named found
  exact counted.put has (moves.ready (counted.ready _ _ _ has))

/-- A sequence gets other options, and at most its own counter is another one. -/
theorem replaceSequence_iff (counted : c.Counted view) (has : c.Has d.schema d.id (.sequence d))
    {o : SequenceOptions} (valid : o.Valid)
    (replaced : c.replaceSequence { d with options := o } = .ok next) {other : DataView}
    (elsewhere : ∀ id, id ≠ d.id → other (.sequence id) = view (.sequence id)) :
    next.Counted other ↔ (other.sequence { d with options := o }).Ready o := by
  obtain ⟨altered, -⟩ := counted.ordered.replaceSequence_altered replaced
  have given := (counted.placed _ _ _ has).2.2
  have place : ∀ {schema id e}, next.Has schema id (.sequence e) →
      (schema = d.schema ∧ id = d.id ∧ e = { d with options := o }) ∨
        (id ≠ d.id ∧ c.Has schema id (.sequence e)) := by
    intro schema id e there
    rw [altered.has] at there
    split at there
    · rename_i same
      cases there
      exact .inl ⟨same.1, same.2, rfl⟩
    · rename_i different
      refine .inr ⟨?_, there⟩
      rintro rfl
      exact different ⟨counted.apart _ _ _ _ _ there has, rfl⟩
  have held : next.Has d.schema d.id (.sequence { d with options := o }) := by
    rw [altered.has, if_pos ⟨rfl, rfl⟩]
  refine ⟨fun later => later.ready _ _ _ held, fun ready => ?_⟩
  refine ⟨altered.ordered, ?_, ?_, ?_, ?_, ?_⟩
  · intro schema id e there
    rcases place there with ⟨rfl, rfl, rfl⟩ | ⟨_, old⟩
    · exact ⟨rfl, rfl, altered.nextId ▸ given⟩
    · exact altered.nextId ▸ counted.placed _ _ _ old
  · intro schema other id e f one two
    rcases place one with ⟨rfl, rfl, _⟩ | ⟨different, first⟩ <;>
      rcases place two with ⟨rfl, same, _⟩ | ⟨apart, second⟩
    · rfl
    · exact absurd rfl apart
    · exact absurd same different
    · exact counted.apart _ _ _ _ _ first second
  · intro schema id e there
    rcases place there with ⟨_, _, rfl⟩ | ⟨_, old⟩
    · exact valid
    · exact counted.valid _ _ _ old
  · intro schema id e there
    rcases place there with ⟨_, _, rfl⟩ | ⟨different, old⟩
    · exact ready
    · obtain ⟨rfl, -, -⟩ := counted.placed _ _ _ old
      rw [DataView.sequence, elsewhere _ different]
      exact counted.ready _ _ _ old
  · intro id above
    rw [altered.nextId] at above
    rw [elsewhere id (Nat.ne_of_gt (Nat.lt_of_lt_of_le given above))]
    exact counted.fresh id above

end Counted

theorem counted_create (o : DbOptions) : (create o).Counted fun _ => none := by
  obtain ⟨ordered, system⟩ := create_ordered o
  have none : ∀ schema id d, ¬(create o).Has schema id (.sequence d) := by
    intro schema id d has
    obtain ⟨_, _, t, impossible⟩ := system _ _ _ has
    cases impossible
  exact ⟨ordered, fun _ _ _ has => absurd has (none _ _ _), fun _ _ _ _ _ has => absurd has (none _ _ _),
    fun _ _ _ has => absurd has (none _ _ _), fun _ _ _ has => absurd has (none _ _ _), fun _ _ => rfl⟩

theorem robust_counted : Robust Counted where
  recatalog _ _ _ same later counted := counted.recatalog same later
  createSchema _ _ _ _ _ _ made counted :=
    have same := counted.ordered.same_createSchema made
    counted.of_has same.ordered same.later same.has
  register _ _ _ _ _ _ other made counted := counted.register other made
  registerSequence _ _ _ _ _ _ valid made counted := counted.registerSequence valid made
  replaceTable _ _ _ _ made counted := by
    obtain ⟨altered, -⟩ := counted.ordered.replaceTable_altered made
    exact counted.altered altered (by simp)
  rename _ _ _ _ _ made counted := counted.rename made
  drop _ _ _ _ made counted := by
    obtain ⟨_, _, -, altered⟩ := counted.ordered.drop_altered made
    exact counted.altered altered (by simp)
  writes _ _ _ value elsewhere counted := counted.write value elsewhere
  moves _ _ _ _ _ found moves counted := counted.move found moves
  removes _ _ key counted := counted.remove key

/-! ### Sequences that are altered -/

/-- What the counter of a sequence waits with, if it waits, is within the bounds: the number to begin
again with, or else the one that it waited with. -/
def Minds (view : DataView) (d : SequenceDef) : Option (Option Int) → Prop
  | some value => ∀ v ∈ value, d.options.Within v
  | none => (view.sequence d).Ready d.options

/-- Altering a sequence minds its new bounds. -/
def Heeds (c : Catalog) (view : DataView) (name : QName) (clauses : List SequenceClause) : Prop :=
  ∀ d o restart, c.sequence name = .ok d → d.options.alter clauses = .ok (o, restart) →
    Minds view { d with options := o } restart

end Catalog

open Catalog (Counted Heeds Minds)

/-- Altering a sequence leaves all counters within their bounds exactly if it heeds the number that
the one counter waits with. -/
theorem Define.alterSequence_counted {s t : Draft} {name : QName} {ifExists : Bool}
    {clauses : List SequenceClause} {outcome : Outcome}
    (counted : s.catalog.Counted s.data.store.get?)
    (ran : (alterSequence name ifExists clauses).run s = (.ok outcome, t)) :
    t.catalog.Counted t.data.store.get? ↔ s.catalog.Heeds s.data.store.get? name clauses := by
  rw [alterSequence, catalog_bind_run] at ran
  split at ran
  · rename_i missing
    cases ran
    refine iff_of_true counted fun d _ _ found => ?_
    rw [missing] at found
    cases found
  · cases ran
  · rename_i d found
    obtain ⟨⟨o, restart⟩, changed, ran⟩ := Run.lift_bind_ok ran
    obtain ⟨next, replaced, ran⟩ := changeCatalog_bind_ok ran
    have valid := SequenceOptions.alter_valid changed
    have settle (other : DataView)
        (elsewhere : ∀ id, id ≠ d.id → other (.sequence id) = s.data.store.get? (.sequence id)) :=
      counted.replaceSequence_iff (counted.named found) valid replaced elsewhere
    -- the statement finds one sequence and one change of its options, so there is one thing to mind
    have heeds : s.catalog.Heeds s.data.store.get? name clauses ↔
        Minds s.data.store.get? { d with options := o } restart := by
      refine ⟨fun heeds => heeds d o restart found changed, fun held e p r other also => ?_⟩
      obtain rfl : d = e := Except.ok.inj (found.symm.trans other)
      obtain ⟨rfl, rfl⟩ := Prod.mk.inj (Except.ok.inj (changed.symm.trans also))
      exact held
    rw [heeds]
    cases restart with
    | none =>
        cases ran
        exact settle _ fun _ _ => rfl
    | some value =>
        cases ran
        let e : SequenceDef := { d with options := o }
        refine Iff.trans ?_ (SequenceDef.restart_ready_iff (d := e) (s := s.data.store.sequence e) valid value)
        dsimp only
        rw [Store.putSequence, DataView.set_get?]
        refine (settle _ fun id different => ?_).trans (iff_of_eq ?_)
        · exact if_neg (by simpa using different)
        · rw [DataView.sequence, DataView.set, if_pos rfl]

/-! ### Databases -/

/-- What a run of statements on rows may lead to: each step draws an identifier, moves a counter of
the catalog, writes a table or writes a setting. -/
inductive EvalState.Leads (env : Env) (start : EvalState) : EvalState → Prop
  | start : Leads env start start
  | draw {s : EvalState} (count : Nat) : Leads env start s → Leads env start { s with drawn := count }
  | move {s : EvalState} {name : QName} {d : SequenceDef} {state : SequenceState} :
      env.catalog.sequence name = .ok d → d.Moves (s.store.sequence d) state → Leads env start s →
        Leads env start { s with store := s.store.putSequence d.id state }
  | table {s : EvalState} (id : Nat) (content : TableData) : Leads env start s →
      Leads env start { s with store := s.store.putTable id content }
  | setting {s : EvalState} (name value : String) : Leads env start s →
      Leads env start { s with store := s.store.putSetting name value }

theorem EvalState.free_leads (env : Env) (start : EvalState) : Eval.Free env (Leads env start) where
  draws _ count leads := leads.draw count
  sequences _ _ _ _ found moves leads := leads.move found moves
  tables _ id content leads := leads.table id content
  settings _ name value leads := leads.setting name value

theorem EvalState.Leads.keeps {env : Env} {start s : EvalState} {inv : EvalState → Prop}
    (free : Eval.Free env inv) (leads : Leads env start s) (held : inv start) : inv s := by
  induction leads with
  | start => exact held
  | draw count _ ih => exact free.draws _ count ih
  | move found moves _ ih => exact free.sequences _ _ _ _ found moves ih
  | table id content _ ih => exact free.tables _ id content ih
  | setting name value _ ih => exact free.settings _ name value ih

theorem Builtin.draw_ok {d : SequenceDef} {s t : EvalState} {v : Value}
    (ran : (draw d).run s = (.ok v, t)) :
    ∃ n state, d.next (s.store.sequence d) = .ok (n, state) ∧ v = .int n := by
  obtain ⟨store, _, read, ran⟩ := Run.bind_run_ok ran
  cases read
  obtain ⟨⟨n, state⟩, drawn, ran⟩ := Run.lift_bind_ok ran
  cases ran
  exact ⟨n, state, drawn, rfl⟩

/-- Where no counter waits with a number out of its bounds, `nextval` gives one within them. -/
theorem Builtin.nextValue_within {env : Env} {type : SqlType} {name : String} {rest : List Value}
    {d : SequenceDef} {s t : EvalState} {v : Value} (counted : env.catalog.Counted s.store.get?)
    (found : env.catalog.sequence (QName.ofText name) = .ok d)
    (ran : (nextValue.run env type (.text name :: rest)).run s = (.ok v, t)) :
    ∃ n, v = .int n ∧ d.options.Within n := by
  simp only [run, List.headD_cons, withSequence, found] at ran
  obtain ⟨_, same, ran⟩ := Run.lift_bind_ok ran
  cases same
  obtain ⟨n, state, drawn, rfl⟩ := draw_ok ran
  have has := counted.named found
  refine ⟨n, rfl, (SequenceDef.next_within_iff (counted.valid _ _ _ has) drawn).mpr ?_⟩
  rw [DataView.sequence_get?]
  exact counted.ready _ _ _ has

namespace Sql.Statement

/-- A statement that alters a sequence heeds the number that the counter waits with. -/
def Heeds (db : Database) : Statement → Prop
  | alterSequence name _ clauses => db.catalog.Heeds db.store.get? name clauses
  | _ => True

/-- A statement alters sequences only together with letting them begin again at their start. -/
def Restarts : Statement → Prop
  | alterSequence _ _ clauses => clauses.getLast? = some (.restart none)
  | _ => True

theorem Restarts.heeds {s : Statement} (restarts : s.Restarts) (db : Database) : s.Heeds db := by
  cases s with
  | alterSequence name ifExists clauses =>
      intro d o restart _ changed
      obtain ⟨r, limit, folded, -, -, rfl, -⟩ := SequenceOptions.change_ok changed
      -- the last clause decides what the counter begins again with
      obtain ⟨before, rfl⟩ := List.getLast?_eq_some_iff.mp restarts
      rw [List.foldlM_append] at folded
      obtain ⟨first, -, folded⟩ := bind_ok folded
      obtain ⟨last, added, folded⟩ := bind_ok folded
      cases added
      cases folded
      exact fun v member => by cases member
  | _ => trivial

end Sql.Statement

namespace Database

open Sql (Statement)
open EvalState (Leads)

variable {db : Database}

/-- An altered sequence is all that can make a counter wait with a number out of its bounds. -/
theorem Guarded.counted (guarded : db.Guarded fun db s => s.Heeds db) : db.Upholds Counted :=
  guarded.upholds Catalog.robust_counted Catalog.counted_create
    fun db installer name ifExists clauses heeds upholds => by
      have blind := Statement.blind_manner (.alterSequence name ifExists clauses)
      refine upholds.define (blind db.options db.now) fun outcome t ran => ?_
      refine (Define.alterSequence_counted upholds.commitAll.visible ran).mpr ?_
      have same : db.store.commitAll.fork.get? = db.store.get? :=
        funext (Transaction.get?_commitAll upholds.formed)
      exact same.symm ▸ heeds

/-- While sequences are altered with heed, every `nextval` of every statement gives a number within
the bounds that its sequence has at the time. -/
theorem Guarded.nextValue_within (guarded : db.Guarded fun db s => s.Heeds db) {s t : EvalState}
    (leads : Leads ⟨db.catalog, db.now⟩ ⟨db.store.fork, db.drawn⟩ s) {type : SqlType}
    {name : String} {rest : List Value} {d : SequenceDef} {v : Value}
    (found : db.catalog.sequence (QName.ofText name) = .ok d)
    (ran : (Builtin.nextValue.run ⟨db.catalog, db.now⟩ type (.text name :: rest)).run s = (.ok v, t)) :
    ∃ n, v = .int n ∧ d.options.Within n := by
  have free := Catalog.robust_counted.rows ⟨db.catalog, db.now⟩
  exact Builtin.nextValue_within (leads.keeps free guarded.counted.visible) found ran

/-- Calls that alter sequences only together with letting them begin again at their start leave all
counters within their bounds. -/
theorem callAll_counted {o : DbOptions} {now : Timestamp} (made : create o now = .ok db)
    (calls : List Call)
    (careful : ∀ s ∈ db.carriedOutByAll calls, s.isExtension = false ∧ s.Restarts) :
    (db.callAll calls).Upholds Counted :=
  ((Guarded.created made).callAll calls fun s member =>
    ⟨(careful s member).1, fun db => (careful s member).2.heeds db⟩).counted

end Database

/-- A counter that is told to begin again with a number out of the bounds hands it out. -/
example : let d : SequenceDef := ⟨16384, "public", "s", { max := 10 }⟩
    d.next (d.restart (.fresh d.options) (some 100)) = .ok (100, ⟨100, true, some 100⟩) := rfl

end SqlEngine
