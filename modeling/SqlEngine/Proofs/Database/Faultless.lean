import SqlEngine.Proofs.Database.Alterations
import SqlEngine.Proofs.Database.Invariants
import SqlEngine.Proofs.Database.Linking

/-!
Programs that raise no internal error.

An internal error says that the engine met what it thinks impossible, such as a relation that is gone.
What is raised on the way is looked at by the message of the error, so that an evaluation that raises
an error of one message does not count against a program that only passes it on.
-/

namespace SqlEngine

open Run (bind_ok)

/-- The result is not the internal error with a message. -/
def Faultless (what : String) {α : Type} (result : Except SqlError α) : Prop :=
  result ≠ .error (.internal what)

namespace Faultless

variable {α β σ : Type} {what : String}

theorem ok (a : α) : Faultless what (.ok a) := nofun

theorem notSupported (text : String) :
    Faultless what (.error (.notSupported text) : Except SqlError α) := nofun

theorem bind {x : Except SqlError α} {f : α → Except SqlError β} (first : Faultless what x)
    (next : ∀ a, x = .ok a → Faultless what (f a)) : Faultless what (x >>= f) := by
  cases x with
  | error e =>
      rintro ⟨⟩
      exact first rfl
  | ok a => exact next a rfl

theorem foldlM {f : β → α → Except SqlError β} (each : ∀ b a, Faultless what (f b a)) :
    ∀ (items : List α) (b : β), Faultless what (items.foldlM f b)
  | [], b => ok b
  | a :: rest, b => by
      rw [List.foldlM_cons]
      exact (each b a).bind fun c _ => foldlM each rest c

theorem mapM {f : α → Except SqlError β} (each : ∀ a, Faultless what (f a)) :
    ∀ items : List α, Faultless what (items.mapM f)
  | [] => ok []
  | a :: rest => by
      rw [List.mapM_cons]
      exact (each a).bind fun b _ => (mapM each rest).bind fun bs _ => ok (b :: bs)

theorem run_bind {m : ExceptT SqlError (StateM σ) α} {f : α → ExceptT SqlError (StateM σ) β} {s : σ}
    (first : Faultless what (m.run s).1)
    (next : ∀ a t, m.run s = (.ok a, t) → Faultless what ((f a).run t).1) :
    Faultless what ((m >>= f).run s).1 := by
  rw [Run.bind_run]
  rcases ran : m.run s with ⟨result, t⟩
  rw [ran] at first
  cases result with
  | error e =>
      rintro ⟨⟩
      exact first rfl
  | ok a => exact next a t ran

theorem run_lift_bind {x : Except SqlError α} {f : α → ExceptT SqlError (StateM σ) β} {s : σ}
    (first : Faultless what x) (next : ∀ a, x = .ok a → Faultless what ((f a).run s).1) :
    Faultless what (((liftM x : ExceptT SqlError (StateM σ) α) >>= f).run s).1 := by
  refine run_bind first fun a t ran => ?_
  obtain ⟨given, rfl⟩ := Run.lift_run_ok ran
  exact next a given

theorem run_forM {f : α → ExceptT SqlError (StateM σ) PUnit}
    (each : ∀ a s, Faultless what ((f a).run s).1) :
    ∀ (items : List α) (s : σ), Faultless what ((items.forM f).run s).1
  | [], _ => ok (α := PUnit) ⟨⟩
  | a :: rest, s => run_bind (each a s) fun _ t _ => run_forM each rest t

/-! ### Lookups and layouts -/

theorem ofParts (parts : List Sql.Ident) : Faultless what (QName.ofParts parts) := by
  unfold QName.ofParts
  split <;> rintro ⟨⟩

theorem writable (c : Catalog) (name : String) : Faultless what (c.writable name) := by
  unfold Catalog.writable
  split
  · rintro ⟨⟩
  · split <;> rintro ⟨⟩

theorem insert (s : Schema) (id : Nat) (r : Relation) : Faultless what (s.insert id r) := by
  unfold Schema.insert
  split <;> rintro ⟨⟩

theorem register (c : Catalog) (schema : String) (id : Nat) (r : Relation) :
    Faultless what (c.register schema id r) :=
  (writable c schema).bind fun s _ => (insert s id r).bind fun _ _ => .ok _

theorem registerNext (c : Catalog) (schema : String) (make : Nat → Relation) :
    Faultless what (c.registerNext schema make) :=
  (writable c schema).bind fun _ _ => register _ _ _ _

theorem createSchema (c : Catalog) (name : String) (ifNotExists : Bool) :
    Faultless what (c.createSchema name ifNotExists) := by
  unfold Catalog.createSchema
  split <;> rintro ⟨⟩

theorem findKind {α : Type} (c : Catalog) (name : QName) (kind : String)
    (part : Relation → Option α) : Faultless what (c.findKind name kind part) := by
  unfold Catalog.findKind
  split
  · rintro ⟨⟩
  · split <;> rintro ⟨⟩

theorem typeNamed (c : Catalog) (name : TypeName) : Faultless what (c.typeNamed name) := by
  unfold Catalog.typeNamed
  dsimp only
  split
  · rintro ⟨⟩
  · split <;> rintro ⟨⟩

theorem ensureFree (c : Catalog) (schema : String) : ∀ (names taken : List String),
    Faultless what (c.ensureFree schema taken names)
  | [], _ => ok _
  | name :: rest, taken => by
      unfold Catalog.ensureFree
      split
      · exact ensureFree c schema rest _
      · rintro ⟨⟩

theorem position (d : TableDef) (name : String) : Faultless what (d.position name) := by
  unfold TableDef.position
  split <;> rintro ⟨⟩

theorem startColumn (l : Layout) (c : Catalog) (schema : String) (t : Sql.ColumnTerm) :
    Faultless what (l.startColumn c schema t) := by
  unfold Layout.startColumn
  dsimp only
  split
  · rintro ⟨⟩
  · exact (typeNamed c _).bind fun _ _ => .ok _

theorem addRule (position : Nat) (column : ColumnDef) (l : Layout) (o : Sql.ColumnOption) :
    Faultless what (Layout.addRule position column l o) := by
  unfold Layout.addRule
  split <;> rintro ⟨⟩

theorem addColumn (c : Catalog) (schema : String) (l : Layout) (t : Sql.ColumnTerm) :
    Faultless what (l.addColumn c schema t) := by
  unfold Layout.addColumn
  split
  · rintro ⟨⟩
  · exact (startColumn l c schema t).bind fun _ _ =>
      (foldlM (fun b o => addRule _ b.1 b.2 o) _ _).bind fun _ _ => ok _

theorem addConstraint (l : Layout) (constraint : Sql.Constraint) :
    Faultless what (l.addConstraint constraint) := by
  cases constraint with
  | unique name columns primary =>
      refine (mapM (fun name => ?_) _).bind fun _ _ => .ok _
      unfold Layout.keyColumn
      split <;> rintro ⟨⟩
  | check name condition => rintro ⟨⟩
  | foreignKey => rintro ⟨⟩

theorem validate (l : Layout) (indexes : List IndexDef) : Faultless what (l.validate indexes) := by
  unfold Layout.validate
  split <;> rintro ⟨⟩

theorem layoutOf (c : Catalog) (schema name : String) (t : Sql.CreateTable) :
    Faultless what (Define.layoutOf c schema name t) :=
  (foldlM (addColumn c schema) _ _).bind fun _ _ => (foldlM addConstraint _ _).bind fun l _ =>
    (validate l []).bind fun _ _ => ok l

theorem indexedColumns (d : TableDef) (keys : List Sql.OrderTerm) :
    Faultless what (Define.indexedColumns d keys) := by
  refine mapM (fun k => ?_) keys
  refine Faultless.bind ?_ fun name _ => (position d name).bind fun _ _ => .ok _
  unfold Define.indexedColumn
  split <;> rintro ⟨⟩

theorem change (o : SequenceOptions) (clauses : List SequenceClause) (creating : Bool) :
    Faultless what (o.change clauses creating) := by
  have bound : ∀ type, Faultless what (SequenceOptions.typeBound type) := by
    intro type
    unfold SequenceOptions.typeBound
    split <;> rintro ⟨⟩
  have add : ∀ r clause, Faultless what (SequenceOptions.Request.add r clause) := by
    intro r clause
    cases clause with
    | as type => exact (bound type).bind fun _ _ => .ok _
    | _ => rintro ⟨⟩
  refine (foldlM add clauses _).bind fun request _ => ?_
  dsimp only
  split
  · rintro ⟨⟩
  · refine (bound _).bind fun limit _ => Faultless.bind ?_ fun _ _ => .ok _
    unfold SequenceOptions.validate
    repeat' split
    all_goals rintro ⟨⟩

end Faultless

/-! ### Schemas stay open -/

open DataView (Robust)

namespace Catalog

/-- The order of the catalog and its open schemas survive everything that statements do. -/
theorem robust_open : Robust fun c _ => c.Ordered ∧ c.Open where
  recatalog c next _ same _ held :=
    ⟨⟨same ▸ held.1.schemas, same ▸ held.1.relations, same ▸ held.1.names⟩, held.2.of_schemas same⟩
  createSchema c next _ _ _ _ made held :=
    ⟨(held.1.same_createSchema made).ordered, held.2.createSchema held.1 made⟩
  register c next _ _ _ _ _ made held :=
    ⟨(held.1.register_altered made).ordered, held.2.register held.1 made⟩
  registerSequence c next _ _ _ _ _ made held := by
    obtain ⟨_, -, made⟩ := bind_ok made
    have ordered := (held.1.same_allocate).ordered
    have writable : Open c.allocate.2 := held.2.of_schemas rfl
    exact ⟨(ordered.register_altered made).ordered, writable.register ordered made⟩
  replaceTable c next _ _ made held :=
    ⟨(held.1.replaceTable_altered made).1.ordered, held.2.replaceTable held.1 made⟩
  rename c next _ _ _ made held := by
    obtain ⟨_, _, _, altered⟩ := held.1.rename_altered made
    exact ⟨altered.ordered, held.2.rename held.1 made⟩
  drop c next _ _ made held := by
    obtain ⟨_, _, _, altered⟩ := held.1.drop_altered made
    exact ⟨altered.ordered, held.2.drop held.1 made⟩
  writes _ _ _ _ _ held := held
  moves _ _ _ _ _ _ _ held := held
  removes _ _ _ held := held

end Catalog

theorem Define.alterSequence_open (name : QName) (ifExists : Bool) (clauses : List SequenceClause) :
    Keeps (fun s => s.catalog.Ordered ∧ s.catalog.Open) (alterSequence name ifExists clauses) := by
  refine Keeps.catalog.bind fun c => ?_
  split
  · exact Keeps.pure _
  · exact Keeps.throw _
  · rename_i d _
    refine (Keeps.lift _).bind fun ⟨options, restart⟩ => ?_
    refine (Keeps.changeCatalog fun c next _ made held => ?_).bind fun _ => ?_
    · exact ⟨(held.1.replaceSequence_altered made).1.ordered, held.2.replaceSequence held.1 made⟩
    · cases restart with
      | none => exact Keeps.pure _
      | some value =>
          intro s t _ held ran
          cases ran
          exact held

theorem Database.Reachable.open {db : Database} (reachable : db.Reachable) : db.catalog.Open := by
  refine ((Guarded.of_reachable reachable).upholds Catalog.robust_open (fun o => ?_) ?_).visible.2
  · exact ⟨(Catalog.create_ordered o).1, Catalog.open_create o⟩
  · intro db installer name ifExists clauses _ upholds
    have blind := Sql.Statement.blind_manner (.alterSequence name ifExists clauses)
    refine upholds.define (blind db.options db.now) fun outcome t => ?_
    exact Define.alterSequence_open name ifExists clauses (upholds.commitAll.visible)

/-! ### Relations that come -/

namespace Define

open Catalog (Linked Open Registered Recalls)
open Faultless (run_bind run_lift_bind run_forM)

variable {what : String} {α : Type} {s t : Draft} {d : TableDef}

theorem changeCatalog_faultless {f : Catalog → Except SqlError Catalog}
    (given : Faultless what (f s.catalog)) : Faultless what ((changeCatalog f).run s).1 :=
  run_bind (.ok s) fun d t ran => by
    cases ran
    exact run_lift_bind given fun _ _ => .ok _

theorem allocateIndexes_faultless (keys : List Key) (s : Draft) :
    Faultless what ((allocateIndexes keys).run s).1 := by
  induction keys generalizing s with
  | nil => rintro ⟨⟩
  | cons k rest ih =>
      rw [allocateIndexes, List.mapM_cons]
      refine run_bind (.ok _) fun i t _ => run_bind (ih t) fun _ _ _ => .ok _

theorem registerParts_faultless (d : TableDef) (l : Layout) (indexes : List IndexDef) (s : Draft) :
    Faultless what ((registerParts d l indexes).run s).1 := by
  refine run_bind ?_ fun _ t _ => ?_
  · exact run_forM (fun i s => changeCatalog_faultless (.register _ _ _ _)) indexes s
  · refine run_forM (fun serial s => ?_) l.serials t
    refine run_lift_bind ?_ fun options _ => changeCatalog_faultless (.registerNext _ _ _)
    exact (Faultless.change _ _ _).bind fun _ _ => .ok _

/-- An index that cannot be built meets two rows with the same key. -/
theorem fillIndexes_faultless (d : TableDef) (indexes : List IndexDef) (s : Draft) :
    Faultless what ((fillIndexes d indexes).run s).1 := by
  refine run_forM (fun i s => ?_) indexes s
  have built : ∀ content : TableData, Faultless what (content.buildIndex d i) := fun content => by
    refine Faultless.foldlM (fun data e => ?_) _ _
    unfold TableData.buildKey
    dsimp only
    split <;> rintro ⟨⟩
  have ran : ∀ content, Faultless what ((ContentChange.createIndex d i).run content).1 := fun content =>
    run_bind (.ok _) fun data t _ => run_lift_bind (built data) fun _ _ => .ok _
  exact run_bind (.ok _) fun content t _ => run_bind (.ok _) fun _ _ _ => ran content

theorem createTable_faultless (statement : Sql.CreateTable) (s : Draft) :
    Faultless what ((createTable statement).run s).1 := by
  unfold createTable
  dsimp only
  split
  · rintro ⟨⟩
  rw [catalog_bind_run]
  refine run_lift_bind (.ofParts _) fun name _ => ?_
  split
  · split <;> rintro ⟨⟩
  refine run_lift_bind (.layoutOf _ _ _ _) fun l _ => run_lift_bind (.ensureFree _ _ _ _) fun _ _ => ?_
  refine run_bind (.ok _) fun id t _ => run_bind (allocateIndexes_faultless _ t) fun indexes u _ => ?_
  refine run_bind (changeCatalog_faultless (.register _ _ _ _)) fun _ v _ => ?_
  exact run_bind (registerParts_faultless _ _ _ v) fun _ _ _ => .ok _

theorem createSequence_faultless (name : QName) (ifNotExists : Bool) (clauses : List SequenceClause)
    (s : Draft) : Faultless what ((createSequence name ifNotExists clauses).run s).1 := by
  rw [createSequence, catalog_bind_run]
  dsimp only
  split
  · split <;> rintro ⟨⟩
  · refine run_lift_bind ((Faultless.change _ _ _).bind fun _ _ => .ok _) fun options _ => ?_
    exact run_bind (changeCatalog_faultless (.registerNext _ _ _)) fun _ _ _ => .ok _

theorem createEnum_faultless (name : QName) (labels : List String) (s : Draft) :
    Faultless what ((createEnum name labels).run s).1 := by
  rw [createEnum, catalog_bind_run]
  dsimp only
  split
  · rintro ⟨⟩
  · split
    · rintro ⟨⟩
    · exact run_bind (.ok _) fun id t _ =>
        run_bind (changeCatalog_faultless (.register _ _ _ _)) fun _ _ _ => .ok _

theorem createSchema_faultless (name : Option (List Sql.Ident)) (ifNotExists : Bool) (s : Draft) :
    Faultless what ((createSchema name ifNotExists).run s).1 := by
  unfold createSchema
  split
  · rw [catalog_bind_run]
    refine run_lift_bind (.createSchema _ _ _) fun made _ => ?_
    obtain ⟨created, next⟩ := made
    refine run_bind (changeCatalog_faultless (.ok _)) fun _ _ _ => ?_
    cases created <;> rintro ⟨⟩
  · rintro ⟨⟩

theorem alterOwner_faultless (name : QName) (s : Draft) :
    Faultless what ((alterOwner name).run s).1 := by
  rw [alterOwner, catalog_bind_run]
  exact run_lift_bind (.findKind _ _ _ _) fun _ _ => .ok _

theorem replaceTable_faultless {e : TableDef} (ordered : s.catalog.Ordered) (writable : s.catalog.Open)
    (held : s.catalog.Has d.schema d.id (.table e)) :
    Faultless what ((changeCatalog (·.replaceTable d)).run s).1 := by
  obtain ⟨next, replaced⟩ := writable.replaceTable_of_has ordered held
  exact changeCatalog_faultless (replaced ▸ .ok _)

theorem defineIndex_faultless (linked : s.catalog.Linked) (writable : s.catalog.Open)
    (table : List Sql.Ident) (keys : List Sql.OrderTerm)
    (name : TableDef → List (String × Nat) → String) (unique ifNotExists : Bool) :
    Faultless what ((defineIndex table keys name unique ifNotExists).run s).1 := by
  rw [defineIndex, catalog_bind_run]
  refine run_lift_bind (.ofParts _) fun qualified _ => ?_
  refine run_lift_bind (.findKind _ _ _ _) fun d found => ?_
  refine run_lift_bind (.indexedColumns _ _) fun columns _ => ?_
  dsimp only
  split
  · split <;> rintro ⟨⟩
  refine run_bind (.ok _) fun id u taken => ?_
  refine run_bind (fillIndexes_faultless _ _ u) fun _ v filled => ?_
  refine run_bind (changeCatalog_faultless (.register _ _ _ _)) fun _ w changed => ?_
  obtain ⟨later, registered, rfl⟩ := changeCatalog_ok changed
  have same := fillIndexes_catalog filled
  obtain ⟨schema, _, has⟩ := linked.registered.ordered.table_has found
  obtain ⟨kept, unused⟩ := allocate_kept linked.registered taken
  have there := (linked.focus has).2.keep kept
  obtain ⟨focused, _⟩ := there.registerIndex unused (same ▸ registered)
  have changeable : u.catalog.Open := by
    cases taken
    exact writable.of_schemas rfl
  refine run_bind (replaceTable_faultless focused.registered.ordered ?_ focused.held)
    fun _ _ _ => .ok _
  exact changeable.register kept.ordered (same ▸ registered)

theorem createIndex_faultless (linked : s.catalog.Linked) (writable : s.catalog.Open)
    (o : DbOptions) (statement : Sql.CreateIndex) :
    Faultless what ((createIndex o statement).run s).1 := by
  refine createIndex_cases (p := fun m => Faultless what (m.run s).1) o statement
    (.ok _) (fun _ => .notSupported _) fun name => defineIndex_faultless linked writable _ _ name _ _

theorem alterSequence_faultless (linked : s.catalog.Linked) (writable : s.catalog.Open)
    (name : QName) (ifExists : Bool) (clauses : List SequenceClause) :
    Faultless what ((alterSequence name ifExists clauses).run s).1 := by
  rw [alterSequence, catalog_bind_run]
  split
  · rintro ⟨⟩
  · rename_i e missing _
    have known : Faultless what (s.catalog.sequence name) := .findKind _ _ _ _
    rw [missing] at known
    rintro ⟨⟩
    exact known rfl
  · rename_i d found
    refine run_lift_bind (.change _ _ _) fun changed _ => ?_
    obtain ⟨options, restart⟩ := changed
    obtain ⟨schema, id, has⟩ := linked.registered.ordered.sequence_has found
    obtain ⟨rfl, rfl⟩ := linked.registered.placed _ _ _ has
    obtain ⟨next, replaced⟩ := writable.replaceSequence_of_has linked.registered.ordered
      (q := { d with options }) has
    refine run_bind (changeCatalog_faultless (replaced ▸ .ok _)) fun _ t _ => ?_
    cases restart <;> rintro ⟨⟩

end Define

end SqlEngine
