import SqlEngine.Proofs.Database.Targets

/-!
Statements on rows keep the data in agreement with the catalog, whether they succeed or fail.

A `WITH` list may name the rows that a change returns, and later queries of the statement read them.
So it also counts that these rows are of the types of their fields.
-/

namespace SqlEngine

open Eval (Keeps Meets)
open EvalState (Agrees)
open Run (bind_ok)

/-- The rows are of the types of the fields. -/
def RowSet.Fits (t : RowSet) : Prop := ∀ row ∈ t.rows, Row.Fits (t.fields.map (·.2)) row

variable {c : Catalog} {now : Timestamp} {base : List (Level DataKey DataValue)} {n : Names}
  {t : Target} {row : Row} {types : List SqlType}

namespace Target

/-! ### Rows to return -/

abbrev Returns (c : Catalog) (types : List SqlType) (outputs : Option Outputs) : Prop :=
  ∀ output ∈ outputs.getD [], output.2.Typed c.Table (.upon [] types)

variable {outputs : Option Outputs}

theorem returning_typed {items : Option (List Sql.SelectItem)} (names : n.Outermost c)
    (target : t.Sound c) (flat : Sql.returningFlat items) (given : t.returning n items = .ok outputs) :
    Returns c t.table.types outputs := by
  unfold returning at given
  cases items with
  | none =>
      cases given
      exact List.forall_mem_nil _
  | some items =>
      obtain ⟨built, alone, given⟩ := bind_ok given
      cases given
      have flat : Sql.SelectItem.allFlat items := flat
      have sound : ∀ item ∈ Sql.SelectItem.pendings n items, Select.ItemSound c.Table n [] item :=
        Sql.SelectItem.pendings_sound names.sound flat
      obtain ⟨calls, complete⟩ := (Select.outputs_give (.plain target.plain) sound).alone alone
      intro output member
      have typed := (complete output member).plain target.plain
      rwa [Names.seen_nil names.alone, target.types] at typed

theorem returned_meets (sound : c.Sound) (typed : Returns c types outputs)
    (fits : Row.Fits types row) :
    (returned ⟨c, now⟩ outputs row).Meets (Agrees c base)
      (Row.Fits ((outputs.getD []).map (·.2.type))) := by
  refine (Meets.mapM_related fun output member => ?_).mono fun _ related =>
    List.forall₂_map_left_iff.mpr related
  exact (typed output member).eval (Agrees.stable sound base now) (Agrees.typed c base)
    (.upon .nil fits)

/-- What a step writes are rows of the types. -/
abbrev Writes (inv : EvalState → Prop) (types : List SqlType) (step : Eval (Option Row)) : Prop :=
  step.Meets inv fun written => ∀ row ∈ written, Row.Fits types row

theorem runSteps_meets {α : Type} (sound : c.Sound) (typed : Returns c types outputs)
    {step : α → Eval (Option Row)} : ∀ {items : List α},
      (∀ item ∈ items, Writes (Agrees c base) types (step item)) →
        (runSteps ⟨c, now⟩ outputs step items).Meets (Agrees c base)
          fun rows => ∀ row ∈ rows, Row.Fits ((outputs.getD []).map (·.2.type)) row := by
  intro items
  induction items with
  | nil => exact fun _ => Meets.pure (List.forall_mem_nil _)
  | cons item rest ih =>
      intro each
      have later := ih fun other member => each other (List.mem_cons_of_mem _ member)
      refine (each item List.mem_cons_self).bind fun written fits => ?_
      cases written with
      | none => exact later
      | some row =>
          refine (returned_meets sound typed (fits row rfl)).bind fun out outFits => ?_
          exact later.bind fun rows rowsFit =>
            Meets.pure (List.forall_mem_cons.mpr ⟨outFits, rowsFit⟩)

theorem run_meets {α : Type} (sound : c.Sound) (command : String)
    (typed : Returns c types outputs) {step : α → Eval (Option Row)} {items : List α}
    (each : ∀ item ∈ items, Writes (Agrees c base) types (step item)) :
    (run ⟨c, now⟩ command outputs step items).Meets (Agrees c base)
      fun changed => ∀ set ∈ changed.returning, set.Fits := by
  refine (runSteps_meets sound typed each).bind fun rows fit => Meets.pure fun set asked => ?_
  obtain ⟨built, rfl, rfl⟩ := Option.map_eq_some_iff.mp asked
  intro row member
  simpa [List.map_map, Function.comp_def] using fit row member

/-! ### Assignments -/

/-- Every value is one of its column, over rows of the types. -/
abbrev Assigns (c : Catalog) (types : List SqlType) (t : Target) (sets : List (Nat × Expr)) : Prop :=
  ∀ set ∈ sets, c.Gives types (t.table.typeAt set.1) set.2

theorem assignments_typed {s : Scope} (names : n.Outermost c) (target : t.Sound c)
    (plain : s.keys = none) : ∀ {assignments : List Sql.Assignment} {taken : List Nat}
      {sets : List (Nat × Expr)}, Sql.Assignment.allFlat assignments →
        t.assignments n s taken assignments = .ok sets → Assigns c s.types t sets := by
  intro assignments
  induction assignments with
  | nil =>
      intro taken sets _ given
      cases given
      exact List.forall_mem_nil _
  | cons a rest ih =>
      intro taken sets flat given
      obtain ⟨first, others⟩ := List.forall_mem_cons.mp (List.all_eq_true.mp flat)
      rw [Target.assignments] at given
      obtain ⟨column, _, given⟩ := bind_ok given
      dsimp only at given
      split at given
      · cases given
      · have finish : ∀ {value : Expr}, c.Gives s.types (t.table.typeAt column) value →
            (do return (column, value) :: (← t.assignments n s (column :: taken) rest) :
              Except SqlError _) = .ok sets → Assigns c s.types t sets := by
          intro value gives given
          obtain ⟨later, ran, given⟩ := bind_ok given
          cases given
          exact List.forall_mem_cons.mpr ⟨gives, ih (List.all_eq_true.mpr others) ran⟩
        split at given
        · obtain ⟨typed, same⟩ := target.defaults column
          exact finish ⟨typed.narrow (Surroundings.Narrows.apart [] s.types), same⟩ given
        · obtain ⟨term, compiled, given⟩ := bind_ok given
          obtain ⟨value, assigned, given⟩ := bind_ok given
          exact finish (Sql.Term.assigned_gives names plain first compiled assigned) given

theorem assign_meets (sound : c.Sound) {sets : List (Nat × Expr)} (assigns : Assigns c types t sets)
    {source : Row} (sourceFits : Row.Fits types source) (fits : Row.Fits t.table.types row) :
    (assign ⟨c, now⟩ source sets row).Meets (Agrees c base) (Row.Fits t.table.types) := by
  refine Meets.foldlM fits fun row fits set member => ?_
  refine ((assigns set member).eval sound sourceFits).bind fun v admitted => Meets.pure ?_
  refine fits.set fun type there => ?_
  exact t.table.at_typeAt set.1 type there ▸ admitted

end Target

/-! ### Conflicts -/

namespace Conflicts

theorem types_scope (target : t.Sound c) : (scope t).types = t.table.types ++ t.table.types := by
  have same : t.scope.columns.map (·.type) = t.table.types := target.types
  simp [Scope.types, scope, Scope.ofColumns, TypedPlan.scan, same, Column.visible,
    TableDef.types, Function.comp_def]

/-- The assignments give values of their columns, over the row that is there and the new one. -/
def Sound (c : Catalog) (t : Target) : Conflicts → Prop
  | .updated _ sets _ => Target.Assigns c (t.table.types ++ t.table.types) t sets
  | _ => True

theorem ofClause_sound {clause : Sql.ConflictClause} {conflicts : Conflicts} (names : n.Outermost c)
    (target : t.Sound c) (flat : clause.isFlat) (given : ofClause n t clause = .ok conflicts) :
    conflicts.Sound c t := by
  cases clause with
  | absent =>
      cases given
      trivial
  | duplicateKey _ => cases given
  | onConflict asked action =>
      obtain ⟨index, _, given⟩ := bind_ok given
      cases action with
      | nothing =>
          cases given
          trivial
      | update assignments condition =>
          cases index with
          | none => cases given
          | some index =>
              obtain ⟨sets, assigned, given⟩ := bind_ok given
              obtain ⟨condition, _, given⟩ := bind_ok given
              cases given
              have typed := Target.assignments_typed names target rfl flat assigned
              rwa [types_scope target] at typed

theorem resolve_meets (sound : c.Sound) (target : t.Sound c) {sets : List (Nat × Expr)}
    (assigns : Target.Assigns c (t.table.types ++ t.table.types) t sets)
    (condition : Option Expr) (fits : Row.Fits t.table.types row) (id : RowId) :
    Target.Writes (Agrees c base) t.table.types
      (resolve t ⟨c, now⟩ sets condition row id) := by
  have nothing : Target.Writes (Agrees c base) t.table.types (pure none) := Meets.pure (by simp)
  refine (Target.content_meets base target).bind fun content conforms => ?_
  cases found : content.get? id with
  | none => exact nothing
  | some existing =>
      have there : Row.Fits t.table.types existing := conforms.get? found
      have both : Row.Fits (t.table.types ++ t.table.types) (existing ++ row) :=
        List.rel_append there fits
      have finish : ∀ wanted : Bool, Target.Writes (Agrees c base) t.table.types (do
          if !wanted then return none
          let changed ← Target.assign ⟨c, now⟩ (existing ++ row) sets existing
          t.update ⟨c, now⟩ id changed
          return some changed) := by
        intro wanted
        cases wanted with
        | false => exact nothing
        | true =>
            refine (Target.assign_meets sound assigns both there).bind fun changed changedFits => ?_
            refine (Target.update_agrees now base sound target changedFits id).then_meets fun _ => ?_
            exact Meets.pure fun _ same => Option.some.inj same ▸ changedFits
      cases condition with
      | none => exact finish true
      | some condition =>
          exact (condition.holds_keeps (Agrees.stable sound base now) [] _).then_meets finish

end Conflicts

namespace Sql

variable {d : TableDef} {columns : List Nat}

/-! ### Insertions -/

namespace Insert

/-- For each column there is a value of it, or none if its default is asked for. -/
abbrev Slots (d : TableDef) (columns : List Nat) (values : List (Option Value)) : Prop :=
  List.Forall₂ (fun column value => ∀ v ∈ value, (d.typeAt column).Admits v) columns values

theorem slot_meets (sound : c.Sound) (names : n.Outermost c) {term : Term} (flat : term.isFlat)
    (column : Nat) : (slot ⟨c, now⟩ n d term column).Meets (Agrees c base)
      fun value => ∀ v ∈ value, (d.typeAt column).Admits v := by
  unfold slot
  split
  · exact Meets.pure (by simp)
  · refine (Meets.lift fun _ built => built).bind fun first built => ?_
    refine (Meets.lift fun _ assigned => assigned).bind fun e assigned => ?_
    have gives := Term.assigned_gives names rfl flat built assigned
    exact (gives.eval sound List.Forall₂.nil).bind fun v admitted =>
      Meets.pure fun _ same => Option.some.inj same ▸ admitted

theorem checkWidth_ok {values width : Nat} (given : checkWidth values width = .ok ()) :
    values = width := by
  unfold checkWidth at given
  split at given
  · cases given
  · split at given
    · cases given
    · omega

/-- Columns that are assigned the values of a list, each with the type of its column. -/
theorem assigned_outputs {source : List SqlType} {es items : List Expr}
    (typed : ∀ e ∈ es, e.Typed c.Table (.upon [] source)) (width : es.length = columns.length)
    (assigned : List.Forall₂ (fun output item => output.1.assigned n.registry (d.typeAt output.2)
      = .ok item) (es.zip columns) items) :
    Expr.AllTyped c.Table (.upon [] source) items ∧ items.map Expr.type = columns.map d.typeAt := by
  have gives : List.Forall₂ (fun output item => c.Gives source (d.typeAt output.2) item)
      (es.zip columns) items :=
    (List.forall₂_iff_zip.mpr ⟨assigned.length_eq, fun {output item} member =>
      Expr.assigned_typed (List.forall₂_zip assigned member)
        (typed _ (List.of_mem_zip (List.of_mem_zip member).1).1)⟩)
  have columnsGive : List.Forall₂ (fun column item => c.Gives source (d.typeAt column) item)
      columns items := by
    have seconds : (es.zip columns).map Prod.snd = columns := List.map_snd_zip (by omega)
    rw [← seconds]
    exact List.forall₂_map_left_iff.mpr gives
  clear assigned gives width typed
  induction columnsGive with
  | nil => exact ⟨trivial, rfl⟩
  | cons first _ ih => exact ⟨⟨first.1, ih.1⟩, by rw [List.map_cons, List.map_cons, first.2, ih.2]⟩

theorem queryRows_meets (sound : c.Sound) (names : n.Outermost c) {q : Query}
    (flat : q.isFlat false) : (queryRows ⟨c, now⟩ n d columns q).Meets (Agrees c base)
      fun rows => ∀ values ∈ rows, Slots d columns values := by
  refine (Meets.lift fun _ planned => planned).bind fun p planned => ?_
  refine (Meets.lift fun _ checked => checked).bind fun _ checked => ?_
  refine (Meets.mapM_related fun output _ => Meets.lift fun _ assigned => assigned).bind
    fun items assigned => ?_
  have typed : p.Typed c.Table (n.seen []) :=
    Query.plan_typed [] names.sound (fun _ => names.alone) flat planned
  rw [Names.seen_nil names.alone] at typed
  have width : p.outputs.length = columns.length := by
    simpa [TypedPlan.outputs] using checkWidth_ok checked
  obtain ⟨itemsTyped, types⟩ := assigned_outputs (TypedPlan.outputs_typed p) width assigned
  have project : (Plan.project p.plan items).Typed c.Table [] (columns.map d.typeAt) :=
    ⟨p.types, typed.1, itemsTyped, types.symm⟩
  refine (project.cursor (Agrees.stable sound base now) (Agrees.typed c base) .nil).collect.bind
    fun rows fit => Meets.pure fun values member => ?_
  obtain ⟨row, there, rfl⟩ := List.mem_map.mp member
  refine List.forall₂_map_right_iff.mpr ((List.forall₂_map_left_iff.mp (fit row there)).imp ?_)
  exact fun column v admitted _ same => Option.some.inj same ▸ admitted

theorem sourceRows_meets (sound : c.Sound) (names : n.Outermost c) (columns : List Nat)
    {source : Option Query} (flat : source.all (·.isFlat false)) :
    (sourceRows ⟨c, now⟩ n d columns source).Meets (Agrees c base)
      fun rows => ∀ values ∈ rows, Slots d columns values := by
  unfold sourceRows
  split
  · refine Meets.pure (List.forall_mem_singleton.mpr ?_)
    exact List.forall₂_map_right_iff.mpr (List.forall₂_same.mpr (by simp))
  · rename_i rows _ _
    simp only [Option.all_some, Query.isFlat, Body.isFlat, Binding.allFlat, OrderTerm.allFlat,
      Bool.and_eq_true] at flat
    have terms := Term.listsFlat_iff.mp flat.1.2
    refine Meets.mapM fun row listed => ?_
    refine (Meets.lift fun _ checked => checked).bind fun _ checked => ?_
    have width := checkWidth_ok checked
    have seconds : (row.zip columns).map Prod.snd = columns := List.map_snd_zip (by omega)
    refine (Meets.mapM_related fun output member => slot_meets sound names
      (terms row listed _ (List.of_mem_zip member).1) output.2).mono fun values related => ?_
    rw [Slots, ← seconds]
    exact List.forall₂_map_left_iff.mpr related
  · exact queryRows_meets sound names flat

theorem completeRow_meets (sound : c.Sound) (target : t.Sound c) {values : List (Option Value)}
    (slots : Slots t.table columns values) :
    (completeRow ⟨c, now⟩ t columns values).Meets (Agrees c base) (Row.Fits t.table.types) := by
  refine (Meets.mapM_related fun column _ => ?_).mono fun row
    (related : List.Forall₂ (fun column v => (t.table.typeAt column).Admits v) _ row) => ?_
  · split
    · rename_i v found
      have there := Option.join_eq_some_iff.mp found
      obtain ⟨before, after, split, _⟩ := List.lookup_eq_some_iff.mp there
      exact Meets.pure (List.forall₂_zip slots (by simp [split]) v rfl)
    · obtain ⟨typed, same⟩ := target.defaults column
      exact same ▸ typed.eval (Agrees.stable sound base now) (Agrees.typed c base) (.apart [] .nil)
  · rw [TableDef.types_eq_map_typeAt]
    exact List.forall₂_map_left_iff.mpr related

theorem insertRow_meets (sound : c.Sound) (target : t.Sound c) {conflicts : Conflicts}
    (proper : conflicts.Sound c t) (fits : Row.Fits t.table.types row) :
    Target.Writes (Agrees c base) t.table.types (insertRow ⟨c, now⟩ t conflicts row) := by
  have write : Target.Writes (Agrees c base) t.table.types (do
      t.insert ⟨c, now⟩ row
      return some row) :=
    (Target.insert_agrees now base sound target fits).then_meets fun _ =>
      Meets.pure fun _ same => Option.some.inj same ▸ fits
  refine (Target.content_meets base target).bind fun content _ => ?_
  cases conflicts with
  | refused => exact write
  | skipped index =>
      dsimp only
      split
      · exact Meets.pure (by simp)
      · exact write
  | updated index sets condition =>
      dsimp only
      split
      · exact Conflicts.resolve_meets sound target proper condition fits _
      · exact write

theorem run_meets (sound : c.Sound) (names : n.Outermost c) (flatTables : ∀ d, c.Table d → d.Flat)
    {i : Insert} (flat : (Change.insert i).isFlat) :
    (i.run ⟨c, now⟩ n).Meets (Agrees c base) fun changed => ∀ set ∈ changed.returning, set.Fits := by
  simp only [Change.isFlat, Bool.and_eq_true] at flat
  obtain ⟨⟨sourceFlat, conflictFlat⟩, returningFlat⟩ := flat
  refine (Keeps.lift _).then_meets fun name => ?_
  refine (Meets.lift fun _ found => names.sound.tables name _ found).bind fun d held => ?_
  refine (Keeps.lift _).then_meets fun columns => ?_
  refine (Meets.lift fun _ compiled =>
    Target.ofTable_sound names held (flatTables d held) compiled).bind fun t ⟨target, same⟩ => ?_
  subst same
  refine (Meets.lift fun _ compiled =>
    Conflicts.ofClause_sound names target conflictFlat compiled).bind fun conflicts proper => ?_
  refine (Meets.lift fun _ compiled =>
    Target.returning_typed names target returningFlat compiled).bind fun outputs typed => ?_
  refine (sourceRows_meets sound names columns sourceFlat).bind fun sources slots => ?_
  refine Target.run_meets sound "INSERT" typed fun values member => ?_
  exact (completeRow_meets sound target (slots values member)).bind fun row fits =>
    insertRow_meets sound target proper fits

end Insert

/-! ### Updates and deletions -/

theorem TableTerm.single_known (names : n.Outermost c) {statement : String} {target : TableTerm}
    {single : TableDef × Option String} (given : target.single n statement = .ok single) :
    c.Table single.1 := by
  cases target with
  | named name withColumns knownAs sample =>
      obtain ⟨qualified, _, given⟩ := bind_ok given
      obtain ⟨d, found, given⟩ := bind_ok given
      cases given
      exact names.sound.tables qualified d found
  | _ => cases given

section

variable (sound : c.Sound) (names : n.Outermost c) (flatTables : ∀ d, c.Table d → d.Flat)
include sound names flatTables

theorem Update.run_meets {u : Update} (flat : (Change.update u).isFlat) :
    (u.run ⟨c, now⟩ n).Meets (Agrees c base) fun changed => ∀ set ∈ changed.returning, set.Fits := by
  obtain ⟨assignmentsFlat, returningFlat⟩ := Bool.and_eq_true_iff.mp flat
  have stable := Agrees.stable sound base now
  unfold Update.run
  split
  · exact Meets.throw_bind _ _
  · refine (Meets.lift fun _ given => TableTerm.single_known names given).bind fun single held => ?_
    refine (Meets.lift fun _ compiled =>
      Target.ofTable_sound names held (flatTables _ held) compiled).bind fun t ⟨target, _⟩ => ?_
    refine (Keeps.optionMapM fun _ => Keeps.lift _).then_meets fun condition => ?_
    refine (Meets.lift fun _ compiled =>
      Target.assignments_typed names target target.plain assignmentsFlat compiled).bind
        fun sets assigns => ?_
    refine (Meets.lift fun _ compiled =>
      Target.returning_typed names target returningFlat compiled).bind fun outputs typed => ?_
    refine (Target.content_meets base target).bind fun content conforms => ?_
    refine Target.run_meets sound "UPDATE" typed fun e member => ?_
    refine (selects_keeps stable condition e.2).then_meets fun selected => ?_
    split
    · exact Meets.pure (by simp)
    · rw [target.types] at assigns
      have fits : Row.Fits t.table.types e.2 := conforms.fits e member
      refine (Target.assign_meets sound assigns fits fits).bind fun changed changedFits => ?_
      exact (Target.update_agrees now base sound target changedFits e.1).then_meets fun _ =>
        Meets.pure fun _ same => Option.some.inj same ▸ changedFits

theorem Delete.run_meets {d : Delete} (flat : (Change.delete d).isFlat) :
    (d.run ⟨c, now⟩ n).Meets (Agrees c base) fun changed => ∀ set ∈ changed.returning, set.Fits := by
  have stable := Agrees.stable sound base now
  unfold Delete.run
  dsimp only
  split
  · exact Meets.throw_bind _ _
  · split
    · refine (Meets.lift fun _ given => TableTerm.single_known names given).bind fun single held => ?_
      refine (Meets.lift fun _ compiled =>
        Target.ofTable_sound names held (flatTables _ held) compiled).bind fun t ⟨target, _⟩ => ?_
      refine (Keeps.optionMapM fun _ => Keeps.lift _).then_meets fun condition => ?_
      refine (Meets.lift fun _ compiled =>
        Target.returning_typed names target flat compiled).bind fun outputs typed => ?_
      refine (Target.content_meets base target).bind fun content conforms => ?_
      refine Target.run_meets sound "DELETE" typed fun e member => ?_
      refine (selects_keeps stable condition e.2).then_meets fun selected => ?_
      split
      · exact Meets.pure (by simp)
      · refine (Target.delete_agrees base sound target e.1).then_meets fun deleted => ?_
        refine Meets.pure fun row written => ?_
        split at written
        · exact Option.some.inj written ▸ conforms.fits e member
        · cases written
    · exact Meets.throw _

/-- A change of rows leaves data that agree with the catalog, and returns rows of the types of their
fields. -/
theorem Change.run_meets : ∀ {change : Change}, change.isFlat →
    (change.run ⟨c, now⟩ n).Meets (Agrees c base)
      fun changed => ∀ set ∈ changed.returning, set.Fits
  | .insert _, flat => Insert.run_meets sound names flatTables flat
  | .update _, flat => Update.run_meets sound names flatTables flat
  | .delete _, flat => Delete.run_meets sound names flatTables flat
  | .unsupported _, _ => Meets.throw _

end

/-! ### Queries with names in front of them -/

/-- The name stands for rows of the types of its columns, or for none. -/
abbrev Known (c : Catalog) (named : Named) : Prop :=
  ∀ p, named = .rows p → ∀ outer, p.Typed c.Table outer

theorem RowSet.plan_typed {set : RowSet} (fits : set.Fits) (outer : List Seen) :
    set.plan.Typed c.Table outer := by
  have types : set.plan.types = set.fields.map (·.2) :=
    TypedPlan.types_zipWith (by simp)
  refine TypedPlan.typed_of_types ?_ types rfl
  exact fits

namespace QueryStatement

variable (sound : c.Sound) (flatTables : ∀ d, c.Table d → d.Flat)
include sound flatTables

theorem source_meets (names : n.Outermost c) (knownAs : TableAlias) : ∀ {source : Source},
    source.isFlat → (QueryStatement.source ⟨c, now⟩ n knownAs source).Meets (Agrees c base) (Known c)
  | .query q, flat => by
      refine (Meets.lift fun _ planned => planned).bind fun p planned => ?_
      refine (Meets.lift fun _ given => given).bind fun rows given => Meets.pure ?_
      intro _ same outer
      cases same
      have typed := Query.plan_typed outer names.sound (fun _ => names.alone) flat planned
      rw [Names.seen, names.alone] at typed
      exact TypedPlan.named_typed given typed
  | .change change, flat => by
      refine (change.run_meets sound names flatTables flat).bind fun changed fit => ?_
      split
      · rename_i set returned
        refine (Meets.lift fun _ given => given).bind fun rows given => Meets.pure ?_
        intro _ same outer
        cases same
        exact TypedPlan.named_typed given (RowSet.plan_typed (fit set returned) outer)
      · refine Meets.pure fun _ never => ?_
        cases never

theorem bindAll_meets : ∀ {bindings : List (TableAlias × Source)} {n : Names}, n.Outermost c →
    bindings.all (·.2.isFlat) →
      (bindAll ⟨c, now⟩ n bindings).Meets (Agrees c base) (Names.Outermost c) := by
  intro bindings
  induction bindings with
  | nil => exact fun names _ => Meets.pure names
  | cons binding rest ih =>
      intro n names flat
      obtain ⟨first, later⟩ := Bool.and_eq_true_iff.mp flat
      refine (source_meets sound flatTables names binding.1 first).bind fun named known => ?_
      refine (Meets.lift fun _ given => given).bind fun m given => ih ?_ later
      unfold QueryStatement.bind at given
      split at given
      · cases given
      · cases given
        exact ⟨names.sound.bind known _, names.alone⟩

/-- A query statement leaves data that agree with the catalog, whatever its names change. -/
theorem run_agrees {q : QueryStatement} (flat : q.isFlat) :
    (q.run ⟨c, now⟩).Keeps (Agrees c base) := by
  obtain ⟨bindingsFlat, bodyFlat⟩ := Bool.and_eq_true_iff.mp flat
  unfold QueryStatement.run
  dsimp only
  split
  · exact Meets.throw_bind _ _
  · refine (bindAll_meets sound flatTables sound.outermost bindingsFlat).bind fun n names => ?_
    split
    · rename_i change body
      rw [body] at bodyFlat
      exact (change.run_meets sound names flatTables bodyFlat).keeps.bind fun _ => Keeps.pure _
    · refine (Keeps.lift _).bind fun p => ?_
      exact (p.plan.cursor_keeps (Agrees.stable sound base now) []).collect.keeps.bind
        fun _ => Keeps.pure _

end QueryStatement

end Sql

end SqlEngine
