import SqlEngine.Proofs.Database.Renaming
import SqlEngine.Proofs.Database.SerialColumns
import SqlEngine.Proofs.Sql.Mentions
import SqlEngine.Proofs.Typing.MovedColumns

/-!
Checks of a table after a column went.

The checks in which the name of the column is a word go along, and the others stay in their order. A
check that stays and names no column that is gone goes on to refuse the rows that it refused, without
the value of the column. A check that stays and names the column can no longer be compiled, and then no
row of the table can be changed. That cannot happen to a column whose name is a word and checks that
are written in plain identifiers.
-/

namespace SqlEngine

open Run (bind_ok Follows)
open Define (cutColumn mentions isWordChar)
open SqlEngine.Expr (Moved)

namespace Target

variable {n : Names} {d : TableDef} {position width : Nat} {c : ColumnDef} {column : String}
  {knownAs : Option String} {u v : Target}

theorem scopeOf_cutColumn (d : TableDef) (position : Nat) (column : String)
    (knownAs : Option String) :
    scopeOf (cutColumn d position column) knownAs = (scopeOf d knownAs).withoutColumn position :=
  congrArg Scope.ofColumns (List.eraseIdx_map ..).symm

theorem length_scopeOf (d : TableDef) (knownAs : Option String) :
    (scopeOf d knownAs).columns.length = d.columns.length := List.length_map _

/-- The names and the conditions of checks, with the columns of the conditions at the places where they
are after a column went. -/
abbrev CutChecks (position width : Nat) (checks others : List (String × Expr)) : Prop :=
  List.Forall₂ (fun p q => q.1 = p.1 ∧ Moved (Closes position width) p.2 q.2) checks others

theorem compileChecks_cutColumn (column : String) (knownAs : Option String) (top : n.outer = [])
    (there : d.columns[position]? = some c) {checks : List CheckDef}
    (avoid : ∀ check ∈ checks, check.condition.names (fun _ name => name != c.name) = true) :
    Follows (CutChecks position d.columns.length) (checks.mapM (compileCheck n (scopeOf d knownAs)))
      (checks.mapM (compileCheck n (scopeOf (cutColumn d position column) knownAs))) := by
  have alike : n.Alike n := ⟨rfl, fun _ => rfl, top, top⟩
  have moves := alike.moves_withoutColumn rfl (scopeOf_column knownAs there)
  rw [length_scopeOf, ← scopeOf_cutColumn d position column] at moves
  have both : List.Forall₂ (fun a b : CheckDef => b = a ∧
      a.condition.names (fun _ name => name != c.name) = true) checks checks :=
    List.forall₂_same.mpr fun check member => ⟨rfl, avoid check member⟩
  refine Follows.mapM ?_ both
  rintro check _ ⟨rfl, named⟩
  exact (Sql.Term.condition_follows moves _ named).bind fun _ _ moved => .ok ⟨rfl, moved⟩

/-- Rows are refused without the value of the column as they were refused with it. -/
theorem check_of_cutChecks (cut : CutChecks position width v.checks u.checks)
    (named : u.table.name = v.table.name) (env : Env) {row : Row} (wide : row.length = width) :
    u.check env (row.eraseIdx position) = v.check env row := by
  subst wide
  rw [check, check, named]
  generalize v.checks = checks, u.checks = others at cut
  induction cut with
  | nil => rfl
  | @cons p q _ _ first _ ih =>
      have same : q.2.eval env [] (row.eraseIdx position) = p.2.eval env [] row :=
        Expr.eval_moved (fun _ _ => Closes.shown) first.2
      simp only [List.forM_eq_forM, List.forM_cons, refuses, same, first.1] at ih ⊢
      rw [ih]

/-- A table as it would be if a column that goes took its checks along, but stayed itself. -/
def keeping (d : TableDef) (column : String) : TableDef :=
  { d with checks := d.checks.filter fun check => !mentions check.condition column }

/-- Where no check that stays names the column, the table can be changed as before. -/
theorem ofTable_cutColumn (top : n.outer = []) (there : d.columns[position]? = some c)
    (compiled : ofTable n (keeping d column) knownAs = .ok v)
    (avoid : ∀ check ∈ (keeping d column).checks,
      check.condition.names (fun _ name => name != c.name) = true) :
    ∃ u, ofTable n (cutColumn d position column) knownAs = .ok u ∧
      ∀ env row, row.length = d.columns.length →
        u.check env (row.eraseIdx position) = v.check env row := by
  obtain ⟨defaults, checks, first, second, rfl⟩ := ofTable_ok compiled
  obtain ⟨others, again, cut⟩ := compileChecks_cutColumn column knownAs top there avoid checks second
  refine ⟨⟨cutColumn d position column, scopeOf (cutColumn d position column) knownAs,
    defaults.eraseIdx position, others⟩, ?_, fun env row wide => ?_⟩
  · change (do
      let defaults ← (d.columns.eraseIdx position).mapM (compileDefault n)
      let checks ← (keeping d column).checks.mapM
        (compileCheck n (scopeOf (cutColumn d position column) knownAs))
      return (⟨cutColumn d position column, scopeOf (cutColumn d position column) knownAs, defaults,
        checks⟩ : Target)) = _
    have left : (d.columns.eraseIdx position).mapM (compileDefault n) = _ :=
      Run.mapM_eraseIdx first position
    rw [left, again]
    rfl
  · refine check_of_cutChecks cut ?_ env wide
    rfl

/-- A check that stays and can still be compiled does not name the column. -/
theorem avoids_of_cutColumn (top : n.outer = []) (there : d.columns[position]? = some c)
    (word : Build.bareCalls.lookup c.name = none)
    (compiled : ofTable n (keeping d column) knownAs = .ok v)
    (again : ofTable n (cutColumn d position column) knownAs = .ok u) {check : CheckDef}
    (member : check ∈ (keeping d column).checks)
    (plain : check.condition.names (fun _ _ => true) = true) :
    check.condition.names (fun _ name => name != c.name) = true := by
  -- a name in the check is known both times, and the name of the column only the first time
  have before := ofTable_names compiled member plain
  have now := ofTable_names again member plain
  refine Sql.Term.names_both (fun table name known still => ?_) check.condition before now
  rw [bne_iff_ne]
  rintro rfl
  rw [scopeOf_cutColumn] at still
  have gone := Names.not_knows_withoutColumn (m := n) ⟨top, top⟩ word
    (scopeOf_column knownAs there) (fun e member => ?_) known
  · exact absurd (still.symm.trans gone) nofun
  · obtain ⟨_, _, rfl⟩ := List.mem_map.mp member
    exact ⟨rfl, rfl⟩

/-- The table can still be changed if and only if no check that stays names the column. -/
theorem ofTable_cutColumn_iff (top : n.outer = []) (there : d.columns[position]? = some c)
    (word : Build.bareCalls.lookup c.name = none)
    (plain : ∀ check ∈ d.checks, check.condition.names (fun _ _ => true) = true)
    (compiled : ofTable n (keeping d column) knownAs = .ok v) :
    (∃ u, ofTable n (cutColumn d position column) knownAs = .ok u) ↔
      ∀ check ∈ (keeping d column).checks,
        check.condition.names (fun _ name => name != c.name) = true := by
  constructor
  · rintro ⟨u, again⟩ check member
    exact avoids_of_cutColumn top there word compiled again member
      (plain check (List.mem_of_mem_filter member))
  · intro avoid
    obtain ⟨u, again, -⟩ := ofTable_cutColumn top there compiled avoid
    exact ⟨u, again⟩

end Target

namespace Define

variable {s t : Draft} {d : TableDef} {now : Timestamp} {position : Nat} {column : Sql.Ident}
  {ifExists : Bool}

theorem alterOne_dropColumn (linked : s.catalog.Linked)
    (held : s.catalog.Has d.schema d.id (.table d)) (there : d.position? column.name = some position)
    (ran : (alterOne now d.id (.dropColumn column ifExists)).run s = (.ok (), t)) :
    t.catalog.Has d.schema d.id (.table (cutColumn d position column.name)) := by
  rw [alterOne, catalog_bind_run, linked.registered.tableById_of_has held] at ran
  obtain ⟨_, same, ran⟩ := Run.lift_bind_ok ran
  cases same
  simp only [there] at ran
  obtain ⟨c, -, -, -, altered⟩ := dropColumn_parts linked held ran
  exact (altered.has _ _ _).mpr (by simp)

end Define

namespace Database

open Target (ofTable keeping)

variable {db later : Database} {d : TableDef} {name : QName} {parts : List Sql.Ident}
  {ifExists onTable : Bool} {column : Sql.Ident} {position : Nat} {outcome : Outcome}

/-- After `ALTER TABLE … DROP COLUMN`, a check is gone if and only if the name of the column is a word
of it. -/
theorem Reachable.dropColumn (reachable : db.Reachable) (installer : Installer)
    (named : QName.ofParts parts = .ok name) (found : db.catalog.table name = .ok d)
    (there : d.position? column.name = some position)
    (done : db.run installer (.alterTable ⟨parts, onTable, [.dropColumn column ifExists]⟩) =
      (.ok outcome, later)) :
    later.catalog.Has d.schema d.id (.table (cutColumn d position column.name)) := by
  obtain ⟨data, t, held, ran, catalog⟩ := reachable.alterTable_single installer named found done
  rw [catalog]
  exact Define.alterOne_dropColumn reachable.linked held there ran

/-- After `ALTER TABLE … DROP COLUMN`, rows of the table can be changed if and only if no check that
stays names the column, and then the checks that stay refuse the rows that they refused. -/
theorem Reachable.dropColumn_checks (reachable : db.Reachable) (installer : Installer)
    (named : QName.ofParts parts = .ok name) (found : db.catalog.table name = .ok d)
    (there : d.position? column.name = some position)
    (done : db.run installer (.alterTable ⟨parts, onTable, [.dropColumn column ifExists]⟩) =
      (.ok outcome, later))
    (word : Build.bareCalls.lookup column.name = none)
    (plain : ∀ check ∈ d.checks, check.condition.names (fun _ _ => true) = true)
    {knownAs : Option String} {v : Target}
    (compiled : ofTable (.ofCatalog later.catalog) (keeping d column.name) knownAs = .ok v) :
    ∃ e, later.catalog.Has d.schema d.id (.table e) ∧ e.checks = (keeping d column.name).checks ∧
      ((∃ u, ofTable (.ofCatalog later.catalog) e knownAs = .ok u) ↔
        ∀ check ∈ e.checks, check.condition.names (fun _ name => name != column.name) = true) ∧
      ∀ u, ofTable (.ofCatalog later.catalog) e knownAs = .ok u → ∀ env row,
        row.length = d.columns.length → u.check env (row.eraseIdx position) = v.check env row := by
  obtain ⟨c, inside, same⟩ := TableDef.column_of_position? there
  rw [← same] at word
  have changeable := Target.ofTable_cutColumn_iff rfl inside word plain compiled
  rw [same] at changeable
  refine ⟨_, reachable.dropColumn installer named found there done, rfl, changeable, ?_⟩
  intro u again
  obtain ⟨_, made, refused⟩ :=
    Target.ofTable_cutColumn rfl inside compiled (same ▸ changeable.mp ⟨u, again⟩)
  cases again.symm.trans made
  exact refused

/-- Where the checks are written in plain identifiers and the name of the column is a word, exactly the
checks go that mention the column, and the others refuse the rows that they refused. -/
theorem Reachable.dropColumn_plain (reachable : db.Reachable) (installer : Installer)
    (named : QName.ofParts parts = .ok name) (found : db.catalog.table name = .ok d)
    (there : d.position? column.name = some position)
    (done : db.run installer (.alterTable ⟨parts, onTable, [.dropColumn column ifExists]⟩) =
      (.ok outcome, later))
    (letters : ∀ c ∈ column.name.toList, Define.isWordChar c = true)
    (plain : ∀ check ∈ d.checks, check.condition.PlainNames)
    {knownAs : Option String} {v : Target}
    (compiled : ofTable (.ofCatalog later.catalog) (keeping d column.name) knownAs = .ok v) :
    ∃ e u, later.catalog.Has d.schema d.id (.table e) ∧ e.checks = (keeping d column.name).checks ∧
      (∀ check ∈ e.checks, check.condition.names (fun _ name => name != column.name) = true) ∧
      ofTable (.ofCatalog later.catalog) e knownAs = .ok u ∧
      ∀ env row, row.length = d.columns.length →
        u.check env (row.eraseIdx position) = v.check env row := by
  obtain ⟨c, inside, same⟩ := TableDef.column_of_position? there
  have avoid : ∀ check ∈ (keeping d column.name).checks,
      check.condition.names (fun _ name => name != column.name) = true := by
    intro check member
    obtain ⟨held, stays⟩ := List.mem_filter.mp member
    rw [Bool.not_eq_true'] at stays
    by_contra naming
    rw [Bool.not_eq_true] at naming
    exact absurd ((plain check held).mentions letters naming) (by simp [stays])
  obtain ⟨u, made, refused⟩ := Target.ofTable_cutColumn rfl inside compiled (same ▸ avoid)
  exact ⟨_, u, reachable.dropColumn installer named found there done, rfl, avoid, made, refused⟩

end Database

end SqlEngine
