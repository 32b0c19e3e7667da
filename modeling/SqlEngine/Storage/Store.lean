import SqlEngine.Storage.Sequence
import SqlEngine.Storage.Table
import SqlEngine.Storage.Transaction

/-!
The store: the content of tables, the counters of sequences and the settings of the session, all
held in nested transactions. What they are the content of is defined in the catalog.
-/

namespace SqlEngine

/-- What a piece of data belongs to: a table, a sequence, or the session. -/
inductive DataKey where
  | table (id : Nat)
  | sequence (id : Nat)
  | settings
deriving DecidableEq, Repr, Inhabited

inductive DataValue where
  | table (content : TableData)
  | sequence (state : SequenceState)
  /-- Settings in the order of their names. -/
  | settings (values : List (String × String))
deriving Inhabited

abbrev Store := Transaction DataKey DataValue

namespace Store

/-- The content of a table that was written. -/
def table? (s : Store) (id : Nat) : Option TableData :=
  match s.get? (.table id) with
  | some (.table content) => some content
  | _ => none

/-- The content of a table; a table that was never written is empty. -/
def table (s : Store) (id : Nat) : TableData := (s.table? id).getD .empty

def putTable (s : Store) (id : Nat) (content : TableData) : Store :=
  s.set (.table id) (.table content)

def changeTable (s : Store) (id : Nat) (f : TableData → TableData) : Store :=
  s.putTable id (f (s.table id))

/-- The counter of a sequence that was used. -/
def sequence? (s : Store) (id : Nat) : Option SequenceState :=
  match s.get? (.sequence id) with
  | some (.sequence state) => some state
  | _ => none

/-- The counter of a sequence; one that was never used stands at its start. -/
def sequence (s : Store) (d : SequenceDef) : SequenceState :=
  (s.sequence? d.id).getD (.fresh d.options)

def putSequence (s : Store) (id : Nat) (state : SequenceState) : Store :=
  s.set (.sequence id) (.sequence state)

/-- The settings that were changed in the session. -/
def settings (s : Store) : List (String × String) :=
  match s.get? .settings with
  | some (.settings values) => values
  | _ => []

def setting? (s : Store) (name : String) : Option String := s.settings.lookup name

def putSetting (s : Store) (name value : String) : Store :=
  s.set .settings (.settings (Sorted.insert compare name value s.settings))

end Store

end SqlEngine
