import SqlEngine.Proofs.Catalog.Conversions
import SqlEngine.Proofs.Database.Visibility
import SqlEngine.Sql.Batch

/-!
Defaults of serial columns.

The default of a serial column names the sequence of the column in a text, with the schema in front
and both in quotes. The text is read back as a name each time a number is drawn. Quotes are not
doubled in it, so it names the sequence exactly if none of the names has a quote; all other
characters come through, also the ones that have a meaning in a text of SQL.
-/

namespace SqlEngine

open Run (bind_ok map_ok)

/-! ### Names in quotes -/

namespace DottedName

variable {cs : List Char} {schema name : String}

/-- What stands in quotes up to the next quote is taken as it is. -/
theorem partsFrom_quoted {p : OpenPart} (unquoted : '"' ∉ cs) (rest : List Char) :
    partsFrom true p (cs ++ '"' :: rest) = partsFrom false ⟨cs.reverse ++ p.reversed, true⟩ rest := by
  induction cs generalizing p with
  | nil => rfl
  | cons c cs ih =>
      obtain ⟨other, unquoted⟩ := List.ne_and_not_mem_of_not_mem_cons unquoted
      rw [List.cons_append, partsFrom_cons, if_neg (by simpa using Ne.symm other),
        if_neg (by simp), ih unquoted, List.reverse_cons, List.append_assoc,
        List.singleton_append]

/-- A single part that is quoted anywhere holds everything but the quotes. -/
theorem toList_of_partsFrom_single {inside : Bool} {p : OpenPart} {part : String}
    (single : partsFrom inside p cs = [part]) (quoted : p.quoted = true ∨ '"' ∈ cs) :
    part.toList = p.reversed.reverse ++ cs.filter (· != '"') := by
  induction cs generalizing inside p with
  | nil =>
      cases single
      simp [OpenPart.close, normalize, quoted.resolve_right List.not_mem_nil]
  | cons c cs ih =>
      rw [partsFrom_cons] at single
      split at single
      · rename_i quote
        rw [ih single (.inl rfl), List.filter_cons_of_neg (by simpa using quote)]
      split at single
      · exact absurd (List.cons.inj single).2 partsFrom_ne_nil
      · rename_i other _
        have still : p.quoted = true ∨ '"' ∈ cs := quoted.imp_right fun member =>
          (List.mem_cons.mp member).resolve_left fun same => other (by simp [← same])
        rw [ih single still, List.filter_cons_of_pos (by simpa using other), List.reverse_cons,
          List.append_assoc, List.singleton_append]

/-- The text of two names in quotes with a dot between them. -/
def inQuotes (schema name : String) : String := s!"\"{schema}\".\"{name}\""

theorem toList_inQuotes (schema name : String) : (inQuotes schema name).toList =
    '"' :: (schema.toList ++ '"' :: '.' :: '"' :: (name.toList ++ ['"'])) := by
  simp [inQuotes, toString]

theorem split_inQuotes (unquotedSchema : '"' ∉ schema.toList) (unquoted : '"' ∉ name.toList) :
    split (inQuotes schema name).toList = (some schema, name) := by
  have twice : parts (inQuotes schema name).toList = [schema, name] := by
    rw [toList_inQuotes, parts, partsFrom_cons, if_pos (by decide)]
    change partsFrom true ⟨[], true⟩ _ = _
    rw [partsFrom_quoted unquotedSchema]
    change OpenPart.close ⟨schema.toList.reverse ++ [], true⟩ :: partsFrom true ⟨[], true⟩ _ = _
    rw [partsFrom_quoted unquoted]
    simp [partsFrom, OpenPart.close, normalize]
  rw [split, twice]
  rfl

/-- A quote in a name ends the part that it stands in, so the name is another one. -/
example : split (inQuotes "public" "a\"b_id_seq").toList = (some "public", "ab_id_seq") := by
  decide +kernel

theorem mem_parts_of_split {s : String} (front : (split cs).1 = some s) : s ∈ parts cs := by
  unfold split at front
  split at front
  · rename_i shape
    cases front
    exact List.mem_reverse.mp (by simp [shape])
  · cases front
  · cases front

theorem parts_of_split (front : (split cs).1 = none) : parts cs = [(split cs).2] := by
  unfold split at front ⊢
  split at front
  · cases front
  · rename_i shape
    exact List.reverse_inj.mp shape
  · rename_i shape
    exact absurd (List.reverse_eq_nil_iff.mp shape) partsFrom_ne_nil

/-- The dot between the names divides them, or else it stays. -/
theorem ne_of_split_inQuotes (front : (split (inQuotes schema name).toList).1 = none)
    (unquoted : '"' ∉ name.toList) : (split (inQuotes schema name).toList).2 ≠ name := by
  intro same
  have whole := toList_of_partsFrom_single (parts_of_split front) (.inr (by simp [toList_inQuotes]))
  have kept : name.toList.filter (· != '"') = name.toList :=
    List.filter_eq_self.mpr fun c member => bne_iff_ne.mpr fun quote => unquoted (quote ▸ member)
  rw [same, toList_inQuotes] at whole
  have lengths := congrArg List.length whole
  simp [kept] at lengths
  omega

end DottedName

namespace Catalog

open DottedName

variable {c : Catalog} {schema : String} {id : Nat} {q : SequenceDef} {r : Relation} {name : QName}

/-- Named in quotes, together with its schema, a sequence is found if and only if neither of the
names has a quote. -/
theorem Registered.sequence_inQuotes_iff (registered : c.Registered)
    (has : c.Has schema id (.sequence q)) :
    c.sequence (.ofText (inQuotes schema q.name)) = .ok q ↔
      '"' ∉ schema.toList ∧ '"' ∉ q.name.toList := by
  constructor
  · intro given
    obtain ⟨number, r, found, part⟩ := findKind_ok given
    obtain rfl := sequence?_eq_some.mp part
    have named : q.name = (split (inQuotes schema q.name).toList).2 := registered.find?_name found
    -- no name that is read back has a quote, and both names are read back
    have unquoted : '"' ∉ q.name.toList := by
      rw [named]
      exact quote_notMem_partsFrom List.not_mem_nil _ snd_split_mem_parts
    refine ⟨?_, unquoted⟩
    cases front : (split (inQuotes schema q.name).toList).1 with
    | none => exact absurd named.symm (ne_of_split_inQuotes front unquoted)
    | some s =>
        have there : c.find? ⟨some s, q.name⟩ = some (number, .sequence q) := by
          rw [named, ← front]
          exact found
        have placed := (registered.placed _ _ _ (registered.find?_iff.mp there).1).2
        rw [← (registered.placed _ _ _ has).2, placed]
        exact quote_notMem_partsFrom List.not_mem_nil _ (mem_parts_of_split front)
  · rintro ⟨unquotedSchema, unquoted⟩
    have found : c.find? ⟨some schema, q.name⟩ = some (id, .sequence q) :=
      registered.find?_iff.mpr ⟨has, rfl⟩
    rw [QName.ofText, split_inQuotes unquotedSchema unquoted]
    change c.findKind ⟨some schema, q.name⟩ _ _ = _
    rw [findKind, found]
    rfl

end Catalog

/-! ### Texts within a text -/

namespace Sql.Lexer

variable {cs rest : List Char} {token : Token}

/-- Every quote twice. -/
def doubled (quote : Char) (cs : List Char) : List Char :=
  cs.flatMap fun c => if c == quote then [c, c] else [c]

/-- A text in quotes is read as what it was before its quotes were doubled. -/
theorem quoted?_doubled {quote : Char} (ends : rest.head? ≠ some quote) : ∀ cs : List Char,
    quoted? quote (doubled quote cs ++ quote :: rest) = some (cs, rest)
  | [] => by
      cases rest with
      | nil => simp [doubled, quoted?]
      | cons d rest =>
          have other : (d == quote) = false := by simpa using ends
          simp [doubled, quoted?, other]
  | c :: cs => by
      have later := quoted?_doubled ends cs
      rw [doubled, List.flatMap_cons]
      change quoted? quote ((_ ++ doubled quote cs) ++ _) = _
      split
      · rename_i same
        rw [beq_iff_eq] at same
        subst same
        simp [quoted?, later]
      · rename_i other
        rw [List.append_assoc, List.singleton_append]
        unfold quoted?
        rw [if_neg other, later]
        rfl

theorem lexemesFrom?_of_scan? (place : Place) (offset fuel : Nat)
    (scanned : scan? cs = some (some token, rest)) :
    ∃ after next, lexemesFrom? place offset (fuel + 1) cs =
      (lexemesFrom? after next fuel rest).map (⟨token, place, offset⟩ :: ·) := by
  let size := cs.length - rest.length
  refine ⟨advance place (cs.take size), offset + size, ?_⟩
  cases cs with
  | nil => cases scanned
  | cons c cs =>
      rw [lexemesFrom?, scanned]
      · change (lexemesFrom? (advance place ((c :: cs).take size)) (offset + size) fuel rest).bind
          (fun later => some (⟨token, place, offset⟩ :: later)) = _
        rw [Option.map_eq_bind]
        rfl
      · exact List.cons_ne_nil c cs

theorem scan?_of_token? {c : Char} (plain : Text.isBlank c = false) (noLine : c ≠ '-')
    (noBlock : c ≠ '/') :
    scan? (c :: cs) = (token? c cs).map fun (token, rest) => (some token, rest) := by
  unfold scan?
  split <;> simp_all

theorem scan?_open (rest : List Char) :
    scan? ('(' :: '\'' :: rest) = some (some (.symbol "("), '\'' :: rest) := by
  have plain : isWordStart '(' = false := by decide +kernel
  have digit : Numeral.isDigit '(' = false := by decide +kernel
  rw [scan?_of_token? (by decide +kernel) (by decide) (by decide)]
  simp [token?, plain, digit, symbol, symbols]
  rfl

theorem scan?_close : scan? [')'] = some (some (.symbol ")"), []) := by decide +kernel

theorem scan?_string (text : List Char) (ends : rest.head? ≠ some '\'') :
    scan? ('\'' :: (doubled '\'' text ++ '\'' :: rest)) =
      some (some (.string (String.ofList text)), rest) := by
  rw [scan?_of_token? (by decide +kernel) (by decide) (by decide)]
  change ((quoted? '\'' _).map _).map _ = _
  rw [quoted?_doubled ends]
  rfl

/-- A call of a word with a text. -/
def callText (name text : List Char) : List Char :=
  name ++ '(' :: '\'' :: (doubled '\'' text ++ ['\'', ')'])

/-- The tokens of a call of a word with a text. -/
def callTokens (word : Ident) (text : List Char) : List Token :=
  [.word word, .symbol "(", .string (String.ofList text), .symbol ")"]

theorem callText_lexemes {name : List Char} {word : Ident} (nonempty : name ≠ [])
    (scans : ∀ rest, scan? (name ++ '(' :: rest) = some (some (.word word), '(' :: rest))
    (text : List Char) : ∃ lexemes, Lexeme.ofText? (callText name text) = some lexemes ∧
      lexemes.map Lexeme.token = callTokens word text := by
  obtain ⟨fuel, enough⟩ : ∃ fuel, (callText name text).length = fuel + 4 := by
    refine ⟨(callText name text).length - 4, ?_⟩
    have := List.length_pos_iff.mpr nonempty
    simp [callText]
    omega
  have closes : [')'].head? ≠ some '\'' := by decide
  obtain ⟨p₁, o₁, first⟩ := lexemesFrom?_of_scan? ⟨1, 1⟩ 0 (fuel + 3) (scans _)
  obtain ⟨p₂, o₂, second⟩ := lexemesFrom?_of_scan? p₁ o₁ (fuel + 2)
    (scan?_open (doubled '\'' text ++ ['\'', ')']))
  obtain ⟨p₃, o₃, third⟩ := lexemesFrom?_of_scan? p₂ o₂ (fuel + 1)
    (scan?_string text closes)
  obtain ⟨p₄, o₄, fourth⟩ := lexemesFrom?_of_scan? p₃ o₃ fuel scan?_close
  rw [second, third, fourth, lexemesFrom?] at first
  rw [Lexeme.ofText?, enough, callText]
  exact ⟨_, first, rfl⟩

theorem scan?_nextval (rest : List Char) : scan? ("nextval".toList ++ '(' :: rest) =
    some (some (.word (.bare "nextval")), '(' :: rest) := by
  have name : ("nextval".toList ++ '(' :: rest).takeWhile isWordPart = "nextval".toList := by
    have letters : "nextval".toList.all isWordPart = true := by decide +kernel
    rw [List.takeWhile_append_of_pos (List.all_eq_true.mp letters),
      List.takeWhile_cons_of_neg (by decide +kernel), List.append_nil]
  have words : token? 'n' ("extval".toList ++ '(' :: rest) =
      some (word ("nextval".toList ++ '(' :: rest)) := by
    simp [token?, lettered]
  change scan? ('n' :: ("extval".toList ++ '(' :: rest)) = _
  rw [scan?_of_token? (by decide +kernel) (by decide) (by decide), words, word, name]
  rfl

end Sql.Lexer

/-! ### The call -/

namespace Layout

variable {n : Names} {schema sequence : String}

theorem lower_nextval : Text.lower "nextval" = "nextval" := by decide +kernel

/-- The call that draws a number of the sequence that a text names. -/
def drawing (text : String) : Expr :=
  .apply (.builtin .nextValue) [.constant (.text text) (.text none)] .integer

/-- The call means the function of the system, unless a function of its name is registered. -/
theorem serialDefault_build (unregistered : n.catalog.functionsNamed ⟨none, "nextval"⟩ = []) :
    (serialDefault schema sequence).build n .empty =
      .ok (drawing (DottedName.inQuotes schema sequence)) := by
  have named : QName.ofParts [Sql.Ident.bare "nextval"] = .ok ⟨none, "nextval"⟩ :=
    congrArg (fun name => Except.ok (QName.mk none name)) lower_nextval
  have plain : Build.aggregate? ⟨none, "nextval"⟩ = none := by decide +kernel
  let text := Expr.constant (.text (DottedName.inQuotes schema sequence)) (.text none)
  have meant : Build.function n ⟨none, "nextval"⟩ [text] =
      .ok (drawing (DottedName.inQuotes schema sequence)) := by
    unfold Build.function
    rw [unregistered]
    simp only [lower_nextval]
    rfl
  have argument : Sql.Argument.compileAll n .empty "nextval"
      [.term none (.constant (.string (DottedName.inQuotes schema sequence)))] = pure [text] := by
    simp only [Sql.Argument.compileAll, Sql.Term.compile]
    rfl
  have lifted {α β : Type} (a : α) (f : α → Build β) :
      ((liftM (Except.ok a : Except SqlError α) : Build α) >>= f) = f a := rfl
  change (Sql.Term.call _ [.term none (.constant (.string (DottedName.inQuotes schema sequence)))]
    [] none).build n .empty = _
  rw [Sql.Term.build, Sql.Term.pending]
  unfold Pending.build
  simp only [Sql.Term.compile, Option.isSome_none, Bool.false_eq_true, if_false]
  rw [named, lifted]
  simp only [plain, lower_nextval]
  rw [argument]
  simp only [pure_bind, meant]
  rfl

open Sql.Lexer (callText callTokens) in
/-- The default is what is read from the call as it is written, with the quotes in it doubled for the
text. So all characters of the names are still there. -/
theorem serialDefault_read (schema sequence : String) : ∃ lexemes,
    Sql.Lexeme.ofText? (callText "nextval".toList (DottedName.inQuotes schema sequence).toList) =
      some lexemes ∧
        (Sql.Grammar.forLength 4).term Sql.maxNesting lexemes =
          some (serialDefault schema sequence, []) := by
  obtain ⟨lexemes, lexed, tokens⟩ := Sql.Lexer.callText_lexemes (by decide) Sql.Lexer.scan?_nextval
    (DottedName.inQuotes schema sequence).toList
  refine ⟨lexemes, lexed, ?_⟩
  rw [callTokens, String.ofList_toList] at tokens
  obtain ⟨a, _, rfl, first, tokens⟩ := List.map_eq_cons_iff.mp tokens
  obtain ⟨b, _, rfl, second, tokens⟩ := List.map_eq_cons_iff.mp tokens
  obtain ⟨c, _, rfl, third, tokens⟩ := List.map_eq_cons_iff.mp tokens
  obtain ⟨d, _, rfl, fourth, tokens⟩ := List.map_eq_cons_iff.mp tokens
  obtain rfl := List.map_eq_nil_iff.mp tokens
  obtain ⟨_, p₁, o₁⟩ := a
  obtain ⟨_, p₂, o₂⟩ := b
  obtain ⟨_, p₃, o₃⟩ := c
  obtain ⟨_, p₄, o₄⟩ := d
  cases first
  cases second
  cases third
  cases fourth
  rfl

theorem drawing_eval (env : Env) (outer : List Row) (row : Row) (text : String) :
    (drawing text).eval env outer row =
      (do let q ← env.catalog.sequence (QName.ofText text); Builtin.draw q : Eval Value) := by
  rw [drawing, Expr.eval]
  rfl

end Layout

/-! ### What a layout keeps of a serial column -/

namespace Sql

/-- The column is filled from a sequence of its own: its type asks for one, and no default is
written. -/
structure ColumnTerm.IsSerial (t : ColumnTerm) : Prop where
  type : (TypeName.ofText t.type).isSerial
  plain : ∀ o ∈ t.options, ∀ value, o.rule ≠ .default value

end Sql

namespace Layout

variable {l next : Layout} {c : Catalog} {schema : String} {column changed : ColumnDef}

/-- The name of the sequence for a column. -/
def sequenceName (table column : String) : String := table ++ "_" ++ column ++ "_seq"

theorem quote_notMem_sequenceName {table column : String} :
    '"' ∉ (sequenceName table column).toList ↔ '"' ∉ table.toList ∧ '"' ∉ column.toList := by
  simp [sequenceName]

/-- A column of the layout has the sequence that is named for it, and its default names it. -/
structure HasSerial (schema : String) (l : Layout) (column : String) : Prop where
  serial : ⟨column, sequenceName l.table column⟩ ∈ l.serials
  default : ∃ d ∈ l.columns, d.name = column ∧
    d.default = some (serialDefault schema (sequenceName l.table column))

theorem addRule_default {position : Nat} {o : Sql.ColumnOption}
    (given : addRule position column l o = .ok (changed, next)) :
    next.table = l.table ∧
      ((∀ value, o.rule ≠ .default value) → changed.default = column.default) := by
  unfold addRule at given
  split at given <;> cases given
  case h_3 written => exact ⟨rfl, fun plain => absurd written (plain _)⟩
  all_goals exact ⟨rfl, fun _ => rfl⟩

theorem addRules_default (position : Layout → Nat) : ∀ {options : List Sql.ColumnOption}
    {column changed : ColumnDef} {l next : Layout}, options.foldlM
      (fun (column, l) o => addRule (position l) column l o) (column, l) = .ok (changed, next) →
    changed.name = column.name ∧ next.columns = l.columns ∧ next.serials = l.serials ∧
      next.table = l.table ∧ ((∀ o ∈ options, ∀ value, o.rule ≠ .default value) →
        changed.default = column.default)
  | [], _, _, _, _, folded => by
      cases folded
      exact ⟨rfl, rfl, rfl, rfl, fun _ => rfl⟩
  | o :: options, _, _, _, _, folded => by
      rw [List.foldlM_cons] at folded
      obtain ⟨⟨between, layout⟩, one, folded⟩ := bind_ok folded
      obtain ⟨named, columns, serials⟩ := addRule_names one
      obtain ⟨same, kept⟩ := addRule_default one
      obtain ⟨naming, later, more, still, keeps⟩ := addRules_default position folded
      refine ⟨naming.trans named, later.trans columns, more.trans serials, still.trans same, ?_⟩
      intro plain
      obtain ⟨first, others⟩ := List.forall_mem_cons.mp plain
      exact (keeps others).trans (kept first)

theorem HasSerial.mono {name : String} (has : HasSerial schema l name) (table : next.table = l.table)
    (serials : ∀ s ∈ l.serials, s ∈ next.serials) (columns : ∀ d ∈ l.columns, ∃ e ∈ next.columns,
      e.name = d.name ∧ e.default = d.default) : HasSerial schema next name := by
  obtain ⟨d, member, named, defaulted⟩ := has.default
  obtain ⟨e, there, sameName, sameDefault⟩ := columns d member
  exact ⟨serials _ (table ▸ has.serial), e, there, sameName.trans named,
    sameDefault.trans (table ▸ defaulted)⟩

theorem addColumn_hasSerial {t : Sql.ColumnTerm} (given : addColumn c schema l t = .ok next) :
    next.table = l.table ∧ (∀ name, HasSerial schema l name → HasSerial schema next name) ∧
      (t.IsSerial → HasSerial schema next t.name.name) := by
  unfold addColumn at given
  split at given
  · cases given
  · obtain ⟨⟨first, started⟩, start, given⟩ := bind_ok given
    obtain ⟨⟨column, ruled⟩, folded, given⟩ := bind_ok given
    cases given
    obtain ⟨naming, columns, serials, table, keeps⟩ :=
      addRules_default (·.columns.length) folded
    unfold startColumn at start
    dsimp only at start
    split at start
    · cases start
      refine ⟨table, fun name has => has.mono table ?_ ?_, fun serial => ⟨?_, column, ?_, naming, ?_⟩⟩
      · intro s member
        rw [serials]
        exact List.mem_append_left _ member
      · intro d member
        exact ⟨d, List.mem_append_left _ (columns ▸ member), rfl, rfl⟩
      · rw [table, serials]
        exact List.mem_append_right _ (List.mem_singleton_self _)
      · exact List.mem_append_right _ (List.mem_singleton_self _)
      · rw [table]
        exact keeps serial.plain
    · rename_i plain
      obtain ⟨type, -, start⟩ := bind_ok start
      cases start
      refine ⟨table, fun name has => has.mono table (fun s member => serials ▸ member) ?_,
        fun serial => absurd serial.type plain⟩
      intro d member
      exact ⟨d, List.mem_append_left _ (columns ▸ member), rfl, rfl⟩

theorem addConstraint_hasSerial {constraint : Sql.Constraint}
    (given : l.addConstraint constraint = .ok next) : next.table = l.table ∧
      ∀ name, HasSerial schema l name → HasSerial schema next name := by
  unfold addConstraint at given
  split at given
  · obtain ⟨positions, -, given⟩ := bind_ok given
    cases given
    split
    · refine ⟨rfl, fun name has => has.mono rfl (fun _ => id) fun d member => ?_⟩
      obtain ⟨i, below, rfl⟩ := List.mem_iff_getElem.mp member
      refine ⟨_, List.mem_mapIdx.mpr ⟨i, below, rfl⟩, ?_⟩
      split <;> exact ⟨rfl, rfl⟩
    · exact ⟨rfl, fun name has => has.mono rfl (fun _ => id) fun d member => ⟨d, member, rfl, rfl⟩⟩
  · cases given
    exact ⟨rfl, fun name has => has.mono rfl (fun _ => id) fun d member => ⟨d, member, rfl, rfl⟩⟩
  · cases given

end Layout

/-- The columns that are filled from sequences of their own have them, under the name that their
defaults say. -/
theorem Define.layoutOf_hasSerial {c : Catalog} {schema name : String} {t : Sql.CreateTable}
    {l : Layout} (given : layoutOf c schema name t = .ok l) : l.table = name ∧
      ∀ term ∈ t.columns, term.IsSerial → l.HasSerial schema term.name.name := by
  obtain ⟨first, columns, given⟩ := bind_ok given
  obtain ⟨second, constraints, given⟩ := bind_ok given
  obtain ⟨_, -, given⟩ := bind_ok given
  cases given
  have added : ∀ (terms : List Sql.ColumnTerm) (start : Layout),
      terms.foldlM (Layout.addColumn c schema) start = .ok first → first.table = start.table ∧
        (∀ name, start.HasSerial schema name → first.HasSerial schema name) ∧
          ∀ term ∈ terms, term.IsSerial → first.HasSerial schema term.name.name := by
    intro terms
    induction terms with
    | nil =>
        intro start folded
        cases folded
        exact ⟨rfl, fun _ => id, fun _ member => absurd member List.not_mem_nil⟩
    | cons term rest ih =>
        intro start folded
        rw [List.foldlM_cons] at folded
        obtain ⟨next, one, folded⟩ := bind_ok folded
        obtain ⟨table, kept, serial⟩ := Layout.addColumn_hasSerial one
        obtain ⟨same, keeps, others⟩ := ih next folded
        exact ⟨same.trans table, fun name has => keeps name (kept name has),
          List.forall_mem_cons.mpr ⟨fun is => keeps _ (serial is), others⟩⟩
  obtain ⟨table, -, serials⟩ := added t.columns _ columns
  have kept : l.table = first.table ∧
      ∀ name, first.HasSerial schema name → l.HasSerial schema name := by
    refine Run.foldlM_ok (p := fun l : Layout => l.table = first.table ∧
      ∀ name, first.HasSerial schema name → l.HasSerial schema name) ?_ ⟨rfl, fun _ => id⟩ constraints
    rintro before ⟨same, keeps⟩ constraint _ after applied
    obtain ⟨still, more⟩ := Layout.addConstraint_hasSerial applied
    exact ⟨still.trans same, fun name has => more name (keeps name has)⟩
  exact ⟨kept.1.trans table, fun term member serial => kept.2 _ (serials term member serial)⟩

/-! ### The sequences of a new table -/

namespace Define

open Catalog (Registered)

variable {s t : Draft} {d : TableDef}

theorem registerSerials_named : ∀ {serials : List SerialColumn} {s : Draft}, s.catalog.Registered →
    (serials.forM (registerSerial d)).run s = (.ok ⟨⟩, t) → ∀ serial ∈ serials, ∃ id q,
      t.catalog.Has d.schema id (.sequence q) ∧ q.name = serial.sequence ∧
        q.options.ownedBy = some (d.name ++ "." ++ serial.column)
  | [], _, _, _ => fun _ member => absurd member List.not_mem_nil
  | serial :: rest, s, registered, ran => by
      obtain ⟨_, u, one, ran⟩ := Run.bind_run_ok ran
      obtain ⟨still, number, q, owner, named, has⟩ := registerSerial_has registered one
      obtain ⟨-, kept, -, -⟩ := registerSerials_has still ran
      refine List.forall_mem_cons.mpr ⟨?_, registerSerials_named still ran⟩
      exact ⟨_, q, kept _ _ _ ((has _ _ _).mpr (.inl ⟨rfl, rfl, rfl⟩)), named, owner⟩

/-- The catalog has a sequence for the column of the table, and the default of the column is the call
that was written for it. -/
structure Supplied (c : Catalog) (d : TableDef) (column : ColumnDef) (id : Nat) (q : SequenceDef) :
    Prop where
  has : c.Has d.schema id (.sequence q)
  named : q.name = Layout.sequenceName d.name column.name
  owned : q.options.ownedBy = some (d.name ++ "." ++ column.name)
  default : column.default = some (Layout.serialDefault d.schema q.name)

theorem createTable_supplied {statement : Sql.CreateTable} (linked : s.catalog.Linked)
    (ran : (createTable statement).run s = (.ok (.done "CREATE TABLE"), t)) :
    ∃ d, LaidOut s.catalog statement d ∧ t.catalog.Has d.schema d.id (.table d) ∧
      ∀ term ∈ statement.columns, term.IsSerial → ∃ column ∈ d.columns,
        column.name = term.name.name ∧ ∃ id q, Supplied t.catalog d column id q := by
  obtain ⟨d, name, l, x, w, ⟨named, laid, schema, naming, columns, checks⟩, -, -, still, -, table, -,
    second, same⟩ := createTable_parts linked ran
  rw [same]
  obtain ⟨-, kept, -, -⟩ := registerSerials_has still second
  obtain ⟨called, serials⟩ := layoutOf_hasSerial laid
  refine ⟨d, ⟨name, l, named, laid, schema, naming, columns, checks⟩, kept _ _ _ table, ?_⟩
  intro term member serial
  obtain ⟨there, column, among, columnName, default⟩ := serials term member serial
  obtain ⟨id, q, has, sequence, owned⟩ := registerSerials_named still second _ there
  refine ⟨column, columns ▸ among, columnName, id, q, has, ?_, ?_, ?_⟩
  · rw [sequence, called, naming, columnName]
  · rw [owned, columnName]
  · rw [default, schema, sequence]

namespace Supplied

variable {c : Catalog} {column : ColumnDef} {id : Nat} {q : SequenceDef} {n : Names}

/-- The text in the default stands for the sequence of the column if and only if no name has a quote. -/
theorem resolves_iff (supplied : Supplied c d column id q) (registered : c.Registered) :
    c.sequence (.ofText (DottedName.inQuotes d.schema q.name)) = .ok q ↔
      '"' ∉ d.schema.toList ∧ '"' ∉ d.name.toList ∧ '"' ∉ column.name.toList := by
  rw [registered.sequence_inQuotes_iff supplied.has, supplied.named, Layout.quote_notMem_sequenceName]

/-- Without a quote in a name, the default draws the numbers of the sequence of the column. -/
theorem draws (supplied : Supplied c d column id q) (registered : c.Registered)
    (unregistered : n.catalog.functionsNamed ⟨none, "nextval"⟩ = [])
    (unquoted : '"' ∉ d.schema.toList ∧ '"' ∉ d.name.toList ∧ '"' ∉ column.name.toList) :
    ∃ term e, column.default = some term ∧ term.build n .empty = .ok e ∧
      ∀ now outer row, e.eval ⟨c, now⟩ outer row = Builtin.draw q := by
  refine ⟨_, _, supplied.default, Layout.serialDefault_build unregistered, fun now outer row => ?_⟩
  rw [Layout.drawing_eval, (supplied.resolves_iff registered).mpr unquoted]
  rfl

end Supplied

end Define

namespace Database

open Define (LaidOut Supplied)

variable {db after : Database} {statement : Sql.CreateTable}

/-- After a table was created, each serial column of it has a sequence and a default for it, and the
text of the default stands for that sequence if and only if no name has a quote. -/
theorem Reachable.createTable_supplied (reachable : db.Reachable) (installer : Installer)
    (done : db.run installer (.createTable statement) = (.ok (.done "CREATE TABLE"), after)) :
    ∃ d, LaidOut db.catalog statement d ∧ after.catalog.Has d.schema d.id (.table d) ∧
      ∀ term ∈ statement.columns, term.IsSerial → ∃ column ∈ d.columns,
        column.name = term.name.name ∧ ∃ id q, Supplied after.catalog d column id q ∧
          (after.catalog.sequence (.ofText (DottedName.inQuotes d.schema q.name)) = .ok q ↔
            '"' ∉ d.schema.toList ∧ '"' ∉ d.name.toList ∧ '"' ∉ column.name.toList) := by
  obtain ⟨data, t, ran, catalog⟩ := define_ok done
  have linked := reachable.linked
  have registered := (Define.createTable_links statement (s := ⟨db.catalog, data⟩) linked ran).registered
  obtain ⟨d, laid, held, serials⟩ := Define.createTable_supplied (s := ⟨db.catalog, data⟩) linked ran
  rw [catalog]
  refine ⟨d, laid, held, fun term member serial => ?_⟩
  obtain ⟨column, among, named, id, q, supplied⟩ := serials term member serial
  exact ⟨column, among, named, id, q, supplied, supplied.resolves_iff registered⟩

end Database

end SqlEngine
