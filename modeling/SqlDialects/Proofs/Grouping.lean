import SqlDialects.Proofs.Draft.Layout
import SqlDialects.Proofs.Outcome

/-!
Compounds and their grouping. A dialect that writes compounds in parentheses tells which queries
belong together, and to which of them a limit applies; one that writes none tells it only by a
clause that stands between two compounds.
-/

namespace SqlDialects

open Draft

namespace Draft

variable {dialect : NamedDialect}

theorem exists_texts_between {before here there behind : Draft} {text other : List Char}
    (done : (before ++ (here ++ behind)).Inlines dialect text)
    (otherDone : (before ++ (there ++ behind)).Inlines dialect other) :
    ∃ inside outside, here.Inlines dialect inside ∧ there.Inlines dialect outside ∧
      (text = other ↔ inside = outside) := by
  obtain ⟨start, _, started, rest, rfl⟩ := inlines_append.mp done
  obtain ⟨inside, last, written, finished, rfl⟩ := inlines_append.mp rest
  obtain ⟨start', _, started', rest', rfl⟩ := inlines_append.mp otherDone
  obtain ⟨outside, last', written', finished', rfl⟩ := inlines_append.mp rest'
  obtain rfl := started.unique started'
  obtain rfl := finished.unique finished'
  exact ⟨inside, outside, written, written', by simp⟩

theorem exists_texts_of_exchange {first second : Draft} {text other : List Char}
    (done : (first ++ second).Inlines dialect text)
    (otherDone : (second ++ first).Inlines dialect other) :
    ∃ before after, first.Inlines dialect before ∧ second.Inlines dialect after ∧
      text = before ++ after ∧ other = after ++ before := by
  obtain ⟨before, after, here, later, rfl⟩ := inlines_append.mp done
  obtain ⟨after', before', later', here', rfl⟩ := inlines_append.mp otherDone
  obtain rfl := here.unique here'
  obtain rfl := later.unique later'
  exact ⟨before, after, here, later, rfl, rfl⟩

def compoundKeyword (dialect : NamedDialect) (kind : CompoundKind) : Draft :=
  spelling dialect.name (.compound kind) (dialect.operators.compound kind)

def compoundOpening (dialect : NamedDialect) : Draft :=
  if dialect.conventions.compoundsInParentheses then ofText "(" else []

def compoundClosing (dialect : NamedDialect) : Draft :=
  if dialect.conventions.compoundsInParentheses then ofText ")" else []

theorem compoundDraft_eq (dialect : NamedDialect) (compound : Compound) :
    compound.draft dialect =
      compoundKeyword dialect compound.kind ++ (compoundOpening dialect ++
        (compound.query.draft dialect ++ compoundClosing dialect)) := by
  cases compound
  rw [Compound.draft, NamedDialect.compoundDraft, compoundKeyword]
  by_cases parenthesized : dialect.conventions.compoundsInParentheses <;>
    simp [parenthesizedIf, Draft.parenthesized, enclosed, compoundOpening, compoundClosing,
      parenthesized]

theorem compoundDrafts_append (dialect : NamedDialect) (compounds : List Compound)
    (last : Compound) :
    compoundDrafts dialect (compounds ++ [last]) =
      compoundDrafts dialect compounds ++ last.draft dialect := by
  simp [compoundDrafts_eq_flatMap]

end Draft

theorem Select.mem_compounds_apply (other query : Select) (kind : CompoundKind) :
    ⟨kind, other⟩ ∈ (query.apply (.compound kind other)).compounds :=
  List.mem_append_right _ (List.mem_singleton_self _)

namespace Layout

variable {dialect : NamedDialect} (layout : Layout dialect)
  {first second third query other : Select}
  {kind outer inner : CompoundKind}

theorem draft_compound
    (clean : ((query.apply (.compound kind other)).draft dialect).Clean) :
    (query.apply (.compound kind other)).draft dialect =
      layout.head query ++ (compoundDrafts dialect query.compounds ++
        (Compound.draft dialect ⟨kind, other⟩ ++ layout.tail query)) := by
  have joined : (query.apply (.compound kind other)).compounds =
      query.compounds ++ [⟨kind, other⟩] := rfl
  rw [layout.draft_eq clean, layout.head_compound, layout.tail_compound, joined,
    compoundDrafts_append, List.append_assoc]

/-- A query and, up to its own compounds, the query of the compound behind them. -/
def shared (first second : Select) (kind : CompoundKind) : Draft :=
  layout.head first ++ (compoundDrafts dialect first.compounds ++
    (compoundKeyword dialect kind ++ (compoundOpening dialect ++
      (layout.head second ++ compoundDrafts dialect second.compounds))))

include layout in
theorem clean_of_mem (clean : (query.draft dialect).Clean)
    (member : ⟨kind, other⟩ ∈ query.compounds) : (other.draft dialect).Clean := by
  rw [layout.draft_eq clean, compoundDrafts_eq_flatMap] at clean
  simp only [clean_append, clean_flatMap] at clean
  have written := clean.2.1 _ member
  rw [compoundDraft_eq] at written
  simp only [clean_append] at written
  exact written.2.2.1

theorem draft_compound_eq_shared
    (clean : ((first.apply (.compound kind second)).draft dialect).Clean) :
    (first.apply (.compound kind second)).draft dialect =
      layout.shared first second kind ++
        (layout.tail second ++ (compoundClosing dialect ++ layout.tail first)) := by
  have written : (second.draft dialect).Clean :=
    layout.clean_of_mem clean (second.mem_compounds_apply first kind)
  rw [layout.draft_compound clean, compoundDraft_eq, layout.draft_eq written]
  simp only [shared, List.append_assoc]

theorem nested_draft_eq
    (clean : ((first.apply (.compound outer (second.apply (.compound inner third)))).draft
      dialect).Clean) :
    (first.apply (.compound outer (second.apply (.compound inner third)))).draft dialect =
      layout.shared first second outer ++
        (Compound.draft dialect ⟨inner, third⟩ ++ (layout.tail second ++ compoundClosing dialect)
          ++ layout.tail first) := by
  have joined : (second.apply (.compound inner third)).compounds =
      second.compounds ++ [⟨inner, third⟩] := rfl
  rw [layout.draft_compound_eq_shared clean]
  simp only [shared, layout.head_compound, layout.tail_compound, joined, compoundDrafts_append,
    List.append_assoc]

theorem flat_draft_eq
    (clean : (((first.apply (.compound outer second)).apply (.compound inner third)).draft
      dialect).Clean) :
    ((first.apply (.compound outer second)).apply (.compound inner third)).draft dialect =
      layout.shared first second outer ++
        (layout.tail second ++ compoundClosing dialect ++ Compound.draft dialect ⟨inner, third⟩
          ++ layout.tail first) := by
  have joined : (first.apply (.compound outer second)).compounds =
      first.compounds ++ [⟨outer, second⟩] := rfl
  have written : (second.draft dialect).Clean :=
    layout.clean_of_mem clean (List.mem_append_left _ (second.mem_compounds_apply first outer))
  rw [layout.draft_compound clean, joined, compoundDrafts_append, layout.head_compound,
    layout.tail_compound, compoundDraft_eq dialect ⟨outer, second⟩, layout.draft_eq written]
  simp only [shared, List.append_assoc]

/-- Two groupings of three queries have the same text if the third one with its keyword and what
closes the second one can be exchanged. -/
theorem same_grouping_iff {nested flat : List Char}
    (nestedDone : ((first.apply (.compound outer (second.apply (.compound inner third)))).draft
      dialect).Inlines dialect nested)
    (flatDone : (((first.apply (.compound outer second)).apply (.compound inner third)).draft
      dialect).Inlines dialect flat) :
    ∃ compound after, (Compound.draft dialect ⟨inner, third⟩).Inlines dialect compound ∧
      (layout.tail second ++ compoundClosing dialect).Inlines dialect after ∧
      (nested = flat ↔ compound ++ after = after ++ compound) := by
  rw [layout.nested_draft_eq nestedDone.clean] at nestedDone
  rw [layout.flat_draft_eq flatDone.clean] at flatDone
  obtain ⟨_, _, here, there, same⟩ := exists_texts_between nestedDone flatDone
  obtain ⟨compound, after, joined, closed, rfl, rfl⟩ := exists_texts_of_exchange here there
  exact ⟨compound, after, joined, closed, same⟩

end Layout

/-- How the clauses behind the compounds begin, if there are any. A compound begins otherwise. -/
def Trails (carried : Bool) (text : List Char) : Prop :=
  if carried then ∃ letter rest, text = ' ' :: letter :: rest ∧ letter ∈ ['O', 'L', 'F']
  else text = []

namespace Trails

theorem append {first second : Bool} {before after : List Char} (here : Trails first before)
    (later : Trails second after) : Trails (first || second) (before ++ after) := by
  cases first with
  | false =>
      have empty : before = [] := here
      simpa [empty] using later
  | true =>
      obtain ⟨letter, rest, rfl, known⟩ := here
      exact ⟨letter, rest ++ after, rfl, known⟩

end Trails

theorem trails_of_prefixed {dialect : NamedDialect} {content : String} {rest text : List Char}
    {letter : Char} {draft : Draft} (begins : content.toList = ' ' :: letter :: rest)
    (known : letter ∈ ['O', 'L', 'F'])
    (done : (ofText content ++ draft).Inlines dialect text) : Trails true text := by
  obtain ⟨_, behind, started, _, rfl⟩ := inlines_append.mp done
  rw [inlines_ofText] at started
  refine ⟨letter, rest ++ behind, ?_, known⟩
  rw [started, begins]
  rfl

namespace BundledDialect

variable {name : String}

theorem compoundKeyword_begins (bundled : BundledDialect) {kind : CompoundKind} {text : List Char}
    (spelled : (compoundKeyword ⟨bundled.dialect, name⟩ kind).Inlines
      ⟨bundled.dialect, name⟩ text) :
    ∃ letter rest, text = ' ' :: letter :: rest ∧ letter ∈ ['U', 'I', 'E'] := by
  cases bundled <;> cases kind <;>
    simp [compoundKeyword, dialect, Dialect.standard, Dialect.mySql, Dialect.postgres,
      Dialect.sqlite, Dialect.sqlServer, spelling] at spelled ⊢ <;>
    simp [spelled]

theorem compoundDraft_begins (bundled : BundledDialect) {compound : Compound} {text : List Char}
    (done : (compound.draft ⟨bundled.dialect, name⟩).Inlines ⟨bundled.dialect, name⟩ text) :
    ∃ letter rest, text = ' ' :: letter :: rest ∧ letter ∈ ['U', 'I', 'E'] := by
  rw [compoundDraft_eq] at done
  obtain ⟨_, behind, spelled, _, rfl⟩ := inlines_append.mp done
  obtain ⟨letter, rest, rfl, known⟩ := bundled.compoundKeyword_begins spelled
  exact ⟨letter, rest ++ behind, rfl, known⟩

theorem lock_begins (bundled : BundledDialect) {strength : LockStrength} {text : String}
    (spelled : bundled.dialect.operators.lock strength = some text) :
    ∃ rest, text.toList = ' ' :: 'F' :: rest := by
  cases bundled <;> cases strength <;>
    simp [dialect, Dialect.standard, Dialect.mySql, Dialect.postgres,
      Dialect.sqlite, Dialect.sqlServer] at spelled ⊢ <;>
    simp [← spelled]

theorem trails_carriedDraft (bundled : BundledDialect) {query : Select} {clause : Clause}
    (behind : clause ∈ Layout.tailClauses) {text : List Char}
    (done : (query.carriedDraft ⟨bundled.dialect, name⟩ clause).Inlines
      ⟨bundled.dialect, name⟩ text) :
    Trails (query.carries clause) text := by
  unfold Select.carriedDraft at done
  by_cases carried : query.carries clause
  · rw [if_pos carried] at done
    rw [carried]
    have known : clause = .order ∨ clause = .limit ∨ clause = .offset ∨ clause = .lock := by
      simpa [Layout.tailClauses] using behind
    rcases known with rfl | rfl | rfl | rfl
    · exact trails_of_prefixed rfl (by decide) done
    · exact trails_of_prefixed rfl (by decide) done
    · exact trails_of_prefixed rfl (by decide) done
    · obtain ⟨lock, locked⟩ := Option.isSome_iff_exists.mp carried
      have drafted : (NamedDialect.lockDraft ⟨bundled.dialect, name⟩ (some lock)).Inlines
          ⟨bundled.dialect, name⟩ text := by
        rw [← locked]
        exact done
      cases spelled : bundled.dialect.operators.lock lock.strength with
      | none => simp [NamedDialect.lockDraft, spelled, spelling, inlines_append] at drafted
      | some word =>
          obtain ⟨rest, begins⟩ := bundled.lock_begins spelled
          rw [NamedDialect.lockDraft, spelled] at drafted
          exact trails_of_prefixed begins (by decide) drafted
  · rw [if_neg carried] at done
    simpa [Trails, carried] using done

theorem trails_flatMap (bundled : BundledDialect) {query : Select} {clauses : List Clause}
    (behind : clauses ⊆ Layout.tailClauses) {text : List Char}
    (done : Inlines ⟨bundled.dialect, name⟩
      (clauses.flatMap (query.carriedDraft ⟨bundled.dialect, name⟩)) text) :
    Trails (clauses.any query.carries) text := by
  induction clauses generalizing text with
  | nil =>
      have empty : text = [] := by simpa using done
      exact empty
  | cons clause others ih =>
      rw [List.flatMap_cons, inlines_append] at done
      obtain ⟨before, after, here, later, rfl⟩ := done
      rw [List.any_cons]
      exact (bundled.trails_carriedDraft (behind (by simp)) here).append
        (ih (fun other member => behind (by simp [member])) later)

theorem not_carries_lock_of_sqlite {query : Select} {text : List Char}
    (done : (query.carriedDraft ⟨.sqlite, name⟩ .lock).Inlines ⟨.sqlite, name⟩ text) :
    query.carries .lock = false := by
  by_contra carried
  rw [Bool.not_eq_false] at carried
  rw [Select.carriedDraft, if_pos carried] at done
  obtain ⟨lock, locked⟩ := Option.isSome_iff_exists.mp carried
  have drafted : (NamedDialect.lockDraft ⟨.sqlite, name⟩ (some lock)).Inlines
      ⟨.sqlite, name⟩ text := by
    rw [← locked]
    exact done
  simp [NamedDialect.lockDraft, Dialect.sqlite, spelling, inlines_append] at drafted

theorem trails_tail (bundled : BundledDialect) {query : Select} {text : List Char}
    (done : ((bundled.layout name).tail query).Inlines ⟨bundled.dialect, name⟩ text) :
    ∃ carried, Trails carried text ∧
      (bundled = .sqlite → carried = [.order, .limit, .offset].any query.carries) := by
  cases bundled with
  | sqlServer =>
      obtain ⟨before, after, ordered, fetched, rfl⟩ := inlines_append.mp done
      have here := sqlServer.trails_carriedDraft (by simp [Layout.tailClauses]) ordered
      by_cases start : query.offset.isSome
      · rw [Select.fetch, if_pos start, enclosed, List.append_assoc, List.append_assoc] at fetched
        exact ⟨_, here.append (trails_of_prefixed rfl (by decide) fetched), by simp⟩
      · rw [Select.fetch, if_neg start, inlines_nil] at fetched
        exact ⟨_, by simpa [fetched] using here, by simp⟩
  | standard => exact ⟨_, standard.trails_flatMap (fun _ member => member) done, by simp⟩
  | mySql => exact ⟨_, mySql.trails_flatMap (fun _ member => member) done, by simp⟩
  | postgres => exact ⟨_, postgres.trails_flatMap (fun _ member => member) done, by simp⟩
  | sqlite =>
      have whole := sqlite.trails_flatMap (fun _ member => member) done
      have member : Clause.lock ∈ Layout.tailClauses := by decide
      obtain ⟨_, locked⟩ := exists_inlines_of_mem member done
      refine ⟨_, whole, fun _ => ?_⟩
      simp [Layout.tailClauses, not_carries_lock_of_sqlite locked]

theorem compoundClosing_eq (bundled : BundledDialect) :
    compoundClosing ⟨bundled.dialect, name⟩ = if bundled = .sqlite then [] else ofText ")" := by
  cases bundled <;> rfl

/-- Two groupings of three queries have the same text just on SQLite, and there if the second
query has no clause behind its compounds. -/
theorem same_grouping_iff (bundled : BundledDialect) {first second third : Select}
    {outer inner : CompoundKind} {nested flat : List Char}
    (nestedDone : ((first.apply (.compound outer (second.apply (.compound inner third)))).draft
      ⟨bundled.dialect, name⟩).Inlines ⟨bundled.dialect, name⟩ nested)
    (flatDone : (((first.apply (.compound outer second)).apply (.compound inner third)).draft
      ⟨bundled.dialect, name⟩).Inlines ⟨bundled.dialect, name⟩ flat) :
    nested = flat ↔
      bundled = .sqlite ∧ second.orderBy = [] ∧ second.limit = none ∧ second.offset = none := by
  obtain ⟨compound, _, joined, closed, same⟩ :=
    (bundled.layout name).same_grouping_iff nestedDone flatDone
  obtain ⟨letter, rest, rfl, begins⟩ := bundled.compoundDraft_begins joined
  obtain ⟨after, close, tailed, closing, rfl⟩ := inlines_append.mp closed
  obtain ⟨carried, trails, ofSqlite⟩ := bundled.trails_tail tailed
  rw [bundled.compoundClosing_eq] at closing
  rw [same]
  cases carried with
  | true =>
      obtain ⟨other, more, rfl, known⟩ := trails
      constructor
      · intro equal
        have letters : letter = other := (List.cons.inj (List.cons.inj equal).2).1
        subst letters
        have compound : letter = 'U' ∨ letter = 'I' ∨ letter = 'E' := by simpa using begins
        rcases compound with rfl | rfl | rfl <;> simp at known
      · rintro ⟨isSqlite, ordered, limited, started⟩
        have some := ofSqlite isSqlite
        simp [Select.carries, ordered, limited, started] at some
  | false =>
      have empty : after = [] := trails
      subst empty
      by_cases isSqlite : bundled = .sqlite
      · have nothing : close = [] := by simpa [isSqlite] using closing
        simpa [nothing, isSqlite, Select.carries] using ofSqlite isSqlite
      · have parenthesis : close = [')'] := by simpa [isSqlite] using closing
        simp [parenthesis, isSqlite]

end BundledDialect

/-- A query of which no rows are cut off, and which locks none. -/
structure Select.Unbounded (query : Select) : Prop where
  limit : query.limit = none
  offset : query.offset = none
  lock : query.lock = none

theorem Select.Unbounded.compound {query : Select} (unbounded : query.Unbounded)
    (kind : CompoundKind) (other : Select) : (query.apply (.compound kind other)).Unbounded :=
  ⟨unbounded.limit, unbounded.offset, unbounded.lock⟩

namespace Layout

variable {dialect : NamedDialect} {first second query : Select} {kind : CompoundKind} {count : Nat}
  {inside outside : List Char}

section Usual

variable (order : dialect.orders.select = Select.clauses.map Clause.fragment)

def limitDraft (count : Nat) : Draft :=
  ofText " LIMIT " ++ rows (some count)

theorem usual_head_limit :
    (usual order).head (query.apply (.limit count)) = (usual order).head query :=
  flatMap_apply query dialect (.limit count) (by simp [Select.Call.clause, headClauses])

theorem usual_tail_of_unbounded (unbounded : query.Unbounded) :
    (usual order).tail query = query.carriedDraft dialect .order := by
  have limit : query.carriedDraft dialect .limit = [] :=
    Select.carriedDraft_eq_nil (by simp [Select.carries, unbounded.limit]) dialect
  have offset : query.carriedDraft dialect .offset = [] :=
    Select.carriedDraft_eq_nil (by simp [Select.carries, unbounded.offset]) dialect
  have lock : query.carriedDraft dialect .lock = [] :=
    Select.carriedDraft_eq_nil (by simp [Select.carries, unbounded.lock]) dialect
  simp [usual, tailClauses, limit, offset, lock]

theorem usual_tail_limit (unbounded : query.Unbounded) :
    (usual order).tail (query.apply (.limit count)) =
      query.carriedDraft dialect .order ++ limitDraft count := by
  have keys : (query.apply (.limit count)).carriedDraft dialect .order =
      query.carriedDraft dialect .order :=
    query.carriedDraft_apply dialect _ (by simp [Select.Call.clause])
  have limit : (query.apply (.limit count)).carriedDraft dialect .limit = limitDraft count := rfl
  have offset : (query.apply (.limit count)).carriedDraft dialect .offset = [] :=
    Select.carriedDraft_eq_nil (by simp [Select.carries, Select.apply, unbounded.offset]) dialect
  have lock : (query.apply (.limit count)).carriedDraft dialect .lock = [] :=
    Select.carriedDraft_eq_nil (by simp [Select.carries, Select.apply, unbounded.lock]) dialect
  simp [usual, tailClauses, keys, limit, offset, lock]

theorem usual_inside_draft_eq (firstUnbounded : first.Unbounded) (unordered : first.orderBy = [])
    (secondUnbounded : second.Unbounded)
    (clean : ((first.apply (.compound kind (second.apply (.limit count)))).draft dialect).Clean) :
    (first.apply (.compound kind (second.apply (.limit count)))).draft dialect =
      (usual order).shared first second kind ++ second.carriedDraft dialect .order ++
        (limitDraft count ++ compoundClosing dialect ++ []) := by
  have none : first.carriedDraft dialect .order = [] :=
    Select.carriedDraft_eq_nil (by simp [Select.carries, unordered]) dialect
  have joined : (second.apply (.limit count)).compounds = second.compounds := rfl
  rw [(usual order).draft_compound_eq_shared clean, usual_tail_limit order secondUnbounded,
    usual_tail_of_unbounded order firstUnbounded, none]
  simp only [shared, usual_head_limit, joined, List.append_assoc]

theorem usual_outside_draft_eq (firstUnbounded : first.Unbounded) (unordered : first.orderBy = [])
    (secondUnbounded : second.Unbounded)
    (clean : (((first.apply (.compound kind second)).apply (.limit count)).draft dialect).Clean) :
    ((first.apply (.compound kind second)).apply (.limit count)).draft dialect =
      (usual order).shared first second kind ++ second.carriedDraft dialect .order ++
        (compoundClosing dialect ++ limitDraft count ++ []) := by
  have none : (first.apply (.compound kind second)).carriedDraft dialect .order = [] :=
    Select.carriedDraft_eq_nil (by simp [Select.carries, Select.apply, unordered]) dialect
  have joined : ((first.apply (.compound kind second)).apply (.limit count)).compounds =
      first.compounds ++ [⟨kind, second⟩] := rfl
  have written : (second.draft dialect).Clean :=
    (usual order).clean_of_mem clean (second.mem_compounds_apply first kind)
  rw [(usual order).draft_eq clean, usual_head_limit, (usual order).head_compound,
    usual_tail_limit order (firstUnbounded.compound kind second), none, joined,
    compoundDrafts_append, compoundDraft_eq, (usual order).draft_eq written,
    usual_tail_of_unbounded order secondUnbounded]
  simp only [shared, List.append_assoc, List.nil_append, List.append_nil]

include order in
theorem usual_same_limit_iff (firstUnbounded : first.Unbounded) (unordered : first.orderBy = [])
    (secondUnbounded : second.Unbounded)
    (insideDone : ((first.apply (.compound kind (second.apply (.limit count)))).draft
      dialect).Inlines dialect inside)
    (outsideDone : (((first.apply (.compound kind second)).apply (.limit count)).draft
      dialect).Inlines dialect outside) :
    ∃ limit close, (limitDraft count).Inlines dialect limit ∧
      (compoundClosing dialect).Inlines dialect close ∧
      (inside = outside ↔ limit ++ close = close ++ limit) := by
  rw [usual_inside_draft_eq order firstUnbounded unordered secondUnbounded insideDone.clean]
    at insideDone
  rw [usual_outside_draft_eq order firstUnbounded unordered secondUnbounded outsideDone.clean]
    at outsideDone
  obtain ⟨_, _, here, there, same⟩ := exists_texts_between insideDone outsideDone
  obtain ⟨limit, close, limited, closed, rfl, rfl⟩ := exists_texts_of_exchange here there
  exact ⟨limit, close, limited, closed, same⟩

end Usual

section SqlServer

variable {name : String}

def topDraft (count : Nat) : Draft :=
  enclosed " TOP (" (rows (some count)) ")"

theorem sqlServer_head_of_unbounded (unbounded : query.Unbounded) :
    (sqlServer name).head query =
      lead query ⟨.sqlServer, name⟩ ++ body query ⟨.sqlServer, name⟩ := by
  simp [sqlServer, Select.top, unbounded.limit]

theorem sqlServer_head_limit (unbounded : query.Unbounded) :
    (sqlServer name).head (query.apply (.limit count)) =
      lead query ⟨.sqlServer, name⟩ ++ (topDraft count ++ body query ⟨.sqlServer, name⟩) := by
  have start := lead_apply query ⟨.sqlServer, name⟩ (.limit count) (by simp [Select.Call.clause])
  have rest := body_apply query ⟨.sqlServer, name⟩ (.limit count)
    (by simp [Select.Call.clause, Select.bodyClauses])
  have top : (query.apply (.limit count)).top = topDraft count := by
    simp [Select.top, Select.apply, unbounded.offset, topDraft]
  simp [sqlServer, start, rest, top]

theorem sqlServer_tail_limit (unbounded : query.Unbounded) :
    (sqlServer name).tail (query.apply (.limit count)) = (sqlServer name).tail query := by
  have keys : (query.apply (.limit count)).carriedDraft ⟨.sqlServer, name⟩ .order =
      query.carriedDraft ⟨.sqlServer, name⟩ .order :=
    query.carriedDraft_apply ⟨.sqlServer, name⟩ _ (by simp [Select.Call.clause])
  have all : (query.apply (.limit count)).fetch = query.fetch := by
    simp [Select.fetch, Select.apply, unbounded.offset]
  simp only [sqlServer, keys, all]

theorem getLast?_lead {text : List Char}
    (done : (lead query ⟨.sqlServer, name⟩).Inlines ⟨.sqlServer, name⟩ text) :
    text.getLast? = some 'T' := by
  obtain ⟨tables, _, _, opened, rfl⟩ := inlines_append.mp done
  obtain ⟨word, rest, started, distinct, rfl⟩ := inlines_append.mp opened
  have select : word = "SELECT".toList := (inlines_ofText _).mp started
  cases given : query.distinct with
  | none =>
      have empty : rest = [] := by simpa [given, Distinct.draft] using distinct
      simp [select, empty]
  | all =>
      rw [given] at distinct
      have distinctWord : rest = " DISTINCT".toList := (inlines_ofText _).mp distinct
      simp [select, distinctWord]
  | on columns =>
      rw [given] at distinct
      simp [Distinct.draft, NamedDialect.distinctOnDraft, demand, Dialect.sqlServer,
        inlines_append] at distinct

theorem getLast?_topDraft {text : List Char} (done : (topDraft count).Inlines dialect text) :
    text.getLast? = some ')' := by
  obtain ⟨inside, _, rfl⟩ := inlines_enclosed.mp done
  rw [List.getLast?_append]
  rfl

def betweenTops (name : String) (first second : Select) (kind : CompoundKind) : Draft :=
  body first ⟨.sqlServer, name⟩ ++ (compoundDrafts ⟨.sqlServer, name⟩ first.compounds ++
    (compoundKeyword ⟨.sqlServer, name⟩ kind
      ++ (compoundOpening ⟨.sqlServer, name⟩ ++ lead second ⟨.sqlServer, name⟩)))

def behindTops (name : String) (first second : Select) : Draft :=
  body second ⟨.sqlServer, name⟩ ++ (compoundDrafts ⟨.sqlServer, name⟩ second.compounds ++
    ((sqlServer name).tail second ++
      (compoundClosing ⟨.sqlServer, name⟩ ++ (sqlServer name).tail first)))

theorem sqlServer_inside_draft_eq (firstUnbounded : first.Unbounded)
    (secondUnbounded : second.Unbounded)
    (clean : ((first.apply (.compound kind (second.apply (.limit count)))).draft
      ⟨.sqlServer, name⟩).Clean) :
    (first.apply (.compound kind (second.apply (.limit count)))).draft ⟨.sqlServer, name⟩ =
      lead first ⟨.sqlServer, name⟩ ++
        (betweenTops name first second kind ++ topDraft count ++ behindTops name first second) := by
  have joined : (second.apply (.limit count)).compounds = second.compounds := rfl
  rw [(sqlServer name).draft_compound_eq_shared clean]
  simp only [shared, sqlServer_head_of_unbounded firstUnbounded,
    sqlServer_head_limit secondUnbounded, sqlServer_tail_limit secondUnbounded, joined,
    betweenTops, behindTops, List.append_assoc]

theorem sqlServer_outside_draft_eq (firstUnbounded : first.Unbounded)
    (secondUnbounded : second.Unbounded)
    (clean : (((first.apply (.compound kind second)).apply (.limit count)).draft
      ⟨.sqlServer, name⟩).Clean) :
    ((first.apply (.compound kind second)).apply (.limit count)).draft ⟨.sqlServer, name⟩ =
      lead first ⟨.sqlServer, name⟩ ++
        (topDraft count ++ betweenTops name first second kind ++ behindTops name first second) := by
  have joined : ((first.apply (.compound kind second)).apply (.limit count)).compounds =
      first.compounds ++ [⟨kind, second⟩] := rfl
  have written : (second.draft ⟨.sqlServer, name⟩).Clean :=
    (sqlServer name).clean_of_mem clean (second.mem_compounds_apply first kind)
  rw [(sqlServer name).draft_eq clean, sqlServer_head_limit (firstUnbounded.compound kind second),
    sqlServer_tail_limit (firstUnbounded.compound kind second), (sqlServer name).tail_compound,
    lead_apply first ⟨.sqlServer, name⟩ _ (by simp [Select.Call.clause]),
    body_apply first ⟨.sqlServer, name⟩ _ (by simp [Select.Call.clause, Select.bodyClauses]),
      joined,
    compoundDrafts_append, compoundDraft_eq, (sqlServer name).draft_eq written,
    sqlServer_head_of_unbounded secondUnbounded]
  simp only [betweenTops, behindTops, List.append_assoc]

theorem getLast?_betweenTops {text : List Char}
    (done : (betweenTops name first second kind).Inlines ⟨.sqlServer, name⟩ text) :
    text.getLast? = some 'T' := by
  simp only [betweenTops, ← List.append_assoc] at done
  obtain ⟨before, opened, _, led, rfl⟩ := inlines_append.mp done
  rw [List.getLast?_append, getLast?_lead led]
  rfl

/-- Beside the columns, a limit of the second query stands behind the first one, and a limit of the
whole before it. -/
theorem sqlServer_limits_differ (firstUnbounded : first.Unbounded)
    (secondUnbounded : second.Unbounded)
    (insideDone : ((first.apply (.compound kind (second.apply (.limit count)))).draft
      ⟨.sqlServer, name⟩).Inlines ⟨.sqlServer, name⟩ inside)
    (outsideDone : (((first.apply (.compound kind second)).apply (.limit count)).draft
      ⟨.sqlServer, name⟩).Inlines ⟨.sqlServer, name⟩ outside) : inside ≠ outside := by
  rw [sqlServer_inside_draft_eq firstUnbounded secondUnbounded insideDone.clean] at insideDone
  rw [sqlServer_outside_draft_eq firstUnbounded secondUnbounded outsideDone.clean] at outsideDone
  obtain ⟨_, _, here, there, same⟩ := exists_texts_between insideDone outsideDone
  obtain ⟨between, top, written, limited, rfl, rfl⟩ := exists_texts_of_exchange here there
  rw [ne_eq, same]
  intro exchanged
  have lasts := congrArg List.getLast? exchanged
  simp [List.getLast?_append, getLast?_betweenTops written, getLast?_topDraft limited] at lasts

end SqlServer

end Layout

theorem inlines_of_compile {query : Select} {name : String} {dialect : Dialect}
    {compiled : Compiled} (done : compile (.select query) name dialect .inline = .ok compiled) :
    (query.draft ⟨dialect, name⟩).Inlines ⟨dialect, name⟩ compiled.sql.toList :=
  ⟨compiled, done, rfl⟩

theorem limitDraft_begins {dialect : NamedDialect} {count : Nat} {text : List Char}
    (done : (Layout.limitDraft count).Inlines dialect text) : ∃ rest, text = ' ' :: rest := by
  obtain ⟨_, behind, started, _, rfl⟩ := inlines_append.mp done
  rw [inlines_ofText] at started
  exact ⟨"LIMIT ".toList ++ behind, by rw [started]; rfl⟩

namespace BundledDialect

variable {name : String}

theorem same_limit_iff (bundled : BundledDialect) {first second : Select} {kind : CompoundKind}
    {count : Nat} {inside outside : List Char} (firstUnbounded : first.Unbounded)
    (unordered : first.orderBy = []) (secondUnbounded : second.Unbounded)
    (insideDone : ((first.apply (.compound kind (second.apply (.limit count)))).draft
      ⟨bundled.dialect, name⟩).Inlines ⟨bundled.dialect, name⟩ inside)
    (outsideDone : (((first.apply (.compound kind second)).apply (.limit count)).draft
      ⟨bundled.dialect, name⟩).Inlines ⟨bundled.dialect, name⟩ outside) :
    inside = outside ↔ bundled = .sqlite := by
  by_cases isServer : bundled = .sqlServer
  · subst isServer
    have differ := Layout.sqlServer_limits_differ firstUnbounded secondUnbounded insideDone
      outsideDone
    simp [differ]
  · have order : bundled.dialect.orders.select = Select.clauses.map Clause.fragment := by
      cases bundled <;> first | rfl | exact absurd rfl isServer
    obtain ⟨limit, close, limited, closed, same⟩ := Layout.usual_same_limit_iff order
      firstUnbounded unordered secondUnbounded insideDone outsideDone
    obtain ⟨rest, rfl⟩ := limitDraft_begins limited
    rw [bundled.compoundClosing_eq] at closed
    rw [same]
    by_cases isSqlite : bundled = .sqlite
    · have nothing : close = [] := by simpa [isSqlite] using closed
      simp [nothing, isSqlite]
    · have parenthesis : close = [')'] := by simpa [isSqlite] using closed
      simp [parenthesis, isSqlite]

end BundledDialect

/-- Under every bundled dialect but SQLite the text of compounds tells how they are grouped, and
which of them a limit applies to. On SQLite, which writes compounds without parentheses, it tells
neither, unless the second query has an order, a limit or an offset of its own. -/
theorem compounds_tell_grouping (bundled : BundledDialect) (name : String)
    (first second third : Select) (outer inner : CompoundKind) (count : Nat) :
    (∀ nested flat,
      compile (.select (first.apply (.compound outer (second.apply (.compound inner third))))) name
        bundled.dialect .inline = .ok nested →
      compile (.select ((first.apply (.compound outer second)).apply (.compound inner third))) name
        bundled.dialect .inline = .ok flat →
      (nested.sql = flat.sql ↔
        bundled = .sqlite ∧ second.orderBy = [] ∧ second.limit = none ∧ second.offset = none)) ∧
    (first.Unbounded → first.orderBy = [] → second.Unbounded → ∀ inside outside,
      compile (.select (first.apply (.compound outer (second.apply (.limit count))))) name
        bundled.dialect .inline = .ok inside →
      compile (.select ((first.apply (.compound outer second)).apply (.limit count))) name
        bundled.dialect .inline = .ok outside →
      (inside.sql = outside.sql ↔ bundled = .sqlite)) := by
  constructor
  · intro nested flat nestedDone flatDone
    rw [← String.toList_inj]
    exact bundled.same_grouping_iff (inlines_of_compile nestedDone) (inlines_of_compile flatDone)
  · intro firstUnbounded unordered secondUnbounded inside outside insideDone outsideDone
    rw [← String.toList_inj]
    exact bundled.same_limit_iff firstUnbounded unordered secondUnbounded
      (inlines_of_compile insideDone) (inlines_of_compile outsideDone)

def rowsOf (table : String) : Select :=
  .ofCalls [.source (.column table)]

def nestedJobs : Statement :=
  .select ((rowsOf "jobs").apply (.compound .union
    ((rowsOf "tasks").apply (.compound .except (rowsOf "done")))))

def flatJobs : Statement :=
  .select (((rowsOf "jobs").apply (.compound .union (rowsOf "tasks"))).apply
    (.compound .except (rowsOf "done")))

def oneTask : Statement :=
  .select ((rowsOf "jobs").apply (.compound .union ((rowsOf "tasks").apply (.limit 1))))

def oneRow : Statement :=
  .select (((rowsOf "jobs").apply (.compound .union (rowsOf "tasks"))).apply (.limit 1))

theorem compounds_tell_grouping_jobs :
    (∃ nested flat, compile nestedJobs "postgres" .postgres .inline = .ok nested ∧
      compile flatJobs "postgres" .postgres .inline = .ok flat ∧ nested.sql ≠ flat.sql) ∧
    (∃ inside outside, compile oneTask "postgres" .postgres .inline = .ok inside ∧
      compile oneRow "postgres" .postgres .inline = .ok outside ∧ inside.sql ≠ outside.sql) := by
  have told := compounds_tell_grouping .postgres "postgres" (rowsOf "jobs") (rowsOf "tasks")
    (rowsOf "done") .union .except 1
  have unbounded : ∀ table, (rowsOf table).Unbounded := fun _ => ⟨rfl, rfl, rfl⟩
  constructor
  · have nestedDone : compile nestedJobs "postgres" .postgres .inline = .ok
        ⟨"SELECT * FROM \"jobs\" UNION (SELECT * FROM \"tasks\" EXCEPT (SELECT * FROM \"done\"))",
          []⟩ := rfl
    have flatDone : compile flatJobs "postgres" .postgres .inline = .ok
        ⟨"SELECT * FROM \"jobs\" UNION (SELECT * FROM \"tasks\") EXCEPT (SELECT * FROM \"done\")",
          []⟩ := rfl
    exact ⟨_, _, nestedDone, flatDone, (told.1 _ _ nestedDone flatDone).not.mpr (by simp)⟩
  · have insideDone : compile oneTask "postgres" .postgres .inline = .ok
        ⟨"SELECT * FROM \"jobs\" UNION (SELECT * FROM \"tasks\" LIMIT 1)", []⟩ := rfl
    have outsideDone : compile oneRow "postgres" .postgres .inline = .ok
        ⟨"SELECT * FROM \"jobs\" UNION (SELECT * FROM \"tasks\") LIMIT 1", []⟩ := rfl
    have differ := told.2 (unbounded "jobs") rfl (unbounded "tasks") _ _ insideDone outsideDone
    exact ⟨_, _, insideDone, outsideDone, differ.not.mpr (by simp)⟩

/-- Without parentheses, neither the grouping of compounds nor the reach of a limit is told. -/
theorem sqlite_compounds_regrouped :
    (compile nestedJobs "sqlite" .sqlite .inline =
        .ok ⟨"SELECT * FROM \"jobs\" UNION SELECT * FROM \"tasks\" EXCEPT SELECT * FROM \"done\"",
          []⟩ ∧
      compile flatJobs "sqlite" .sqlite .inline =
        .ok ⟨"SELECT * FROM \"jobs\" UNION SELECT * FROM \"tasks\" EXCEPT SELECT * FROM \"done\"",
          []⟩) ∧
    (compile oneTask "sqlite" .sqlite .inline =
        .ok ⟨"SELECT * FROM \"jobs\" UNION SELECT * FROM \"tasks\" LIMIT 1", []⟩ ∧
      compile oneRow "sqlite" .sqlite .inline =
        .ok ⟨"SELECT * FROM \"jobs\" UNION SELECT * FROM \"tasks\" LIMIT 1", []⟩) :=
  ⟨⟨rfl, rfl⟩, ⟨rfl, rfl⟩⟩

end SqlDialects
