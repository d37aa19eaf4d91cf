import SqlDialects.Proofs.Draft.Conditions
import SqlDialects.Proofs.Draft.Shown
import SqlDialects.Proofs.Inside
import SqlDialects.Proofs.Outcome
import SqlDialects.Proofs.Verbatim
import SqlDialects.Statement.Calls

/-!
Lists of conditions, which are joined with `AND`. A condition that is a list takes parentheses in
another list, and so does an operand; but a text that was given for a condition stands there as it
is. So an `OR` stands beside the `AND` just if it was given in such a text.
-/

namespace SqlDialects

open Draft

mutual

/-- The parts of an operand that stand as they were given, without parentheses around them. -/
def Expr.bare : Expr → List Expr
  | .raw sql arguments => [.raw sql arguments]
  | .function name arguments distinct window => [.function name arguments distinct window]
  | .aliased expr _ => expr.bare
  | .ordered expr _ _ => expr.bare
  | .conditions _ items => soleBare items
  | _ => []

def soleBare : List Expr → List Expr
  | [] => []
  | item :: rest =>
      if item.isEmptyCondition then soleBare rest
      else if allEmptyConditions rest then item.bare
      else []

end

theorem soleBare_of_single {items : List Expr} {item : Expr} (single : asking items = [item]) :
    soleBare items = item.bare := by
  induction items with
  | nil => simp [asking] at single
  | cons head tail ih =>
      unfold soleBare
      cases empty : head.isEmptyCondition with
      | true => simpa using ih (by simpa [asking, empty] using single)
      | false =>
          obtain ⟨rfl, none⟩ : head = item ∧ asking tail = [] := by
            simpa [asking, empty] using single
          simp [asking_eq_nil_iff.mp none]

theorem soleBare_of_several {items : List Expr} (several : ∀ item, asking items ≠ [item]) :
    soleBare items = [] := by
  induction items with
  | nil => rfl
  | cons head tail ih =>
      unfold soleBare
      cases empty : head.isEmptyCondition with
      | true => simpa using ih fun item => by simpa [asking, empty] using several item
      | false =>
          have more : asking tail ≠ [] := by
            simpa [asking, empty] using several head
          simp [asking_eq_nil_iff.not.mp more]

/-- The same of a condition in a list, where a comparison takes no parentheses. -/
def Expr.bareInList : Expr → List Expr
  | .comparison _ left right => left.bare ++ right.bare
  | .range _ expr low high => expr.bare ++ low.bare ++ high.bare
  | expr => expr.bare

/-- Whether one of the expressions was given with a bare `OR` in its own text. -/
def GiveOr (dialect : NamedDialect) (parts : List Expr) : Prop :=
  ∃ part ∈ parts, ∃ text, part.Verbatim dialect text ∧ HasBareOr dialect.takesBackslash text

section Giving

variable {dialect : NamedDialect} {first second : List Expr}

@[simp] theorem not_giveOr_nil : ¬GiveOr dialect [] := by
  simp [GiveOr]

@[simp] theorem giveOr_append :
    GiveOr dialect (first ++ second) ↔ GiveOr dialect first ∨ GiveOr dialect second := by
  simp only [GiveOr, List.mem_append, or_and_right, exists_or]

theorem giveOr_function {name : String} {arguments : List Expr} {distinct : Bool} {window : Over} :
    GiveOr dialect [.function name arguments distinct window] ↔
      HasBareOr dialect.takesBackslash name.toList := by
  simp [GiveOr, Expr.Verbatim]

end Giving

section Operands

variable {dialect : NamedDialect} (neutral : dialect.Neutral)

theorem Expr.shows_raw {sql : String} {arguments : List Expr}
    (closed : (Subterm.expr (.raw sql arguments)).IsClosed dialect) :
    ((Expr.raw sql arguments).draft dialect true).Shows dialect
      (GiveOr dialect [.raw sql arguments]) := by
  intro text written
  refine ⟨closed text written, fun bare => ⟨_, List.mem_singleton_self _, text, written, bare⟩, ?_⟩
  rintro ⟨part, listed, other, given, bare⟩
  obtain rfl := List.mem_singleton.mp listed
  rwa [written.unique given]

theorem shows_conditionItems (connective : Connective) {exprs : List Expr}
    (closed : ∀ item ∈ conditionItems dialect exprs, item.Closed dialect)
    (each : ∀ expr ∈ exprs, (expr.draft dialect true).Shows dialect (GiveOr dialect expr.bare)) :
    (conditions connective true (conditionItems dialect exprs)).Shows dialect
      (GiveOr dialect (soleBare exprs)) := by
  have listed : ∀ item, (conditionItems dialect exprs).filter (fun item => !item.isEmpty) = [item] →
      ∃ expr ∈ exprs, asking exprs = [expr] ∧ item.draft = expr.draft dialect := by
    intro item single
    rw [asking_conditionItems, conditionItems_eq_map, List.map_eq_singleton_iff] at single
    obtain ⟨expr, alone, rfl⟩ := single
    exact ⟨expr, List.mem_of_mem_filter (alone ▸ List.mem_singleton_self expr), alone, rfl⟩
  refine shows_conditions connective closed (fun item single => ?_) fun others => ?_
  · obtain ⟨expr, member, alone, same⟩ := listed item single
    rw [soleBare_of_single alone, same]
    exact each expr member
  · have several : ∀ expr, asking exprs ≠ [expr] := by
      intro expr alone
      refine others ⟨expr.isEmptyCondition, expr.isConditionList, expr.draft dialect⟩ ?_
      rw [asking_conditionItems, alone]
      rfl
    rw [soleBare_of_several several]
    exact not_giveOr_nil

include neutral

theorem Over.shows {first : Draft} {left : Prop} (shown : first.Shows dialect left) (window : Over)
    (closed : AllClosed dialect window.subterms) :
    Shows dialect (first ++ window.draft dialect) left := by
  cases window with
  | absent => simpa [Over.draft] using shown
  | named name =>
      exact (shows_over _ _ _ shown (neutral.shows_nameDraft name)).congr (or_iff_left id)
  | inline window =>
      exact (shows_over _ _ _ shown
        (shows_parenthesized (window.draft_closed neutral closed))).congr (or_iff_left id)

theorem FilterEntry.shows (entry : FilterEntry) (closed : AllClosed dialect entry.subterms) :
    ((entry.item dialect).draft true).Shows dialect False := by
  have inside := entry.item_closed neutral closed
  cases entry with
  | value column operand => exact shows_parenthesized (inside false)
  | tests column tests =>
      have each := filterTestItems_closed neutral tests
        (neutral.closed_identifierDraft (.parse column)) closed
      refine shows_conditions .or each (fun item single => ?_) fun _ => id
      have member := List.mem_of_mem_filter (single ▸ List.mem_singleton_self item)
      have alone := each item member false
      rw [filterTestItems_eq_map, List.mem_map] at member
      obtain ⟨test, -, rfl⟩ := member
      exact shows_parenthesized alone

theorem filterEntries_show (entries : List FilterEntry)
    (closed : AllClosed dialect (filterEntrySubterms entries)) :
    ∀ item ∈ filterEntryItems dialect entries, (item.draft true).Shows dialect False := by
  induction entries with
  | nil => simp [filterEntryItems]
  | cons entry rest ih =>
      exact List.forall_mem_cons.mpr ⟨entry.shows neutral closed.left, ih closed.right⟩

theorem Filter.shows (filter : Filter) (closed : AllClosed dialect filter.subterms) :
    (filter.draft dialect true).Shows dialect False := by
  obtain ⟨any, entries⟩ := filter
  refine shows_conditions _ (filterEntryItems_closed neutral entries closed)
    (fun item single => ?_) fun _ => id
  exact filterEntries_show neutral entries closed item
    (List.mem_of_mem_filter (single ▸ List.mem_singleton_self item))

end Operands

mutual

theorem Expr.operand_shows {dialect : NamedDialect} (neutral : dialect.Neutral) : ∀ expr : Expr,
    AllClosed dialect expr.subterms →
      (expr.draft dialect true).Shows dialect (GiveOr dialect expr.bare)
  | .identifier identifier, _ =>
      (neutral.shows_identifierDraft identifier).congr (by simp [Expr.bare])
  | .literal value, _ => (neutral.shows_valueDraft value).congr (by simp [Expr.bare])
  | .raw _ _, closed => Expr.shows_raw closed.head
  | .aliased expr name, closed =>
      ((expr.operand_shows neutral closed.tail).between "AS".toList rfl
        (isNeutral_word (by decide) (by decide)) (neutral.shows_identifierDraft name)).congr
        (by simp [Expr.bare])
  | .comparison operator left right, closed =>
      (shows_parenthesized (Expr.draft_closed neutral (.comparison operator left right) false
        closed)).congr (by simp [Expr.bare])
  | .bitwise operator left right, closed =>
      (neutral.shows_bitwiseDraft operator
        (fun writesLeft => by
          rintro _ ⟨⟩
          exact left.draft_closed neutral true (closed.tail.left.leftOperand writesLeft))
        (right.draft_closed neutral true closed.tail.right)).congr (by simp [Expr.bare])
  | .rightBitwise operator right, closed =>
      (neutral.shows_bitwiseDraft operator (by simp)
        (right.draft_closed neutral true closed.tail)).congr (by simp [Expr.bare])
  | .range test expr low high, closed =>
      (shows_parenthesized (Expr.draft_closed neutral (.range test expr low high) false
        closed)).congr (by simp [Expr.bare])
  | .conditions connective items, closed =>
      shows_conditionItems connective (conditionItems_closed neutral items closed.tail)
        (operands_show neutral items closed.tail)
  | .tuple items, closed =>
      (neutral.shows_tupleDraft (expressionDrafts_closed neutral items false closed.tail)).congr
        (by simp [Expr.bare])
  | .ordered expr direction nulls, closed =>
      (neutral.shows_ordered direction nulls (expr.operand_shows neutral closed.tail))
  | .cast expr type, closed =>
      (shows_worded "CAST".toList (" AS ".toList ++ type.toList) rfl (by simp)
        (isNeutral_word (by decide) (by decide))
        ((isClosed_of_ordinary (by decide)).append (closed.head type.toList rfl))
        (expr.draft_closed neutral false closed.tail)).congr (by simp [Expr.bare])
  | .function name arguments distinct window, closed =>
      (Over.shows neutral (shows_call (closed.head name.toList rfl) distinct
        (expressionDrafts_closed neutral arguments false closed.tail.left)) window
        closed.tail.right).congr giveOr_function.symm
  | .subquery query, closed =>
      (shows_parenthesized (query.draft_closed neutral closed.tail)).congr (by simp [Expr.bare])
  | .not expr, closed =>
      (shows_parenthesized (Expr.draft_closed neutral (.not expr) false closed)).congr
        (by simp [Expr.bare])
  | .filter filter, closed => (filter.shows neutral closed.tail).congr (by simp [Expr.bare])
  | .excluded column, _ => (neutral.shows_excludedDraft column).congr (by simp [Expr.bare])
  | .default, _ =>
      (shows_ofText (isNeutral_word (by decide) (by decide))).congr (by simp [Expr.bare])

theorem operands_show {dialect : NamedDialect} (neutral : dialect.Neutral) : ∀ exprs : List Expr,
    AllClosed dialect (exprSubterms exprs) →
      ∀ expr ∈ exprs, (expr.draft dialect true).Shows dialect (GiveOr dialect expr.bare)
  | [], _ => by simp
  | expr :: rest, closed =>
      List.forall_mem_cons.mpr ⟨expr.operand_shows neutral closed.left,
        operands_show neutral rest closed.right⟩

end

section Items

variable {dialect : NamedDialect} (neutral : dialect.Neutral)

include neutral

theorem Expr.item_shows (expr : Expr) (closed : AllClosed dialect expr.subterms) :
    (expr.draft dialect expr.isConditionList).Shows dialect (GiveOr dialect expr.bareInList) := by
  have operand := expr.operand_shows neutral closed
  cases expr with
  | comparison operator left right =>
      have literal : right.boolean?.isSome → ¬GiveOr dialect right.bare := by
        intro known
        obtain ⟨truth, known⟩ := Option.isSome_iff_exists.mp known
        rw [Expr.eq_of_boolean? known]
        exact not_giveOr_nil
      exact (neutral.shows_comparisonDraft operator (left.operand_shows neutral closed.tail.left)
        (right.operand_shows neutral closed.tail.right) literal).congr giveOr_append.symm
  | range test expr low high =>
      refine (shows_range test (expr.operand_shows neutral closed.tail.left.left)
        (low.operand_shows neutral closed.tail.left.right)
        (high.operand_shows neutral closed.tail.right)).congr ?_
      simp [Expr.bareInList, or_assoc]
  | not expr =>
      exact (shows_worded "NOT ".toList [] rfl rfl (isNeutral_word (by decide) (by decide))
        isClosed_nil (expr.draft_closed neutral false closed.tail)).congr
        (by simp [Expr.bareInList, Expr.bare])
  | _ => exact operand

theorem items_show (exprs : List Expr) (closed : AllClosed dialect (exprSubterms exprs)) :
    ∀ expr ∈ exprs, (expr.draft dialect expr.isConditionList).Shows dialect
      (GiveOr dialect expr.bareInList) := by
  induction exprs with
  | nil => simp
  | cons expr rest ih =>
      exact List.forall_mem_cons.mpr ⟨expr.item_shows neutral closed.left, ih closed.right⟩

end Items

namespace Statement

/-- The lists of conditions of a statement, each with the word that opens it. -/
def conditionClauses : Statement → List (String × List Expr)
  | .select query => [(" WHERE ", query.conditions), (" HAVING ", query.groupConditions)]
  | .update change => [(" WHERE ", change.conditions)]
  | .delete deletion => [(" WHERE ", deletion.conditions)]
  | .insert _ | .truncate _ => []

theorem within_conditions {statement : Statement} {dialect : NamedDialect}
    (clean : (statement.draft dialect).Clean) {opening : String} {exprs : List Expr}
    (given : (opening, exprs) ∈ statement.conditionClauses)
    (asks : allEmptyConditions exprs = false) :
    ofText opening ++ conditions .and false (conditionItems dialect exprs) <:+:
      statement.draft dialect := by
  cases statement with
  | select query =>
      change (query.draft dialect).Clean at clean
      change _ <:+: query.draft dialect
      rw [Select.draft_eq_parts] at clean ⊢
      have part := within_assemble (SelectParts.writesClauses _) clean
      simp only [conditionClauses, List.mem_cons, Prod.mk.injEq, List.not_mem_nil,
        or_false] at given
      rcases given with ⟨rfl, rfl⟩ | ⟨rfl, rfl⟩
      · exact part .conditions (by simp [Select.parts, Select.carried, asks]) _
          (List.mem_singleton_self _)
      · exact part .groupConditions (by simp [Select.parts, Select.carried, asks]) _
          (List.mem_singleton_self _)
  | update change =>
      obtain ⟨table, -, part⟩ := Update.within_clauses clean
      simp only [conditionClauses, List.mem_singleton, Prod.mk.injEq] at given
      obtain ⟨rfl, rfl⟩ := given
      exact part .conditions (by simp [Update.carried, asks]) _ (List.mem_singleton_self _)
  | delete deletion =>
      obtain ⟨table, -, part⟩ := Delete.within_clauses clean
      simp only [conditionClauses, List.mem_singleton, Prod.mk.injEq] at given
      obtain ⟨rfl, rfl⟩ := given
      exact part .conditions (by simp [Delete.carried, asks]) _ (List.mem_singleton_self _)
  | insert _ | truncate _ => simp [conditionClauses] at given

end Statement

theorem conditions_of_several {dialect : NamedDialect} {exprs : List Expr}
    (several : 2 ≤ (asking exprs).length) :
    conditions .and false (conditionItems dialect exprs) =
      separated " AND "
        ((asking exprs).map fun expr => expr.draft dialect expr.isConditionList) := by
  unfold conditions
  rw [asking_conditionItems, conditionItems_eq_map]
  cases listed : asking exprs with
  | nil => simp [listed] at several
  | cons first rest =>
      cases rest with
      | nil => simp [listed] at several
      | cons second others =>
          simp [parenthesizedIf, Connective.text, Function.comp_def]

/-- Two conditions or more, given to a statement that compiles under a bundled dialect, stand in it
in their order with `AND` between them; and if the texts given with them leave no quote and no
parenthesis open, then none of the conditions does, and the whole has an `OR` outside of quotes and
parentheses just if one of the conditions has a bare part that was given with one. -/
theorem conditions_stay_conjoined (bundled : BundledDialect) (name : String)
    {statement : Statement} {opening : String} {conditions : List Expr} {compiled : Compiled}
    (given : (opening, conditions) ∈ statement.conditionClauses)
    (several : 2 ≤ (asking conditions).length)
    (closed : AllClosed ⟨bundled.dialect, name⟩ (exprSubterms conditions))
    (done : compile statement name bundled.dialect .inline = .ok compiled) :
    ∃ before texts after,
      compiled.sql.toList =
        before ++ (opening.toList ++ " AND ".toList.intercalate texts) ++ after ∧
      List.Forall₂
        (fun condition text =>
          (condition.draft ⟨bundled.dialect, name⟩ condition.isConditionList).Inlines
              ⟨bundled.dialect, name⟩ text ∧
            IsClosed bundled.dialect.takesBackslash text)
        (asking conditions) texts ∧
      (HasBareOr bundled.dialect.takesBackslash (" AND ".toList.intercalate texts) ↔
        ∃ condition ∈ asking conditions,
          GiveOr ⟨bundled.dialect, name⟩ condition.bareInList) := by
  have asks : allEmptyConditions conditions = false := by
    rw [← Bool.not_eq_true, ← asking_eq_nil_iff]
    rintro none
    simp [none] at several
  obtain ⟨lead, last, same⟩ :=
    Statement.within_conditions (clean_of_compile_eq_ok done) given asks
  have written : (statement.draft ⟨bundled.dialect, name⟩).Inlines ⟨bundled.dialect, name⟩
      compiled.sql.toList := ⟨compiled, done, rfl⟩
  rw [← same, conditions_of_several several] at written
  obtain ⟨start, after, started, -, whole⟩ := inlines_append.mp written
  obtain ⟨before, clause, -, clauseWritten, rfl⟩ := inlines_append.mp started
  obtain ⟨word, joined, wordWritten, joinedWritten, rfl⟩ := inlines_append.mp clauseWritten
  obtain rfl := (inlines_ofText opening).mp wordWritten
  have each : ∀ condition ∈ asking conditions,
      (condition.draft ⟨bundled.dialect, name⟩ condition.isConditionList).Shows
        ⟨bundled.dialect, name⟩ (GiveOr ⟨bundled.dialect, name⟩ condition.bareInList) :=
    fun condition member =>
      items_show bundled.neutral conditions closed condition (List.mem_of_mem_filter member)
  obtain ⟨-, shown⟩ := shows_conjunction each joined joinedWritten
  obtain ⟨texts, parts, rfl⟩ := exists_texts_of_separated joinedWritten
  rw [List.forall₂_map_left_iff] at parts
  refine ⟨before, texts, after, whole, ?_, shown⟩
  have both := (List.forall₂_and_left _ _).mpr ⟨each, parts⟩
  exact both.imp fun condition text ⟨shows, written⟩ => ⟨written, (shows text written).1⟩

def nameIsLong : Expr :=
  .raw "length(?) > ?" [.column "name", .literal (.integer 3)]

def teamJobs : Select :=
  .ofCalls [.source (.column "jobs"),
    .condition (.compare .equal (.column "team") (.literal (.integer 1))), .condition nameIsLong,
    .condition (.or (.compare .equal (.column "done") (.literal (.integer 1)))
      (.compare .equal (.column "late") (.literal (.integer 1))))]

theorem nameIsLong_verbatim {text : List Char}
    (given : nameIsLong.Verbatim ⟨.standard, "default"⟩ text) :
    text = "length(\"name\") > 3".toList := by
  have written : (nameIsLong.draft ⟨.standard, "default"⟩ true).Inlines ⟨.standard, "default"⟩
      "length(\"name\") > 3".toList := ⟨⟨"length(\"name\") > 3", []⟩, rfl, rfl⟩
  exact Draft.Inlines.unique given written

theorem conditions_stay_conjoined_teamJobs :
    ∃ compiled before texts after,
      compile (.select teamJobs) "default" .standard .inline = .ok compiled ∧
      compiled.sql.toList =
        before ++ (" WHERE ".toList ++ " AND ".toList.intercalate texts) ++ after ∧
      texts.length = 3 ∧
      ¬HasBareOr Dialect.standard.takesBackslash (" AND ".toList.intercalate texts) := by
  have done : compile (.select teamJobs) "default" .standard .inline = .ok
      ⟨"SELECT * FROM \"jobs\" WHERE \"team\" = 1 AND length(\"name\") > 3"
        ++ " AND (\"done\" = 1 OR \"late\" = 1)", []⟩ := rfl
  have given : (" WHERE ", teamJobs.conditions) ∈ (Statement.select teamJobs).conditionClauses := by
    simp [Statement.conditionClauses]
  have closed : AllClosed ⟨.standard, "default"⟩ (exprSubterms teamJobs.conditions) := by
    have raw : (Subterm.expr nameIsLong).IsClosed ⟨.standard, "default"⟩ := by
      intro text given
      rw [nameIsLong_verbatim given]
      decide
    have others : ∀ subterm ∈ exprSubterms teamJobs.conditions, subterm = .expr nameIsLong ∨
        subterm.IsClosed ⟨.standard, "default"⟩ := by
      simp [teamJobs, Select.ofCalls, Select.apply, Select.empty, exprSubterms, Expr.subterms,
        nameIsLong, Expr.compare, Expr.column, Expr.or, Expr.connect, Subterm.IsClosed,
        Expr.Verbatim]
    intro subterm member
    rcases others subterm member with rfl | other
    · exact raw
    · exact other
  obtain ⟨before, texts, after, whole, each, bare⟩ :=
    conditions_stay_conjoined .standard "default" given (by decide) closed done
  refine ⟨_, before, texts, after, done, whole, each.length_eq.symm, bare.not.mpr ?_⟩
  rintro ⟨condition, member, part, listed, text, verbatim, disjoined⟩
  have only : (asking teamJobs.conditions).flatMap Expr.bareInList = [nameIsLong] := rfl
  have inside := List.mem_flatMap.mpr ⟨condition, member, listed⟩
  rw [only, List.mem_singleton] at inside
  rw [inside] at verbatim
  rw [nameIsLong_verbatim verbatim] at disjoined
  exact absurd disjoined (by decide)

def lateJobs : Select :=
  .ofCalls [.source (.column "jobs"),
    .condition (.compare .equal (.column "team") (.literal (.integer 1))),
    .condition (.raw "done OR late" [])]

/-- A text with an `OR` of its own takes the conditions that stand with it apart. -/
theorem text_disjoins_conditions :
    compile (.select lateJobs) "default" .standard .inline = .ok
        ⟨"SELECT * FROM \"jobs\" WHERE \"team\" = 1 AND done OR late", []⟩ ∧
      (asking lateJobs.conditions).length = 2 ∧
      HasBareOr Dialect.standard.takesBackslash "\"team\" = 1 AND done OR late".toList :=
  ⟨rfl, rfl, by decide⟩

end SqlDialects
