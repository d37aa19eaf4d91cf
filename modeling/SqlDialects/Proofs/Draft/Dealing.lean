import Mathlib.Data.List.Nodup
import SqlDialects.Proofs.Draft.Clauses
import SqlDialects.Proofs.Fragments

/-!
A clean statement is what its fragments write out of the clauses that they are dealt: each clause
that it carries is written by the first fragment that is able to write it, and by no other.
-/

namespace SqlDialects

open Draft Fragment

namespace Portion

variable {able : Clause → Bool} {pending : List Clause}

/-- A fragment takes just the clauses that it is able to write, and its draft depends on no other
clause. -/
structure Deals (able : Clause → Bool) (write : List Clause → Portion)
    (pending : List Clause) : Prop where
  left : (write pending).pending = pending.filter fun clause => !able clause
  written : write (pending.filter able) = ⟨(write pending).draft, []⟩

theorem take_of_mem {clause : Clause} {draft : Draft} (member : clause ∈ pending) :
    take clause draft pending = ⟨draft, pending.diff [clause]⟩ := by
  simp [take, member, List.diff_cons]

theorem take_of_not_mem {clause : Clause} {draft : Draft} (missing : clause ∉ pending) :
    take clause draft pending = ⟨[], pending.diff []⟩ := by
  simp [take, missing, nothing]

theorem deals_of_taken {write : List Clause → Portion} {draft : Draft} {taken : List Clause}
    (nodup : pending.Nodup) (same : ∀ clause ∈ pending, able clause = decide (clause ∈ taken))
    (whole : write pending = ⟨draft, pending.diff taken⟩)
    (dealt : write (pending.filter able) = ⟨draft, (pending.filter able).diff taken⟩) :
    Deals able write pending := by
  have keptNodup : (pending.filter able).Nodup := nodup.filter able
  refine ⟨?_, ?_⟩
  · rw [whole, nodup.sdiff_eq_filter]
    apply List.filter_congr
    intro clause member
    simp [same clause member]
  · have none : (pending.filter able).diff taken = [] := by
      rw [List.eq_nil_iff_forall_not_mem]
      intro clause inside
      rw [keptNodup.mem_sdiff_iff, List.mem_filter] at inside
      obtain ⟨⟨member, able⟩, left⟩ := inside
      rw [same clause member, decide_eq_true_eq] at able
      exact left able
    rw [dealt, whole, none]

theorem Deals.congr {write other : List Clause → Portion} (deals : Deals able other pending)
    (whole : write pending = other pending)
    (dealt : write (pending.filter able) = other (pending.filter able)) :
    Deals able write pending := by
  refine ⟨?_, ?_⟩
  · rw [whole]
    exact deals.left
  · rw [dealt, whole]
    exact deals.written

theorem deals_take {clause : Clause} {draft : Draft} (nodup : pending.Nodup)
    (only : ∀ other ∈ pending, able other = decide (other = clause)) :
    Deals able (take clause draft) pending := by
  by_cases member : clause ∈ pending
  · have kept : clause ∈ pending.filter able := by
      simp [List.mem_filter, member, only clause member]
    refine deals_of_taken nodup (fun other inside => ?_) (take_of_mem member) (take_of_mem kept)
    simp [only other inside]
  · have missing : clause ∉ pending.filter able :=
      fun inside => member (List.mem_of_mem_filter inside)
    refine deals_of_taken nodup (fun other inside => ?_) (take_of_not_mem member)
      (take_of_not_mem missing)
    have different : other ≠ clause := by
      rintro rfl
      exact member inside
    simp [only other inside, different]

section TakeWith

variable {lead other : Clause} {together : Bool} {alone both : Draft}

theorem takeWith_of_beside (different : other ≠ lead)
    (beside : lead ∈ pending ∧ together = true ∧ other ∈ pending) :
    takeWith lead other together alone both pending = ⟨both, pending.diff [lead, other]⟩ := by
  obtain ⟨leadPending, joined, otherPending⟩ := beside
  have still : other ∈ pending.erase lead := (List.mem_erase_of_ne different).mpr otherPending
  simp [takeWith, leadPending, joined, still, List.diff_cons]

theorem takeWith_of_apart
    (apart : ¬(lead ∈ pending ∧ together = true ∧ other ∈ pending)) :
    takeWith lead other together alone both pending = take lead alone pending := by
  unfold takeWith take
  by_cases leadPending : lead ∈ pending
  · have missing : ¬(together = true ∧ other ∈ pending.erase lead) := by
      rintro ⟨joined, inside⟩
      exact apart ⟨leadPending, joined, List.mem_of_mem_erase inside⟩
    simp [leadPending, missing]
  · simp [leadPending]

theorem deals_takeWith (nodup : pending.Nodup) (different : other ≠ lead) (leadAble : able lead)
    (otherAble : able other = (decide (lead ∈ pending) && together))
    (stays : ∀ clause, clause ≠ lead → clause ≠ other → able clause = false) :
    Deals able (takeWith lead other together alone both) pending := by
  by_cases beside : lead ∈ pending ∧ together = true ∧ other ∈ pending
  · have otherKept : able other = true := by simp [otherAble, beside.1, beside.2.1]
    have kept : lead ∈ pending.filter able ∧ together = true ∧ other ∈ pending.filter able := by
      simp [List.mem_filter, leadAble, otherKept, beside.1, beside.2.1, beside.2.2]
    refine deals_of_taken nodup (fun clause _ => ?_) (takeWith_of_beside different beside)
      (takeWith_of_beside different kept)
    by_cases isLead : clause = lead
    · simp [isLead, leadAble]
    · by_cases isOther : clause = other
      · simp [isOther, otherKept]
      · simp [isLead, isOther, stays clause isLead isOther]
  · have apart : ¬(lead ∈ pending.filter able ∧ together = true ∧ other ∈ pending.filter able) := by
      rintro ⟨leadKept, joined, otherKept⟩
      exact beside ⟨List.mem_of_mem_filter leadKept, joined, List.mem_of_mem_filter otherKept⟩
    refine (deals_take nodup ?_).congr (takeWith_of_apart beside) (takeWith_of_apart apart)
    intro clause member
    by_cases isLead : clause = lead
    · simp [isLead, leadAble]
    · by_cases isOther : clause = other
      · subst isOther
        have unable : ¬(lead ∈ pending ∧ together = true) :=
          fun ⟨leadPending, joined⟩ => beside ⟨leadPending, joined, member⟩
        simpa [otherAble, isLead] using unable
      · simp [isLead, stays clause isLead isOther]

end TakeWith

end Portion

namespace SelectParts

variable (parts : SelectParts) {able : Clause → Bool} {pending : List Clause}

theorem orderWithOffsetFetch_of_limit (orderPending : .order ∈ pending)
    (offsetPending : .offset ∈ pending) (limitPending : .limit ∈ pending) :
    parts.orderWithOffsetFetch pending =
      ⟨parts.order ++ enclosed " OFFSET " parts.offset " ROWS"
          ++ enclosed " FETCH NEXT " parts.limit " ROWS ONLY",
        pending.diff [.order, .offset, .limit]⟩ := by
  have still : .limit ∈ (pending.erase .order).erase .offset := by
    rw [List.mem_erase_of_ne (by decide), List.mem_erase_of_ne (by decide)]
    exact limitPending
  simp [orderWithOffsetFetch, orderPending, offsetPending, still, List.diff_cons]

theorem orderWithOffsetFetch_of_no_limit (orderPending : .order ∈ pending)
    (offsetPending : .offset ∈ pending) (limitMissing : .limit ∉ pending) :
    parts.orderWithOffsetFetch pending =
      ⟨parts.order ++ enclosed " OFFSET " parts.offset " ROWS",
        pending.diff [.order, .offset]⟩ := by
  have gone : .limit ∉ (pending.erase .order).erase .offset := by
    rw [List.mem_erase_of_ne (by decide), List.mem_erase_of_ne (by decide)]
    exact limitMissing
  simp [orderWithOffsetFetch, orderPending, offsetPending, gone, List.diff_cons]

theorem orderWithOffsetFetch_of_no_offset (offsetMissing : .offset ∉ pending) :
    parts.orderWithOffsetFetch pending = .take .order parts.order pending := by
  simp [orderWithOffsetFetch, offsetMissing]

theorem deals_orderWithOffsetFetch (nodup : pending.Nodup)
    (clean : (parts.orderWithOffsetFetch pending).draft.Clean)
    (orderAble : able .order) (offsetAble : able .offset)
    (limitAble : able .limit = decide (.offset ∈ pending))
    (stays : ∀ clause, clause ≠ .order → clause ≠ .offset → clause ≠ .limit →
      able clause = false) :
    Portion.Deals able parts.orderWithOffsetFetch pending := by
  by_cases offsetPending : .offset ∈ pending
  · have orderPending : .order ∈ pending := by
      by_cases inside : .order ∈ pending
      · exact inside
      · simp [orderWithOffsetFetch, offsetPending, inside] at clean
    have limitKept : able .limit = true := by simp [limitAble, offsetPending]
    have orderDealt : .order ∈ pending.filter able := List.mem_filter.mpr ⟨orderPending, orderAble⟩
    have offsetDealt : .offset ∈ pending.filter able :=
      List.mem_filter.mpr ⟨offsetPending, offsetAble⟩
    by_cases limitPending : .limit ∈ pending
    · have limitDealt : .limit ∈ pending.filter able :=
        List.mem_filter.mpr ⟨limitPending, limitKept⟩
      refine Portion.deals_of_taken nodup (fun clause _ => ?_)
        (parts.orderWithOffsetFetch_of_limit orderPending offsetPending limitPending)
        (parts.orderWithOffsetFetch_of_limit orderDealt offsetDealt limitDealt)
      cases clause <;> simp [orderAble, offsetAble, limitKept, stays]
    · have limitMissing : .limit ∉ pending.filter able :=
        fun inside => limitPending (List.mem_of_mem_filter inside)
      refine Portion.deals_of_taken nodup (fun clause member => ?_)
        (parts.orderWithOffsetFetch_of_no_limit orderPending offsetPending limitPending)
        (parts.orderWithOffsetFetch_of_no_limit orderDealt offsetDealt limitMissing)
      have isLimit : clause ≠ .limit := by
        rintro rfl
        exact limitPending member
      cases clause <;> simp_all
  · have offsetMissing : .offset ∉ pending.filter able :=
      fun inside => offsetPending (List.mem_of_mem_filter inside)
    refine (Portion.deals_take nodup ?_).congr
      (parts.orderWithOffsetFetch_of_no_offset offsetPending)
      (parts.orderWithOffsetFetch_of_no_offset offsetMissing)
    intro clause member
    have isOffset : clause ≠ .offset := by
      rintro rfl
      exact offsetPending member
    by_cases isLimit : clause = .limit
    · simp [isLimit, limitAble, offsetPending]
    · by_cases isOrder : clause = .order
      · simp [isOrder, orderAble]
      · simp [isOrder, stays clause isOrder isOffset isLimit]

end SelectParts

structure Remaining (kind : StatementKind) (carried : List Clause) (earlier : List Fragment)
    (pending : List Clause) : Prop where
  nodup : pending.Nodup
  leader : ∀ clause, isLeader clause →
    (clause ∈ pending ↔ clause ∈ carried ∧ isFresh kind earlier clause)

section Remaining

variable {kind : StatementKind} {carried : List Clause} {furtherTablesInFrom : Bool}
  {earlier : List Fragment} {pending : List Clause}

theorem remaining_carried (nodup : carried.Nodup) : Remaining kind carried [] carried :=
  ⟨nodup, by simp [isFresh]⟩

theorem Remaining.step (remaining : Remaining kind carried earlier pending)
    (furtherTablesInFrom : Bool) (fragment : Fragment) :
    Remaining kind carried (earlier ++ [fragment])
      (pending.filter fun clause =>
        !isAble kind carried furtherTablesInFrom earlier fragment clause) := by
  refine ⟨remaining.nodup.filter _, ?_⟩
  intro clause leader
  rw [List.mem_filter, remaining.leader clause leader, isAble_of_isLeader leader, isFresh_append,
    Bool.and_eq_true, and_assoc]

/-- Each fragment of a kind of statement writes what it is dealt. -/
def DealsClauses (kind : StatementKind) (carried : List Clause) (furtherTablesInFrom : Bool)
    (portion? : Fragment → List Clause → Option Portion) : Prop :=
  ∀ {earlier fragment pending portion}, Remaining kind carried earlier pending →
    portion? fragment pending = some portion → portion.draft.Clean →
    ∃ write : List Clause → Portion,
      (∀ clauses, portion? fragment clauses = some (write clauses)) ∧
        Portion.Deals (isAble kind carried furtherTablesInFrom earlier fragment) write pending

theorem assemble_eq_flatten_deal {name : String}
    {portion? : Fragment → List Clause → Option Portion}
    (deals : DealsClauses kind carried furtherTablesInFrom portion?) {order : List Fragment}
    (remaining : Remaining kind carried earlier pending)
    (clean : (assemble name kind portion? order pending).Clean) :
    ∃ drafts : List Draft,
      List.Forall₂ (fun entry draft => portion? entry.1 entry.2 = some ⟨draft, []⟩)
        (deal (isAble kind carried furtherTablesInFrom) earlier order pending) drafts ∧
      assemble name kind portion? order pending = drafts.flatten ∧
      ((deal (isAble kind carried furtherTablesInFrom) earlier order pending).flatMap
        Prod.snd).Perm pending := by
  induction order generalizing earlier pending with
  | nil =>
      cases pending with
      | nil => exact ⟨[], .nil, rfl, .nil⟩
      | cons clause rest =>
          simp only [assemble, remainder] at clean
          split at clean <;> simp at clean
  | cons fragment rest ih =>
      simp only [assemble] at clean ⊢
      cases found : portion? fragment pending with
      | none => simp [found] at clean
      | some portion =>
          simp only [found, clean_append] at clean
          obtain ⟨write, writes, step⟩ := deals remaining found clean.1
          have same : portion = write pending := by
            rw [writes pending, Option.some.injEq] at found
            exact found.symm
          subst same
          have left := step.left
          obtain ⟨drafts, later, joined, sorted⟩ := ih
            (by simpa [left] using remaining.step furtherTablesInFrom fragment) clean.2
          rw [left] at later joined sorted
          refine ⟨(write pending).draft :: drafts, ?_, ?_, ?_⟩
          · exact .cons (by rw [writes, step.written]) later
          · simp [left, joined]
          · simp only [deal, List.flatMap_cons]
            exact (sorted.append_left _).trans (List.filter_append_perm _ pending)

end Remaining

theorem SelectParts.dealsClauses (parts : SelectParts) (columnsCarried : .columns ∈ parts.carried)
    (offsetCarried : parts.hasOffset = decide (.offset ∈ parts.carried))
    (furtherTablesInFrom : Bool) :
    DealsClauses .select parts.carried furtherTablesInFrom parts.portion? := by
  intro earlier fragment pending portion remaining found clean
  have columnsLeft := remaining.leader .columns rfl
  have offsetLeft := remaining.leader .offset rfl
  unfold portion? at found
  split at found <;> cases found
  case h_3 =>
    refine ⟨parts.columnsWithLimit, fun _ => rfl, ?_⟩
    refine Portion.deals_takeWith remaining.nodup (by decide) rfl ?_ ?_
    · have fresh : isFresh .select earlier .columns = decide (.columns ∈ pending) := by
        rw [Bool.eq_iff_iff, decide_eq_true_iff, columnsLeft]
        simp [columnsCarried]
      simp only [isAble, writes, fresh, offsetCarried]
      cases decide (.columns ∈ pending) <;> simp [clauses?]
    · intro clause isColumns isLimit
      cases clause <;> simp_all [isAble, writes, clauses?]
  case h_12 =>
    refine ⟨parts.orderWithOffsetFetch, fun _ => rfl, ?_⟩
    refine parts.deals_orderWithOffsetFetch remaining.nodup clean rfl rfl ?_ ?_
    · rw [Bool.eq_iff_iff, decide_eq_true_iff, offsetLeft]
      simp [isAble, writes, clauses?]
    · intro clause isOrder isOffset isLimit
      cases clause <;> simp_all [isAble, writes, clauses?]
  all_goals
    refine ⟨.take _ _, fun _ => rfl, Portion.deals_take remaining.nodup ?_⟩
    intro clause _
    cases clause <;> rfl

theorem Insert.dealsClauses (insert : Insert) (dialect : NamedDialect) (table : Expr) :
    DealsClauses .insert insert.carried dialect.conventions.furtherTablesInFrom
      (insert.portion? dialect table) := by
  intro earlier fragment pending portion remaining found _
  unfold portion? at found
  split at found <;> cases found
  all_goals
    refine ⟨.take _ _, fun _ => rfl, Portion.deals_take remaining.nodup ?_⟩
    intro clause _
    cases clause <;> rfl

theorem Update.dealsClauses (update : Update) (dialect : NamedDialect) (table : Expr) :
    DealsClauses .update update.carried dialect.conventions.furtherTablesInFrom
      (update.portion? dialect table) := by
  intro earlier fragment pending portion remaining found _
  have tableLeft := remaining.leader .table rfl
  unfold portion? at found
  split at found <;> cases found
  case h_3 =>
    refine ⟨update.tables dialect table, fun _ => rfl, ?_⟩
    refine Portion.deals_takeWith remaining.nodup (by decide) rfl ?_ ?_
    · have fresh : isFresh .update earlier .table = decide (.table ∈ pending) := by
        rw [Bool.eq_iff_iff, decide_eq_true_iff, tableLeft]
        simp [carried, carriedClauses]
      simp only [isAble, writes, fresh]
      cases decide (.table ∈ pending) <;> simp [clauses?]
    · intro clause isTable isFurther
      cases clause <;> simp_all [isAble, writes, clauses?]
  case h_5 =>
    cases apart : dialect.conventions.furtherTablesInFrom with
    | true =>
        refine ⟨.take .furtherTables (update.furtherTablesDraft dialect " FROM "),
          fun clauses => ?_, Portion.deals_take remaining.nodup ?_⟩
        · simp [portion?, apart]
        · intro clause _
          cases clause <;> rfl
    | false =>
        have stays : ∀ clause, isAble .update update.carried false earlier .updateSources clause =
            false := by
          intro clause
          cases clause <;> rfl
        refine ⟨.nothing, fun clauses => ?_, ?_, ?_⟩
        · simp [portion?, apart]
        · simp [stays, Portion.nothing]
        · simp [stays, Portion.nothing]
  all_goals
    refine ⟨.take _ _, fun _ => rfl, Portion.deals_take remaining.nodup ?_⟩
    intro clause _
    cases clause <;> rfl

theorem Delete.dealsClauses (delete : Delete) (dialect : NamedDialect) (table : Expr) :
    DealsClauses .delete delete.carried dialect.conventions.furtherTablesInFrom
      (delete.portion? dialect table) := by
  intro earlier fragment pending portion remaining found _
  unfold portion? at found
  split at found <;> cases found
  all_goals
    refine ⟨.take _ _, fun _ => rfl, Portion.deals_take remaining.nodup ?_⟩
    intro clause _
    cases clause <;> rfl

theorem Truncate.dealsClauses (truncate : Truncate) (dialect : NamedDialect) :
    DealsClauses .truncate [.truncation] dialect.conventions.furtherTablesInFrom
      (truncate.portion? dialect) := by
  intro earlier fragment pending portion remaining found _
  unfold portion? at found
  split at found <;> cases found
  refine ⟨.take _ _, fun _ => rfl, Portion.deals_take remaining.nodup ?_⟩
  intro clause _
  cases clause <;> rfl

end SqlDialects
