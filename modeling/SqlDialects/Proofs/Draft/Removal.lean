import SqlDialects.Proofs.Draft.Dealing

/-!
Fragments that an order does not need. A fragment writes nothing once it has been written, and
nothing if the statement carries none of its clauses; an order without it assembles the same.
-/

namespace SqlDialects

open Draft Fragment

namespace Fragment

/-- The clauses of which one must be pending for a fragment to write anything. -/
def leads (kind : StatementKind) (furtherTablesInFrom : Bool) : Fragment → List Clause
  | .selectWithLimit => [.columns]
  | .orderWithOffsetFetch => [.order, .offset]
  | .updateTables => [.table]
  | .updateSources => if furtherTablesInFrom then [.furtherTables] else []
  | fragment => (fragment.clauses? kind).getD []

theorem leads_subset_clauses {kind : StatementKind} {fragment : Fragment} {clauses : List Clause}
    (known : clauses? kind fragment = some clauses) (furtherTablesInFrom : Bool) :
    leads kind furtherTablesInFrom fragment ⊆ clauses := by
  cases kind <;> cases fragment <;> cases known <;> cases furtherTablesInFrom <;>
    simp [leads, clauses?]

end Fragment

namespace Portion

/-- A fragment takes clauses away and leaves none of its leads; without them it does nothing. -/
structure Spends (leads : List Clause) (write : List Clause → Portion) : Prop where
  shrinks : ∀ pending, (write pending).pending.Sublist pending
  spent : ∀ {pending}, pending.Nodup → ∀ clause ∈ leads, clause ∉ (write pending).pending
  idle : ∀ {pending}, (∀ clause ∈ leads, clause ∉ pending) → write pending = nothing pending

theorem spends_nothing : Spends [] nothing where
  shrinks := fun pending => List.Sublist.refl pending
  spent := by simp
  idle := by simp

theorem spends_take (clause : Clause) (draft : Draft) : Spends [clause] (take clause draft) where
  shrinks := by
    intro pending
    unfold take
    split
    · exact List.erase_sublist
    · exact List.Sublist.refl pending
  spent := by
    intro pending nodup other lead
    rw [List.mem_singleton.mp lead]
    unfold take
    split
    · exact nodup.not_mem_erase
    · next missing => exact missing
  idle := by
    intro pending missing
    have gone := missing clause (by simp)
    simp [take, gone]

theorem spends_takeWith (lead other : Clause) (together : Bool) (alone both : Draft) :
    Spends [lead] (takeWith lead other together alone both) where
  shrinks := by
    intro pending
    unfold takeWith
    split
    · split
      · exact List.erase_sublist.trans List.erase_sublist
      · exact List.erase_sublist
    · exact List.Sublist.refl pending
  spent := by
    intro pending nodup clause isLead
    rw [List.mem_singleton.mp isLead]
    unfold takeWith
    split
    · split
      · exact fun inside => nodup.not_mem_erase (List.mem_of_mem_erase inside)
      · exact nodup.not_mem_erase
    · next missing => exact missing
  idle := by
    intro pending missing
    have gone := missing lead (by simp)
    simp [takeWith, gone]

end Portion

theorem SelectParts.spends_orderWithOffsetFetch (parts : SelectParts) :
    Portion.Spends [.order, .offset] parts.orderWithOffsetFetch where
  shrinks := by
    intro pending
    have both : ((pending.erase .order).erase .offset).Sublist pending :=
      List.erase_sublist.trans List.erase_sublist
    unfold orderWithOffsetFetch
    split
    · split
      · simp only
        split
        · exact List.erase_sublist.trans both
        · exact both
      · exact List.erase_sublist
    · exact (Portion.spends_take .order parts.order).shrinks pending
  spent := by
    intro pending nodup clause lead
    have orderGone : .order ∉ pending.erase .order := nodup.not_mem_erase
    have erasedNodup : (pending.erase .order).Nodup := nodup.erase .order
    have bothGone : clause ∉ (pending.erase .order).erase .offset := by
      rcases List.mem_cons.mp lead with rfl | inside
      · exact fun inside => orderGone (List.mem_of_mem_erase inside)
      · rw [List.mem_singleton.mp inside]
        exact erasedNodup.not_mem_erase
    unfold orderWithOffsetFetch
    split
    · split
      · simp only
        split
        · exact fun inside => bothGone (List.mem_of_mem_erase inside)
        · exact bothGone
      · next orderMissing =>
        rcases List.mem_cons.mp lead with rfl | inside
        · exact fun inside => orderMissing (List.mem_of_mem_erase inside)
        · rw [List.mem_singleton.mp inside]
          exact nodup.not_mem_erase
    · next offsetMissing =>
      have taken := Portion.spends_take .order parts.order
      rcases List.mem_cons.mp lead with rfl | inside
      · exact taken.spent nodup .order (by simp)
      · rw [List.mem_singleton.mp inside]
        exact fun still => offsetMissing ((taken.shrinks pending).subset still)
  idle := by
    intro pending missing
    have orderMissing := missing .order (by simp)
    have offsetMissing := missing .offset (by simp)
    simp [orderWithOffsetFetch, Portion.take, orderMissing, offsetMissing]

/-- The fragments of a kind of statement, each of which spends its leads. -/
structure Orderly (kind : StatementKind) (leads : Fragment → List Clause)
    (portion? : Fragment → List Clause → Option Portion) : Prop where
  foreign : ∀ {fragment}, clauses? kind fragment = none →
    ∀ pending, portion? fragment pending = none
  spends : ∀ {fragment}, (clauses? kind fragment).isSome →
    ∃ write, (∀ pending, portion? fragment pending = some (write pending)) ∧
      Portion.Spends (leads fragment) write

namespace Orderly

variable {name : String} {kind : StatementKind} {leads : Fragment → List Clause}
  {portion? : Fragment → List Clause → Option Portion}
  (orderly : Orderly kind leads portion?)

include orderly

theorem spends_of_found {fragment : Fragment} {pending : List Clause} {portion : Portion}
    (found : portion? fragment pending = some portion) :
    (clauses? kind fragment).isSome ∧
      ∃ write, portion = write pending ∧ Portion.Spends (leads fragment) write := by
  cases known : clauses? kind fragment with
  | none => simp [orderly.foreign known pending] at found
  | some clauses =>
      have belongs : (clauses? kind fragment).isSome := by
        rw [known]
        rfl
      obtain ⟨write, writes, spends⟩ := orderly.spends belongs
      rw [writes pending, Option.some.injEq] at found
      exact ⟨rfl, write, found.symm, spends⟩

theorem assemble_remove {fragment : Fragment} {before : List Fragment} (after : List Fragment)
    {pending : List Clause} (nodup : pending.Nodup)
    (unneeded : fragment ∈ before ∨
      (clauses? kind fragment).isSome ∧ ∀ clause ∈ leads fragment, clause ∉ pending) :
    assemble name kind portion? (before ++ fragment :: after) pending =
      assemble name kind portion? (before ++ after) pending := by
  induction before generalizing pending with
  | nil =>
      rcases unneeded with repeated | ⟨known, missing⟩
      · simp at repeated
      · obtain ⟨write, writes, spends⟩ := orderly.spends known
        simp [assemble, writes, spends.idle missing, Portion.nothing]
  | cons other before ih =>
      simp only [List.cons_append, assemble]
      cases found : portion? other pending with
      | none => rfl
      | some portion =>
          obtain ⟨otherKnown, write, rfl, spends⟩ := orderly.spends_of_found found
          have shrinks := spends.shrinks pending
          have later : fragment ∈ before ∨ (clauses? kind fragment).isSome ∧
              ∀ clause ∈ leads fragment, clause ∉ (write pending).pending := by
            rcases unneeded with repeated | ⟨known, missing⟩
            · rcases List.mem_cons.mp repeated with rfl | inside
              · exact .inr ⟨otherKnown, spends.spent nodup⟩
              · exact .inl inside
            · right
              exact ⟨known, fun clause lead inside => missing clause lead (shrinks.subset inside)⟩
          simp only [ih (nodup.sublist shrinks) later]

/-- What an order assembles: portions, a fragment that belongs elsewhere, and a clause that no
fragment of the order leads with. -/
theorem holds_assemble {allowed : Piece → Prop} {order : List Fragment} {pending : List Clause}
    (nodup : pending.Nodup)
    (portions : ∀ fragment ∈ order, ∀ later ⊆ pending, ∀ portion,
      portion? fragment later = some portion → portion.draft.Holds allowed)
    (misplaced : ∀ fragment ∈ order, clauses? kind fragment = none →
      allowed (.fault (.misconfigured (.misplaced fragment kind) name)))
    (unwritten : ∀ clause ∈ pending, (∀ fragment ∈ order, clause ∉ leads fragment) →
      (remainder name kind [clause]).Holds allowed) :
    (assemble name kind portion? order pending).Holds allowed := by
  induction order generalizing pending with
  | nil =>
      cases pending with
      | nil => simp [assemble, remainder]
      | cons clause rest => exact unwritten clause (by simp) (by simp)
  | cons fragment rest ih =>
      cases found : portion? fragment pending with
      | none =>
          have foreign : clauses? kind fragment = none := by
            by_contra known
            obtain ⟨write, writes, _⟩ := orderly.spends (Option.isSome_iff_ne_none.mpr known)
            rw [writes pending] at found
            cases found
          simpa [assemble, found, misconfigured] using misplaced fragment (by simp) foreign
      | some portion =>
          obtain ⟨_, write, rfl, spends⟩ := orderly.spends_of_found found
          have shrinks := spends.shrinks pending
          simp only [assemble, found, holds_append]
          refine ⟨portions fragment (by simp) pending (List.Subset.refl _) _ found, ?_⟩
          apply ih (nodup.sublist shrinks)
          · intro other member later inside
            exact portions other (by simp [member]) later
              (List.Subset.trans inside shrinks.subset)
          · intro other member
            exact misplaced other (by simp [member])
          · intro clause member unled
            refine unwritten clause (shrinks.subset member) ?_
            intro other listed
            rcases List.mem_cons.mp listed with rfl | inside
            · exact fun lead => spends.spent nodup clause lead member
            · exact unled other inside

theorem not_clean_of_foreign {fragment : Fragment} (foreign : clauses? kind fragment = none)
    {order : List Fragment} (member : fragment ∈ order) (pending : List Clause) :
    ¬(assemble name kind portion? order pending).Clean := by
  induction order generalizing pending with
  | nil => simp at member
  | cons other rest ih =>
      simp only [assemble]
      cases found : portion? other pending with
      | none => simp
      | some portion =>
          rcases List.mem_cons.mp member with rfl | inside
          · simp [orderly.foreign foreign pending] at found
          · intro clean
            exact ih inside portion.pending ((clean_append _ _).mp clean).2

end Orderly

theorem SelectParts.orderly (parts : SelectParts) (furtherTablesInFrom : Bool) :
    Orderly .select (leads .select furtherTablesInFrom) parts.portion? where
  foreign := by
    intro fragment foreign pending
    cases fragment <;> first | rfl | cases foreign
  spends := by
    intro fragment known
    cases fragment
    case selectWithLimit =>
      exact ⟨parts.columnsWithLimit, fun _ => rfl, Portion.spends_takeWith ..⟩
    case orderWithOffsetFetch =>
      exact ⟨parts.orderWithOffsetFetch, fun _ => rfl, parts.spends_orderWithOffsetFetch⟩
    all_goals first | exact ⟨.take _ _, fun _ => rfl, Portion.spends_take ..⟩ | cases known

theorem Insert.orderly (insert : Insert) (dialect : NamedDialect) (table : Expr) :
    Orderly .insert (leads .insert dialect.conventions.furtherTablesInFrom)
      (insert.portion? dialect table) where
  foreign := by
    intro fragment foreign pending
    cases fragment <;> first | rfl | cases foreign
  spends := by
    intro fragment known
    cases fragment <;>
      first | exact ⟨.take _ _, fun _ => rfl, Portion.spends_take ..⟩ | cases known

theorem Update.orderly (update : Update) (dialect : NamedDialect) (table : Expr) :
    Orderly .update (leads .update dialect.conventions.furtherTablesInFrom)
      (update.portion? dialect table) where
  foreign := by
    intro fragment foreign pending
    cases fragment <;> first | rfl | cases foreign
  spends := by
    intro fragment known
    cases fragment
    case updateTables =>
      exact ⟨update.tables dialect table, fun _ => rfl, Portion.spends_takeWith ..⟩
    case updateSources =>
      cases apart : dialect.conventions.furtherTablesInFrom with
      | true =>
          exact ⟨.take _ _, fun _ => by simp [portion?, apart]; rfl, Portion.spends_take ..⟩
      | false => exact ⟨.nothing, fun _ => by simp [portion?, apart], Portion.spends_nothing⟩
    all_goals first | exact ⟨.take _ _, fun _ => rfl, Portion.spends_take ..⟩ | cases known

theorem Delete.orderly (delete : Delete) (dialect : NamedDialect) (table : Expr) :
    Orderly .delete (leads .delete dialect.conventions.furtherTablesInFrom)
      (delete.portion? dialect table) where
  foreign := by
    intro fragment foreign pending
    cases fragment <;> first | rfl | cases foreign
  spends := by
    intro fragment known
    cases fragment <;>
      first | exact ⟨.take _ _, fun _ => rfl, Portion.spends_take ..⟩ | cases known

theorem Truncate.orderly (truncate : Truncate) (dialect : NamedDialect) :
    Orderly .truncate (leads .truncate dialect.conventions.furtherTablesInFrom)
      (truncate.portion? dialect) where
  foreign := by
    intro fragment foreign pending
    cases fragment <;> first | rfl | cases foreign
  spends := by
    intro fragment known
    cases fragment <;>
      first | exact ⟨.take _ _, fun _ => rfl, Portion.spends_take ..⟩ | cases known

end SqlDialects
