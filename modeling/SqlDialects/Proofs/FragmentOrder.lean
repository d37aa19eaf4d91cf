import SqlDialects.Proofs.Agreement
import SqlDialects.Proofs.Draft.Orders
import SqlDialects.Proofs.Draft.Shares

/-!
The order that a dialect declares is authoritative. A statement is written fragment by fragment in
that order, each clause by the first fragment that is able to write it; fragments that have nothing
to write can be left out, and a clause that no fragment is able to write is not lost but a failure.
-/

namespace SqlDialects

open Draft Fragment

namespace Draft

variable {dialect : NamedDialect}

theorem texts_of_write_flatten {drafts : List Draft} {compiled : Compiled}
    (done : write dialect.inlineValue 0 drafts.flatten = .ok compiled) :
    ∃ texts : List String,
      List.Forall₂ (fun draft text => draft.write dialect.inlineValue 0 = .ok ⟨text, []⟩)
        drafts texts ∧
      compiled.sql = String.join texts := by
  induction drafts generalizing compiled with
  | nil =>
      have empty : compiled = .empty := by simpa [write] using done.symm
      exact ⟨[], .nil, by rw [empty]; rfl⟩
  | cons draft rest ih =>
      rw [List.flatten_cons, write_append, bind_eq_ok_iff] at done
      obtain ⟨⟨text, bound⟩, here, done⟩ := done
      obtain ⟨others, later, rfl⟩ := map_eq_ok_iff.mp done
      rw [write_inlineValue_count _ _ 0] at later
      obtain ⟨texts, each, joined⟩ := ih later
      have none : bound = [] := arguments_of_write_inlineValue here
      refine ⟨text :: texts, .cons (by rw [here, none]) each, ?_⟩
      rw [String.join_cons, ← joined]
      rfl

end Draft

theorem Mode.writeValue_withOrders (mode : Mode) (dialect : NamedDialect)
    (orders : FragmentOrders) :
    mode.writeValue (dialect.withOrders orders) = mode.writeValue dialect :=
  mode.writeValue_of_lexicon rfl rfl rfl

namespace FragmentOrders

def set (orders : FragmentOrders) (order : List Fragment) : StatementKind → FragmentOrders
  | .select => { orders with select := order }
  | .insert => { orders with insert := order }
  | .update => { orders with update := order }
  | .delete => { orders with delete := order }
  | .truncate => { orders with truncate := order }

end FragmentOrders

namespace Dialect

def withOrder (dialect : Dialect) (kind : StatementKind) (order : List Fragment) : Dialect :=
  { dialect with orders := dialect.orders.set order kind }

theorem order_withOrder_self (dialect : Dialect) (kind : StatementKind) (order : List Fragment) :
    (dialect.withOrder kind order).order kind = order := by
  cases kind <;> rfl

theorem order_withOrder_of_ne (dialect : Dialect) {kind other : StatementKind}
    (different : other ≠ kind) (order : List Fragment) :
    (dialect.withOrder kind order).order other = dialect.order other := by
  cases kind <;> cases other <;> first | rfl | exact absurd rfl different

end Dialect

section Unneeded

variable {kind : StatementKind} {carried : List Clause} {before after : List Fragment}
  {fragment : Fragment}

/-- An order does not need an occurrence of a fragment that stands there already, or that belongs
to the kind while none of its clauses is carried. -/
def Unneeded (kind : StatementKind) (carried : List Clause) (before : List Fragment)
    (fragment : Fragment) : Prop :=
  fragment ∈ before ∨
    ∃ clauses, clauses? kind fragment = some clauses ∧ ∀ clause ∈ clauses, clause ∉ carried

theorem Unneeded.leads (unneeded : Unneeded kind carried before fragment)
    (furtherTablesInFrom : Bool) :
    fragment ∈ before ∨ (clauses? kind fragment).isSome ∧
      ∀ clause ∈ leads kind furtherTablesInFrom fragment, clause ∉ carried := by
  rcases unneeded with repeated | ⟨clauses, known, missing⟩
  · exact .inl repeated
  · refine .inr ⟨by rw [known]; rfl, ?_⟩
    intro clause lead
    exact missing clause (leads_subset_clauses known furtherTablesInFrom lead)

end Unneeded

theorem Select.indifferent_of_unneeded {dialect : NamedDialect} {kind : StatementKind}
    {before after : List Fragment} {fragment : Fragment} {query : Select}
    (arranged : dialect.order kind = before ++ fragment :: after)
    (unneeded : kind = .select → Unneeded .select query.carried before fragment) :
    query.Indifferent dialect (dialect.orders.set (before ++ after) kind) := by
  intro parts same
  cases kind with
  | select =>
      have arranged : dialect.orders.select = before ++ fragment :: after := arranged
      have nodup : parts.carried.Nodup := by
        rw [same]
        exact (Statement.select query).nodup_carried
      have missing := (unneeded rfl).leads false
      rw [← same] at missing
      rw [arranged]
      exact ((parts.orderly false).assemble_remove after nodup missing).symm
  | insert | update | delete | truncate => rfl

namespace Statement

/-- A statement does without an occurrence of a fragment in the order of a kind if neither the
statement itself nor, for the order of queries, any query in it needs the occurrence. -/
def DoesWithout (statement : Statement) (kind : StatementKind) (before : List Fragment)
    (fragment : Fragment) : Prop :=
  (kind = statement.kind → Unneeded kind statement.carried before fragment) ∧
    (kind = .select → ∀ query ∈ statement.queries, Unneeded .select query.carried before fragment)

section DoesWithout

variable {statement : Statement} {name : String} {dialect : Dialect} {kind : StatementKind}
  {before after : List Fragment} {fragment : Fragment}

theorem draft_withOrder (arranged : dialect.order kind = before ++ fragment :: after)
    (without : statement.DoesWithout kind before fragment) :
    statement.draft ⟨dialect.withOrder kind (before ++ after), name⟩ =
      statement.draft ⟨dialect, name⟩ := by
  show statement.draft (NamedDialect.withOrders ⟨dialect, name⟩ _) = _
  refine statement.draft_withOrders ?_ ?_
  · intro query inside
    exact Select.indifferent_of_unneeded arranged fun isSelect => without.2 isSelect query inside
  · intro named
    show assemble name statement.kind _
        ((dialect.withOrder kind (before ++ after)).order statement.kind) _ =
      assemble name statement.kind _ (dialect.order statement.kind) _
    by_cases own : statement.kind = kind
    · subst own
      have missing := (without.1 rfl).leads dialect.conventions.furtherTablesInFrom
      rw [dialect.order_withOrder_self, arranged]
      exact ((orderly ⟨dialect, name⟩ named).assemble_remove after statement.nodup_carried
        missing).symm
    · rw [dialect.order_withOrder_of_ne own]

theorem compile_withOrder (arranged : dialect.order kind = before ++ fragment :: after)
    (without : statement.DoesWithout kind before fragment) (name : String) (mode : Mode) :
    compile statement name (dialect.withOrder kind (before ++ after)) mode =
      compile statement name dialect mode := by
  unfold compile
  rw [draft_withOrder arranged without]
  exact congrArg (fun writeValue => Draft.write writeValue 0 _)
    (mode.writeValue_withOrders ⟨dialect, name⟩ _)

end DoesWithout

variable {statement : Statement} {name : String} {dialect : Dialect} {mode : Mode}
  {compiled : Compiled}

theorem not_ok_of_foreign {fragment : Fragment} (foreign : clauses? statement.kind fragment = none)
    (member : fragment ∈ dialect.order statement.kind) :
    compile statement name dialect mode ≠ .ok compiled := by
  intro done
  have clean := clean_of_compile_eq_ok done
  have named := hasTable_of_clean _ clean
  rw [draft_eq_assemble _ named] at clean
  exact (orderly ⟨dialect, name⟩ named).not_clean_of_foreign foreign member statement.carried clean

theorem not_ok_of_unable {clause : Clause}
    (needed : clause ∈ statement.carried ∨ clause ∈ statement.kind.required)
    (unable : ∀ before fragment after,
      dialect.order statement.kind = before ++ fragment :: after →
        statement.isAble dialect before fragment clause = false) :
    compile statement name dialect mode ≠ .ok compiled := by
  intro done
  obtain ⟨_, _, _, sorted⟩ := draft_eq_flatten _ (clean_of_compile_eq_ok done)
  have carried : clause ∈ statement.carried :=
    needed.elim id fun required => statement.required_subset_carried required
  obtain ⟨before, fragment, after, arranged, able⟩ :=
    exists_able_of_mem_deal (sorted.mem_iff.mpr carried)
  simp only [List.nil_append, unable before fragment after arranged] at able
  exact absurd able (by simp)

/-- The text of a fragment that has a share of the clauses, all of which it writes. -/
def Writes (statement : Statement) (dialect : NamedDialect) (fragment : Fragment)
    (share : List Clause) (text : String) : Prop :=
  statement.portion? dialect fragment share =
      some ⟨statement.shareDraft dialect fragment share, []⟩ ∧
    (statement.shareDraft dialect fragment share).write dialect.inlineValue 0 = .ok ⟨text, []⟩

section Writes

variable {dialect : NamedDialect}

theorem eq_empty_of_writes_nil (named : statement.hasTable) {fragment : Fragment} {text : String}
    (writes : statement.Writes dialect fragment [] text) : text = "" := by
  obtain ⟨found, written⟩ := writes
  obtain ⟨_, write, same, spends⟩ := (orderly dialect named).spends_of_found found
  rw [spends.idle (by simp)] at same
  have empty : statement.shareDraft dialect fragment [] = [] := congrArg Portion.draft same
  rw [empty] at written
  have same : Compiled.empty = ⟨text, []⟩ := Except.ok.inj written
  exact (congrArg Compiled.sql same).symm

theorem forall₂_writes (named : statement.hasTable) {shares : List (Fragment × List Clause)}
    {drafts : List Draft} {texts : List String}
    (found : List.Forall₂ (fun share draft =>
      statement.portion? dialect share.1 share.2 = some ⟨draft, []⟩) shares drafts)
    (written : List.Forall₂ (fun draft text =>
      write dialect.inlineValue 0 draft = .ok ⟨text, []⟩) drafts texts) :
    List.Forall₂ (fun share text => statement.Writes dialect share.1 share.2 text ∧
      (share.2 = [] → text = "")) shares texts := by
  induction found generalizing texts with
  | nil =>
      cases written
      exact .nil
  | @cons share draft _ _ here _ ih =>
      cases written with
      | @cons _ text _ _ first later =>
          obtain rfl := eq_shareDraft here (clean_of_write_ok first)
          have writes : statement.Writes dialect share.1 share.2 text := ⟨here, first⟩
          refine .cons ⟨writes, ?_⟩ (ih later)
          intro empty
          rw [empty] at writes
          exact eq_empty_of_writes_nil named writes

end Writes

theorem texts_of_inline (done : compile statement name dialect .inline = .ok compiled) :
    ∃ texts : List String,
      List.Forall₂ (fun share text => statement.Writes ⟨dialect, name⟩ share.1 share.2 text ∧
        (share.2 = [] → text = "")) (statement.shares dialect) texts ∧
      compiled.sql = String.join texts := by
  have clean := clean_of_compile_eq_ok done
  obtain ⟨drafts, found, joined, _⟩ := draft_eq_flatten _ clean
  rw [compile, joined] at done
  obtain ⟨texts, each, whole⟩ := texts_of_write_flatten done
  exact ⟨texts, forall₂_writes (hasTable_of_clean _ clean) found each, whole⟩

theorem getElem?_shares {before after : List Fragment} {fragment : Fragment}
    (arranged : dialect.order statement.kind = before ++ fragment :: after) :
    ∃ share, (statement.shares dialect)[before.length]? = some (fragment, share) ∧
      ∀ clause, clause ∈ share ↔
        clause ∈ statement.carried ∧
          IsFirst (statement.isAble dialect) before fragment clause := by
  unfold shares
  rw [arranged]
  exact getElem?_deal (statement.isAble dialect) [] before after fragment statement.carried

end Statement

/-- The declared order is authoritative and drops nothing. Inline compilation writes one text for
each fragment of the order, in which each clause that the statement carries is written by the first
fragment that is able to, and by no other. A fragment that writes nothing can be left out of the
order; one that does not belong to the kind is a failure, and so is a clause that none is able to
write. -/
theorem declared_order_is_authoritative (statement : Statement) (name : String)
    (dialect : Dialect) :
    ((statement.shares dialect).map Prod.fst = dialect.order statement.kind ∧
      ∀ before fragment after, dialect.order statement.kind = before ++ fragment :: after →
        ∃ share, (statement.shares dialect)[before.length]? = some (fragment, share) ∧
          ∀ clause, clause ∈ share ↔
            clause ∈ statement.carried ∧
              IsFirst (statement.isAble dialect) before fragment clause) ∧
    (∀ compiled, compile statement name dialect .inline = .ok compiled →
      statement.carried.Nodup ∧
      ((statement.shares dialect).flatMap Prod.snd).Perm statement.carried ∧
      ∃ texts : List String,
        List.Forall₂ (fun share text => statement.Writes ⟨dialect, name⟩ share.1 share.2 text ∧
          (share.2 = [] → text = "")) (statement.shares dialect) texts ∧
        compiled.sql = String.join texts) ∧
    (∀ kind before fragment after, dialect.order kind = before ++ fragment :: after →
      statement.DoesWithout kind before fragment →
      ∀ mode, compile statement name (dialect.withOrder kind (before ++ after)) mode =
        compile statement name dialect mode) ∧
    (∀ fragment ∈ dialect.order statement.kind, clauses? statement.kind fragment = none →
      ∀ mode compiled, compile statement name dialect mode ≠ .ok compiled) ∧
    (∀ clause, clause ∈ statement.carried ∨ clause ∈ statement.kind.required →
      (∀ before fragment after, dialect.order statement.kind = before ++ fragment :: after →
        statement.isAble dialect before fragment clause = false) →
      ∀ mode compiled, compile statement name dialect mode ≠ .ok compiled) := by
  refine ⟨⟨map_fst_deal .., fun _ _ _ => Statement.getElem?_shares⟩, ?_, ?_, ?_, ?_⟩
  · intro compiled done
    obtain ⟨_, _, _, sorted⟩ := statement.draft_eq_flatten _ (clean_of_compile_eq_ok done)
    exact ⟨statement.nodup_carried, sorted, Statement.texts_of_inline done⟩
  · intro kind before fragment after arranged without mode
    exact Statement.compile_withOrder arranged without name mode
  · intro fragment member foreign mode compiled
    exact Statement.not_ok_of_foreign foreign member
  · intro clause needed unable mode compiled
    exact Statement.not_ok_of_unable needed unable

end SqlDialects
