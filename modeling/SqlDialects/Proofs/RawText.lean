import SqlDialects.Proofs.Nesting

/-!
Raw text and its slots. Every question mark of a raw text takes the next argument, so the text can
be written when there are as many question marks as arguments and each argument can be written. The
arguments are written in turn, each behind the values that the earlier ones bind.
-/

namespace SqlDialects

open Draft

section Turns

variable (dialect : NamedDialect) (mode : Mode)

/-- Nested expressions as they are written one behind the other, the first of them behind `count`
arguments. -/
inductive WritesInTurn : Nat → List Expr → List Compiled → Prop
  | nil (count : Nat) : WritesInTurn count [] []
  | cons {count : Nat} {expr : Expr} {rest : List Expr} {written : Compiled}
      {others : List Compiled}
      (here : (expr.draft dialect true).write (mode.writeValue dialect) count = .ok written)
      (behind : WritesInTurn (count + written.arguments.length) rest others) :
      WritesInTurn count (expr :: rest) (written :: others)

/-- The first of them that cannot be written has the fault. -/
inductive FailsInTurn : Nat → List Expr → Fault → Prop
  | here {count : Nat} {expr : Expr} {rest : List Expr} {fault : Failure}
      (fails : (expr.draft dialect true).write (mode.writeValue dialect) count = .error fault) :
      FailsInTurn count (expr :: rest) fault
  | behind {count : Nat} {expr : Expr} {rest : List Expr} {fault : Failure} {written : Compiled}
      (here : (expr.draft dialect true).write (mode.writeValue dialect) count = .ok written)
      (fails : FailsInTurn (count + written.arguments.length) rest fault) :
      FailsInTurn count (expr :: rest) fault

end Turns

def slots (sql : String) : Nat :=
  sql.toList.count '?'

theorem length_pieces (separator : Char) (text : String) :
    (Text.pieces separator text).length = text.toList.count separator + 1 := by
  rw [Text.pieces, List.length_map]
  induction text.toList with
  | nil => rfl
  | cons character rest ih =>
      rw [Text.splitAt]
      split
      · next same => simp [ih, same]
      · next different =>
          cases pieces : Text.splitAt separator rest with
          | nil => exact absurd pieces (Text.splitAt_ne_nil separator rest)
          | cons piece others => simpa [pieces, different] using ih

variable {dialect : NamedDialect} {mode : Mode} {count : Nat} {sql : String}

theorem write_append_eq_error_iff {first second : Draft} {fault : Failure} :
    (first ++ second).write (mode.writeValue dialect) count = .error fault ↔
      first.write (mode.writeValue dialect) count = .error fault ∨
      ∃ before, first.write (mode.writeValue dialect) count = .ok before ∧
        second.write (mode.writeValue dialect) (count + before.arguments.length) =
          .error fault := by
  rw [write_append, bind_eq_error_iff]
  refine or_congr_right (exists_congr fun before => and_congr_right fun led => ?_)
  rw [map_eq_error_iff, write_behind led second]

namespace Draft

theorem write_raw_eq_ok_iff {piece : String} {pieces : List String} {arguments : List Expr}
    {compiled : Compiled} :
    (raw sql (piece :: pieces) (expressionDrafts dialect true arguments)).write
        (mode.writeValue dialect) count = .ok compiled ↔
      pieces.length = arguments.length ∧ ∃ parts, WritesInTurn dialect mode count arguments parts ∧
        compiled = ⟨weave (piece :: pieces) (parts.map Compiled.sql),
          parts.flatMap Compiled.arguments⟩ := by
  induction pieces generalizing piece arguments count compiled with
  | nil =>
      cases arguments with
      | nil =>
          rw [expressionDrafts, raw, write_ofText]
          constructor
          · rintro ⟨⟩
            exact ⟨rfl, [], .nil count, rfl⟩
          · rintro ⟨-, _, ⟨⟩, rfl⟩
            rfl
      | cons argument rest =>
          simp [expressionDrafts, raw, write_append_eq_ok_iff, write_invalid]
  | cons next pieces ih =>
      cases arguments with
      | nil => simp [expressionDrafts, raw, write_append_eq_ok_iff, write_invalid]
      | cons argument rest =>
          rw [expressionDrafts, raw, List.append_assoc, write_opened, map_eq_ok_iff]
          constructor
          · rintro ⟨_, done, rfl⟩
            obtain ⟨here, _, written, behind, rfl⟩ := write_append_eq_ok_iff.mp done
            obtain ⟨fits, parts, turn, rfl⟩ := ih.mp behind
            exact ⟨by simp [fits], here :: parts, .cons written turn,
              by simp [weave, Compiled.append, String.append_assoc]⟩
          · rintro ⟨fits, _, turn, rfl⟩
            cases turn with
            | cons written turn =>
                refine ⟨_, write_append_eq_ok_iff.mpr ⟨_, _, written,
                  ih.mpr ⟨by simpa using fits, _, turn, rfl⟩, rfl⟩, ?_⟩
                simp [weave, Compiled.append, String.append_assoc]

theorem write_raw_eq_error_iff {piece : String} {pieces : List String} {arguments : List Expr}
    {fault : Failure} :
    (raw sql (piece :: pieces) (expressionDrafts dialect true arguments)).write
        (mode.writeValue dialect) count = .error fault ↔
      FailsInTurn dialect mode count (arguments.take pieces.length) fault ∨
      ∃ parts, WritesInTurn dialect mode count (arguments.take pieces.length) parts ∧
        (arguments.length < pieces.length ∧ fault = .invalid (.tooFewArguments sql) ∨
          pieces.length < arguments.length ∧ fault = .invalid (.tooManyArguments sql)) := by
  induction pieces generalizing piece arguments count with
  | nil =>
      cases arguments with
      | nil =>
          rw [expressionDrafts, raw, write_ofText]
          constructor
          · rintro ⟨⟩
          · rintro (⟨⟨⟩⟩ | ⟨_, -, ⟨few, -⟩ | ⟨many, -⟩⟩)
            · simp at few
            · simp at many
      | cons argument rest =>
          rw [expressionDrafts, raw, write_opened, map_eq_error_iff, write_invalid]
          constructor
          · rintro ⟨⟩
            exact .inr ⟨[], .nil count, .inr ⟨by simp, rfl⟩⟩
          · rintro (⟨⟨⟩⟩ | ⟨_, -, ⟨few, -⟩ | ⟨-, rfl⟩⟩)
            · simp at few
            · rfl
  | cons next pieces ih =>
      cases arguments with
      | nil =>
          rw [expressionDrafts, raw, write_opened, map_eq_error_iff, write_invalid]
          constructor
          · rintro ⟨⟩
            exact .inr ⟨[], .nil count, .inl ⟨by simp, rfl⟩⟩
          · rintro (⟨⟨⟩⟩ | ⟨_, -, ⟨-, rfl⟩ | ⟨many, -⟩⟩)
            · rfl
            · simp at many
      | cons argument rest =>
          rw [expressionDrafts, raw, List.append_assoc, write_opened, map_eq_error_iff,
            write_append_eq_error_iff]
          simp only [ih, List.length_cons, List.take_succ_cons, Nat.add_lt_add_iff_right]
          constructor
          · rintro (here | ⟨before, written, fails | ⟨parts, turn, uneven⟩⟩)
            · exact .inl (.here here)
            · exact .inl (.behind written fails)
            · exact .inr ⟨before :: parts, .cons written turn, uneven⟩
          · rintro (fails | ⟨parts, turn, uneven⟩)
            · cases fails with
              | here fails => exact .inl fails
              | behind written fails => exact .inr ⟨_, written, .inl fails⟩
            · cases turn with
              | cons written turn => exact .inr ⟨_, written, .inr ⟨_, turn, uneven⟩⟩

end Draft

/-- Raw text can be written exactly when it has a slot for each of its arguments and these can be
written in turn. It comes out as the pieces between its slots with the written arguments between
them. Otherwise it has the fault of the first argument that a slot reaches and that cannot be
written, and only behind all of those the fault that the slots are too many or too few. -/
theorem raw_text_fills_slots (sql : String) (arguments : List Expr) (dialect : NamedDialect)
    (mode : Mode) (nested : Bool) (count : Nat) :
    ∃ pieces, "?".intercalate pieces = sql ∧ (∀ piece ∈ pieces, '?' ∉ piece.toList) ∧
    (∀ compiled,
      ((Expr.raw sql arguments).draft dialect nested).write (mode.writeValue dialect) count =
          .ok compiled ↔
        slots sql = arguments.length ∧ ∃ parts, WritesInTurn dialect mode count arguments parts ∧
          compiled = ⟨weave pieces (parts.map Compiled.sql), parts.flatMap Compiled.arguments⟩) ∧
    ∀ fault,
      ((Expr.raw sql arguments).draft dialect nested).write (mode.writeValue dialect) count =
          .error fault ↔
        FailsInTurn dialect mode count (arguments.take (slots sql)) fault ∨
        ∃ parts, WritesInTurn dialect mode count (arguments.take (slots sql)) parts ∧
          (arguments.length < slots sql ∧ fault = .invalid (.tooFewArguments sql) ∨
            slots sql < arguments.length ∧ fault = .invalid (.tooManyArguments sql)) := by
  have length := length_pieces '?' sql
  have joined : "?".intercalate (Text.pieces '?' sql) = sql := by
    apply String.toList_injective
    simp only [Text.pieces, String.toList_intercalate, List.map_map, Function.comp_def,
      String.toList_ofList, List.map_id']
    exact Text.intercalate_splitAt '?' sql.toList
  have bare : ∀ piece ∈ Text.pieces '?' sql, '?' ∉ piece.toList := by
    intro piece member
    obtain ⟨characters, inside, rfl⟩ := List.mem_map.mp member
    simpa using Text.separator_not_mem_of_mem_splitAt '?' sql.toList characters inside
  refine ⟨Text.pieces '?' sql, joined, bare, ?_⟩
  cases pieces : Text.pieces '?' sql with
  | nil => simp [pieces] at length
  | cons piece others =>
      have counted : others.length = slots sql := by simpa [pieces, slots] using length
      rw [Expr.draft, pieces, ← counted]
      exact ⟨fun _ => write_raw_eq_ok_iff, fun _ => write_raw_eq_error_iff⟩

end SqlDialects
