import Mathlib.Data.List.Induction
import SqlDialects.Proofs.CallOrder

/-!
Row locks as calls leave them. A call that locks sets the strength and the wait anew, and a call
that only says how to wait changes the lock that there is. So a query has the strength of its last
lock, but it waits as it was last told to only if that was told behind the lock.
-/

namespace SqlDialects

namespace Select

def Call.lock? : Call → Option Lock
  | .lock strength wait => some ⟨strength, wait⟩
  | _ => none

def Call.wait? : Call → Option LockWait
  | .lockWait wait => some wait
  | _ => none

def lastLock? (calls : List Call) : Option Lock :=
  (calls.filterMap Call.lock?).getLast?

def lastWait? (calls : List Call) : Option LockWait :=
  (calls.filterMap Call.wait?).getLast?

/-- Whether the last of the calls about the lock says how to wait, and does not lock. -/
def waitsLast (calls : List Call) : Bool :=
  ((calls.filter (·.family = .lock)).getLast?.bind Call.wait?).isSome

/-- The same calls that lock, calls that say how to wait, and other calls, each in their order. -/
structure Interleaved (first second : List Call) : Prop where
  locks : first.filterMap Call.lock? = second.filterMap Call.lock?
  waits : first.filterMap Call.wait? = second.filterMap Call.wait?
  others : first.filter (·.family ≠ .lock) = second.filter (·.family ≠ .lock)

def relock : Option Lock → Call → Option Lock
  | _, .lock strength wait => some ⟨strength, wait⟩
  | lock, .lockWait wait => lock.map fun held => { held with wait := wait }
  | lock, _ => lock

def withLock (query : Select) (lock : Option Lock) : Select :=
  { query with lock := lock }

section Step

variable (query : Select) (calls : List Call) (call : Call)

theorem ofCalls_concat : ofCalls (calls ++ [call]) = (ofCalls calls).apply call := by
  simp [ofCalls]

theorem lock_apply : (query.apply call).lock = relock query.lock call := by
  cases call <;> rfl

theorem lastLock?_concat : lastLock? (calls ++ [call]) = call.lock?.or (lastLock? calls) := by
  cases call <;> simp [lastLock?, Call.lock?]

theorem lastWait?_concat : lastWait? (calls ++ [call]) = call.wait?.or (lastWait? calls) := by
  cases call <;> simp [lastWait?, Call.wait?]

theorem waitsLast_concat :
    waitsLast (calls ++ [call]) =
      if call.family = .lock then call.wait?.isSome else waitsLast calls := by
  cases call <;> simp [waitsLast, Call.family]

variable {call}

theorem apply_of_lock (locks : call.family = .lock) :
    query.apply call = query.withLock (relock query.lock call) := by
  cases call <;> first | rfl | cases locks

theorem apply_withLock (other : call.family ≠ .lock) (lock : Option Lock) :
    (query.withLock lock).apply call = (query.apply call).withLock lock := by
  cases call <;> first | rfl | exact absurd rfl other

end Step

/-- Of the calls about the lock, the last one that locks counts, and the last one that says how to
wait if it is the very last. -/
theorem lock_ofCalls (calls : List Call) :
    (ofCalls calls).lock =
      (lastLock? calls).map fun lock =>
        if waitsLast calls then { lock with wait := (lastWait? calls).getD lock.wait }
        else lock := by
  induction calls using List.reverseRecOn with
  | nil => rfl
  | append_singleton calls call ih =>
      rw [ofCalls_concat, lock_apply, ih, lastLock?_concat, lastWait?_concat, waitsLast_concat]
      cases call with
      | lock strength wait => rfl
      | lockWait wait =>
          cases lastLock? calls with
          | none => rfl
          | some lock =>
              cases waitsLast calls <;> simp [relock, Call.family, Call.lock?, Call.wait?]
      | _ => rfl

theorem exists_ofCalls_eq_withLock (calls : List Call) :
    ∃ lock, ofCalls calls = (ofCalls (calls.filter (·.family ≠ .lock))).withLock lock := by
  induction calls using List.reverseRecOn with
  | nil => exact ⟨none, rfl⟩
  | append_singleton calls call ih =>
      obtain ⟨lock, same⟩ := ih
      rw [List.filter_append, ofCalls_concat, same]
      by_cases locks : call.family = .lock
      · rw [apply_of_lock _ locks]
        exact ⟨relock lock call, by simp [locks, withLock]⟩
      · rw [apply_withLock _ locks]
        exact ⟨lock, by simp [locks, ofCalls_concat]⟩

theorem ofCalls_eq_of_lock {first second : List Call} (interleaved : Interleaved first second)
    (locks : (ofCalls first).lock = (ofCalls second).lock) : ofCalls first = ofCalls second := by
  obtain ⟨lock, left⟩ := exists_ofCalls_eq_withLock first
  obtain ⟨other, right⟩ := exists_ofCalls_eq_withLock second
  rw [left, right, interleaved.others] at locks ⊢
  exact congrArg _ locks

variable {calls others : List Call} {lock : Lock} {wait : LockWait}
  (locked : lastLock? calls = some lock) (told : lastWait? calls = some wait)

include locked told

theorem lock_ofCalls_of_told :
    (ofCalls calls).lock = some (if waitsLast calls then { lock with wait := wait } else lock) := by
  simp [lock_ofCalls, locked, told]

theorem Interleaved.ofCalls_eq_iff (interleaved : Interleaved calls others) :
    ofCalls calls = ofCalls others ↔ lock.wait = wait ∨ waitsLast calls = waitsLast others := by
  have lockedToo : lastLock? others = some lock := by
    rw [← locked, lastLock?, lastLock?, interleaved.locks]
  have toldToo : lastWait? others = some wait := by
    rw [← told, lastWait?, lastWait?, interleaved.waits]
  have here := lock_ofCalls_of_told locked told
  have there := lock_ofCalls_of_told lockedToo toldToo
  have locks : (ofCalls calls).lock = (ofCalls others).lock ↔
      lock.wait = wait ∨ waitsLast calls = waitsLast others := by
    obtain ⟨strength, own⟩ := lock
    rw [here, there]
    cases waitsLast calls <;> cases waitsLast others <;> simp [eq_comm]
  rw [← locks]
  exact ⟨congrArg Select.lock, ofCalls_eq_of_lock interleaved⟩

end Select

open Select

/-- A query has the strength of the last call that locked. It waits as the last call about waiting
said if no call that locks came behind that one, and otherwise as the last lock said itself. So
calls that differ in how those about the lock are interleaved build the same query exactly when in
both or in neither the last word is about waiting, unless the two waits are the same anyway. -/
theorem locks_keep_later_waits {calls : List Select.Call} {lock : Lock} {wait : LockWait}
    (locked : lastLock? calls = some lock) (told : lastWait? calls = some wait) :
    (waitsLast calls → (ofCalls calls).lock = some ⟨lock.strength, wait⟩) ∧
    (¬waitsLast calls → (ofCalls calls).lock = some lock) ∧
    ∀ others, Interleaved calls others →
      (ofCalls calls = ofCalls others ↔ lock.wait = wait ∨ waitsLast calls = waitsLast others) ∧
      (waitsLast calls = waitsLast others → ∀ name dialect mode,
        compile (.select (ofCalls calls)) name dialect mode =
          compile (.select (ofCalls others)) name dialect mode) := by
  have whole := lock_ofCalls_of_told locked told
  refine ⟨fun last => ?_, fun early => ?_, fun others interleaved => ?_⟩
  · rw [whole, if_pos last]
  · rw [whole, if_neg early]
  · have same := interleaved.ofCalls_eq_iff locked told
    refine ⟨same, fun alike name dialect mode => ?_⟩
    rw [same.mpr (.inr alike)]

def retriedJobs : List Select.Call :=
  [.lockWait .noWait, .source (.column "jobs"), .lock .share .block, .lockWait .noWait,
    .lock .update .block, .orderBy [.column "id"], .lockWait .skipLocked]

def lockedJobs : List Select.Call :=
  [.lock .share .block, .lock .update .block, .lockWait .noWait, .source (.column "jobs"),
    .lockWait .noWait, .lockWait .skipLocked, .orderBy [.column "id"]]

theorem locks_keep_later_waits_retriedJobs :
    lastLock? retriedJobs = some ⟨.update, .block⟩ ∧
    lastWait? retriedJobs = some .skipLocked ∧
    (ofCalls retriedJobs).lock = some ⟨.update, .skipLocked⟩ ∧
    Interleaved retriedJobs lockedJobs ∧
    compile (.select (ofCalls retriedJobs)) "postgres" .postgres .inline =
      .ok ⟨"SELECT * FROM \"jobs\" ORDER BY \"id\" FOR UPDATE SKIP LOCKED", []⟩ := by
  have locked : lastLock? retriedJobs = some ⟨.update, .block⟩ := rfl
  have told : lastWait? retriedJobs = some .skipLocked := rfl
  have interleaved : Interleaved retriedJobs lockedJobs := ⟨rfl, rfl, rfl⟩
  obtain ⟨last, -, reordered⟩ := locks_keep_later_waits locked told
  have same := (reordered lockedJobs interleaved).2 rfl "postgres" .postgres .inline
  exact ⟨locked, told, last rfl, interleaved, same.trans rfl⟩

def waitBeforeLock : List Select.Call :=
  [.source (.column "jobs"), .lockWait .noWait, .lock .update .block]

def waitBehindLock : List Select.Call :=
  [.source (.column "jobs"), .lock .update .block, .lockWait .noWait]

/-- A wait that is given before the lock is lost. -/
theorem wait_before_lock_lost :
    lastWait? waitBeforeLock = some .noWait ∧
    (ofCalls waitBeforeLock).lock = some ⟨.update, .block⟩ ∧
    Interleaved waitBeforeLock waitBehindLock ∧
    compile (.select (ofCalls waitBeforeLock)) "default" .standard .inline =
      .ok ⟨"SELECT * FROM \"jobs\" FOR UPDATE", []⟩ ∧
    compile (.select (ofCalls waitBehindLock)) "default" .standard .inline =
      .ok ⟨"SELECT * FROM \"jobs\" FOR UPDATE NOWAIT", []⟩ :=
  ⟨rfl, rfl, ⟨rfl, rfl, rfl⟩, rfl, rfl⟩

end SqlDialects
