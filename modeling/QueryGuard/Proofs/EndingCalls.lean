import Mathlib.Tactic.SplitIfs
import QueryGuard.Gate.Workflow

/-!
Which call ends a piece of work.

Work stops with the first call that is answered by a failure, and makes no call after it. A failed
request for a plan is kept as an explanation and stops nothing. So whether work fails, and how, can
be read off the calls that it made. A request in plain language can also fail before there is a
call, if there is no drafter.
-/

namespace QueryGuard.Proofs.EndingCalls

/-- The failure of an answer. -/
def failure? {α : Type} : Except Failure α → Option Failure
  | .error e => some e
  | .ok _ => none

lemma failure?_eq_some_iff {α : Type} {x : Except Failure α} {e : Failure} :
    failure? x = some e ↔ x = .error e := by
  cases x <;> simp [failure?]

/-- The failure that a call is answered with and that ends the work. A failed request for a plan
is an explanation like any other. -/
def failureOf (w : World) : Call → Option Failure
  | .explain _ => none
  | .query sql => failure? (w.database.query sql)
  | .write sql => failure? (w.database.write sql)
  | .schema => failure? w.database.schema
  | .draft request =>
    match w.drafter, w.database.schema with
    | some drafter, .ok schema => failure? (drafter request schema)
    | _, _ => none

/-- Work that ends with the first call that is answered by a failure, and fails in no other way. -/
def EndsWithCall (w : World) {α : Type} (x : Traced α) : Prop :=
  failure? x.outcome = x.calls.findSome? (failureOf w)

/-- Work that fails made a call that was answered by its failure. -/
lemma EndsWithCall.exists_call {w : World} {α : Type} {x : Traced α} (h : EndsWithCall w x)
    {e : Failure} (he : x.outcome = .error e) : ∃ c ∈ x.calls, failureOf w c = some e := by
  have hfail : failure? x.outcome = some e := failure?_eq_some_iff.2 he
  exact List.exists_of_findSome?_eq_some (h.symm.trans hfail)

/-! ### Parts -/

variable (w : World)

lemma endsWithCall_ok {α : Type} (a : α) : EndsWithCall w (Traced.ok a) := rfl

lemma EndsWithCall.bind {w : World} {α β : Type} {x : Traced α} {f : α → Traced β}
    (hx : EndsWithCall w x) (hf : ∀ a, EndsWithCall w (f a)) : EndsWithCall w (x >>= f) := by
  unfold EndsWithCall at hx ⊢
  cases hout : x.outcome with
  | error e =>
    rw [Traced.bind_of_error hout, ← hx, hout]
    rfl
  | ok a =>
    rw [hout] at hx
    rw [Traced.bind_of_ok hout, List.findSome?_append, ← hx]
    exact hf a

lemma endsWithCall_askQuery (sql : String) : EndsWithCall w (w.database.askQuery sql) := by
  unfold EndsWithCall Database.askQuery
  cases h : w.database.query sql <;> simp [failure?, failureOf, h]

lemma endsWithCall_askWrite (sql : String) : EndsWithCall w (w.database.askWrite sql) := by
  unfold EndsWithCall Database.askWrite
  cases h : w.database.write sql <;> simp [failure?, failureOf, h]

lemma endsWithCall_build (sql : String) (rows : Nat) (schema : Option Schema) :
    EndsWithCall w (Plan.build w.database sql rows schema) := rfl

/-! ### The ways through the gate -/

variable (limits : Limits)

lemma endsWithCall_carryOut (sql : String) (options : RunOptions) (plan : Plan)
    (metrics : Metrics) : EndsWithCall w (w.carryOut limits sql options plan metrics) := by
  unfold World.carryOut
  dsimp only
  split_ifs
  · exact endsWithCall_ok w _
  · exact endsWithCall_ok w _
  · exact (endsWithCall_askQuery w _).bind fun _ => endsWithCall_ok w _

lemma endsWithCall_run (sql : String) (options : RunOptions) :
    EndsWithCall w (w.run limits sql options) := by
  unfold World.run
  split
  · exact endsWithCall_ok w _
  · exact (endsWithCall_build w _ _ _).bind fun plan => endsWithCall_carryOut w limits _ _ plan _

lemma endsWithCall_write (sql : String) (allowWrite : Bool) :
    EndsWithCall w (w.write sql allowWrite) := by
  unfold World.write
  split
  · exact endsWithCall_ok w _
  · dsimp only
    split_ifs
    · exact endsWithCall_ok w _
    · exact (endsWithCall_askWrite w _).bind fun _ => endsWithCall_ok w _

lemma endsWithCall_askWith (d : Draft) (request : String) (execute : Bool) (options : RunOptions) :
    EndsWithCall w (w.askWith limits d request execute options) := by
  unfold World.askWith
  refine (endsWithCall_build w _ _ _).bind fun plan => ?_
  dsimp only
  split_ifs
  · refine EndsWithCall.bind ?_ fun _ => endsWithCall_ok w _
    unfold World.runPlanned
    split
    · exact endsWithCall_ok w _
    · exact endsWithCall_carryOut w limits _ _ plan _
  · exact endsWithCall_ok w _

lemma endsWithCall_draft {w : World} {drafter : String → Schema → Except Failure String}
    (h : w.drafter = some drafter) (request : String) (store : Draft.Store) :
    EndsWithCall w (w.draft request store).1 := by
  unfold EndsWithCall World.draft
  rw [h]
  cases hs : w.database.schema with
  | error e => simp [failure?, failureOf, hs]
  | ok schema =>
    dsimp only
    generalize store.getAt (Draft.cacheKey request schema) w.searchedAt = found
    obtain ⟨hit, store⟩ := found
    cases hit with
    | some sql => simp [failure?, failureOf, hs]
    | none =>
      unfold World.newDraft Traced.andThen
      cases hd : drafter request schema <;> simp [failure?, failureOf, h, hs, hd, Traced.ok]

lemma endsWithCall_ask {w : World} {drafter : String → Schema → Except Failure String}
    (h : w.drafter = some drafter) (request : String) (execute : Bool) (options : RunOptions)
    (store : Draft.Store) :
    EndsWithCall w (w.ask limits request execute options store).1 :=
  (endsWithCall_draft h request store).bind fun d =>
    endsWithCall_askWith w limits d request execute options

lemma ask_without_drafter {w : World} (h : w.drafter = none) (request : String) (execute : Bool)
    (options : RunOptions) (store : Draft.Store) :
    (w.ask limits request execute options store).1 = .fail .noDrafter := by
  unfold World.ask World.draft
  rw [h]
  rfl

end QueryGuard.Proofs.EndingCalls
