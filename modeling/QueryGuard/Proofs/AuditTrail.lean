import Mathlib.Data.List.Forall2
import QueryGuard.Gate.Basic
import QueryGuard.Proofs.EndingCalls
import QueryGuard.Proofs.JsonFields
import QueryGuard.Proofs.LogLines

/-!
What the log keeps of a series of requests.

A request that comes to an outcome leaves one line, whatever the outcome is. One that fails on the
way leaves none, also where something was sent. Planning never fails, since it goes on whatever it
is answered.
-/

namespace QueryGuard.Proofs.AuditTrail

open EndingCalls JsonFields LogLines

/-! ### Requests -/

/-- What is asked of the gate. -/
inductive Request where
  | plan (sql : String)
  | run (sql : String) (options : RunOptions)
  | write (sql : String) (allowWrite : Bool)
  | ask (request : String) (execute : Bool) (options : RunOptions)

/-- The name that the log has for a request. -/
def Request.event : Request → String
  | plan _ => "plan"
  | run _ _ => "run"
  | write _ _ => "write"
  | ask _ _ _ => "ask"

/-- A request, what lies outside when it is made, and the time that the log would give. -/
structure Visit where
  world : World
  time : String
  request : Request

/-- A visit, the calls that it made, and its failure if it failed. -/
structure Served where
  visit : Visit
  calls : List Call
  failure : Option Failure

def Served.of {α : Type} (v : Visit) (x : Traced α) : Served := ⟨v, x.calls, failure? x.outcome⟩

/-- One visit to the gate. -/
def serve (g : Gate) (v : Visit) : Served × Gate :=
  match v.request with
  | .plan sql => let (x, g) := g.plan v.world v.time sql; (.of v x, g)
  | .run sql options => let (x, g) := g.run v.world v.time sql options; (.of v x, g)
  | .write sql allowWrite => let (x, g) := g.write v.world v.time sql allowWrite; (.of v x, g)
  | .ask request execute options =>
    let (x, g) := g.ask v.world v.time request execute options
    (.of v x, g)

/-- Visits one after the other. -/
def serveAll (g : Gate) : List Visit → List Served × Gate
  | [] => ([], g)
  | v :: vs => ((serve g v).1 :: (serveAll (serve g v).2 vs).1, (serveAll (serve g v).2 vs).2)

/-- The failure of a visit that made the given calls. -/
def Visit.cause (v : Visit) (calls : List Call) : Option Failure :=
  match v.request, v.world.drafter with
  | .plan _, _ => none
  | .ask _ _ _, none => some .noDrafter
  | _, _ => calls.findSome? (failureOf v.world)

lemma visit_serve (g : Gate) (v : Visit) : (serve g v).1.visit = v := by
  unfold serve
  split <;> rfl

lemma failure_of {α : Type} {v : Visit} {x : Traced α} (hx : EndsWithCall v.world x)
    (hv : ∀ calls, v.cause calls = calls.findSome? (failureOf v.world)) :
    (Served.of v x).failure = v.cause (Served.of v x).calls := by
  rw [hv]
  exact hx

/-- A visit fails as its calls say. -/
lemma failure_serve (g : Gate) (v : Visit) :
    (serve g v).1.failure = v.cause (serve g v).1.calls := by
  obtain ⟨w, time, request⟩ := v
  cases request with
  | plan sql => rfl
  | run sql options =>
    show (Served.of _ (w.run g.limits sql options)).failure =
      Visit.cause _ (Served.of _ (w.run g.limits sql options)).calls
    exact failure_of (endsWithCall_run w g.limits sql options) fun _ => rfl
  | write sql allowWrite =>
    show (Served.of _ (w.write sql allowWrite)).failure =
      Visit.cause _ (Served.of _ (w.write sql allowWrite)).calls
    exact failure_of (endsWithCall_write w sql allowWrite) fun _ => rfl
  | ask request execute options =>
    show (Served.of _ (w.ask g.limits request execute options g.drafts).1).failure =
      Visit.cause _ (Served.of _ (w.ask g.limits request execute options g.drafts).1).calls
    cases h : w.drafter with
    | none =>
      rw [ask_without_drafter g.limits h]
      unfold Visit.cause
      simp only [h]
      rfl
    | some drafter =>
      refine failure_of (endsWithCall_ask g.limits h request execute options g.drafts) fun _ => ?_
      unfold Visit.cause
      simp only [h]

/-! ### The log -/

/-- What was served and came to an outcome. -/
def completed (served : List Served) : List Served := served.filter (·.failure.isNone)

/-- Lines that tell of what came to an outcome, in order. -/
def TellOf (served : List Served) (lines : List String) : Prop :=
  List.Forall₂ (fun s line => TellsOf s.visit.time s.visit.request.event line)
    (completed served) lines

lemma completed_append (served more : List Served) :
    completed (served ++ more) = completed served ++ completed more :=
  List.filter_append served more

lemma TellOf.append {served more : List Served} {lines others : List String}
    (h : TellOf served lines) (h' : TellOf more others) :
    TellOf (served ++ more) (lines ++ others) := by
  unfold TellOf
  rw [completed_append]
  exact List.rel_append h h'

lemma payload_toValue {fs : List (String × Json)} (hts : "ts" ∉ fs.map Prod.fst)
    (hevent : "event" ∉ fs.map Prod.fst) : Payload (Json.toValue (.obj fs)) := by
  refine ⟨_, rfl, ?_, ?_⟩
  · rwa [mem_names_toValueFields_iff]
  · rwa [mem_names_toValueFields_iff]

lemma payload_planRecord (o : PlanOutcome) : Payload (Gate.planRecord o) :=
  payload_toValue (by simp) (by simp)

lemma payload_runRecord (sql : String) (options : RunOptions) (o : RunOutcome) :
    Payload (Gate.runRecord sql options o) :=
  payload_toValue (by simp) (by simp)

lemma payload_writeRecord (sql : String) (allowWrite : Bool) (o : WriteOutcome) :
    Payload (Gate.writeRecord sql allowWrite o) :=
  payload_toValue (by simp) (by simp)

lemma payload_askRecord (o : AskOutcome) : Payload (Gate.askRecord o) :=
  payload_toValue (by simp) (by simp)

/-- Recording work adds one line if it came to an outcome, and nothing if it failed. -/
lemma log_recorded {α : Type} {g : Gate} {text : String} (hg : g.log = .file text) (v : Visit)
    {record : α → Json} (hrecord : ∀ a, Payload (record a)) (x : Traced α) :
    ∃ lines, (g.recorded v.time v.request.event record x).log =
        .file (text ++ String.join lines) ∧ TellOf [.of v x] lines := by
  unfold Gate.recorded
  cases h : x.outcome with
  | error e =>
    refine ⟨[], ?_, ?_⟩
    · simp [hg]
    · simp [TellOf, completed, Served.of, failure?, h]
  | ok a =>
    refine ⟨[Audit.line v.time v.request.event (record a)], ?_, ?_⟩
    · simp [hg, Audit.Log.record, Audit.Log.tryRecord]
    · have hline := tellsOf_line (hrecord a) v.time v.request.event
      simpa [TellOf, completed, Served.of, failure?, h] using hline

/-- One visit adds one line if it came to an outcome, and nothing if it failed. -/
lemma log_serve {g : Gate} {text : String} (hg : g.log = .file text) (v : Visit) :
    ∃ lines, (serve g v).2.log = .file (text ++ String.join lines) ∧
      TellOf [(serve g v).1] lines := by
  obtain ⟨w, time, request⟩ := v
  cases request with
  | plan sql => exact log_recorded hg ⟨w, time, .plan sql⟩ payload_planRecord _
  | run sql options =>
    exact log_recorded hg ⟨w, time, .run sql options⟩ (payload_runRecord sql options)
      (w.run g.limits sql options)
  | write sql allowWrite =>
    exact log_recorded hg ⟨w, time, .write sql allowWrite⟩ (payload_writeRecord sql allowWrite)
      (w.write sql allowWrite)
  | ask request execute options =>
    exact log_recorded
      (g := { g with drafts := (w.ask g.limits request execute options g.drafts).2 }) hg
      ⟨w, time, .ask request execute options⟩ payload_askRecord _

lemma log_serveAll (visits : List Visit) :
    ∀ {g : Gate} {text : String}, g.log = .file text →
      ∃ lines, (serveAll g visits).2.log = .file (text ++ String.join lines) ∧
        TellOf (serveAll g visits).1 lines := by
  induction visits with
  | nil =>
    intro g text hg
    exact ⟨[], by simp [serveAll, hg], .nil⟩
  | cons v visits ih =>
    intro g text hg
    obtain ⟨lines, hlog, htell⟩ := log_serve hg v
    obtain ⟨others, hlog', htell'⟩ := ih hlog
    refine ⟨lines ++ others, ?_, htell.append htell'⟩
    rw [String.join_append, ← String.append_assoc]
    exact hlog'

lemma served_serveAll (visits : List Visit) :
    ∀ g : Gate, (serveAll g visits).1.map Served.visit = visits ∧
      ∀ s ∈ (serveAll g visits).1, s.failure = s.visit.cause s.calls := by
  induction visits with
  | nil => exact fun g => ⟨rfl, fun s hs => nomatch hs⟩
  | cons v visits ih =>
    intro g
    obtain ⟨hvisits, hcause⟩ := ih (serve g v).2
    refine ⟨?_, ?_⟩
    · simp only [serveAll, List.map_cons, visit_serve, hvisits]
    · intro s hs
      rcases List.mem_cons.1 hs with rfl | hs
      · rw [visit_serve]
        exact failure_serve g v
      · exact hcause s hs

/-- **What the log keeps.** Over any series of visits, each to whatever lies outside at the time,
the log gains one line, in order, for each visit that comes to an outcome, with the name of its
request. A visit fails exactly when a call that can end it is answered by a failure, or when a
request in plain language finds no drafter; then there is no line, whatever was sent. So there is a
line for every visit exactly when none fails. -/
theorem log_of_visits (limits : Limits) (drafts : Draft.Store) (text : String)
    (visits : List Visit) :
    ∃ served lines, (serveAll ⟨limits, drafts, .file text⟩ visits).1 = served ∧
      (serveAll ⟨limits, drafts, .file text⟩ visits).2.log = .file (text ++ String.join lines) ∧
      served.map Served.visit = visits ∧
      (∀ s ∈ served, s.failure = s.visit.cause s.calls) ∧
      TellOf served lines ∧
      (lines.length = visits.length ↔ ∀ s ∈ served, s.failure = none) := by
  obtain ⟨lines, hlog, htell⟩ := log_serveAll visits (g := ⟨limits, drafts, .file text⟩) rfl
  obtain ⟨hvisits, hcause⟩ := served_serveAll visits ⟨limits, drafts, .file text⟩
  refine ⟨_, lines, rfl, hlog, hvisits, hcause, htell, ?_⟩
  rw [← htell.length_eq, ← congrArg List.length hvisits, List.length_map, completed,
    List.length_filter_eq_length_iff]
  simp only [Option.isNone_iff_eq_none]

/-- A database that answers with a failure whatever it is to run, and a drafter that fails too. -/
def failing : World where
  database :=
    { dialect := .sqlite
      explain := fun _ => .ok .empty
      query := fun _ => .error (.database (.unexpectedData "disk full"))
      write := fun _ => .error (.database (.unexpectedData "disk full"))
      schema := .ok .empty }
  drafter := some fun _ _ => .error (.drafter "overloaded")
  searchedAt := 0
  storedAt := 0
  elapsed := fun _ => 0.0

/-- A write that was sent, a query that was sent and a request that went to the drafter leave
nothing in the log when they fail. -/
theorem failed_visits_unlogged :
    let visits : List Visit :=
      [⟨failing, "noon", .write "DELETE FROM users WHERE id = 1" true⟩,
        ⟨failing, "noon", .run "SELECT id FROM users WHERE id = 1" {}⟩,
        ⟨failing, "noon", .ask "all users" true {}⟩]
    (serveAll ⟨{}, .nowhere, .file ""⟩ visits).1.map Served.calls =
        [[.write "DELETE FROM users WHERE id = 1"],
          [.explain "EXPLAIN QUERY PLAN SELECT id FROM users WHERE id = 1",
            .query "SELECT id FROM users WHERE id = 1 LIMIT 1000"],
          [.schema, .draft "all users"]] ∧
      (serveAll ⟨{}, .nowhere, .file ""⟩ visits).2.log.text = "" := by
  decide +kernel

end QueryGuard.Proofs.AuditTrail
