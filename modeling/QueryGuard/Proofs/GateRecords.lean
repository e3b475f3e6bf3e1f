import QueryGuard.Gate.Basic
import QueryGuard.Proofs.LogRuns

/-!
The records of the gate.

A record is written down with its fields in some order, and what is put into the log is the value
of it, in which the fields of every object are in order. So the log of the gate holds values, and
each of its lines means what was recorded.
-/

namespace QueryGuard.Proofs.GateRecords

open Json JsonFields JsonReading LogRuns WrittenNumbers

/-- A record with at most `depth` brackets inside one another, whose whole numbers have 64 bits. -/
inductive Storable : ℕ → Json → Prop
  | null {depth : ℕ} : Storable depth .null
  | bool {depth : ℕ} (b : Bool) : Storable depth (.bool b)
  | int {depth : ℕ} {n : Int} (h : Fits64 n) : Storable depth (.int n)
  | float {depth : ℕ} (x : Float) : Storable depth (.float x)
  | str {depth : ℕ} (s : String) : Storable depth (.str s)
  | arr {depth : ℕ} {vs : List Json} (h : ∀ v ∈ vs, Storable depth v) :
    Storable (depth + 1) (.arr vs)
  | obj {depth : ℕ} {fs : List (String × Json)} (h : ∀ f ∈ fs, Storable depth f.2) :
    Storable (depth + 1) (.obj fs)

/-- **The value of a record.** Whatever the order of its fields is, and whatever its numbers are, a
record has a value. -/
theorem Storable.within {depth : ℕ} {j : Json} (h : Storable depth j) :
    Within Finite depth j.toValue := by
  induction h with
  | null => exact .null
  | bool b => exact .bool b
  | int h => exact .int h
  | str s => exact .str s
  | float x =>
    rw [toValue, ofFloat]
    split
    · rename_i hfinite
      exact .float hfinite
    · exact .null
  | arr _ ih =>
    rw [toValue, toValues_eq_map]
    exact .arr (List.forall_mem_map.2 ih)
  | obj _ ih =>
    rw [toValue, toValueFields_eq_map]
    refine .obj (increasing_ofFields _) fun f hf => ?_
    -- a field that is gathered is one of those of the record
    obtain ⟨g, hg, rfl⟩ := List.mem_map.1 ((mem_putAll hf).resolve_right List.not_mem_nil)
    exact ih g hg

/-! ### What is recorded of outcomes -/

lemma Storable.ofOption {α : Type} {write : α → Json} {o : Option α} {depth : ℕ}
    (h : ∀ a ∈ o, Storable depth (write a)) : Storable depth (ofOption write o) := by
  cases o with
  | none => exact .null
  | some a => exact h a rfl

lemma storable_decision (d : Decision) : Storable 1 d.toJson := by
  refine .obj ?_
  simp only [List.forall_mem_cons]
  exact ⟨.bool _, .str _, .str _, .str _, fun _ h => nomatch h⟩

lemma storable_metrics {m : Metrics} (h : ∀ n ∈ m.rowsReturned, Fits64 (n : ℕ)) :
    Storable 1 m.toJson := by
  have hrows : Storable 0 (ofOption (fun n => .int n) m.rowsReturned) := by
    cases hn : m.rowsReturned with
    | none => exact .null
    | some n => exact .int (h n hn)
  refine .obj ?_
  simp only [List.forall_mem_cons]
  exact ⟨.ofOption fun x _ => .float x, .ofOption fun x _ => .float x,
    .ofOption fun x _ => .float x, .ofOption fun x _ => .float x, hrows,
    .ofOption fun b _ => .bool b, fun _ h => nomatch h⟩

/-- What the gate records, and the event it does it under. Row counts have 64 bits. -/
inductive OfGate : String → Json → Prop
  | plan (o : PlanOutcome) (h : ∀ n ∈ o.metrics.rowsReturned, Fits64 (n : ℕ)) :
    OfGate "plan" (Gate.planRecord o)
  | run (sql : String) (options : RunOptions) (o : RunOutcome) :
    OfGate "run" (Gate.runRecord sql options o)
  | write (sql : String) (allowWrite : Bool) (o : WriteOutcome) :
    OfGate "write" (Gate.writeRecord sql allowWrite o)
  | ask (o : AskOutcome) (h : ∀ n ∈ o.metrics.rowsReturned, Fits64 (n : ℕ)) :
    OfGate "ask" (Gate.askRecord o)

lemma isValue_of_gate {event : String} {record : Json} (h : OfGate event record) :
    IsValue record := by
  have hnone : ∀ f ∈ ([] : List (String × Json)), Storable 1 f.2 := fun _ h => nomatch h
  refine ⟨2, ?_⟩
  cases h with
  | plan o h =>
    refine (Storable.obj ?_).within
    simp only [List.forall_mem_cons]
    exact ⟨.str _, .float _, storable_decision _, storable_metrics h, hnone⟩
  | run sql options o =>
    refine (Storable.obj ?_).within
    simp only [List.forall_mem_cons]
    exact ⟨.str _, .str _, .bool _, .ofOption fun d _ => storable_decision d, hnone⟩
  | write sql allowWrite o =>
    refine (Storable.obj ?_).within
    simp only [List.forall_mem_cons]
    exact ⟨.str _, .bool _, .ofOption fun d _ => storable_decision d, hnone⟩
  | ask o h =>
    refine (Storable.obj ?_).within
    simp only [List.forall_mem_cons]
    exact ⟨.str _, .str _, storable_decision _, storable_metrics h, hnone⟩

/-- **The lines of the gate.** Work that comes to an outcome adds one line to the log, and the line
means what is recorded of the outcome. -/
theorem recorded_tells {α : Type} {g : Gate} {text : String} (hg : g.log = .file text)
    {event : String} {record : α → Json} {x : Traced α} {a : α} (hx : x.outcome = .ok a)
    (h : OfGate event (record a)) (time : String) :
    ∃ line, (g.recorded time event record x).log = .file (text ++ (line ++ "\n")) ∧
      Tells ⟨time, event, .ok (record a), none⟩ line := by
  refine ⟨_, ?_, tells_line rfl (isValue_of_gate h)⟩
  unfold Gate.recorded
  rw [hx]
  dsimp only
  rw [hg]
  rfl

end QueryGuard.Proofs.GateRecords
