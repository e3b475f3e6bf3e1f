import Mathlib
import QueryGuard.Audit
import QueryGuard.Proofs.JsonReading
import QueryGuard.Proofs.LogLines

/-!
The file of a log over many calls.

A call adds the line of its record at the end of the file, or it fails and leaves the file as it
was. Whatever the event and the payload are, the line holds no line break but its last sign. So the
lines of the file are those that were there before and one for each call that did not fail. A line
means the object of its record: the fields of the payload, and the event and the time where the
payload has no fields of these names.
-/

namespace QueryGuard.Proofs.LogRuns

open JsonFields JsonReading LogLines

/-! ### Calls -/

/-- A call on a log that has a file. -/
structure Attempt where
  time : String
  event : String
  /-- The payload, or why it has no JSON form. -/
  payload : Except Failure Json
  /-- Why the file cannot be made, opened or written this time. -/
  obstacle : Option String

namespace Attempt

/-- The log as the call finds it. -/
def log (a : Attempt) (text : String) : Audit.Log :=
  match a.obstacle with
  | none => .file text
  | some reason => .unwritable reason

/-- The answer to a call, and what the file holds after it. A line is added as a whole or not at
all. -/
def run (a : Attempt) (text : String) : Except Failure Unit × String :=
  match a.payload with
  | .error failure => (.error failure, text)
  | .ok payload =>
    match (a.log text).tryRecord a.time a.event payload with
    | (.ok (), log) => (.ok (), log.text)
    | (.error failure, _) => (.error failure, text)

end Attempt

/-- The answers to calls one after another, and what the file holds in the end. -/
def runAll : List Attempt → String → List (Except Failure Unit) × String
  | [], text => ([], text)
  | a :: as, text =>
    let (answer, text) := a.run text
    let (answers, text) := runAll as text
    (answer :: answers, text)

/-- The calls that were answered by no error. -/
def succeeded (as : List Attempt) (answers : List (Except Failure Unit)) : List Attempt :=
  ((as.zip answers).filter (·.2.isOk)).map Prod.fst

/-! ### Records -/

/-- What a record has of its own under a name. -/
def own (time event name : String) : Option Json :=
  if name = "event" then some (.str event) else if name = "ts" then some (.str time) else none

/-- What a record has under a name: the field of an object payload, if there is one. A payload that
is no object has a name for itself, and null adds nothing. -/
def field? (time event : String) (payload : Json) (name : String) : Option Json :=
  match payload with
  | .obj fs => (fs.lookup name).or (own time event name)
  | .null => own time event name
  | other => if name = "payload" then some other else own time event name

/-- A line without line breaks that means the record of a call. The reader of the program reads the
same, unless there are too many brackets in the payload or numbers that it reads only nearly. -/
def Tells (a : Attempt) (line : String) : Prop :=
  '\n' ∉ line.toList ∧ ∃ payload fs, a.payload = .ok payload ∧
    Increasing fs ∧ (∀ name, fs.lookup name = field? a.time a.event payload name) ∧
    meaning? line = some (.obj fs) ∧
    (Within (fun _ => False) 126 payload → Json.parse? line = some (.obj fs))

section Record

variable (time event : String) {floats : Float → Prop} {j : Json} {depth : ℕ}

/-- The time and the event. -/
def head : List (String × Json) := Json.ofFields [("ts", .str time), ("event", .str event)]

lemma lookup_head (name : String) : (head time event).lookup name = own time event name := by
  rw [head, lookup_ofFields]
  simp only [List.reverse_cons, List.reverse_nil, List.nil_append, List.cons_append, lookup_cons_eq,
    List.lookup_nil, own]

lemma within_head : ∀ f ∈ head time event, Within floats depth f.2 := by
  intro f hf
  rcases mem_putAll hf with hmem | hmem
  · simp only [List.mem_cons, List.not_mem_nil, or_false] at hmem
    rcases hmem with rfl | rfl <;> exact .str _
  · cases hmem

lemma increasing_fields (j : Json) : Increasing (Audit.fields time event j) := by
  have hhead : Increasing (head time event) := increasing_ofFields _
  cases j with
  | obj fs => exact hhead.putAll fs
  | null => exact hhead
  | _ => exact hhead.put _ _

lemma lookup_fields (h : Within floats depth j) (name : String) :
    (Audit.fields time event j).lookup name = field? time event j name := by
  have hhead := lookup_head time event name
  cases h with
  | @obj _ fs hfs _ =>
    have hlast : fs.reverse.lookup name = fs.lookup name := by
      rw [← lookup_ofFields, ofFields_of_increasing hfs]
    refine (lookup_putAll fs (head time event) name).trans ?_
    rw [hlast, hhead, field?]
  | null => exact hhead
  | _ =>
    refine (lookup_put "payload" _ (head time event) name).trans ?_
    rw [hhead]
    rfl

lemma within_fields (h : Within floats depth j) :
    ∀ f ∈ Audit.fields time event j, Within floats depth f.2 := by
  have hhead : ∀ f ∈ head time event, Within floats depth f.2 := within_head time event
  have hpayload := h
  intro f hf
  cases h with
  | @obj depth fs _ hvalues =>
    rcases mem_putAll hf with hmem | hmem
    · exact (hvalues f hmem).mono (Nat.le_succ depth)
    · exact hhead f hmem
  | null => exact hhead f hf
  | _ =>
    rcases mem_put hf with rfl | hmem
    · exact hpayload
    · exact hhead f hmem

lemma within_record (h : Within floats depth j) :
    Within floats (depth + 1) (.obj (Audit.fields time event j)) :=
  .obj (increasing_fields time event j) (within_fields time event h)

/-- The line of a record tells of it. -/
lemma tells_line {a : Attempt} (ha : a.payload = .ok j) (hj : IsValue j) :
    Tells a (Json.render (.obj (Audit.fields a.time a.event j))) := by
  obtain ⟨depth, h⟩ := hj
  refine ⟨?_, j, _, ha, increasing_fields _ _ j, lookup_fields _ _ h, ?_, fun hplain => ?_⟩
  · rw [Json.render, String.toList_ofList]
    exact newline_not_mem (printable_compact _)
  · exact meaning?_render ⟨depth + 1, within_record _ _ h⟩
  · exact parse?_render (within_record _ _ hplain)

end Record

/-! ### Lines -/

/-- The lines of a text, each of which has its end. -/
def linesOf (text : String) : List String :=
  ((text.toList.splitOn '\n').dropLast).map String.ofList

/-- A text that is empty or ends in a line break. -/
def Ended (text : String) : Prop := text = "" ∨ text.toList.getLast? = some '\n'

instance (text : String) : Decidable (Ended text) := inferInstanceAs (Decidable (_ ∨ _))

section Lines

variable {text line : String}

lemma splitOn_concat (u : List Char) : (u ++ ['\n']).splitOn '\n' = u.splitOn '\n' ++ [[]] := by
  rw [List.splitOn_append_cons_self]
  rfl

lemma ended_append (text line : String) : Ended (text ++ (line ++ "\n")) := by
  right
  simp

/-- A line added at the end is one more line. -/
lemma linesOf_append (h : Ended text) (hline : '\n' ∉ line.toList) :
    linesOf (text ++ (line ++ "\n")) = linesOf text ++ [line] := by
  have hnew : line.toList.splitOn '\n' = [line.toList] :=
    List.splitOn_eq_singleton hline
  have htext : (text ++ (line ++ "\n")).toList = text.toList ++ line.toList ++ ['\n'] := by
    simp
  rw [linesOf, htext, splitOn_concat, List.dropLast_concat]
  rcases h with rfl | hlast
  · simp [linesOf, hnew]
  · obtain ⟨u, hu⟩ : ∃ u, text.toList = u ++ ['\n'] :=
      List.getLast?_eq_some_iff.1 hlast
    rw [linesOf, hu, splitOn_concat, List.dropLast_concat, List.append_assoc,
      List.singleton_append, List.splitOn_append_cons_self, hnew, List.map_append,
      List.map_singleton, String.ofList_toList]

end Lines

/-! ### Runs -/

/-- The answer to a call: an error if there is a cause for one. -/
def Attempt.answer (a : Attempt) : Except Failure Unit :=
  match a.payload, a.obstacle with
  | .error failure, _ => .error failure
  | .ok _, some reason => .error (.files reason)
  | .ok _, none => .ok ()

/-- A call answered by no error adds the line of its record, and any other nothing. -/
lemma run_eq (a : Attempt) (text : String) :
    (∃ failure, a.run text = (.error failure, text) ∧ a.answer = .error failure) ∨
      ∃ payload, a.payload = .ok payload ∧ a.answer = .ok () ∧
        a.run text = (.ok (), text ++ Audit.line a.time a.event payload) := by
  obtain ⟨time, event, payload, obstacle⟩ := a
  cases payload with
  | error failure => exact .inl ⟨failure, rfl, rfl⟩
  | ok payload =>
    cases obstacle with
    | some reason => exact .inl ⟨.files reason, rfl, rfl⟩
    | none => exact .inr ⟨payload, rfl, rfl, rfl⟩

/-- What calls one after another do to a text. Each is answered by the error there is a cause for,
and those that are answered by none have one line each, in order, behind the lines there were. -/
structure Recorded (as : List Attempt) (text : String)
    (answers : List (Except Failure Unit)) (after : String) : Prop where
  answers_eq : answers = as.map Attempt.answer
  lines : ∃ lines, List.Forall₂ Tells (succeeded as answers) lines ∧
    after = text ++ String.join (lines.map (· ++ "\n")) ∧ linesOf after = linesOf text ++ lines

section Step

variable {a : Attempt} {as : List Attempt} {text line after : String} {failure : Failure}
  {answers : List (Except Failure Unit)}

lemma Recorded.cons_error (h : Recorded as text answers after) (ha : a.answer = .error failure) :
    Recorded (a :: as) text (.error failure :: answers) after := by
  obtain ⟨hanswers, lines, htells, hafter, hlines⟩ := h
  refine ⟨?_, lines, htells, hafter, hlines⟩
  rw [List.map_cons, ha, hanswers]

lemma Recorded.cons_ok (htext : Ended text) (ha : a.answer = .ok ()) (hline : Tells a line)
    (h : Recorded as (text ++ (line ++ "\n")) answers after) :
    Recorded (a :: as) text (.ok () :: answers) after := by
  obtain ⟨hanswers, lines, htells, hafter, hlines⟩ := h
  refine ⟨?_, line :: lines, .cons hline htells, ?_, ?_⟩
  · rw [List.map_cons, ha, hanswers]
  · rw [hafter, List.map_cons, String.join_cons, String.append_assoc]
  · rw [hlines, linesOf_append htext hline.1, List.append_assoc, List.singleton_append]

end Step

lemma runAll_cons (a : Attempt) (as : List Attempt) (text : String) :
    runAll (a :: as) text =
      ((a.run text).1 :: (runAll as (a.run text).2).1, (runAll as (a.run text).2).2) := rfl

/-- **No line is split or forged.** -/
theorem recorded_runAll (as : List Attempt) {text : String} (htext : Ended text)
    (hvalues : ∀ a ∈ as, ∀ payload, a.payload = .ok payload → IsValue payload) :
    Recorded as text (runAll as text).1 (runAll as text).2 := by
  induction as generalizing text with
  | nil => exact ⟨rfl, [], .nil, by simp [runAll], by simp [runAll]⟩
  | cons a as ih =>
    obtain ⟨ha, has⟩ := List.forall_mem_cons.1 hvalues
    rw [runAll_cons]
    rcases run_eq a text with ⟨failure, hrun, hanswer⟩ | ⟨payload, hpayload, hanswer, hrun⟩
    · rw [hrun]
      exact (ih htext has).cons_error hanswer
    · rw [hrun]
      exact .cons_ok htext hanswer (tells_line hpayload (ha payload hpayload))
        (ih (ended_append _ _) has)

/-- A payload that brings its own event, in two lines, a call that has none, one that finds the disk
full, and one with nothing to tell. -/
def mixed : List Attempt :=
  [⟨"10:00", "run", .ok (.obj [("event", .str "a\nb"), ("rows", .arr [.int 1, .float 0.1])]), none⟩,
    ⟨"10:01", "run", .error (.json "key must be a string"), none⟩,
    ⟨"10:02", "run", .ok (.str "x"), some "No space left on device"⟩,
    ⟨"10:03", "plan", .ok .null, none⟩]

theorem recorded_runAll_mixed : Ended "old\n" ∧
    (∀ a ∈ mixed, ∀ payload, a.payload = .ok payload → IsValue payload) ∧
    Recorded mixed "old\n" (runAll mixed "old\n").1 (runAll mixed "old\n").2 := by
  have htext : Ended "old\n" := by decide
  have hrows : Within Finite 1 (.arr [.int 1, .float 0.1]) := by
    refine .arr (List.forall_mem_cons.2 ⟨.int (by decide), List.forall_mem_singleton.2 (.float ?_)⟩)
    show (Decimal.Dyadic.ofFloat? 0.1).isSome = true
    decide +kernel
  have hvalues : ∀ a ∈ mixed, ∀ payload, a.payload = .ok payload → IsValue payload := by
    intro a ha payload hpayload
    simp only [mixed, List.mem_cons, List.not_mem_nil, or_false] at ha
    rcases ha with rfl | rfl | rfl | rfl
    all_goals cases hpayload
    · refine ⟨2, .obj (.cons ?_ (.cons ?_ .nil)) ?_⟩
      · exact List.forall_mem_singleton.2 (by decide)
      · exact fun _ h => nomatch h
      · exact List.forall_mem_cons.2 ⟨.str _, List.forall_mem_singleton.2 hrows⟩
    · exact ⟨0, .str "x"⟩
    · exact ⟨0, .null⟩
  exact ⟨htext, hvalues, recorded_runAll mixed htext hvalues⟩

example : linesOf (runAll mixed "old\n").2 =
    ["old", "\x7b\"event\":\"a\\nb\",\"rows\":[1,0.1],\"ts\":\"10:00\"\x7d",
      "\x7b\"event\":\"plan\",\"ts\":\"10:03\"\x7d"] := by decide +kernel

end QueryGuard.Proofs.LogRuns
