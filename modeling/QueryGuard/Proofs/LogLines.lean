import Mathlib.Data.List.Basic
import Mathlib.Tactic.Common
import QueryGuard.Audit

/-!
What a line of the log holds.

A value is written without a single control character below U+0020: those of texts are escaped, and
nothing that stands around the texts is one. So a record is one line, and its end is the only line
break in it. The fields of a record are put over the time and the event; those two stand as long as
no field of the record has their name.
-/

namespace QueryGuard.Proofs.LogLines

/-! ### Values -/

/-- A text without control characters below U+0020. -/
def Printable (s : List Char) : Prop := ∀ c ∈ s, 0x20 ≤ c.toNat

instance (s : List Char) : Decidable (Printable s) := List.decidableBAll _ s

@[simp] lemma printable_nil : Printable [] := fun _ h => nomatch h

@[simp] lemma printable_cons {c : Char} {s : List Char} :
    Printable (c :: s) ↔ 0x20 ≤ c.toNat ∧ Printable s := List.forall_mem_cons

@[simp] lemma printable_append {s t : List Char} :
    Printable (s ++ t) ↔ Printable s ∧ Printable t := List.forall_mem_append

lemma Printable.of_subset {s t : List Char} (ht : Printable t) (h : s ⊆ t) : Printable s :=
  fun c hc => ht c (h hc)

lemma newline_not_mem {s : List Char} (h : Printable s) : '\n' ∉ s := fun hmem =>
  absurd (h _ hmem) (by decide)

lemma printable_replicate_zero (n : Nat) : Printable (List.replicate n '0') := by
  intro c hc
  rw [(List.mem_replicate.1 hc).2]
  decide

lemma printable_digits (n : Nat) : Printable (Decimal.digitChars n) := by
  intro c hc
  have hdigit : c.isDigit = true := Nat.isDigit_of_mem_toDigits (by omega) (by omega) hc
  have hzero : 0x20 ≤ ('0').toNat := by decide
  exact Nat.le_trans hzero (Char.isDigit_iff_toNat.1 hdigit).1

lemma printable_integer (n : Int) : Printable (Json.integer n) := by
  unfold Json.integer
  split
  · rw [printable_cons]
    exact ⟨by decide, printable_digits _⟩
  · exact printable_digits _

/-- Of a number above zero: its digits, cut by a point or with zeros beside them, or a power. -/
lemma printable_magnitude (s : Decimal.Scaled) : Printable (Decimal.Layout.json.magnitude s) := by
  have hd := printable_digits s.digits
  unfold Decimal.Layout.magnitude
  dsimp only
  split_ifs
  · simp only [printable_append]
    exact ⟨⟨hd, printable_replicate_zero _⟩, by decide⟩
  · simp only [printable_append, printable_cons]
    exact ⟨hd.of_subset (List.take_subset _ _), by decide, hd.of_subset (List.drop_subset _ _)⟩
  · simp only [printable_cons, printable_append]
    exact ⟨⟨by decide, by decide, printable_replicate_zero _⟩, hd⟩
  all_goals
    simp only [printable_append]
    refine ⟨⟨?_, by decide⟩, printable_digits _⟩
    split
    · exact printable_nil
    · rename_i h
      rwa [h] at hd
    · rename_i h
      rw [h, printable_cons] at hd
      simp only [printable_cons]
      exact ⟨hd.1, by decide, hd.2⟩

lemma printable_float (x : Float) : Printable (Decimal.Layout.json.write x) := by
  unfold Decimal.Layout.write
  split
  · decide
  · dsimp only
    split_ifs
    all_goals simp only [printable_append, printable_cons, printable_nil, printable_magnitude]
    all_goals decide

lemma le_hexDigit (n : Nat) : 0x20 ≤ (Json.hexDigit n).toNat := by
  have h : ∀ m < 16, 0x20 ≤ (Nat.digitChar m).toNat := by decide
  exact h _ (Nat.mod_lt n (by omega))

/-- A control character is escaped, and any other is left or gets a backslash. -/
lemma printable_escape (c : Char) : Printable (Json.escape c) := by
  unfold Json.escape
  split_ifs with _ _ hc
  · decide
  · decide
  · rw [printable_cons]
    exact ⟨hc, printable_nil⟩
  all_goals simp only [printable_cons, printable_nil, le_hexDigit]
  all_goals decide

lemma printable_quote (s : String) : Printable (Json.quote s) := by
  unfold Json.quote
  rw [printable_cons, printable_append]
  refine ⟨by decide, ?_, by decide⟩
  intro c hc
  obtain ⟨d, -, hd⟩ := List.mem_flatMap.1 hc
  exact printable_escape d c hd

mutual

/-- **No control characters.** A value is written without any below U+0020. -/
theorem printable_compact : ∀ j : Json, Printable j.compact
  | .null => by decide
  | .bool true => by decide
  | .bool false => by decide
  | .int n => printable_integer n
  | .float x => printable_float x
  | .str s => printable_quote s
  | .arr [] => by decide
  | .arr (v :: vs) => by
    simp only [Json.compact, printable_cons, printable_append]
    exact ⟨by decide, printable_compact v, printable_moreItems vs⟩
  | .obj [] => by decide
  | .obj ((n, v) :: fs) => by
    simp only [Json.compact, printable_cons, printable_append]
    exact ⟨by decide, printable_quote n, by decide, printable_compact v, printable_moreFields fs⟩

theorem printable_moreItems : ∀ vs : List Json, Printable (Json.moreItems vs)
  | [] => by decide
  | v :: vs => by
    simp only [Json.moreItems, printable_cons, printable_append]
    exact ⟨by decide, printable_compact v, printable_moreItems vs⟩

theorem printable_moreFields : ∀ fs : List (String × Json), Printable (Json.moreFields fs)
  | [] => by decide
  | (n, v) :: fs => by
    simp only [Json.moreFields, printable_cons, printable_append]
    exact ⟨by decide, printable_quote n, by decide, printable_compact v, printable_moreFields fs⟩

end

/-! ### Fields -/

lemma lookup_cons_eq (n : String) (v : Json) (fs : List (String × Json)) (k : String) :
    ((n, v) :: fs).lookup k = if k = n then some v else fs.lookup k := by
  rw [List.lookup_cons]
  by_cases h : k = n
  · rw [if_pos h, beq_iff_eq.2 h]
  · rw [if_neg h, beq_false_of_ne h]

lemma lookup_put_self (name : String) (value : Json) (fs : List (String × Json)) :
    (Json.put name value fs).lookup name = some value := by
  induction fs with
  | nil => rw [Json.put, lookup_cons_eq, if_pos rfl]
  | cons f fs ih =>
    obtain ⟨n, v⟩ := f
    unfold Json.put
    split_ifs with hlt heq
    · rw [lookup_cons_eq, if_pos rfl]
    · rw [lookup_cons_eq, if_pos rfl]
    · rw [lookup_cons_eq, if_neg heq, ih]

/-- Putting a field leaves those with another name. -/
lemma lookup_put_of_ne {k name : String} (h : k ≠ name) (value : Json)
    (fs : List (String × Json)) : (Json.put name value fs).lookup k = fs.lookup k := by
  induction fs with
  | nil => simp [Json.put, lookup_cons_eq, h]
  | cons f fs ih =>
    obtain ⟨n, v⟩ := f
    unfold Json.put
    split_ifs with hlt heq
    · rw [lookup_cons_eq, if_neg h]
    · rw [lookup_cons_eq, lookup_cons_eq, if_neg h, if_neg (heq ▸ h)]
    · rw [lookup_cons_eq, lookup_cons_eq, ih]

lemma lookup_foldl_put {k : String} (more : List (String × Json)) (h : k ∉ more.map Prod.fst)
    (fs : List (String × Json)) :
    (more.foldl (fun out f => Json.put f.1 f.2 out) fs).lookup k = fs.lookup k := by
  induction more generalizing fs with
  | nil => rfl
  | cons f more ih =>
    rw [List.map_cons, List.mem_cons, not_or] at h
    rw [List.foldl_cons, ih h.2, lookup_put_of_ne h.1]

/-- A payload with fields of its own, and none in the place of the time or the event. -/
def Payload (j : Json) : Prop :=
  ∃ more, j = .obj more ∧ "ts" ∉ more.map Prod.fst ∧ "event" ∉ more.map Prod.fst

/-- A text that is one line with one record, of some time and event. -/
def TellsOf (time event line : String) : Prop :=
  ∃ fs, line = Json.render (.obj fs) ++ "\n" ∧ '\n' ∉ (Json.render (.obj fs)).toList ∧
    fs.lookup "ts" = some (.str time) ∧ fs.lookup "event" = some (.str event)

/-- **The line of a record.** It is one line, and tells of its time and event. -/
theorem tellsOf_line {j : Json} (hj : Payload j) (time event : String) :
    TellsOf time event (Audit.line time event j) := by
  obtain ⟨more, rfl, hts, hevent⟩ := hj
  have hhead : Json.ofFields [("ts", .str time), ("event", .str event)] =
      Json.put "event" (.str event) (Json.put "ts" (.str time) []) := by
    simp only [Json.ofFields, List.foldl_cons, List.foldl_nil]
  refine ⟨_, rfl, ?_, ?_, ?_⟩
  · rw [Json.render, String.toList_ofList]
    exact newline_not_mem (printable_compact _)
  · rw [Audit.fields, lookup_foldl_put more hts, hhead, lookup_put_of_ne (by decide),
      lookup_put_self]
  · rw [Audit.fields, lookup_foldl_put more hevent, hhead, lookup_put_self]

end QueryGuard.Proofs.LogLines
