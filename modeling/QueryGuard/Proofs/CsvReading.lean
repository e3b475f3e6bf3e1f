import Mathlib
import QueryGuard.Proofs.Terminator
import QueryGuard.Render.Csv

/-!
Reading records back from comma-separated values.

A reader goes through the text once. Outside quotes a comma ends a field and a line end a record;
inside quotes only a quote counts, two of which stand for one. What is written for a list of
records is read as these records. A result loses the blanks at the end of its text, and with them
those of its very last field, unless that field stands in quotes.
-/

namespace QueryGuard.Proofs.CsvReading

open Text Render Terminator
open TextRuns (intercalate_concat)

/-! ### The reader -/

/-- Where a reader stands. -/
inductive Place where
  | lineStart
  | fieldStart
  | bare
  | quoted
  /-- Behind a quote that closes a field, or is the first of two. -/
  | closed
  /-- Behind a carriage return, for which there must be a line feed. -/
  | returned
  | refused
deriving DecidableEq

/-- A reader, with the records that are complete, the complete fields of the next record and what
there is of the next field. -/
structure Reader where
  place : Place
  records : List (List (List Char))
  fields : List (List Char)
  field : List Char

namespace Reader

variable (r : Reader)

def init : Reader := ⟨.lineStart, [], [], []⟩

def goTo (p : Place) : Reader := { r with place := p }

def take (p : Place) (c : Char) : Reader := { r with place := p, field := r.field ++ [c] }

def endField : Reader := ⟨.fieldStart, r.records, r.fields ++ [r.field], []⟩

def endRecord : Reader := ⟨.lineStart, r.records ++ [r.fields ++ [r.field]], [], []⟩

def step (c : Char) : Reader :=
  match r.place with
  | .refused => r
  | .quoted => if c = '"' then r.goTo .closed else r.take .quoted c
  | .returned => if c = '\n' then r.endRecord else r.goTo .refused
  | p =>
    if c = ',' then r.endField
    else if c = '\n' then r.endRecord
    else if c = '\r' then r.goTo .returned
    else if c = '"' then
      match p with
      | .bare => r.goTo .refused
      | .closed => r.take .quoted c
      | _ => r.goTo .quoted
    else if p = .closed then r.goTo .refused
    else r.take .bare c

def run (s : List Char) : Reader := s.foldl step r

/-- The records, if the text may end here. A line end behind the last record makes no other. -/
def records? : Option (List (List (List Char))) :=
  match r.place with
  | .lineStart => some r.records
  | .fieldStart | .bare | .closed => some r.endRecord.records
  | .quoted | .returned | .refused => none

@[simp] lemma run_nil : r.run [] = r := rfl

@[simp] lemma run_cons (c : Char) (s : List Char) : r.run (c :: s) = (r.step c).run s := rfl

lemma run_append (s t : List Char) : r.run (s ++ t) = (r.run s).run t := List.foldl_append

end Reader

/-- The records of a text, if it is one of records. -/
def read? (s : List Char) : Option (List (List (List Char))) := (Reader.init.run s).records?

/-! ### What is written -/

/-- Places at which a field can end. -/
def Place.EndsField : Place → Prop
  | lineStart | fieldStart | bare | closed => True
  | _ => False

variable {p : Place} {records : List (List (List Char))} {fields : List (List Char)}
  {f g : List Char}

lemma step_comma (hp : p.EndsField) :
    Reader.step ⟨p, records, fields, f⟩ ',' = ⟨.fieldStart, records, fields ++ [f], []⟩ := by
  cases p <;> first | exact hp.elim | rfl

lemma step_newline (hp : p.EndsField) : Reader.step ⟨p, records, fields, f⟩ '\n' =
    ⟨.lineStart, records ++ [fields ++ [f]], [], []⟩ := by
  cases p <;> first | exact hp.elim | rfl

/-- A sign without a meaning of its own. -/
def Plain (c : Char) : Prop := c ≠ ',' ∧ c ≠ '"' ∧ c ≠ '\n' ∧ c ≠ '\r'

lemma needsQuotes_eq_false_iff : needsQuotes f = false ↔ ∀ c ∈ f, Plain c := by
  simp [needsQuotes, Plain, and_assoc]

lemma step_plain {c : Char} (hc : Plain c) (hp : p.EndsField) (hclosed : p ≠ .closed) :
    Reader.step ⟨p, records, fields, f⟩ c = ⟨.bare, records, fields, f ++ [c]⟩ := by
  obtain ⟨hcomma, hquote, hline, hreturn⟩ := hc
  cases p <;> first | exact hp.elim | exact absurd rfl hclosed |
    simp [Reader.step, Reader.take, hcomma, hquote, hline, hreturn]

lemma run_bare (hf : ∀ c ∈ f, Plain c) :
    Reader.run ⟨.bare, records, fields, g⟩ f = ⟨.bare, records, fields, g ++ f⟩ := by
  induction f generalizing g with
  | nil => simp
  | cons c f ih =>
    rw [List.forall_mem_cons] at hf
    rw [Reader.run_cons, step_plain hf.1 (p := .bare) trivial (by decide), ih hf.2,
      List.append_assoc, List.singleton_append]

lemma run_escaped (f : List Char) :
    Reader.run ⟨.quoted, records, fields, g⟩
        (f.flatMap fun c => if c = '"' then ['"', '"'] else [c]) =
      ⟨.quoted, records, fields, g ++ f⟩ := by
  induction f generalizing g with
  | nil => simp
  | cons c f ih =>
    have hstep : Reader.run ⟨.quoted, records, fields, g⟩
        (if c = '"' then ['"', '"'] else [c]) = ⟨.quoted, records, fields, g ++ [c]⟩ := by
      split_ifs with h
      · rw [h]
        rfl
      · simp [Reader.step, Reader.take, h]
    rw [List.flatMap_cons, Reader.run_append, hstep, ih, List.append_assoc, List.singleton_append]

/-- A written field is read where a field can begin. -/
lemma run_csvField (hp : p = .lineStart ∨ p = .fieldStart)
    (records : List (List (List Char))) (fields : List (List Char)) (f : List Char) :
    ∃ q, q.EndsField ∧ (q = .lineStart → p = .lineStart ∧ f = []) ∧
      Reader.run ⟨p, records, fields, []⟩ (csvField f) = ⟨q, records, fields, f⟩ := by
  have hends : p.EndsField := by rcases hp with rfl | rfl <;> trivial
  have hclosed : p ≠ .closed := by rcases hp with rfl | rfl <;> decide
  unfold csvField
  split_ifs with hquotes
  · refine ⟨.closed, trivial, (fun h => nomatch h), ?_⟩
    have hopen : Reader.step ⟨p, records, fields, []⟩ '"' = ⟨.quoted, records, fields, []⟩ := by
      rcases hp with rfl | rfl <;> rfl
    rw [quoted, Reader.run_cons, hopen, Reader.run_append, run_escaped]
    rfl
  · rw [Bool.not_eq_true, needsQuotes_eq_false_iff] at hquotes
    cases f with
    | nil => exact ⟨p, hends, fun h => ⟨h, rfl⟩, rfl⟩
    | cons c f =>
      rw [List.forall_mem_cons] at hquotes
      refine ⟨.bare, trivial, (fun h => nomatch h), ?_⟩
      rw [Reader.run_cons, step_plain hquotes.1 hends hclosed, run_bare hquotes.2]
      rfl

/-- A record without the end of its line. -/
def csvLine (fields : List (List Char)) : List Char :=
  if fields = [[]] then ['"', '"'] else [','].intercalate (fields.map csvField)

lemma csvRecord_eq (fields : List (List Char)) : csvRecord fields = csvLine fields ++ ['\n'] := by
  unfold csvRecord csvLine
  split
  · rfl
  · rw [if_neg ‹_›]

/-- A reader behind a field, which is not an empty line. -/
structure HasRead (r : Reader) (records : List (List (List Char))) : Prop where
  endsField : r.place.EndsField
  not_lineStart : r.place ≠ .lineStart
  records_eq : r.endRecord.records = records

lemma HasRead.records? {r : Reader} (h : HasRead r records) : r.records? = some records := by
  obtain ⟨p, complete, fields, f⟩ := r
  obtain ⟨hp, hstart, rfl⟩ := h
  cases p <;> first | exact hp.elim | exact absurd rfl hstart | rfl

lemma HasRead.step_newline {r : Reader} (h : HasRead r records) :
    r.step '\n' = ⟨.lineStart, records, [], []⟩ := by
  obtain ⟨p, complete, fields, f⟩ := r
  obtain ⟨hp, -, rfl⟩ := h
  exact CsvReading.step_newline hp

/-- Fields behind commas: from the first one on they are read to the end of the last. -/
lemma run_fields (hp : p = .lineStart ∨ p = .fieldStart) (f : List Char) (fs : List (List Char))
    (hf : fs = [] → p = .lineStart → f ≠ []) :
    HasRead (Reader.run ⟨p, records, fields, []⟩ ([','].intercalate ((f :: fs).map csvField)))
      (records ++ [fields ++ f :: fs]) := by
  induction fs generalizing p fields f with
  | nil =>
    obtain ⟨q, hq, hstart, hrun⟩ := run_csvField hp records fields f
    rw [List.map_singleton, List.intercalate_singleton, hrun]
    exact ⟨hq, fun h => hf rfl (hstart h).1 (hstart h).2, rfl⟩
  | cons g fs ih =>
    obtain ⟨q, hq, -, hrun⟩ := run_csvField hp records fields f
    have hrest : HasRead (Reader.run ⟨.fieldStart, records, fields ++ [f], []⟩
        ([','].intercalate ((g :: fs).map csvField))) (records ++ [fields ++ [f] ++ g :: fs]) :=
      ih (.inr rfl) g (fun _ h => absurd h (by decide))
    rw [List.map_cons, List.map_cons, List.intercalate_cons_cons, List.append_assoc,
      Reader.run_append, hrun, List.singleton_append, Reader.run_cons, step_comma hq]
    rw [List.append_assoc, List.singleton_append] at hrest
    exact hrest

/-- **Lines are read back.** The text of a record is read as the record. -/
theorem run_csvLine {fields : List (List Char)} (hne : fields ≠ []) :
    HasRead (Reader.run ⟨.lineStart, records, [], []⟩ (csvLine fields)) (records ++ [fields]) := by
  unfold csvLine
  split_ifs with hempty
  · rw [hempty]
    exact ⟨trivial, (fun h => nomatch h), rfl⟩
  · obtain ⟨f, fs, rfl⟩ := List.exists_cons_of_ne_nil hne
    exact run_fields (.inl rfl) f fs fun hfs _ hf => hempty (by rw [hfs, hf])

lemma run_csvRecord {fields : List (List Char)} (hne : fields ≠ []) :
    Reader.run ⟨.lineStart, records, [], []⟩ (csvRecord fields) =
      ⟨.lineStart, records ++ [fields], [], []⟩ := by
  rw [csvRecord_eq, Reader.run_append]
  exact (run_csvLine hne).step_newline

lemma run_csvRecords {more : List (List (List Char))} (hne : ∀ fields ∈ more, fields ≠ []) :
    Reader.run ⟨.lineStart, records, [], []⟩ (more.flatMap csvRecord) =
      ⟨.lineStart, records ++ more, [], []⟩ := by
  induction more generalizing records with
  | nil => simp
  | cons fields more ih =>
    rw [List.forall_mem_cons] at hne
    rw [List.flatMap_cons, Reader.run_append, run_csvRecord hne.1, ih hne.2, List.append_assoc,
      List.singleton_append]

/-- The text of records without the end of the last line. -/
lemma read?_csvLine {more : List (List (List Char))} {last : List (List Char)}
    (hmore : ∀ fields ∈ more, fields ≠ []) (hlast : last ≠ []) :
    read? (more.flatMap csvRecord ++ csvLine last) = some (more ++ [last]) := by
  rw [read?, Reader.run_append, Reader.init, run_csvRecords hmore]
  exact (run_csvLine hlast).records?

lemma csvLine_ne_nil {fields : List (List Char)} (hne : fields ≠ []) : csvLine fields ≠ [] := by
  intro h
  have hread : HasRead (Reader.run ⟨.lineStart, [], [], []⟩ (csvLine fields)) ([] ++ [fields]) :=
    run_csvLine hne
  rw [h] at hread
  exact hread.not_lineStart rfl

/-! ### What is lost -/

/-- The last sign is there and blank. -/
def EndsBlank (s : List Char) : Prop := s.getLast?.any isBlank = true

instance (s : List Char) : Decidable (EndsBlank s) := inferInstanceAs (Decidable (_ = _))

lemma endsBlank_append (s : List Char) {t : List Char} (ht : t ≠ []) :
    EndsBlank (s ++ t) ↔ EndsBlank t := by
  rw [EndsBlank, EndsBlank, List.getLast?_append_of_ne_nil _ ht]

lemma endsBlank_concat (s : List Char) (c : Char) : EndsBlank (s ++ [c]) ↔ isBlank c = true := by
  rw [EndsBlank, List.getLast?_concat, Option.any_some]

/-- A field whose blanks at the end are safe. -/
def Guarded (f : List Char) : Prop := needsQuotes f = true ∨ ¬EndsBlank f

lemma endsBlank_csvField_iff : EndsBlank (csvField f) ↔ ¬Guarded f := by
  unfold csvField Guarded
  split_ifs with h
  · rw [quoted, ← List.cons_append, endsBlank_concat]
    simp [h]
    decide
  · simp [h]

/-- Behind other fields there is a comma. -/
lemma exists_csvLine_of_others (others : List (List Char)) (g f : List Char) :
    ∃ s, csvLine (others ++ [g] ++ [f]) = s ++ [','] ++ csvField f := by
  have hmany : others ++ [g] ++ [f] ≠ [[]] := fun h => by
    simpa using congrArg List.length h
  refine ⟨(others.map csvField).flatMap (· ++ [',']) ++ csvField g, ?_⟩
  rw [csvLine, if_neg hmany, List.map_append, List.map_singleton, intercalate_concat,
    List.map_append, List.map_singleton, List.flatMap_append]
  simp

lemma exists_csvLine_eq (before : List (List Char)) (hf : f ≠ []) :
    ∃ s, csvLine (before ++ [f]) = s ++ csvField f := by
  rcases List.eq_nil_or_concat' before with rfl | ⟨others, g, rfl⟩
  · exact ⟨[], by simp [csvLine, hf]⟩
  · obtain ⟨s, hs⟩ := exists_csvLine_of_others others g f
    exact ⟨s ++ [','], hs⟩

lemma csvField_ne_nil (hf : f ≠ []) : csvField f ≠ [] := by
  unfold csvField
  split_ifs
  · exact List.cons_ne_nil _ _
  · exact hf

/-- A line ends in a blank as its last field does. If that is empty, the line ends with a comma or
with the quotes that stand for an empty line. -/
lemma endsBlank_csvLine_iff (before : List (List Char)) (f : List Char) :
    EndsBlank (csvLine (before ++ [f])) ↔ ¬Guarded f := by
  rw [← endsBlank_csvField_iff]
  by_cases hf : f = []
  · subst hf
    rcases List.eq_nil_or_concat' before with rfl | ⟨others, g, rfl⟩
    · decide
    · obtain ⟨s, hs⟩ := exists_csvLine_of_others others g []
      rw [hs, csvField, if_neg (by decide), List.append_nil, endsBlank_concat]
      decide
  · obtain ⟨s, hs⟩ := exists_csvLine_eq before hf
    rw [hs, endsBlank_append _ (csvField_ne_nil hf)]

/-! ### Reading less -/

/-- The signs in the fields that a reader has gathered. -/
def Reader.size (r : Reader) : Nat :=
  r.records.flatten.flatten.length + r.fields.flatten.length + r.field.length

lemma size_endField (r : Reader) : r.endField.size = r.size := by
  simp [Reader.size, Reader.endField, Nat.add_assoc]

lemma size_endRecord (r : Reader) : r.endRecord.size = r.size := by
  simp [Reader.size, Reader.endRecord, Nat.add_assoc]

lemma size_take (r : Reader) (p : Place) (c : Char) : (r.take p c).size = r.size + 1 := by
  simp [Reader.size, Reader.take, Nat.add_assoc]

lemma size_goTo (r : Reader) (p : Place) : (r.goTo p).size = r.size := rfl

/-- What a sign can do to a reader. -/
lemma step_cases (r : Reader) (c : Char) :
    (∃ p, r.step c = r.goTo p) ∨ r.step c = r.endField ∨ r.step c = r.endRecord ∨
      ∃ p, r.step c = r.take p c := by
  obtain ⟨p, records, fields, f⟩ := r
  cases p <;> dsimp only [Reader.step] <;> try split_ifs
  all_goals first
    | exact .inl ⟨_, rfl⟩
    | exact .inr (.inl rfl)
    | exact .inr (.inr (.inl rfl))
    | exact .inr (.inr (.inr ⟨_, rfl⟩))

lemma step_of_plain (r : Reader) {c : Char} (hc : Plain c) :
    (r.step c).place = .refused ∨ ∃ p, p ≠ .lineStart ∧ r.step c = r.take p c := by
  obtain ⟨hcomma, hquote, hline, hreturn⟩ := hc
  obtain ⟨p, records, fields, f⟩ := r
  cases p with
  | returned => exact .inl (by simp [Reader.step, Reader.goTo, hline])
  | refused => exact .inl rfl
  | closed =>
    exact .inl (by simp [Reader.step, Reader.goTo, hcomma, hquote, hline, hreturn])
  | quoted => exact .inr ⟨.quoted, by decide, by simp [Reader.step, hquote]⟩
  | _ => exact .inr ⟨.bare, by decide, by simp [Reader.step, hcomma, hquote, hline, hreturn]⟩

lemma size_le_step (r : Reader) (c : Char) : r.size ≤ (r.step c).size := by
  rcases step_cases r c with ⟨p, h⟩ | h | h | ⟨p, h⟩
  · rw [h, size_goTo]
  · rw [h, size_endField]
  · rw [h, size_endRecord]
  · rw [h, size_take]
    omega

lemma size_le_run (r : Reader) (s : List Char) : r.size ≤ (r.run s).size := by
  induction s generalizing r with
  | nil => exact Nat.le_refl _
  | cons c s ih => exact (size_le_step r c).trans (ih (r.step c))

/-- The records have no more signs than were gathered, and just those unless a line ends last. -/
lemma size_of_records? {r : Reader} (h : r.records? = some records) :
    records.flatten.flatten.length ≤ r.size ∧
      (r.place ≠ .lineStart → records.flatten.flatten.length = r.size) := by
  have hrecord : r.endRecord.records.flatten.flatten.length = r.size := by
    rw [← size_endRecord]
    rfl
  obtain ⟨p, complete, fields, f⟩ := r
  cases p <;> simp only [Reader.records?, Option.some.injEq, reduceCtorEq] at h
  case lineStart =>
    rw [← h]
    exact ⟨by simp only [Reader.size]; omega, fun hp => absurd rfl hp⟩
  all_goals
    rw [← h]
    exact ⟨hrecord.le, fun _ => hrecord⟩

/-- A text that goes on, to end with a sign without a meaning of its own, is not one of the same
records. -/
lemma read?_append_ne {s t : List Char} {c : Char} (hc : Plain c)
    (h : read? (s ++ t ++ [c]) = some records) : read? s ≠ some records := by
  intro hs
  rw [read?, Reader.run_append, Reader.run_cons, Reader.run_nil] at h
  rcases step_of_plain (Reader.init.run (s ++ t)) hc with hp | ⟨p, hp, hstep⟩
  · rw [Reader.records?, hp] at h
    cases h
  · have hless : records.flatten.flatten.length ≤ (Reader.init.run s).size :=
      (size_of_records? hs).1
    have hmore : (Reader.init.run s).size ≤ (Reader.init.run (s ++ t)).size := by
      rw [Reader.run_append]
      exact size_le_run _ t
    have hall := (size_of_records? h).2 (by rwa [hstep])
    rw [hstep, size_take] at hall
    omega

/-! ### Results -/

/-- The names and the rows of a result as records of texts. -/
def written (r : ResultSet) : List (List (List Char)) :=
  r.columns.map String.toList :: r.rows.map fun row => row.map fun v => (value v).toList

lemma csvRecords_of_even {width : Nat} {body : List (List (List Char))}
    (h : ∀ fields ∈ body, fields.length = width) :
    csvRecords width body = .ok (body.flatMap csvRecord) := by
  induction body with
  | nil => rfl
  | cons fields body ih =>
    rw [List.forall_mem_cons] at h
    rw [csvRecords, if_pos h.1, ih h.2]
    rfl

variable {r : ResultSet}

lemma csv_eq (hcolumns : r.columns ≠ []) (hfull : r.IsFull) :
    csv r = .ok (String.ofList (trimEnd ((written r).flatMap csvRecord))) := by
  have heven : ∀ fields ∈ r.rows.map fun row => row.map fun v => (value v).toList,
      fields.length = (r.columns.map String.toList).length := by
    rw [List.forall_mem_map]
    intro row hrow
    rw [List.length_map, List.length_map, hfull row hrow]
  rw [csv, if_neg (by rwa [List.isEmpty_iff])]
  simp only [csvRecords_of_even heven]
  rfl

lemma ne_nil_of_mem_written (hcolumns : r.columns ≠ []) (hfull : r.IsFull) :
    ∀ fields ∈ written r, fields ≠ [] := by
  have hpos : 0 < r.columns.length := List.length_pos_iff.2 hcolumns
  rw [written, List.forall_mem_cons, List.forall_mem_map]
  refine ⟨fun h => hcolumns (List.map_eq_nil_iff.1 h), fun row hrow h => ?_⟩
  have hrow := hfull row hrow
  rw [List.map_eq_nil_iff.1 h, List.length_nil] at hrow
  omega

/-- Written records are read from the text without the blanks at its end just in case there are
none. -/
lemma read?_trimEnd_iff {more : List (List (List Char))} (before : List (List Char)) (f : List Char)
    (hread : read? (more.flatMap csvRecord ++ csvLine (before ++ [f])) = some records) :
    read? (trimEnd (more.flatMap csvRecord ++ csvLine (before ++ [f]))) = some records ↔
      Guarded f := by
  have hends := endsBlank_csvLine_iff before f
  constructor
  · intro h
    by_contra hguard
    obtain ⟨hplain, hblank⟩ := not_or.1 hguard
    rw [not_not] at hblank
    obtain ⟨g, c, rfl⟩ := (List.eq_nil_or_concat' f).resolve_left (by rintro rfl; cases hblank)
    have hfield : csvField (g ++ [c]) = g ++ [c] := if_neg hplain
    obtain ⟨s, hs⟩ := exists_csvLine_eq before (f := g ++ [c]) (by simp)
    rw [Bool.not_eq_true, needsQuotes_eq_false_iff] at hplain
    rw [endsBlank_concat] at hblank
    rw [hs, hfield, ← List.append_assoc, ← List.append_assoc] at hread h
    rw [trimEnd_append_of_blank (by simpa using hblank)] at h
    obtain ⟨lost, hbody, -⟩ := exists_trimEnd (more.flatMap csvRecord ++ s ++ g)
    rw [hbody] at hread
    exact read?_append_ne (hplain c (by simp)) hread h
  · intro hguard
    have hkept : ¬EndsBlank (more.flatMap csvRecord ++ csvLine (before ++ [f])) := by
      rwa [endsBlank_append _ (csvLine_ne_nil (by simp)), hends, not_not]
    obtain ⟨s, c, hbody⟩ :=
      (List.eq_nil_or_concat' (more.flatMap csvRecord ++ csvLine (before ++ [f]))).resolve_left
        (List.append_ne_nil_of_right_ne_nil _ (csvLine_ne_nil (by simp)))
    rw [hbody, endsBlank_concat, Bool.not_eq_true] at hkept
    rwa [hbody, trimEnd_concat hkept, ← hbody]

/-- **CSV can be read back, up to blanks at its end.** The text of a result, with blanks behind it
that were lost, is read as the names and the rows. It is so by itself just in case the last field
of all stands in quotes or does not end in a blank. -/
theorem csv_read_back (hcolumns : r.columns ≠ []) (hfull : r.IsFull) :
    ∃ text lost : List Char, csv r = .ok (String.ofList text) ∧ (∀ c ∈ lost, isBlank c = true) ∧
      read? (text ++ lost) = some (written r) ∧
      (read? text = some (written r) ↔
        ∀ fields ∈ (written r).getLast?, ∀ f ∈ fields.getLast?, Guarded f) := by
  have hne := ne_nil_of_mem_written hcolumns hfull
  obtain ⟨more, last, hlast⟩ := (List.eq_nil_or_concat' (written r)).resolve_left
    (List.cons_ne_nil _ _)
  have hlastne : last ≠ [] := hne last (by rw [hlast]; simp)
  obtain ⟨before, f, rfl⟩ := (List.eq_nil_or_concat' last).resolve_left hlastne
  have hmore : ∀ fields ∈ more, fields ≠ [] :=
    fun fields h => hne fields (by rw [hlast]; exact List.mem_append_left _ h)
  have hread := read?_csvLine hmore hlastne
  rw [← hlast] at hread
  obtain ⟨lost, hbody, hlost⟩ := exists_trimEnd (more.flatMap csvRecord ++ csvLine (before ++ [f]))
  have hline : ∀ c ∈ ['\n'], isBlank c = true := List.forall_mem_singleton.2 (by decide)
  refine ⟨trimEnd (more.flatMap csvRecord ++ csvLine (before ++ [f])), lost, ?_, hlost, ?_, ?_⟩
  · rw [csv_eq hcolumns hfull, hlast, List.flatMap_append, List.flatMap_singleton, csvRecord_eq,
      ← List.append_assoc, trimEnd_append_of_blank hline]
  · rw [← hbody, hread]
  · rw [read?_trimEnd_iff before f hread, hlast]
    simp

/-- Texts with a comma, quotes, a line end and blanks, the last of all in quotes. -/
def notes : ResultSet := .ofRows ["id", " note"]
  [[.int 1, .str "a, \"b\" "], [.null, .str "two\nlines "]]

theorem csv_read_back_notes :
    notes.columns ≠ [] ∧ notes.IsFull ∧
    ∃ text, csv notes = .ok (String.ofList text) ∧
      read? text = some [["id".toList, " note".toList], ["1".toList, "a, \"b\" ".toList],
        ["null".toList, "two\nlines ".toList]] := by
  have hcolumns : notes.columns ≠ [] := by decide
  have hfull : notes.IsFull := by decide
  obtain ⟨text, -, htext, -, -, hread⟩ := csv_read_back hcolumns hfull
  have hwritten : written notes = [["id".toList, " note".toList], ["1".toList,
      "a, \"b\" ".toList], ["null".toList, "two\nlines ".toList]] := by decide +kernel
  rw [hwritten] at hread
  refine ⟨hcolumns, hfull, text, htext, hread.2 ?_⟩
  rintro _ ⟨⟩ _ ⟨⟩
  exact .inl (by decide)

/-- One column whose last cell is a space. -/
def blankEnd : ResultSet := .ofRows ["v"] [[.str "x"], [.str " "]]

/-- The line of the space is lost, and with it the row. -/
theorem blank_row_lost :
    blankEnd.columns ≠ [] ∧ blankEnd.IsFull ∧ csv blankEnd = .ok "v\nx" ∧
      read? "v\nx".toList = some [["v".toList], ["x".toList]] ∧
      written blankEnd = [["v".toList], ["x".toList], [" ".toList]] ∧
      read? "v\nx".toList ≠ some (written blankEnd) := by
  have hcsv : csv blankEnd = .ok "v\nx" := by
    rw [csv_eq (by decide) (by decide)]
    exact congrArg Except.ok (by decide +kernel)
  exact ⟨by decide, by decide, hcsv, by decide, by decide +kernel, by decide +kernel⟩

end QueryGuard.Proofs.CsvReading
