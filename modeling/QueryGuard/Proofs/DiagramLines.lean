import Mathlib
import QueryGuard.Schema.Diagram

/-!
The lines of a diagram.

Names reach a diagram only as words of ASCII letters, digits and underscores, whatever signs they
are made of. So no name can break a line, close a block or open one: the lines that the text is cut
into are those that were put together, a block for every table and a line for every foreign key.
-/

namespace QueryGuard.Proofs.DiagramLines

open Schema

/-! ### Words for names -/

/-- An ASCII letter, a digit or the underscore. -/
def InWord (c : Char) : Prop :=
  'A' ≤ c ∧ c ≤ 'Z' ∨ 'a' ≤ c ∧ c ≤ 'z' ∨ '0' ≤ c ∧ c ≤ '9' ∨ c = '_'

/-- The word that stands for a name. A sign of the name that a word may have keeps its place, and
all others become underscores. -/
structure Shows (word name : List Char) : Prop where
  ne_nil : word ≠ []
  inWord : ∀ c ∈ word, InWord c
  kept : name ≠ [] → List.Forall₂ (fun d c => d = c ∨ ¬InWord c ∧ d = '_') word name
  unnamed : name = [] → word = "unknown".toList

lemma isIdentifierChar_iff (c : Char) : isIdentifierChar c = true ↔ InWord c := by
  simp [isIdentifierChar, InWord, Char.isAlphanum, Char.isAlpha, Char.isUpper, Char.isLower,
    Char.isDigit, Char.le_def, or_assoc]

/-- The sign of a word for a sign of a name. -/
def wordChar (c : Char) : Char := if isIdentifierChar c then c else '_'

lemma inWord_wordChar (c : Char) : InWord (wordChar c) := by
  unfold wordChar
  split
  · rename_i hc
    exact (isIdentifierChar_iff c).1 hc
  · exact .inr (.inr (.inr rfl))

lemma wordChar_cases (c : Char) : wordChar c = c ∨ ¬InWord c ∧ wordChar c = '_' := by
  rw [← isIdentifierChar_iff, wordChar]
  by_cases hc : isIdentifierChar c = true
  · exact .inl (if_pos hc)
  · exact .inr ⟨hc, if_neg hc⟩

lemma shows_identifier (name : String) : Shows (identifier name).toList name.toList := by
  unfold identifier
  cases hname : name.toList with
  | nil =>
    refine ⟨by simp, fun c hc => ?_, fun h => absurd rfl h, fun _ => rfl⟩
    rw [← isIdentifierChar_iff]
    have hall : "unknown".toList.all isIdentifierChar = true := by decide
    exact List.all_eq_true.1 hall c hc
  | cons c s =>
    have hword : (String.ofList ((c :: s).map wordChar)).toList = (c :: s).map wordChar :=
      String.toList_ofList
    refine ⟨?_, fun d hd => ?_, fun _ => ?_, nofun⟩
    · simp
    · obtain ⟨e, -, rfl⟩ := List.mem_map.1 (hword ▸ hd)
      exact inWord_wordChar e
    · change List.Forall₂ _ (String.ofList ((c :: s).map wordChar)).toList (c :: s)
      rw [hword, List.forall₂_map_left_iff, List.forall₂_same]
      exact fun d _ => wordChar_cases d

/-! ### The lines that belong in a diagram -/

/-- The line of a column: its type, then its name. -/
def IsColumnLine (c : Column) (line : List Char) : Prop :=
  ∃ type name, Shows type c.type.toList ∧ Shows name c.name.toList ∧
    line = "    ".toList ++ type ++ " ".toList ++ name

/-- The lines of a table: its columns in order, between a line that opens the block and one that
closes it. -/
def IsBlock (t : String × List Column) (lines : List (List Char)) : Prop :=
  ∃ id body, Shows id t.1.toList ∧ List.Forall₂ IsColumnLine t.2 body ∧
    lines = ("  ".toList ++ id ++ " \x7b".toList) :: (body ++ ["  \x7d".toList])

/-- What is written at a foreign key: its columns, if it has any. -/
def IsLabel (columns : List String) (label : List Char) : Prop :=
  columns = [] ∧ label = "fk".toList ∨
    columns ≠ [] ∧ ∃ ids, List.Forall₂ (fun c id => Shows id c.toList) columns ids ∧
      label = ", ".toList.intercalate ids

/-- The line of a foreign key: the table that it refers to, then its own. -/
def IsKeyLine (k : ForeignKey) (line : List Char) : Prop :=
  ∃ referred id label, Shows referred k.referredTable.toList ∧ Shows id k.table.toList ∧
    IsLabel k.columns label ∧
    line = "  ".toList ++ referred ++ " ||--o\x7b ".toList ++ id ++ " : \"".toList ++ label ++
      "\"".toList

lemma isColumnLine_columnLine (c : Column) : IsColumnLine c (columnLine c).toList := by
  refine ⟨_, _, shows_identifier c.type, shows_identifier c.name, ?_⟩
  simp only [columnLine, String.toList_append]

lemma isBlock_tableLines (t : String × List Column) :
    IsBlock t ((tableLines t).map String.toList) := by
  refine ⟨_, (t.2.map columnLine).map String.toList, shows_identifier t.1, ?_, ?_⟩
  · rw [List.map_map, List.forall₂_map_right_iff, List.forall₂_same]
    exact fun c _ => isColumnLine_columnLine c
  · simp only [tableLines, List.map_cons, List.map_append, List.map_nil, String.toList_append]

lemma isLabel_keyLabel (k : ForeignKey) : IsLabel k.columns (keyLabel k).toList := by
  unfold keyLabel
  split
  · rename_i hnone
    exact .inl ⟨List.isEmpty_iff.1 hnone, rfl⟩
  · rename_i hsome
    refine .inr ⟨fun h => hsome (List.isEmpty_iff.2 h), _, ?_, String.toList_intercalate⟩
    rw [List.forall₂_map_right_iff, List.forall₂_map_right_iff, List.forall₂_same]
    exact fun c _ => shows_identifier c

lemma isKeyLine_keyLine (k : ForeignKey) : IsKeyLine k (keyLine k).toList := by
  refine ⟨_, _, _, shows_identifier k.referredTable, shows_identifier k.table,
    isLabel_keyLabel k, ?_⟩
  simp only [keyLine, String.toList_append]

/-! ### No line breaks in them -/

lemma forall_mem_of_forall₂ {α β : Type} {r : α → β → Prop} {p : β → Prop}
    (hr : ∀ a b, r a b → p b) {as : List α} {bs : List β} (h : List.Forall₂ r as bs) :
    ∀ b ∈ bs, p b := by
  induction h with
  | nil => exact fun _ hm => nomatch hm
  | cons hab _ ih => exact List.forall_mem_cons.2 ⟨hr _ _ hab, ih⟩

lemma Shows.newline_not_mem {word name : List Char} (h : Shows word name) : '\n' ∉ word := by
  intro hm
  have hbreak : ¬InWord '\n' := by
    rw [← isIdentifierChar_iff]
    decide
  exact hbreak (h.inWord _ hm)

lemma IsColumnLine.newline_not_mem {c : Column} {line : List Char} (h : IsColumnLine c line) :
    '\n' ∉ line := by
  obtain ⟨type, name, htype, hname, rfl⟩ := h
  simp [htype.newline_not_mem, hname.newline_not_mem]

lemma IsBlock.newline_not_mem {t : String × List Column} {lines : List (List Char)}
    (h : IsBlock t lines) : ∀ line ∈ lines, '\n' ∉ line := by
  obtain ⟨id, body, hid, hbody, rfl⟩ := h
  rw [List.forall_mem_cons, List.forall_mem_append, List.forall_mem_singleton]
  refine ⟨by simp [hid.newline_not_mem], ?_, by decide⟩
  exact forall_mem_of_forall₂ (fun _ _ hline => hline.newline_not_mem) hbody

lemma not_mem_intercalate {x : Char} {separator : List Char} {words : List (List Char)}
    (hs : x ∉ separator) (hw : ∀ w ∈ words, x ∉ w) : x ∉ separator.intercalate words := by
  induction words with
  | nil => simp
  | cons w words ih =>
    rw [List.forall_mem_cons] at hw
    cases words with
    | nil => simpa using hw.1
    | cons v words =>
      rw [List.intercalate_cons_cons, List.mem_append, List.mem_append]
      simp [hs, hw.1, ih hw.2]

lemma IsLabel.newline_not_mem {columns : List String} {label : List Char}
    (h : IsLabel columns label) : '\n' ∉ label := by
  obtain ⟨-, rfl⟩ | ⟨-, ids, hids, rfl⟩ := h
  · decide
  · refine not_mem_intercalate (by decide) ?_
    exact forall_mem_of_forall₂ (fun _ _ hword => hword.newline_not_mem) hids

lemma IsKeyLine.newline_not_mem {k : ForeignKey} {line : List Char} (h : IsKeyLine k line) :
    '\n' ∉ line := by
  obtain ⟨referred, id, label, hreferred, hid, hlabel, rfl⟩ := h
  simp [hreferred.newline_not_mem, hid.newline_not_mem, hlabel.newline_not_mem]

/-! ### The whole diagram -/

lemma newline_not_mem_diagramLines (s : Schema) :
    ∀ line ∈ s.diagramLines.map String.toList, '\n' ∉ line := by
  rw [List.forall_mem_map, diagramLines, List.forall_mem_cons, List.forall_mem_append]
  refine ⟨by decide, fun line hline => ?_, fun line hline => ?_⟩
  · obtain ⟨t, -, hline⟩ := List.mem_flatMap.1 hline
    exact (isBlock_tableLines t).newline_not_mem _ (List.mem_map_of_mem hline)
  · obtain ⟨k, -, rfl⟩ := List.mem_map.1 hline
    exact (isKeyLine_keyLine k).newline_not_mem

lemma splitOn_diagram (s : Schema) :
    s.diagram.toList.splitOn '\n' = s.diagramLines.map String.toList := by
  rw [diagram, String.toList_intercalate]
  refine List.splitOn_intercalate '\n' (newline_not_mem_diagramLines s) ?_
  simp [diagramLines]

lemma length_tableLines (t : String × List Column) : (tableLines t).length = 2 + t.2.length := by
  simp only [tableLines, List.length_cons, List.length_append, List.length_map, List.length_nil]
  omega

/-- **Diagrams are well formed.** Whatever the names of a schema are, the lines of its diagram are
the heading, a block for each table in the order of the names, and a line for each foreign key in
order. A block has a line for each column and two more. -/
theorem diagram_wellFormed (s : Schema) :
    ∃ blocks keys,
      s.diagram.toList.splitOn '\n' = "erDiagram".toList :: (blocks.flatten ++ keys) ∧
      List.Forall₂ IsBlock s.tables.entries blocks ∧ List.Forall₂ IsKeyLine s.foreignKeys keys ∧
      s.tables.names.Pairwise (· < ·) ∧
      (s.diagram.toList.splitOn '\n').length =
        1 + (s.tables.entries.map fun t => 2 + t.2.length).sum + s.foreignKeys.length := by
  refine ⟨s.tables.entries.map fun t => (tableLines t).map String.toList,
    (s.foreignKeys.map keyLine).map String.toList, ?_, ?_, ?_, ?_, ?_⟩
  · rw [splitOn_diagram, diagramLines, List.map_cons, List.map_append, List.map_flatMap,
      List.flatMap_def]
  · rw [List.forall₂_map_right_iff, List.forall₂_same]
    exact fun t _ => isBlock_tableLines t
  · rw [List.map_map, List.forall₂_map_right_iff, List.forall₂_same]
    exact fun k _ => isKeyLine_keyLine k
  · exact List.pairwise_map.2 s.tables.increasing
  · rw [splitOn_diagram, List.length_map, diagramLines, List.length_cons, List.length_append,
      List.length_flatMap, List.length_map]
    simp only [length_tableLines]
    omega

end QueryGuard.Proofs.DiagramLines
