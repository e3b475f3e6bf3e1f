/-!
Values under names, in increasing order of the names. The order is that of the code points, so
two maps with the same entries are equal however they were made.
-/

namespace QueryGuard

/-- Sets the value under `name` to `change` of what stands there. -/
def putName {α : Type} (name : String) (change : Option α → α) :
    List (String × α) → List (String × α)
  | [] => [(name, change none)]
  | (n, v) :: rest =>
    if name < n then (name, change none) :: (n, v) :: rest
    else if name = n then (n, change (some v)) :: rest
    else (n, v) :: putName name change rest

/-- Entries in increasing order, no name twice. -/
structure NameMap (α : Type) where
  entries : List (String × α)
  increasing : entries.Pairwise (·.1 < ·.1)

theorem fst_of_mem_putName {α : Type} {name : String} {change : Option α → α}
    {l : List (String × α)} {e : String × α} (h : e ∈ putName name change l) :
    e.1 = name ∨ ∃ f ∈ l, e.1 = f.1 := by
  induction l with
  | nil => simp_all [putName]
  | cons f l ih =>
    obtain ⟨n, v⟩ := f
    simp only [putName] at h
    split at h
    · rcases List.mem_cons.1 h with rfl | h
      · exact .inl rfl
      · exact .inr ⟨e, h, rfl⟩
    · split at h
      · rcases List.mem_cons.1 h with rfl | h
        · exact .inr ⟨(n, v), by simp, rfl⟩
        · exact .inr ⟨e, by simp [h], rfl⟩
      · rcases List.mem_cons.1 h with rfl | h
        · exact .inr ⟨(n, v), by simp, rfl⟩
        · rcases ih h with h | ⟨f, hf, h⟩
          · exact .inl h
          · exact .inr ⟨f, by simp [hf], h⟩

theorem pairwise_putName {α : Type} (name : String) (change : Option α → α)
    {l : List (String × α)} (h : l.Pairwise (·.1 < ·.1)) :
    (putName name change l).Pairwise (·.1 < ·.1) := by
  induction l with
  | nil => simp [putName]
  | cons f l ih =>
    obtain ⟨n, v⟩ := f
    rw [List.pairwise_cons] at h
    simp only [putName]
    split
    · rename_i hlt
      rw [List.pairwise_cons]
      refine ⟨fun e he => ?_, List.pairwise_cons.2 h⟩
      rcases List.mem_cons.1 he with rfl | he
      · exact hlt
      · exact String.lt_trans hlt (h.1 e he)
    · split
      · rw [List.pairwise_cons]
        exact ⟨h.1, h.2⟩
      · rename_i hge hne
        rw [List.pairwise_cons]
        refine ⟨fun e he => ?_, ih h.2⟩
        rcases fst_of_mem_putName he with hn | ⟨f, hf, hn⟩
        · rw [hn]
          have hle : n ≤ name := String.not_lt.1 hge
          exact Std.lt_of_le_of_ne hle (Ne.symm hne)
        · rw [hn]
          exact h.1 f hf

namespace NameMap

variable {α : Type}

def empty : NameMap α := ⟨[], .nil⟩

def alter (m : NameMap α) (name : String) (change : Option α → α) : NameMap α :=
  ⟨putName name change m.entries, pairwise_putName name change m.increasing⟩

def insert (m : NameMap α) (name : String) (value : α) : NameMap α := m.alter name fun _ => value

def get? (m : NameMap α) (name : String) : Option α := m.entries.lookup name

def names (m : NameMap α) : List String := m.entries.map (·.1)

/-- Of entries with one name the last counts. -/
def ofList (l : List (String × α)) : NameMap α := l.foldl (fun m e => m.insert e.1 e.2) empty

end NameMap

end QueryGuard
