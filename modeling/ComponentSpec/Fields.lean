/-!
# Ordered fields

A mapping from names to values that keeps the order in which the names were first given.  Giving a
name again replaces its value and leaves its position.

Main statements: what is read after a field was set (`get?_set`), how setting a field changes the
list of names (`names_set`), and that fields with distinct names stand in the order in which they
were set (`ofPairs_of_nodup`).
-/

namespace ComponentSpec

/-- Named values in order. -/
abbrev Fields (α : Type) := List (String × α)

namespace Fields

variable {α : Type}

/-- The names in order. -/
def names (fields : Fields α) : List String :=
  fields.map (·.1)

/-- The value of a name. -/
def get? : Fields α → String → Option α
  | [], _ => none
  | (n, v) :: rest, name => if n == name then some v else get? rest name

/-- Gives a name a value: in place if the name is there, else at the end. -/
def set (name : String) (value : α) : Fields α → Fields α
  | [] => [(name, value)]
  | (n, v) :: rest => if n == name then (n, value) :: rest else (n, v) :: set name value rest

/-- The fields that result from giving the names their values one after another. -/
def ofPairs (pairs : List (String × α)) : Fields α :=
  pairs.foldl (fun fields (name, value) => fields.set name value) []

theorem get?_set (fields : Fields α) (name other : String) (value : α) :
    get? (set name value fields) other =
      if name = other then some value else get? fields other := by
  induction fields with
  | nil => simp [set, get?]
  | cons field rest ih =>
      obtain ⟨n, v⟩ := field
      by_cases hn : n = name
      · subst hn
        by_cases h : n = other <;> simp [set, get?, h]
      · by_cases h : n = other
        · subst h
          simp [set, get?, hn, Ne.symm hn]
        · simp [set, get?, hn, h, ih]

theorem get?_eq_none_iff {fields : Fields α} {name : String} :
    get? fields name = none ↔ name ∉ names fields := by
  induction fields with
  | nil => simp [get?, names]
  | cons field rest ih =>
      obtain ⟨n, v⟩ := field
      unfold names at ih
      by_cases h : n = name
      · simp [get?, names, h]
      · simpa [get?, names, h, Ne.symm h] using ih

theorem mem_of_get?_eq_some {fields : Fields α} {name : String} {value : α}
    (h : get? fields name = some value) : (name, value) ∈ fields := by
  induction fields with
  | nil => cases h
  | cons field rest ih =>
      obtain ⟨n, v⟩ := field
      by_cases hn : n = name
      · simp only [get?, hn, beq_self_eq_true, if_true, Option.some.injEq] at h
        simp [hn, h]
      · simp only [get?, beq_iff_eq, hn, if_false] at h
        exact List.mem_cons_of_mem _ (ih h)

theorem names_set (fields : Fields α) (name : String) (value : α) :
    names (set name value fields) =
      if name ∈ names fields then names fields else names fields ++ [name] := by
  induction fields with
  | nil => simp [set, names]
  | cons field rest ih =>
      obtain ⟨n, v⟩ := field
      unfold names at ih
      by_cases hn : n = name
      · simp [set, names, hn]
      · simp only [set, beq_iff_eq, hn, if_false, names, List.map_cons, ih, List.mem_cons,
          Ne.symm hn, false_or]
        split <;> simp

theorem set_of_not_mem {fields : Fields α} {name : String} (h : name ∉ names fields) (value : α) :
    set name value fields = fields ++ [(name, value)] := by
  induction fields with
  | nil => rfl
  | cons field rest ih =>
      obtain ⟨n, v⟩ := field
      simp only [names, List.map_cons, List.mem_cons, not_or] at h
      simp [set, Ne.symm h.1, ih h.2]

theorem set_set (fields : Fields α) (name : String) (value other : α) :
    set name value (set name other fields) = set name value fields := by
  induction fields with
  | nil => simp [set]
  | cons field rest ih =>
      obtain ⟨n, v⟩ := field
      by_cases hn : n = name <;> simp [set, hn, ih]

/-- Fields that are set one after another with distinct names stand in this order. -/
theorem foldl_set_of_nodup {start pairs : Fields α} (h : (names (start ++ pairs)).Nodup) :
    pairs.foldl (fun fields (name, value) => fields.set name value) start = start ++ pairs := by
  induction pairs generalizing start with
  | nil => simp
  | cons pair rest ih =>
      obtain ⟨name, value⟩ := pair
      have hnew : name ∉ names start := by
        simp only [names, List.map_append, List.map_cons, List.nodup_append] at h
        exact fun hmem => h.2.2 name hmem name (List.mem_cons_self ..) rfl
      have happend : start ++ (name, value) :: rest = (start ++ [(name, value)]) ++ rest := by
        simp
      rw [happend] at h ⊢
      rw [List.foldl_cons, ← ih h, ← set_of_not_mem hnew]

theorem ofPairs_of_nodup {pairs : List (String × α)} (h : (names pairs).Nodup) :
    ofPairs pairs = pairs :=
  foldl_set_of_nodup h

end Fields
end ComponentSpec
