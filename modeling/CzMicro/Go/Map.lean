import Mathlib.Data.List.Basic

/-!
# Go の `map[string]string`

鍵が重ならないことを構造の欄に持たせる。代入 `m[k] = v` は古い `k` の項を消して前に足す。
-/

namespace CzMicro

/-- Go の `map[string]string`。 -/
structure GoMap where
  entries : List (String × String)
  nodup : (entries.map Prod.fst).Nodup

namespace GoMap

/-- `make(map[string]string)`。 -/
def empty : GoMap := ⟨[], List.nodup_nil⟩

/-- `m[k] = v`。 -/
def insert (m : GoMap) (k v : String) : GoMap :=
  ⟨(k, v) :: m.entries.filter (·.1 != k), by
    refine List.nodup_cons.mpr ⟨?_, (List.filter_sublist _).map _ |>.nodup m.nodup⟩
    simp [List.mem_filter]⟩

/-- `v, ok := m[k]`。 -/
def get (m : GoMap) (k : String) : Option String := m.entries.lookup k

/-- `len(m)`。 -/
def len (m : GoMap) : Nat := m.entries.length

private theorem lookup_cons_ite (a k : String) (b : String) (es : List (String × String)) :
    ((a, b) :: es).lookup k = if k = a then some b else es.lookup k := by
  by_cases h : k = a
  · simp [h]
  · simp [List.lookup_cons, beq_false_of_ne h, h]

private theorem lookup_filter_ne {k k' : String} (h : k' ≠ k) (es : List (String × String)) :
    (es.filter (·.1 != k)).lookup k' = es.lookup k' := by
  induction es with
  | nil => rfl
  | cons e es ih =>
    obtain ⟨a, b⟩ := e
    by_cases ha : a = k
    · subst ha; simp [lookup_cons_ite, ih, h]
    · simp [List.filter_cons, ha, lookup_cons_ite, ih]

@[simp] theorem get_empty (k : String) : empty.get k = none := rfl

@[simp] theorem get_insert (m : GoMap) (k v k' : String) :
    (m.insert k v).get k' = if k' = k then some v else m.get k' := by
  simp only [get, insert, lookup_cons_ite]
  split
  · rfl
  · next h => exact lookup_filter_ne h _

theorem len_pos_iff (m : GoMap) : 0 < m.len ↔ ∃ k v, m.get k = some v := by
  constructor
  · intro h
    obtain ⟨⟨k, v⟩, es, he⟩ := List.exists_cons_of_length_pos h
    exact ⟨k, v, by simp [get, he]⟩
  · rintro ⟨k, v, h⟩
    cases he : m.entries with
    | nil => simp [get, he] at h
    | cons e es => simp [len, he]

end GoMap

end CzMicro
