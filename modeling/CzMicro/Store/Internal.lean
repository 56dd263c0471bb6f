import CzMicro.Go.Strings

/-!
# `store` の内部テーブル

`store.Run` が据える `New` は、新しいデータベースと表を `micro` データベースの `internal` テーブルに
記録する。先にデータベースのキーを書き、次に表のキーを書く。二つの書き込みは一つにまとまって
いないので、二つ目が失敗すると一つ目だけが残る。ここでは書き込みの成否を外から与え、
`New` を繰り返したときに、どの表のキーにもそのデータベースのキーが伴うことを示す。
-/

namespace CzMicro.Store

open Strings

/-! ## 状態と一歩 -/

def databaseKey (database : String) : String := "databases/" ++ database

def tableKey (database table : String) : String := "tables/" ++ database ++ "/" ++ table

/-- 内部テーブルにあるキー。書かれる値はいつも空なので持たない。 -/
abbrev Internal := List String

/-- 成功した `Write`。同じキーは一つに保たれる。 -/
def write (t : Internal) (key : String) : Internal := t.insert key

/-- 二つの `Write` が返す誤り。 -/
structure Outcome where
  database : Option String
  table : Option String
  deriving DecidableEq, Repr

/-- `New`。書いた後の内部テーブルと、返す誤り（`%w` で包んだもの）。 -/
def new (t : Internal) (database table : String) (o : Outcome) : Internal × Option String :=
  match o.database with
  | some e => (t, some ("micro store couldn't store new database in internal table: " ++ e))
  | none =>
    let t := write t (databaseKey database)
    match o.table with
    | some e => (t, some ("micro store couldn't store new table in internal table: " ++ e))
    | none => (write t (tableKey database table), none)

/-- `New` への一つの呼び出し。 -/
structure Request where
  database : String
  table : String
  outcome : Outcome
  deriving DecidableEq, Repr

/-- 呼び出しを順に行った後の内部テーブル。 -/
def runNew (t : Internal) (rs : List Request) : Internal :=
  rs.foldl (fun t r => (new t r.database r.table r.outcome).1) t

/-! ## 一歩の性質 -/

theorem mem_write {t : Internal} {key k : String} : k ∈ write t key ↔ k = key ∨ k ∈ t := by
  simp [write, List.mem_insert_iff]

theorem subset_write (t : Internal) (key : String) : t ⊆ write t key :=
  fun _ hk => mem_write.mpr (.inr hk)

/-- 失敗した `New` は何も書かないか、データベースのキーだけを書く。誤りの文はどちらの書き込みが
落ちたかを言う。 -/
theorem new_spec (t : Internal) (d tb : String) (o : Outcome) :
    new t d tb o =
      match o.database, o.table with
      | some e, _ => (t, some ("micro store couldn't store new database in internal table: " ++ e))
      | none, some e => (write t (databaseKey d),
          some ("micro store couldn't store new table in internal table: " ++ e))
      | none, none => (write (write t (databaseKey d)) (tableKey d tb), none) := by
  unfold new
  rcases o with ⟨_ | _, _ | _⟩ <;> rfl

/-- 呼び出し `r` が記録するキー。データベースのキーは一つ目の書き込みが通れば残り、表のキーは
二つとも通ったときに限って残る。 -/
def Request.Records (r : Request) (k : String) : Prop :=
  (r.outcome.database = none ∧ k = databaseKey r.database) ∨
    (r.outcome = ⟨none, none⟩ ∧ k = tableKey r.database r.table)

theorem mem_new {t : Internal} {r : Request} {k : String} :
    k ∈ (new t r.database r.table r.outcome).1 ↔ k ∈ t ∨ r.Records k := by
  obtain ⟨d, tb, o⟩ := r
  rw [new_spec]
  rcases o with ⟨_ | _, _ | _⟩ <;> simp [Request.Records, mem_write] <;> tauto

/-- 呼び出しの列の後にあるキーは、初めからあったものか、どれかの呼び出しが記録したもの。 -/
theorem mem_runNew {t : Internal} {rs : List Request} {k : String} :
    k ∈ runNew t rs ↔ k ∈ t ∨ ∃ r ∈ rs, r.Records k := by
  induction rs generalizing t with
  | nil => simp [runNew]
  | cons r rs ih =>
    show k ∈ runNew (new t r.database r.table r.outcome).1 rs ↔ _
    rw [ih, mem_new]
    simp only [List.mem_cons, exists_eq_or_imp]
    tauto

/-! ## 不変条件 -/

/-- `tables/` で始まるキーはどれも、あるデータベースの表のキーであり、そのデータベースのキーが
テーブルにある。 -/
def Consistent (t : Internal) : Prop :=
  ∀ k ∈ t, hasPrefix k "tables/" = true → ∃ d tb, k = tableKey d tb ∧ databaseKey d ∈ t

theorem consistent_nil : Consistent [] := fun _ hk => absurd hk (List.not_mem_nil _)

theorem hasPrefix_databaseKey (d : String) : hasPrefix (databaseKey d) "tables/" = false :=
  hasPrefix_eq_false_of (hasPrefix_append "databases/" d) (by decide) (by decide)

theorem Consistent.mono {t t' : Internal} (h : Consistent t) (hsub : t ⊆ t')
    (hnew : ∀ k ∈ t', k ∉ t → hasPrefix k "tables/" = true →
      ∃ d tb, k = tableKey d tb ∧ databaseKey d ∈ t') : Consistent t' := by
  intro k hk hp
  by_cases hkt : k ∈ t
  · obtain ⟨d, tb, rfl, hd⟩ := h _ hkt hp
    exact ⟨d, tb, rfl, hsub hd⟩
  · exact hnew k hk hkt hp

theorem Consistent.write_databaseKey {t : Internal} (h : Consistent t) (d : String) :
    Consistent (write t (databaseKey d)) :=
  h.mono (subset_write _ _) fun k hk hkt hp => by
    rcases mem_write.mp hk with rfl | hk
    · simp [hasPrefix_databaseKey] at hp
    · exact absurd hk hkt

theorem Consistent.write_tableKey {t : Internal} (h : Consistent t) {d : String}
    (hd : databaseKey d ∈ t) (tb : String) : Consistent (write t (tableKey d tb)) :=
  h.mono (subset_write _ _) fun k hk hkt _ => by
    rcases mem_write.mp hk with rfl | hk
    · exact ⟨d, tb, rfl, subset_write _ _ hd⟩
    · exact absurd hk hkt

/-- 一歩は不変条件を保つ。 -/
theorem Consistent.new {t : Internal} (h : Consistent t) (d tb : String) (o : Outcome) :
    Consistent (new t d tb o).1 := by
  rw [new_spec]
  rcases o with ⟨_ | _, _ | _⟩
  · exact (h.write_databaseKey d).write_tableKey (mem_write.mpr (.inl rfl)) tb
  · exact h.write_databaseKey d
  all_goals exact h

/-- 呼び出しの列の全体でも保たれる。 -/
theorem Consistent.runNew {t : Internal} (h : Consistent t) (rs : List Request) :
    Consistent (runNew t rs) := by
  induction rs generalizing t with
  | nil => exact h
  | cons r rs ih => exact ih (h.new r.database r.table r.outcome)

theorem consistent_runNew_greeter :
    Consistent [] ∧
      Consistent (runNew [] [⟨"greeter", "users", ⟨none, none⟩⟩, ⟨"greeter", "posts", ⟨none, some "timeout"⟩⟩]) :=
  ⟨consistent_nil, consistent_nil.runNew _⟩

end CzMicro.Store
