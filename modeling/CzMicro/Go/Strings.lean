import Mathlib.Data.List.Infix

/-!
# Go の `strings` パッケージ

Go の文字列を Lean の `String`（文字の並び）で表し、ソースが使う関数をその並びの上で書く。
ソースの区切りと接頭辞はすべて ASCII なので、UTF-8 の byte の並びの上の関数と同じ答えを返す。
-/

namespace CzMicro.Strings

/-- `strings.HasPrefix`。 -/
def hasPrefix (s pre : String) : Bool := pre.data.isPrefixOf s.data

/-- `strings.HasSuffix`。 -/
def hasSuffix (s suf : String) : Bool := suf.data.isSuffixOf s.data

/-- `strings.TrimPrefix`。 -/
def trimPrefix (s pre : String) : String :=
  if hasPrefix s pre then ⟨s.data.drop pre.data.length⟩ else s

/-- `strings.TrimSuffix`。 -/
def trimSuffix (s suf : String) : String :=
  if hasSuffix s suf then ⟨s.data.take (s.data.length - suf.data.length)⟩ else s

/-- `strings.Split` の本体。区切りまでの文字を `acc` に逆順に積み、区切りで切る。 -/
def splitChars (sep : Char) : List Char → List Char → List String
  | acc, [] => [⟨acc.reverse⟩]
  | acc, c :: cs => if c = sep then ⟨acc.reverse⟩ :: splitChars sep [] cs else splitChars sep (c :: acc) cs

/-- `strings.Split`。ソースは一文字の区切り（`"="`）でしか使わない。 -/
def split (s : String) (sep : Char) : List String := splitChars sep [] s.data

/-- `strings.Join`。 -/
def join : List String → String → String
  | [], _ => ""
  | [e], _ => e
  | e :: es, sep => e ++ sep ++ join es sep

theorem length_eq_zero_iff {s : String} : s.length = 0 ↔ s = "" := by
  rw [String.ext_iff]
  exact List.length_eq_zero

theorem length_pos_iff {s : String} : 0 < s.length ↔ s ≠ "" := by
  rw [Nat.pos_iff_ne_zero, Ne, length_eq_zero_iff]

/-! ## 接頭辞と接尾辞 -/

theorem hasPrefix_iff {s pre : String} : hasPrefix s pre = true ↔ pre.data <+: s.data :=
  List.isPrefixOf_iff_prefix

theorem hasSuffix_iff {s suf : String} : hasSuffix s suf = true ↔ suf.data <:+ s.data :=
  List.isSuffixOf_iff_suffix

theorem hasPrefix_iff_exists {s pre : String} : hasPrefix s pre = true ↔ ∃ t, s = pre ++ t := by
  rw [hasPrefix_iff]
  constructor
  · rintro ⟨t, ht⟩; exact ⟨⟨t⟩, String.ext (by simp [ht])⟩
  · rintro ⟨t, rfl⟩; exact List.prefix_append _ _

/-- 二つの接頭辞は、どちらかがもう一方の接頭辞でなければ、同時には付かない。 -/
theorem hasPrefix_eq_false_of {s p q : String} (h : hasPrefix s p = true)
    (hpq : hasPrefix p q = false) (hqp : hasPrefix q p = false) : hasPrefix s q = false := by
  cases hs : hasPrefix s q
  · rfl
  · rcases List.prefix_or_prefix_of_prefix (hasPrefix_iff.mp h) (hasPrefix_iff.mp hs) with h' | h'
    · exact absurd (hasPrefix_iff.mpr h') (by simp [hqp])
    · exact absurd (hasPrefix_iff.mpr h') (by simp [hpq])

@[simp] theorem hasPrefix_append (pre s : String) : hasPrefix (pre ++ s) pre = true :=
  hasPrefix_iff.mpr (List.prefix_append _ _)

@[simp] theorem hasSuffix_append (s suf : String) : hasSuffix (s ++ suf) suf = true :=
  hasSuffix_iff.mpr (List.suffix_append _ _)

@[simp] theorem trimPrefix_append (pre s : String) : trimPrefix (pre ++ s) pre = s := by
  simp [trimPrefix, String.ext_iff]

@[simp] theorem trimSuffix_append (s suf : String) : trimSuffix (s ++ suf) suf = s := by
  simp [trimSuffix, String.ext_iff]

theorem trimPrefix_of_not {s pre : String} (h : hasPrefix s pre = false) : trimPrefix s pre = s := by
  simp [trimPrefix, h]

theorem trimSuffix_of_not {s suf : String} (h : hasSuffix s suf = false) : trimSuffix s suf = s := by
  simp [trimSuffix, h]

/-- 接頭辞があれば、`s` は接頭辞に取り除いた残りを足したもので、なければ `s` は変わらない。 -/
theorem trimPrefix_cases (s pre : String) :
    if hasPrefix s pre = true then pre ++ trimPrefix s pre = s else trimPrefix s pre = s := by
  split
  · next h =>
    obtain ⟨t, rfl⟩ := hasPrefix_iff_exists.mp h
    rw [trimPrefix_append]
  · next h => exact trimPrefix_of_not (Bool.eq_false_iff.mpr h)

/-- 接尾辞があれば、`s` は取り除いた残りに接尾辞を足したものである。 -/
theorem trimSuffix_append_of {s suf : String} (h : hasSuffix s suf = true) :
    trimSuffix s suf ++ suf = s := by
  obtain ⟨a, ha⟩ := hasSuffix_iff.mp h
  have : s = ⟨a⟩ ++ suf := String.ext (by simpa using ha.symm)
  subst this; simp

/-! ## 区切りでの分割と連結 -/

theorem splitChars_ne_nil (sep : Char) (acc cs : List Char) : splitChars sep acc cs ≠ [] := by
  induction cs generalizing acc with
  | nil => simp [splitChars]
  | cons c cs ih => unfold splitChars; split <;> simp [ih]

theorem splitChars_length (sep : Char) (acc cs : List Char) :
    (splitChars sep acc cs).length = cs.count sep + 1 := by
  induction cs generalizing acc with
  | nil => rfl
  | cons c cs ih =>
    unfold splitChars
    split <;> simp_all [List.count_cons]

/-- 区切りを含まない塊は `acc` に積まれるだけである。 -/
theorem splitChars_append {sep : Char} {a : List Char} (ha : sep ∉ a) (acc b : List Char) :
    splitChars sep acc (a ++ b) = splitChars sep (a.reverse ++ acc) b := by
  induction a generalizing acc with
  | nil => rfl
  | cons c a ih =>
    have hc : c ≠ sep := fun h => ha (h ▸ List.mem_cons_self _ _)
    rw [List.cons_append, splitChars, if_neg hc, ih (fun h => ha (List.mem_cons_of_mem _ h))]
    simp

theorem length_split (s : String) (sep : Char) : (split s sep).length = s.data.count sep + 1 :=
  splitChars_length sep [] s.data

theorem split_of_not_mem {s : String} {sep : Char} (h : sep ∉ s.data) : split s sep = [s] := by
  have := splitChars_append h [] []
  simpa [split, splitChars] using this

/-- 最初の区切りの前までが先頭の要素になり、残りは区切りの後ろの分割である。 -/
theorem split_eq_cons {s a b : String} {sep : Char} (hs : s.data = a.data ++ sep :: b.data)
    (ha : sep ∉ a.data) : split s sep = a :: split b sep := by
  rw [split, hs, splitChars_append ha, splitChars, if_pos rfl]
  simp [split]

theorem join_cons_cons (e e' : String) (es : List String) (sep : String) :
    join (e :: e' :: es) sep = e ++ sep ++ join (e' :: es) sep := rfl

theorem join_splitChars (sep : Char) (acc cs : List Char) :
    join (splitChars sep acc cs) (String.singleton sep) = ⟨acc.reverse ++ cs⟩ := by
  induction cs generalizing acc with
  | nil => simp [splitChars, join]
  | cons c cs ih =>
    unfold splitChars
    split
    · obtain ⟨e, es, he⟩ := List.exists_cons_of_ne_nil (splitChars_ne_nil sep [] cs)
      have := ih []
      rw [he] at this ⊢
      simp_all [join_cons_cons, String.ext_iff]
    · simp [ih]

/-- **分割してから区切りで連結すると元の文字列に戻る。** -/
theorem join_split (s : String) (sep : Char) : join (split s sep) (String.singleton sep) = s := by
  simpa using join_splitChars sep [] s.data

end CzMicro.Strings
