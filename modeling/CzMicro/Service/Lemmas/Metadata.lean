import CzMicro.Service.Run

/-!
# `--metadata` の読み取り

`=` での分割は、最初の `=` の前を鍵に、後ろを値にする（後ろの `=` は `Join` で戻る）。
ループは後の項で前の項を上書きするので、鍵ごとの値はその鍵を持つ最後の項が決める。
-/

namespace CzMicro.Service
open Strings

/-- 最初の `=` の前。 -/
def keyOf (s : String) : String := ⟨s.data.takeWhile (· != '=')⟩

/-- 最初の `=` の後ろ。 -/
def valueOf (s : String) : String := ⟨(s.data.dropWhile (· != '=')).tail⟩

/-- `=` を含み、鍵が `k` である項のうち最後のもの。 -/
def lastEntry (mds : List String) (k : String) : Option String :=
  (mds.filter fun s => '=' ∈ s.data ∧ keyOf s = k).getLast?

theorem not_mem_keyOf (s : String) : '=' ∉ (keyOf s).data := fun h => by
  simpa using List.mem_takeWhile_imp h

/-- `=` を含む文字の並びは、最初の `=` で二つに分かれる。 -/
theorem takeWhile_append_dropWhile_tail {l : List Char} (h : '=' ∈ l) :
    l = l.takeWhile (· != '=') ++ '=' :: (l.dropWhile (· != '=')).tail := by
  induction l with
  | nil => simp at h
  | cons c l ih =>
    by_cases hc : c = '='
    · simp [hc]
    · have h' : '=' ∈ l := (List.mem_cons.mp h).resolve_left fun e => hc e.symm
      simpa [List.takeWhile_cons, List.dropWhile_cons, hc] using ih h'

theorem data_eq_key_value {s : String} (h : '=' ∈ s.data) :
    s.data = (keyOf s).data ++ '=' :: (valueOf s).data :=
  takeWhile_append_dropWhile_tail h

theorem eq_key_value {s : String} (h : '=' ∈ s.data) : s = keyOf s ++ "=" ++ valueOf s :=
  String.ext (by simpa using data_eq_key_value h)

theorem keyOf_append {k : String} (hk : '=' ∉ k.data) (v : String) : keyOf (k ++ "=" ++ v) = k := by
  obtain ⟨l⟩ := k
  simp only [keyOf, String.ext_iff]
  induction l with
  | nil => rfl
  | cons c l ih =>
    have hc : c ≠ '=' := fun h => hk (h ▸ List.mem_cons_self _ _)
    simp_all [List.takeWhile_cons]

theorem valueOf_append {k : String} (hk : '=' ∉ k.data) (v : String) :
    valueOf (k ++ "=" ++ v) = v := by
  obtain ⟨l⟩ := k
  simp only [valueOf, String.ext_iff]
  induction l with
  | nil => rfl
  | cons c l ih =>
    have hc : c ≠ '=' := fun h => hk (h ▸ List.mem_cons_self _ _)
    simp_all [List.dropWhile_cons]

/-! ## ループの一回 -/

/-- 一回の分割は、`=` を含む項の鍵に値を代入し、含まない項を飛ばす。 -/
theorem metadataStep_eq (m : GoMap) (md : String) :
    metadataStep m md = if '=' ∈ md.data then m.insert (keyOf md) (valueOf md) else m := by
  by_cases h : '=' ∈ md.data
  · have hs := split_eq_cons (data_eq_key_value h) (not_mem_keyOf md)
    have hv : join (split (valueOf md) '=') "=" = valueOf md := join_split _ '='
    simp only [metadataStep, hs, List.length_cons, List.headD_cons, List.tail_cons, hv, if_pos h]
    rw [if_neg]
    simp [length_split]
  · simp [metadataStep, split_of_not_mem h, h]

/-- 表の各鍵の値は、その鍵を持つ最後の項の値である。そのような項がなければ初めの表の値である。 -/
theorem get_foldl_metadataStep (mds : List String) (m : GoMap) (k : String) :
    (mds.foldl metadataStep m).get k =
      match lastEntry mds k with
      | some s => some (valueOf s)
      | none => m.get k := by
  induction mds using List.reverseRecOn with
  | nil => rfl
  | append_singleton mds s ih =>
    rw [List.foldl_append, List.foldl_cons, List.foldl_nil, metadataStep_eq]
    by_cases hs : '=' ∈ s.data ∧ keyOf s = k
    · obtain ⟨h1, rfl⟩ := hs
      simp [lastEntry, List.filter_append, h1]
    · have : lastEntry (mds ++ [s]) k = lastEntry mds k := by
        simp [lastEntry, List.filter_append, hs]
      rw [this]
      split
      · next h1 =>
        have : keyOf s ≠ k := fun he => hs ⟨h1, he⟩
        simpa [Ne.symm this] using ih
      · exact ih

theorem lastEntry_spec {mds : List String} {k s : String} (h : lastEntry mds k = some s) :
    s ∈ mds ∧ '=' ∈ s.data ∧ keyOf s = k := by
  obtain ⟨ys, hys⟩ := List.getLast?_eq_some_iff.mp h
  have : s ∈ mds.filter fun s => '=' ∈ s.data ∧ keyOf s = k := by rw [hys]; simp
  simpa using this

/-- `=` を含む項があれば、その鍵の最後の項がある。 -/
theorem lastEntry_ne_none {mds : List String} {s : String} (hs : s ∈ mds) (h : '=' ∈ s.data) :
    lastEntry mds (keyOf s) ≠ none := by
  simp only [lastEntry, ne_eq, List.getLast?_eq_none_iff, List.filter_eq_nil_iff, not_forall]
  exact ⟨s, hs, by simp [h]⟩

end CzMicro.Service
