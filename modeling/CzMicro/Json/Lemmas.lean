import CzMicro.Json.Decode

/-!
# 読み取りの一歩ずつの補題

空白でない文字の前では空白の読み飛ばしは何もしない。脱出のいらない文字は文字列の本体に
そのまま積まれる。値とオブジェクトは、先頭の文字が決まれば一つの枝に進む。
-/

namespace CzMicro.Json

theorem skipWs_cons {c : Char} (h : isWs c = false) (l : List Char) : skipWs (c :: l) = c :: l := by
  simp [skipWs, List.dropWhile_cons, h]

@[simp] theorem skipWs_nil : skipWs [] = [] := rfl

/-! ## 文字列の本体 -/

theorem stringBody_quote (hi : Option Nat) (acc rest : List Char) :
    stringBody hi acc ('"' :: rest) = some ((flush hi acc).reverse, rest) := by
  unfold stringBody; simp

theorem stringBody_unescaped_cons {c : Char} (h : unescaped c) (hi : Option Nat) (acc rest : List Char) :
    stringBody hi acc (c :: rest) = stringBody none (c :: flush hi acc) rest := by
  obtain ⟨h1, h2, h3⟩ := h
  rw [stringBody.eq_def]
  simp only [if_neg h1, if_neg h2, if_neg (show ¬ c.toNat < 0x20 by omega)]

/-- 脱出のいらない文字の並びは、閉じの `"` までそのまま読まれる。 -/
theorem stringBody_unescaped {raw : List Char} (h : ∀ c ∈ raw, unescaped c) (acc rest : List Char) :
    stringBody none acc (raw ++ '"' :: rest) = some (acc.reverse ++ raw, rest) := by
  induction raw generalizing acc with
  | nil => simp [stringBody_quote, flush]
  | cons c raw ih =>
    rw [List.cons_append, stringBody_unescaped_cons (h c (List.mem_cons_self _ _)),
      ih (fun d hd => h d (List.mem_cons_of_mem _ hd))]
    simp [flush]

/-- 保留中の上位のサロゲートが後で書き出す文字の数。 -/
def pending (hi : Option Nat) : Nat := if hi.isSome then 1 else 0

@[simp] theorem pending_none : pending none = 0 := rfl
@[simp] theorem pending_some (n : Nat) : pending (some n) = 1 := rfl

theorem length_flush (hi : Option Nat) (acc : List Char) :
    (flush hi acc).length = acc.length + pending hi := by
  cases hi <;> simp [flush]

theorem stringBody_cases {hi : Option Nat} {acc : List Char} {c : Char} {rest out r : List Char}
    (h : stringBody hi acc (c :: rest) = some (out, r)) :
    (c = '"' ∧ out = (flush hi acc).reverse ∧ r = rest) ∨
    (unescaped c ∧ stringBody none (c :: flush hi acc) rest = some (out, r)) ∨
    (∃ e rest' d, c = '\\' ∧ rest = e :: rest' ∧ stringBody none (d :: flush hi acc) rest' = some (out, r)) ∨
    (∃ k₁ k₂ k₃ k₄ rest' hi' acc', c = '\\' ∧ rest = 'u' :: k₁ :: k₂ :: k₃ :: k₄ :: rest' ∧
      acc'.length + pending hi' ≤ acc.length + pending hi + 1 ∧ stringBody hi' acc' rest' = some (out, r)) := by
  rw [stringBody.eq_def] at h
  simp only at h
  split_ifs at h with h1 h2 h3
  · simp only [Option.some.injEq, Prod.mk.injEq] at h
    exact .inl ⟨h1, h.1.symm, h.2.symm⟩
  · split at h
    · next k₁ k₂ k₃ k₄ rest' =>
      split at h
      · cases h
      · next n _ =>
        refine .inr (.inr (.inr ⟨k₁, k₂, k₃, k₄, rest', ?_⟩))
        split_ifs at h
        · exact ⟨_, _, h2, rfl, by simp [length_flush, pending], h⟩
        · split at h
          · exact ⟨_, _, h2, rfl, by simp [pending], h⟩
          · exact ⟨_, _, h2, rfl, by simp [pending], h⟩
        · exact ⟨_, _, h2, rfl, by simp [length_flush, pending], h⟩
    · next e rest' _ =>
      split at h
      · exact .inr (.inr (.inl ⟨e, rest', _, h2, rfl, h⟩))
      · cases h
    · cases h
  · exact .inr (.inl ⟨⟨h1, h2, by omega⟩, h⟩)

/-- 文字列の本体が読めたなら、閉じの `"` までの生の並び `raw` があり、読んだ文字は `raw` より
長くならない。長さが等しく保留がなければ、`raw` は脱出のいらない文字だけで、そのまま読まれている。 -/
theorem stringBody_spec (n : Nat) : ∀ (cs : List Char), cs.length = n → ∀ (hi : Option Nat)
    (acc out r : List Char), stringBody hi acc cs = some (out, r) →
    ∃ raw, cs = raw ++ '"' :: r ∧ out.length ≤ acc.length + pending hi + raw.length ∧
      (hi = none → out.length = acc.length + raw.length →
        (∀ c ∈ raw, unescaped c) ∧ out = acc.reverse ++ raw) := by
  induction n using Nat.strong_induction_on with
  | _ n ih =>
  intro cs hn hi acc out r h
  cases cs with
  | nil => simp [stringBody] at h
  | cons c rest =>
    rcases stringBody_cases h with ⟨rfl, rfl, rfl⟩ | ⟨hc, h'⟩ | ⟨e, rest', d, rfl, rfl, h'⟩ |
      ⟨k₁, k₂, k₃, k₄, rest', hi', acc', rfl, rfl, hlen, h'⟩
    · refine ⟨[], rfl, by simp [length_flush], fun hh _ => ?_⟩
      subst hh; simp [flush]
    · obtain ⟨raw, rfl, hle, heq⟩ := ih _ (by simp at hn; omega) _ rfl _ _ _ _ h'
      refine ⟨c :: raw, rfl, by simp [length_flush] at hle ⊢; omega, fun hh he => ?_⟩
      subst hh
      obtain ⟨hu, rfl⟩ := heq rfl (by simp [flush, pending] at he ⊢; omega)
      exact ⟨fun x hx => (List.mem_cons.mp hx).elim (fun e => e ▸ hc) (hu x), by simp [flush]⟩
    · obtain ⟨raw, rfl, hle, -⟩ := ih _ (by simp at hn; omega) _ rfl _ _ _ _ h'
      refine ⟨'\\' :: e :: raw, rfl, by simp [length_flush, pending] at hle ⊢; omega, fun hh he => ?_⟩
      subst hh; simp [flush, pending] at hle he; omega
    · obtain ⟨raw, rfl, hle, -⟩ := ih _ (by simp at hn; omega) _ rfl _ _ _ _ h'
      refine ⟨'\\' :: 'u' :: k₁ :: k₂ :: k₃ :: k₄ :: raw, rfl, by simp at hle ⊢; omega, fun hh he => ?_⟩
      subst hh; simp [pending] at hle hlen he; omega

/-- 閉じの `"` の前の `X` がそのまま読まれ、残りが縮んでいなければ、`X` に脱出のいる文字はない。 -/
theorem unescaped_of_stringBody {X tail r : List Char}
    (h : stringBody none [] (X ++ '"' :: tail) = some (X, r)) (hr : tail.length ≤ r.length) :
    ∀ c ∈ X, unescaped c := by
  obtain ⟨raw, hraw, hle, heq⟩ := stringBody_spec _ _ rfl _ _ _ _ h
  have hl := congrArg List.length hraw
  simp only [List.length_append, List.length_cons, List.length_nil, pending_none] at hl hle
  obtain ⟨hu, rfl⟩ := heq rfl (by simp only [List.length_nil]; omega)
  exact hu

/-! ## 値とオブジェクト -/

theorem value_str {n : Nat} {cs rest : List Char} (h : skipWs cs = '"' :: rest) :
    value (n + 1) cs = (stringBody none [] rest).map fun (s, r) => (.str ⟨s⟩, r) := by
  rw [value, h]; rfl

theorem value_obj {n : Nat} {cs rest : List Char} (h : skipWs cs = '{' :: rest) :
    value (n + 1) cs = members n [] rest := by
  rw [value, h]; rfl

/-- 組を一つ読んだ後の `members`。 -/
theorem members_member {n : Nat} {acc : List (String × Value)} {cs rest r1 r2 r3 k : List Char}
    {v : Value} (h : skipWs cs = '"' :: rest) (hk : stringBody none [] rest = some (k, r1))
    (hc : skipWs r1 = ':' :: r2) (hv : value n r2 = some (v, r3)) :
    members (n + 1) acc cs = match skipWs r3 with
      | ',' :: r => members n ((⟨k⟩, v) :: acc) r
      | '}' :: r => some (.obj ((⟨k⟩, v) :: acc).reverse, r)
      | _ => none := by
  rw [members, h]
  simp only [hk, hc, hv]
  try rfl


theorem members_member_none {n : Nat} {acc : List (String × Value)} {cs rest r1 r2 k : List Char}
    (h : skipWs cs = '"' :: rest) (hk : stringBody none [] rest = some (k, r1))
    (hc : skipWs r1 = ':' :: r2) (hv : value n r2 = none) : members (n + 1) acc cs = none := by
  rw [members, h]
  simp only [hk, hc, hv]

/-- 組を一つでも読んだ後の `members` は、読んだ組より長いオブジェクトを返す。 -/
theorem members_length : ∀ (n : Nat) (acc : List (String × Value)) (cs : List Char) (v : Value)
    (r : List Char), members n acc cs = some (v, r) → ∃ l, v = .obj l ∧ (acc ≠ [] → acc.length < l.length)
  | 0, _, _, _, _, h => by simp [members] at h
  | n + 1, acc, cs, v, r, h => by
    rw [members] at h
    split at h
    · split at h
      · next hacc => cases h; exact ⟨[], rfl, fun h' => absurd (List.isEmpty_iff.mp hacc) h'⟩
      · cases h
    · split at h
      · cases h
      · split at h
        · split at h
          · cases h
          · split at h
            · obtain ⟨l, rfl, hl⟩ := members_length n _ _ _ _ h
              exact ⟨l, rfl, fun _ => by have := hl (List.cons_ne_nil _ _); simp at this; omega⟩
            · cases h; exact ⟨_, rfl, fun _ => by simp⟩
            · cases h
        · cases h
    · cases h

/-! ## 文書 -/

theorem decode_some {s : String} {v : Value} (h : decode s = some v) :
    ∃ r, value (s.length + 1) s.data = some (v, r) ∧ skipWs r = [] := by
  unfold decode at h
  split at h
  · next v' r hv =>
    split at h
    · cases h; exact ⟨r, hv, ‹_›⟩
    · cases h
  · cases h

end CzMicro.Json
