import CzMicro.Json.Lemmas
import CzMicro.Api.Run

/-!
# 根の経路の本文を JSON として読む

本文は `{"version": "` と版と `"}` を繋いだものである。版が脱出のいらない文字だけなら、本文は
`version` だけを持つオブジェクトとして読め、その値は版である。逆に、そう読めたなら版は脱出の
いらない文字だけである。読んだ文字列は生の並びより長くならず、等しいのは脱出がないときに限る
（`stringBody_spec`）ので、閉じの `}` の分だけ長さが足りなくなる。
-/

namespace CzMicro.Api
open Json

/-- 本文の文字の並び。 -/
theorem rootHandler_data {m : String} (h : m ≠ "OPTIONS") (X : String) :
    (rootHandler X m).data =
      '{' :: '"' :: 'v' :: 'e' :: 'r' :: 's' :: 'i' :: 'o' :: 'n' :: '"' :: ':' :: ' ' :: '"' ::
        (X.data ++ ['"', '}']) := by
  simp only [rootHandler, if_neg h, String.data_append]
  rfl

/-- 鍵 `version` は脱出のない文字列として読める。 -/
theorem stringBody_versionKey (l : List Char) :
    stringBody none [] ('v' :: 'e' :: 'r' :: 's' :: 'i' :: 'o' :: 'n' :: '"' :: l) =
      some (['v', 'e', 'r', 's', 'i', 'o', 'n'], l) :=
  stringBody_unescaped (by decide : ∀ c ∈ ['v', 'e', 'r', 's', 'i', 'o', 'n'], unescaped c) [] l

/-- 本文を値として読むと、鍵 `version` の後は版と閉じの並び `X ++ "}` の文字列としての読みで決まる。 -/
theorem value_versionBody_eq (X : List Char) (n : Nat) :
    value (n + 3) ('{' :: '"' :: 'v' :: 'e' :: 'r' :: 's' :: 'i' :: 'o' :: 'n' :: '"' :: ':' :: ' ' ::
      '"' :: (X ++ ['"', '}'])) =
      match stringBody none [] (X ++ ['"', '}']) with
      | none => none
      | some (s, r) => match skipWs r with
        | ',' :: r' => members (n + 1) [(⟨['v', 'e', 'r', 's', 'i', 'o', 'n']⟩, .str ⟨s⟩)] r'
        | '}' :: r' => some (.obj [(⟨['v', 'e', 'r', 's', 'i', 'o', 'n']⟩, .str ⟨s⟩)], r')
        | _ => none := by
  rw [value_obj (skipWs_cons (c := '{') rfl _)]
  have hs : ∀ l : List Char, value (n + 1) (' ' :: '"' :: l) =
      (stringBody none [] l).map fun (s, r) => (.str ⟨s⟩, r) := fun _ => value_str rfl
  cases hb : stringBody none [] (X ++ ['"', '}']) with
  | none =>
    exact members_member_none (skipWs_cons (c := '"') rfl _) (stringBody_versionKey _)
      (skipWs_cons (c := ':') rfl _) (by rw [hs, hb]; rfl)
  | some p =>
    exact members_member (skipWs_cons (c := '"') rfl _) (stringBody_versionKey _)
      (skipWs_cons (c := ':') rfl _) (by rw [hs, hb]; rfl)

theorem value_versionBody {X : List Char} (hX : ∀ c ∈ X, unescaped c) (n : Nat) :
    value (n + 3) ('{' :: '"' :: 'v' :: 'e' :: 'r' :: 's' :: 'i' :: 'o' :: 'n' :: '"' :: ':' :: ' ' ::
      '"' :: (X ++ ['"', '}'])) = some (.obj [("version", .str ⟨X⟩)], []) := by
  rw [value_versionBody_eq, stringBody_unescaped hX]
  rfl

/-- `version` だけを持つオブジェクトとして読めたなら、版は脱出のいらない文字だけである。 -/
theorem versionBody_unescaped {X : List Char} {n : Nat} {r : List Char}
    (h : value (n + 3) ('{' :: '"' :: 'v' :: 'e' :: 'r' :: 's' :: 'i' :: 'o' :: 'n' :: '"' :: ':' ::
      ' ' :: '"' :: (X ++ ['"', '}'])) = some (.obj [("version", .str ⟨X⟩)], r)) :
    ∀ c ∈ X, unescaped c := by
  rw [value_versionBody_eq] at h
  cases hb : stringBody none [] (X ++ ['"', '}']) with
  | none => simp [hb] at h
  | some p =>
    obtain ⟨s, r3⟩ := p
    simp only [hb] at h
    split at h
    · obtain ⟨l, hl, hlen⟩ := members_length _ _ _ _ _ h
      cases hl
      simp at hlen
    · next r4 h3 =>
      have hsX : (⟨s⟩ : String) = ⟨X⟩ := by simp at h; exact h.1
      obtain rfl : s = X := congrArg String.data hsX
      have hr3 : r3 ≠ [] := by rintro rfl; simp at h3
      exact unescaped_of_stringBody hb (List.length_pos.mpr hr3)
    · cases h

end CzMicro.Api
