import CzMicro.Api.Run

/-!
# 名前空間の組み立て

`--namespace` から型の接尾辞 `.` + `Type` を取り除き、`apiNamespace` で付け直す。接尾辞がすでに
あれば元の名前空間に戻り、なければ付く。結果はいつも接尾辞で終わるので、繰り返しても変わらない。
-/

namespace CzMicro.Api
open Cli Strings

theorem trimSuffix_append_suffix (ns suf : String) :
    trimSuffix ns suf ++ suf = if hasSuffix ns suf then ns else ns ++ suf := by
  cases h : hasSuffix ns suf
  · simp [trimSuffix_of_not h]
  · simp [trimSuffix_append_of h]

/-- 接尾辞を取り除いて付け直したもの。 -/
theorem trimSuffix_append_type (ns t : String) :
    trimSuffix ns ("." ++ t) ++ "." ++ t = if hasSuffix ns ("." ++ t) then ns else ns ++ "." ++ t := by
  rw [String.append_assoc, trimSuffix_append_suffix]
  split <;> simp [String.append_assoc]

theorem hasSuffix_append_type (ns t : String) :
    hasSuffix (if hasSuffix ns ("." ++ t) then ns else ns ++ "." ++ t) ("." ++ t) = true := by
  split
  · assumption
  · simp [String.append_assoc]

/-! ## `configure` が決める型と名前空間 -/

@[simp] theorem configure_type (ctx : Context) (v : Vars) :
    (configure ctx v).type = ctx.override "type" v.type := rfl

theorem configure_namespace_of_flag {ctx : Context} {ns : String} (h : ctx.string "namespace" = ns)
    (hns : ns ≠ "") (v : Vars) :
    (configure ctx v).namespace = trimSuffix ns ("." ++ ctx.override "type" v.type) := by
  simp [configure, h, length_pos_iff.mpr hns]

/-- `--namespace` が与えられたときの `apiNamespace`。 -/
theorem apiNamespace_configure_of_flag {ctx : Context} {ns : String}
    (h : ctx.string "namespace" = ns) (hns : ns ≠ "") (v : Vars) :
    apiNamespace (configure ctx v) =
      let t := ctx.override "type" v.type
      if hasSuffix ns ("." ++ t) then ns else ns ++ "." ++ t := by
  simp only [apiNamespace, configure_namespace_of_flag h hns, configure_type, trimSuffix_append_type]

theorem apiNamespace_ne_empty (v : Vars) : apiNamespace v ≠ "" := fun he => by
  have := congrArg String.length he
  simp only [apiNamespace, String.length_append] at this
  have h1 : ".".length = 1 := rfl
  have h0 : "".length = 0 := rfl
  omega

end CzMicro.Api
