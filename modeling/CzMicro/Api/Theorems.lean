import CzMicro.Api.Lemmas.Namespace
import CzMicro.Api.Lemmas.Version
import CzMicro.Cmd.Setup

/-!
# API ゲートウェイの定理

名前空間は二つの道で与えられる。`api` コマンドの `--namespace` は型の接尾辞を取り除いてから付け直し、
大域の `--api_namespace` は `Before` が変数にそのまま代入する。後者には取り除く段がない。
経路は登録の順に照合され、固定の経路が処理の経路より先に取る。根の経路の本文は版を脱出せずに埋め込む
ので、JSON として読めるのは版の文字がどれも脱出のいらないときに限る。
-/

namespace CzMicro.Api
open Cli Strings Cmd Json

/-! ## `--namespace` の道 -/

/-- `--namespace ns` は、`ns` が `.` + 型で終わればそのまま、でなければ `.` + 型を付けた名前空間になる。
その結果をもう一度 `--namespace` に与えても変わらない。 -/
theorem apiNamespace_namespace_flag {ctx : Context} {ns : String} (h : ctx.string "namespace" = ns)
    (hns : ns ≠ "") (v : Vars) :
    apiNamespace (configure ctx v) = (if hasSuffix ns ("." ++ ctx.override "type" v.type) then ns
      else ns ++ "." ++ ctx.override "type" v.type) ∧
    ∀ ctx' : Context, ctx'.string "namespace" = apiNamespace (configure ctx v) →
      ctx'.override "type" v.type = ctx.override "type" v.type →
      apiNamespace (configure ctx' v) = apiNamespace (configure ctx v) := by
  have hflag := apiNamespace_configure_of_flag h hns v
  refine ⟨hflag, fun ctx' h' ht => ?_⟩
  rw [apiNamespace_configure_of_flag h' (apiNamespace_ne_empty _) v, ht, hflag,
    if_pos (hasSuffix_append_type ns _)]

theorem apiNamespace_namespace_flag_example :
    (commandContext flags noArgs (oneArg "namespace" "com.example") noArgs).string "namespace" =
      "com.example" ∧ "com.example" ≠ "" ∧
    apiNamespace (configure (commandContext flags noArgs (oneArg "namespace" "com.example") noArgs)
      Vars.init) = "com.example.api" := by
  refine ⟨rfl, by decide, ?_⟩
  rw [(@apiNamespace_namespace_flag (commandContext flags noArgs (oneArg "namespace" "com.example")
    noArgs) _ rfl (by decide) Vars.init).1]
  rfl

/-! ## `--api_namespace` の道 -/

/-- 大域の `--api_namespace com.example.api`（そのフラグの使い方の例）は `com.example.api.api`
を組み立て、`api --namespace com.example.api` は `com.example.api` を組み立てる。 -/
theorem apiNamespace_paths_disagree (web : WebVars) (r : String) :
    (run (commandContext flags (oneArg "api_namespace" "com.example.api") noArgs noArgs) none
      (before (globalContext (oneArg "api_namespace" "com.example.api") noArgs)
        (Globals.init web r)).api).map (fun gw => (gw.apiNamespace, gw.nsResolver)) =
      .ok ("com.example.api.api", ⟨"api", "com.example.api"⟩) ∧
    (run (commandContext flags noArgs (oneArg "namespace" "com.example.api") noArgs) none
      (before (globalContext noArgs noArgs) (Globals.init web r)).api).map
        (fun gw => (gw.apiNamespace, gw.nsResolver)) =
      .ok ("com.example.api", ⟨"api", "com.example"⟩) :=
  ⟨rfl, rfl⟩

/-! ## 経路 -/

theorem dispatch_cons (r : Route) (rs : List Route) (p : String) :
    dispatch (r :: rs) p = if r.matcher.matches p then some r.target else dispatch rs p := by
  unfold dispatch
  by_cases h : r.matcher.matches p <;> simp [List.find?_cons, h]

@[simp] theorem matches_path (q p : String) : (Matcher.path q).matches p = decide (p = q) := rfl

/-- 条件つきで登録された経路は、条件が成り立ちパスに合うときだけ取り、他は後ろの経路に回す。 -/
theorem dispatch_ite_append (b : Bool) (r : Route) (rs : List Route) (p : String) :
    dispatch ((if b then [r] else []) ++ rs) p =
      if b = true ∧ r.matcher.matches p = true then some r.target else dispatch rs p := by
  cases b <;> simp [dispatch_cons]

/-- `OPTIONS` でない要求への本文が、版 `X` だけを値に持つ JSON のオブジェクトとして読めるのは、
`X` に `"`、`\`、制御文字がないときに限る。 -/
theorem decode_rootHandler_iff {m : String} (h : m ≠ "OPTIONS") (X : String) :
    decode (rootHandler X m) = some (.obj [("version", .str X)]) ↔ ∀ c ∈ X.data, unescaped c := by
  have hl : (rootHandler X m).length + 1 = (X.data.length + 13) + 3 := by
    show (rootHandler X m).data.length + 1 = _
    simp [rootHandler_data h]
  constructor
  · intro hd
    obtain ⟨r, hv, -⟩ := decode_some hd
    rw [hl, rootHandler_data h] at hv
    exact versionBody_unescaped hv
  · intro hX
    rw [decode, hl, rootHandler_data h, value_versionBody hX]
    rfl

/-- `-` と空でない部分を付け足す一段。付け足した部分の文字が加わるだけで、区切りの `-` は脱出がいらない。 -/
theorem unescaped_dash_suffix (p s : String) :
    (∀ x ∈ (if s ≠ "" then p ++ "-" ++ s else p).data, unescaped x) ↔
      (∀ x ∈ p.data, unescaped x) ∧ ∀ x ∈ s.data, unescaped x := by
  have hd : unescaped '-' := by decide
  by_cases hs : s = "" <;> simp [hs, hd, or_imp, forall_and]

/-- 版の文字がどれも脱出のいらない文字であるのは、`GitTag`、`GitCommit`、`BuildDate` の文字がどれも
そうであるときに限る。既定の `latest` と区切りの `-` は脱出がいらない。 -/
theorem unescaped_buildVersion (t c d : String) :
    (∀ x ∈ (buildVersion t c d).data, unescaped x) ↔
      (∀ x ∈ t.data, unescaped x) ∧ (∀ x ∈ c.data, unescaped x) ∧ (∀ x ∈ d.data, unescaped x) := by
  have hl : (∀ x ∈ version.data, unescaped x) = True := eq_true (by decide)
  rw [buildVersion, unescaped_dash_suffix, unescaped_dash_suffix, and_assoc]
  by_cases ht : t = "" <;> simp [ht, hl]

/-- `-ldflags` で `"` を含む `GitTag` を与えると、根の経路の本文は JSON として読めないか、
版とは違う値と別の組を持つオブジェクトとして読める。 -/
theorem rootHandler_version_unescaped :
    decode (rootHandler (buildVersion "v1\"" "" "") "GET") = none ∧
    decode (rootHandler (buildVersion "v1\", \"admin\": \"true" "" "") "GET") =
      some (.obj [("version", .str "v1"), ("admin", .str "true")]) :=
  ⟨rfl, rfl⟩

end CzMicro.Api
