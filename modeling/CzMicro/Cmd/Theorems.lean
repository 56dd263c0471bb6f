import CzMicro.Cmd.Commands

/-!
# コマンドの定理

ヘルプに並ぶコマンドの順と、設定の値が大域のフラグ、`Before`、コマンドの `Run` を通って決まる順。
大域のフラグとコマンドのフラグは同じ環境変数を読むことがあり、`Before` の代入の後に `Run` の代入が来る。
-/

namespace CzMicro.Cmd
open Cli Strings

/-! ## ヘルプの並び -/

/-- `sort.Sort` の約束を満たすどの結果でも、名前の重ならないコマンドは、`commandOrder` に挙がったものが
`commandOrder` の順に先頭に並び、挙がっていないものがその後に続く。後者の順は約束からは決まらない。 -/
theorem sortSort_commands {cmds out : List String} (hn : cmds.Nodup) (h : SortSort less cmds out) :
    ∃ rest, out = commandOrder.filter (· ∈ cmds) ++ rest ∧ (∀ x ∈ rest, x ∉ commandOrder) ∧
      rest.Perm (cmds.filter (· ∉ commandOrder)) := by
  obtain ⟨hp, hs⟩ := h
  have hkey : out.Pairwise fun a b => orderKey a ≤ orderKey b := hs.imp less_eq_false_iff.mp
  -- 挙がった名前の値は挙がっていない名前の値より小さいので、挙がったものが前に来る
  have hsplit := eq_filter_append_filter (p := fun a => decide (a ∈ commandOrder)) (l := out)
    (hkey.imp fun hab hb => decide_eq_true
      (orderKey_lt_iff.mp (lt_of_le_of_lt hab (orderKey_lt_iff.mpr (of_decide_eq_true hb)))))
  have listed : ∀ {a : String} {l : List String}, a ∈ l.filter (· ∈ commandOrder) → a ∈ commandOrder :=
    fun h => of_decide_eq_true (List.mem_filter.mp h).2
  -- 挙がったものどうしは位置で昇順で、位置は名前を決める
  have hlisted : out.filter (· ∈ commandOrder) = commandOrder.filter (· ∈ cmds) := by
    have hs₁ : (out.filter (· ∈ commandOrder)).Pairwise
        fun a b => commandOrder.indexOf a ≤ commandOrder.indexOf b :=
      (hkey.filter _).imp_of_mem fun ha hb hab => by
        rwa [← orderKey_of_mem (listed ha), ← orderKey_of_mem (listed hb)]
    have hs₂ : (commandOrder.filter (· ∈ cmds)).Pairwise
        fun a b => commandOrder.indexOf a ≤ commandOrder.indexOf b :=
      (pairwise_indexOf commandOrder_nodup).filter _
    refine List.Perm.eq_of_sorted (fun a b ha hb hab hba => ?_) hs₁ hs₂ ?_
    · exact (List.indexOf_inj (listed ha) (List.mem_of_mem_filter hb)).mp (le_antisymm hab hba)
    · refine (List.perm_ext_iff_of_nodup ((hp.nodup_iff.mpr hn).filter _)
        (commandOrder_nodup.filter _)).mpr fun x => ?_
      simp only [List.mem_filter, decide_eq_true_eq, hp.mem_iff, and_comm]
  refine ⟨out.filter fun a => !decide (a ∈ commandOrder), hlisted ▸ hsplit, fun x hx => ?_, ?_⟩
  · simpa using List.of_mem_filter hx
  · simpa only [decide_not] using hp.filter _

theorem sortSort_commands_api :
    ["api", "store", "server", "proxy"].Nodup ∧
      SortSort less ["api", "store", "server", "proxy"] ["server", "store", "proxy", "api"] ∧
      ∃ rest, ["server", "store", "proxy", "api"] =
          commandOrder.filter (· ∈ ["api", "store", "server", "proxy"]) ++ rest ∧
        (∀ x ∈ rest, x ∉ commandOrder) ∧
        rest.Perm (["api", "store", "server", "proxy"].filter (· ∉ commandOrder)) :=
  have h : SortSort less ["api", "store", "server", "proxy"] ["server", "store", "proxy", "api"] := by
    decide
  ⟨by decide, h, sortSort_commands (by decide) h⟩

/-! ## 設定の層 -/

/-- コマンドの値、大域の値、変数の元の値の順に、最初の空でない値。 -/
def layered (cmdValue globalValue value : String) : String :=
  if cmdValue ≠ "" then cmdValue else if globalValue ≠ "" then globalValue else value

/-- コマンドが定義する名前は、コマンドのフラグの値を読む。 -/
theorem commandContext_string (cmdFlags : List Flag) (n : String) (f : Flag)
    (hf : cmdFlags.find? (fun f => f.name == n) = some f) (args cmdArgs env : String → Option String) :
    (commandContext cmdFlags args cmdArgs env).string n = f.current cmdArgs env :=
  Context.string_sub_of_lookup (by rw [FlagSet.lookup_ofFlags, hf]; rfl)

theorem globalContext_string (n : String) (f : Flag)
    (hf : globalFlags.find? (fun f => f.name == n) = some f) (args env : String → Option String) :
    (globalContext args env).string n = f.current args env := by
  simp [globalContext, Context.string, List.find?_cons, FlagSet.lookup_ofFlags, hf]

/-- 環境変数を一つ持ち既定値が空の文字列のフラグの値。空の環境変数もそのまま読む。 -/
theorem current_one (name e : String) (args env : String → Option String) :
    ({ name := name, envVars := [e] } : Flag).current args env =
      ((args name).orElse fun _ => env e).getD "" := by
  unfold Flag.current Flag.envValue
  simp only [List.findSome?_cons, List.findSome?_nil]
  cases env e <;> rfl

/-- `Before` が大域のフラグ `m` で上書きした値を、`Run` がコマンドのフラグ `n` で上書きする。 -/
theorem override_layers (cmdFlags : List Flag) (n m e e' : String)
    (hc : cmdFlags.find? (fun f => f.name == n) = some { name := n, envVars := [e] })
    (hg : globalFlags.find? (fun f => f.name == m) = some { name := m, envVars := [e'] })
    (args cmdArgs env : String → Option String) (v : String) :
    (commandContext cmdFlags args cmdArgs env).override n ((globalContext args env).override m v) =
      layered (((cmdArgs n).orElse fun _ => env e).getD "") (((args m).orElse fun _ => env e').getD "")
        v := by
  rw [Context.override_eq, Context.override_eq, commandContext_string cmdFlags n _ hc,
    globalContext_string m _ hg, current_one, current_one]
  simp only [layered, ne_eq, ite_not]

/-- `api` のアドレスと処理、`proxy` のアドレスは、コマンドのフラグ、大域のフラグ、既定値の順に最初の
空でない値になる。二つのフラグは同じ環境変数を読むので、環境変数だけを与えればその値になる。
コマンドラインで空を与えたコマンドのフラグは、大域の値に道を譲る。 -/
theorem settings_layers (args cmdArgs env : String → Option String) (g : Globals) :
    (Api.configure (commandContext Api.flags args cmdArgs env)
        (before (globalContext args env) g).api).address =
      layered (((cmdArgs "address").orElse fun _ => env "MICRO_API_ADDRESS").getD "")
        (((args "api_address").orElse fun _ => env "MICRO_API_ADDRESS").getD "") g.api.address ∧
    (Api.configure (commandContext Api.flags args cmdArgs env)
        (before (globalContext args env) g).api).handler =
      layered (((cmdArgs "handler").orElse fun _ => env "MICRO_API_HANDLER").getD "")
        (((args "api_handler").orElse fun _ => env "MICRO_API_HANDLER").getD "") g.api.handler ∧
    (Proxy.configure (commandContext Proxy.flags args cmdArgs env)
        (before (globalContext args env) g).proxy).address =
      layered (((cmdArgs "address").orElse fun _ => env "MICRO_PROXY_ADDRESS").getD "")
        (((args "proxy_address").orElse fun _ => env "MICRO_PROXY_ADDRESS").getD "")
        g.proxy.address := by
  rw [Api.configure_address, Api.configure_handler, Proxy.configure_address, before_api_address,
    before_api_handler, before_proxy_address]
  exact ⟨override_layers Api.flags "address" "api_address" "MICRO_API_ADDRESS" "MICRO_API_ADDRESS"
      rfl rfl args cmdArgs env g.api.address,
    override_layers Api.flags "handler" "api_handler" "MICRO_API_HANDLER" "MICRO_API_HANDLER" rfl rfl
      args cmdArgs env g.api.handler,
    override_layers Proxy.flags "address" "proxy_address" "MICRO_PROXY_ADDRESS" "MICRO_PROXY_ADDRESS"
      rfl rfl args cmdArgs env g.proxy.address⟩

/-- `api` の名前空間。コマンドの `--namespace`（`MICRO_API_NAMESPACE`）が空でなければ、その値から型の
接尾辞を取り除いたもの（空になることもある）、空なら大域の `--api_namespace`（同じ
`MICRO_API_NAMESPACE`）、それも空なら元の値。環境変数だけを与えれば二つとも同じ値を読み、後に来る
コマンドの側が接尾辞を取り除く。大域の `--namespace`（`MICRO_NAMESPACE`）はコマンドの同名のフラグに
隠されて読まれない。 -/
theorem namespace_layers (args cmdArgs env : String → Option String) (g : Globals) :
    (Api.configure (commandContext Api.flags args cmdArgs env)
        (before (globalContext args env) g).api).namespace =
      if ((cmdArgs "namespace").orElse fun _ => env "MICRO_API_NAMESPACE").getD "" ≠ "" then
        trimSuffix (((cmdArgs "namespace").orElse fun _ => env "MICRO_API_NAMESPACE").getD "")
          ("." ++ if ((cmdArgs "type").orElse fun _ => env "MICRO_API_TYPE").getD "" ≠ "" then
            ((cmdArgs "type").orElse fun _ => env "MICRO_API_TYPE").getD "" else g.api.type)
      else if ((args "api_namespace").orElse fun _ => env "MICRO_API_NAMESPACE").getD "" ≠ "" then
        ((args "api_namespace").orElse fun _ => env "MICRO_API_NAMESPACE").getD ""
      else g.api.namespace := by
  simp only [Api.configure, before_api_namespace, before_api_type, Context.override_eq,
    commandContext_string Api.flags "namespace" { name := "namespace", envVars := ["MICRO_API_NAMESPACE"] } rfl,
    commandContext_string Api.flags "type" { name := "type", envVars := ["MICRO_API_TYPE"] } rfl,
    globalContext_string "api_namespace" { name := "api_namespace", envVars := ["MICRO_API_NAMESPACE"] } rfl,
    current_one, length_pos_iff, ne_eq, ite_not]

end CzMicro.Cmd
