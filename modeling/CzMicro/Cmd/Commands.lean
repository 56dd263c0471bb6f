import CzMicro.Cmd.Setup
import Mathlib.Data.List.Nodup

/-!
# コマンドの並びと根の動作（`cmd/cmd.go`）

`Setup` は登録したコマンドを `sort.Sort(commands(app.Commands))` で並べ替える。`commands.Less` は
`commandOrder` の中の位置で比べ、挙がっていない名前には `math.MaxInt32` を当てる。`sort.Sort` は
外のもので、ここではその約束（結果は元の並べ替えで、`Less` について昇順）だけを持つ。
コマンドは名前で表す。`Less` が読むのは名前だけである。
-/

namespace CzMicro.Cmd

/-! ## `commands.Less` -/

def commandOrder : List String :=
  ["server", "new", "env", "login", "run", "logs", "call", "update", "kill", "store", "config", "auth",
    "status", "stream", "file"]

/-- `math.MaxInt32`。 -/
def maxInt32 : Nat := 2147483647

/-- `for i, v := range commandOrder { index[v] = i }`。後の代入が前の代入を上書きする。 -/
def orderIndex (order : List String) : String → Option Nat :=
  order.enum.foldl (fun index (i, v) => fun k => if k = v then some i else index k) fun _ => none

/-- `Less` が比べる値。`index` にない名前は `math.MaxInt32`。 -/
def orderKey (name : String) : Nat := (orderIndex commandOrder name).getD maxInt32

/-- `commands.Less`。 -/
def less (a b : String) : Bool := orderKey a < orderKey b

/-- `sort.Sort` の約束。結果は元の並べ替えで、前の要素 `a` と後の要素 `b` について `Less(b, a)` でない。 -/
def SortSort (less : String → String → Bool) (cmds out : List String) : Prop :=
  out.Perm cmds ∧ out.Pairwise fun a b => less b a = false

instance (less : String → String → Bool) (cmds out : List String) :
    Decidable (SortSort less cmds out) :=
  inferInstanceAs (Decidable (_ ∧ _))

/-! ## 根の動作 -/

/-- 根の `Action` の行き先。 -/
inductive RootOutcome
  | exec (path : String) (args : List String)
  | unexpectedCommand
  | missingCommand
  deriving DecidableEq, Repr

/-- 根の `Action`。引数があれば最初の引数を `exec.LookPath` で探して残りの引数で実行し、見つからなければ
`helper.UnexpectedCommand` を印字して終わる。引数がなければ `helper.MissingCommand`。 -/
def rootAction (args : List String) (lookPath : String → Option String) : RootOutcome :=
  match args with
  | [] => .missingCommand
  | command :: rest =>
    match lookPath command with
    | some v => .exec v rest
    | none => .unexpectedCommand

/-! ## 位置の表 -/

theorem orderIndex_append (l : List String) (x k : String) :
    orderIndex (l ++ [x]) k = if k = x then some l.length else orderIndex l k := by
  simp only [orderIndex, List.enum_append, List.foldl_append]
  rfl

/-- 重なりのない並びでは、表は最初の（ただ一つの）位置を返す。 -/
theorem orderIndex_of_nodup {l : List String} (h : l.Nodup) (k : String) :
    orderIndex l k = if k ∈ l then some (l.indexOf k) else none := by
  induction l using List.reverseRecOn with
  | nil => rfl
  | append_singleton l x ih =>
    have hx : x ∉ l := fun hx => List.disjoint_of_nodup_append h hx (List.mem_singleton_self x)
    rw [orderIndex_append, ih (h.sublist (List.sublist_append_left _ _))]
    by_cases hk : k = x
    · subst hk
      simp [hx, List.indexOf_append_of_not_mem hx]
    · by_cases hl : k ∈ l <;> simp [hk, hl, List.indexOf_append_of_mem]

theorem commandOrder_nodup : commandOrder.Nodup := by decide

theorem orderKey_of_mem {k : String} (h : k ∈ commandOrder) : orderKey k = commandOrder.indexOf k := by
  simp [orderKey, orderIndex_of_nodup commandOrder_nodup, h]

theorem orderKey_of_not_mem {k : String} (h : k ∉ commandOrder) : orderKey k = maxInt32 := by
  simp [orderKey, orderIndex_of_nodup commandOrder_nodup, h]

/-- 挙がった名前の値は、挙がっていない名前の値 `math.MaxInt32` より小さい。 -/
theorem orderKey_lt_iff {k : String} : orderKey k < maxInt32 ↔ k ∈ commandOrder := by
  by_cases h : k ∈ commandOrder
  · have : commandOrder.indexOf k < commandOrder.length := List.indexOf_lt_length.mpr h
    simp only [orderKey_of_mem h, h, iff_true]
    exact this.trans (by decide)
  · simp [orderKey_of_not_mem h, h]

@[simp] theorem less_eq_false_iff {a b : String} : less b a = false ↔ orderKey a ≤ orderKey b := by
  simp [less]

/-! ## 並びの補題 -/

/-- `p` を満たす要素がどれも満たさない要素より前にある並びは、二つの `filter` を繋いだものである。 -/
theorem eq_filter_append_filter {p : String → Bool} :
    ∀ {l : List String}, l.Pairwise (fun a b => p b = true → p a = true) →
      l = l.filter p ++ l.filter (fun a => !p a)
  | [], _ => rfl
  | a :: l, h => by
    obtain ⟨ha, hl⟩ := List.pairwise_cons.mp h
    cases hp : p a
    · have hnil : l.filter p = [] :=
        List.filter_eq_nil_iff.mpr fun b hb hpb => by simp [ha b hb hpb] at hp
      have hall : l.filter (fun a => !p a) = l :=
        List.filter_eq_self.mpr fun b hb => by
          cases hpb : p b
          · rfl
          · simp [ha b hb hpb] at hp
      simp [hp, hnil, hall]
    · simpa [hp] using eq_filter_append_filter hl

/-- 重なりのない並びは、その中の位置について昇順である。 -/
theorem pairwise_indexOf : ∀ {l : List String}, l.Nodup →
    l.Pairwise fun a b => l.indexOf a ≤ l.indexOf b
  | [], _ => .nil
  | x :: l, h => by
    obtain ⟨hx, hl⟩ := List.nodup_cons.mp h
    refine .cons (fun b _ => by simp [List.indexOf_cons_self]) ((pairwise_indexOf hl).imp_of_mem ?_)
    intro a b ha hb hab
    rw [List.indexOf_cons_ne _ (fun e => hx (by rw [e]; exact ha)),
      List.indexOf_cons_ne _ (fun e => hx (by rw [e]; exact hb))]
    omega

end CzMicro.Cmd
