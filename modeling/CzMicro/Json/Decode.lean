import CzMicro.Go.Strings

/-!
# JSON の読み取り（RFC 8259）

ゲートウェイの本文が JSON として何を意味するかを決めるための読み取り器。文字の並びを先頭から読み、
値と残りを返す。入れ子の深さは文字の数を越えないので、燃料は文字の数より一つ多く与える。
数は綴りのまま持ち、`\u` の上位と下位のサロゲートは一つの文字にまとめ、対にならないものは
U+FFFD にする（Go の `encoding/json` と同じ）。
-/

namespace CzMicro.Json

/-- JSON の値。 -/
inductive Value
  | null
  | bool (b : Bool)
  | num (text : String)
  | str (s : String)
  | arr (xs : List Value)
  | obj (members : List (String × Value))
  deriving Repr

/-- 空白（`%x20`、`%x09`、`%x0A`、`%x0D`）。 -/
def isWs (c : Char) : Bool := c = ' ' || c = '\t' || c = '\n' || c = '\r'

def skipWs (cs : List Char) : List Char := cs.dropWhile isWs

def isDigit (c : Char) : Bool := '0' ≤ c && c ≤ '9'

/-- 16 進の数字の値。 -/
def hexVal (c : Char) : Option Nat :=
  if '0' ≤ c ∧ c ≤ '9' then some (c.toNat - '0'.toNat)
  else if 'a' ≤ c ∧ c ≤ 'f' then some (c.toNat - 'a'.toNat + 10)
  else if 'A' ≤ c ∧ c ≤ 'F' then some (c.toNat - 'A'.toNat + 10)
  else none

def hex4 (a b c d : Char) : Option Nat := do
  let a ← hexVal a; let b ← hexVal b; let c ← hexVal c; let d ← hexVal d
  pure (((a * 16 + b) * 16 + c) * 16 + d)

/-- `\` の後の一文字の脱出。 -/
def simpleEscape : Char → Option Char
  | '"' => some '"'
  | '\\' => some '\\'
  | '/' => some '/'
  | 'b' => some '\x08'
  | 'f' => some '\x0c'
  | 'n' => some '\n'
  | 'r' => some '\r'
  | 't' => some '\t'
  | _ => none

/-- 脱出せずに書ける文字。 -/
def unescaped (c : Char) : Prop := c ≠ '"' ∧ c ≠ '\\' ∧ 0x20 ≤ c.toNat

instance (c : Char) : Decidable (unescaped c) := inferInstanceAs (Decidable (_ ∧ _ ∧ _))

/-- 対にならなかった上位のサロゲートは U+FFFD として書き出す。 -/
def flush : Option Nat → List Char → List Char
  | none, acc => acc
  | some _, acc => '\uFFFD' :: acc

/-- 文字列の本体。開きの `"` の後から読み、読んだ文字と閉じの `"` の後ろを返す。`hi` は直前の
`\u` が上位のサロゲートだったときのその値で、次が下位のサロゲートなら一つの文字にまとめる。 -/
def stringBody (hi : Option Nat) (acc : List Char) : List Char → Option (List Char × List Char)
  | [] => none
  | c :: rest =>
    if c = '"' then some ((flush hi acc).reverse, rest)
    else if c = '\\' then
      match rest with
      | 'u' :: h1 :: h2 :: h3 :: h4 :: rest' =>
        match hex4 h1 h2 h3 h4 with
        | none => none
        | some n =>
          if 0xD800 ≤ n ∧ n < 0xDC00 then stringBody (some n) (flush hi acc) rest'
          else if 0xDC00 ≤ n ∧ n < 0xE000 then
            match hi with
            | some h => stringBody none (Char.ofNat (0x10000 + (h - 0xD800) * 0x400 + (n - 0xDC00)) :: acc) rest'
            | none => stringBody none ('\uFFFD' :: acc) rest'
          else stringBody none (Char.ofNat n :: flush hi acc) rest'
      | e :: rest' =>
        match simpleEscape e with
        | some d => stringBody none (d :: flush hi acc) rest'
        | none => none
      | [] => none
    else if c.toNat < 0x20 then none
    else stringBody none (c :: flush hi acc) rest

/-- `digit*` を読む。 -/
def digits (cs : List Char) : List Char × List Char := (cs.takeWhile isDigit, cs.dropWhile isDigit)

/-- `digit+` を読む。 -/
def digits1 (cs : List Char) : Option (List Char × List Char) :=
  match digits cs with
  | ([], _) => none
  | r => some r

/-- 数 `-? int frac? exp?` の綴りと残り。 -/
def number (cs : List Char) : Option (List Char × List Char) := do
  let (sign, cs) := match cs with
    | '-' :: r => (['-'], r)
    | r => ([], r)
  let (int, cs) ← match cs with
    | '0' :: r => some (['0'], r)
    | c :: r => if '1' ≤ c ∧ c ≤ '9' then some (c :: (digits r).1, (digits r).2) else none
    | [] => none
  let (frac, cs) ← match cs with
    | '.' :: r => (digits1 r).map fun (ds, r) => ('.' :: ds, r)
    | r => some ([], r)
  let (exp, cs) ← match cs with
    | e :: r =>
      if e = 'e' ∨ e = 'E' then
        let (s, r) := match r with
          | '+' :: r => (['+'], r)
          | '-' :: r => (['-'], r)
          | r => ([], r)
        (digits1 r).map fun (ds, r) => (e :: s ++ ds, r)
      else some ([], e :: r)
    | [] => some ([], [])
  pure (sign ++ int ++ frac ++ exp, cs)

mutual
/-- 空白の後の一つの値。値の後ろの空白は読まない。 -/
def value : Nat → List Char → Option (Value × List Char)
  | 0, _ => none
  | n + 1, cs =>
    match skipWs cs with
    | '{' :: rest => members n [] rest
    | '[' :: rest => elements n [] rest
    | '"' :: rest => (stringBody none [] rest).map fun (s, r) => (.str ⟨s⟩, r)
    | 't' :: 'r' :: 'u' :: 'e' :: rest => some (.bool true, rest)
    | 'f' :: 'a' :: 'l' :: 's' :: 'e' :: rest => some (.bool false, rest)
    | 'n' :: 'u' :: 'l' :: 'l' :: rest => some (.null, rest)
    | cs' => (number cs').map fun (t, r) => (.num ⟨t⟩, r)

/-- オブジェクトの `{` の後ろ。`acc` は読んだ組を逆順に持ち、空のときだけ `}` で閉じてよい
（`,` の直後の `}` は読めない）。 -/
def members : Nat → List (String × Value) → List Char → Option (Value × List Char)
  | 0, _, _ => none
  | n + 1, acc, cs =>
    match skipWs cs with
    | '}' :: rest => if acc.isEmpty then some (.obj [], rest) else none
    | '"' :: rest =>
      match stringBody none [] rest with
      | none => none
      | some (k, rest) =>
        match skipWs rest with
        | ':' :: rest =>
          match value n rest with
          | none => none
          | some (v, rest) =>
            match skipWs rest with
            | ',' :: rest => members n ((⟨k⟩, v) :: acc) rest
            | '}' :: rest => some (.obj ((⟨k⟩, v) :: acc).reverse, rest)
            | _ => none
        | _ => none
    | _ => none

/-- 配列の `[` の後ろ。`acc` が空のときだけ `]` で閉じてよい。 -/
def elements : Nat → List Value → List Char → Option (Value × List Char)
  | 0, _, _ => none
  | n + 1, acc, cs =>
    match skipWs cs with
    | ']' :: rest => if acc.isEmpty then some (.arr [], rest) else none
    | _ =>
      match value n cs with
      | none => none
      | some (v, rest) =>
        match skipWs rest with
        | ',' :: rest => elements n (v :: acc) rest
        | ']' :: rest => some (.arr (v :: acc).reverse, rest)
        | _ => none
end

/-- JSON の文書 `ws value ws`。読めなければ `none`。 -/
def decode (s : String) : Option Value :=
  match value (s.length + 1) s.data with
  | some (v, rest) => if skipWs rest = [] then some v else none
  | none => none

end CzMicro.Json
