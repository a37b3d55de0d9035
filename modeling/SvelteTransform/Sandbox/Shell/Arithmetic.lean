import SvelteTransform.Sandbox.Numeral

/-! Expressions over whole numbers of one machine word. -/
namespace SvelteTransform.Sandbox.Shell.Arithmetic

inductive Token where
  | number (n : Int)
  | name (name : Octets)
  | operator (text : Octets)
  deriving DecidableEq

def operators : List Octets :=
  ["<<=", ">>=", "<<", ">>", "<=", ">=", "==", "!=", "&&", "||", "+=", "-=", "*=", "/=", "%=",
   "&=", "^=", "|="].map String.toList

def tokens : (fuel : Nat) → Octets → List Token
  | 0, _ | _, [] => []
  | fuel + 1, c :: rest =>
    if Octets.isSpace c then tokens fuel rest
    else if Octets.isDigit c then
      match Numeral.natural? (c :: rest) with
      | some (n, rest) => .number (Numeral.clamp n) :: tokens fuel rest
      | none => .operator [c] :: tokens fuel rest
    else if Octets.isNameStart c then
      let name := (c :: rest).takeWhile Octets.isNamePart
      .name name :: tokens fuel ((c :: rest).drop name.length)
    else match operators.find? (·.isPrefixOf (c :: rest)) with
      | some op => .operator op :: tokens fuel ((c :: rest).drop op.length)
      | none => .operator [c] :: tokens fuel rest

structure Progress where
  left : List Token
  changed : List (Octets × Int) := []

inductive Fault where
  | expression (text : String)
  | value (text : Octets)

abbrev Calculating := StateT Progress (Except Fault)

def refuse {α : Type} (text : String) : Calculating α := throw (.expression text)

def accept (text : String) : Calculating Bool := do
  match (← get).left with
  | .operator op :: rest =>
    if op = text.toList then
      modify ({ · with left := rest })
      return true
    return false
  | _ => return false

def bitwise (op : UInt64 → UInt64 → UInt64) (a b : Int) : Int :=
  let word (n : Int) : UInt64 := UInt64.ofNat (n % UInt64.size).toNat
  Numeral.wrap (op (word a) (word b)).toNat

def truth (b : Bool) : Int := if b then 1 else 0

def apply (op : String) (a b : Int) : Except Fault Int :=
  let shift : Nat := (b % 64).toNat
  match op with
  | "*" => .ok (Numeral.wrap (a * b))
  | "/" => if b = 0 then .error (.expression "division by zero") else .ok (Numeral.wrap (a.tdiv b))
  | "%" => if b = 0 then .error (.expression "division by zero") else .ok (a.tmod b)
  | "+" => .ok (Numeral.wrap (a + b))
  | "-" => .ok (Numeral.wrap (a - b))
  | "<<" => .ok (Numeral.wrap (a * (1 <<< shift : Nat)))
  | ">>" => .ok (a.fdiv (1 <<< shift : Nat))
  | "<" => .ok (truth (a < b))
  | "<=" => .ok (truth (a ≤ b))
  | ">" => .ok (truth (b < a))
  | ">=" => .ok (truth (b ≤ a))
  | "==" => .ok (truth (a = b))
  | "!=" => .ok (truth (a != b))
  | "&" => .ok (bitwise (· &&& ·) a b)
  | "^" => .ok (bitwise (· ^^^ ·) a b)
  | "|" => .ok (bitwise (· ||| ·) a b)
  | _ => .ok b

def levels : List (List String) :=
  [["|"], ["^"], ["&"], ["==", "!="], ["<", "<=", ">", ">="], ["<<", ">>"], ["+", "-"],
   ["*", "/", "%"]]

def assignments : List String :=
  ["=", "*=", "/=", "%=", "+=", "-=", "<<=", ">>=", "&=", "^=", "|="]

def valueOf (value? : Octets → Option Octets) (name : Octets) : Calculating Int := do
  match (← get).changed.lookup name with
  | some n => return n
  | none =>
    let text := (value? name).getD []
    if text.all Octets.isSpace then return 0
    match Numeral.whole? text with
    | some n => return n
    | none => throw (.value text)

mutual
def assignment (value? : Octets → Option Octets) : (fuel : Nat) → (live : Bool) → Calculating Int
  | 0, _ => refuse "expecting primary"
  | fuel + 1, live => do
    match (← get).left with
    | .name name :: .operator op :: rest =>
      let op := String.ofList op
      if assignments.contains op then
        modify ({ · with left := rest })
        let n ← assignment value? fuel live
        if !live then return n
        let n ← if op = "=" then pure n
          else do
            let old ← valueOf value? name
            apply (String.ofList op.toList.dropLast) old n
        modify fun p => { p with changed := (name, n) :: p.changed }
        return n
      else choice value? fuel live
    | _ => choice value? fuel live

def choice (value? : Octets → Option Octets) : (fuel : Nat) → (live : Bool) → Calculating Int
  | 0, _ => refuse "expecting primary"
  | fuel + 1, live => do
    let a ← either value? fuel live
    if ← accept "?" then
      let b ← assignment value? fuel (live && a != 0)
      unless ← accept ":" do refuse "expecting ':'"
      let c ← choice value? fuel (live && a = 0)
      return if a != 0 then b else c
    else return a

def either (value? : Octets → Option Octets) : (fuel : Nat) → (live : Bool) → Calculating Int
  | 0, _ => refuse "expecting primary"
  | fuel + 1, live => do
    let a ← both value? fuel live
    if ← accept "||" then
      let b ← either value? fuel (live && a = 0)
      return truth (a != 0 || b != 0)
    else return a

def both (value? : Octets → Option Octets) : (fuel : Nat) → (live : Bool) → Calculating Int
  | 0, _ => refuse "expecting primary"
  | fuel + 1, live => do
    let a ← level value? fuel live levels
    if ← accept "&&" then
      let b ← both value? fuel (live && a != 0)
      return truth (a != 0 && b != 0)
    else return a

def level (value? : Octets → Option Octets) :
    (fuel : Nat) → (live : Bool) → List (List String) → Calculating Int
  | 0, _, _ => refuse "expecting primary"
  | fuel + 1, live, [] => primary value? fuel live
  | fuel + 1, live, here :: tighter => do
    levelFrom value? fuel live here tighter (← level value? fuel live tighter)

def levelFrom (value? : Octets → Option Octets) :
    (fuel : Nat) → (live : Bool) → List String → List (List String) → Int → Calculating Int
  | 0, _, _, _, _ => refuse "expecting primary"
  | fuel + 1, live, here, tighter, a => do
    match (← get).left with
    | .operator op :: rest =>
      let op := String.ofList op
      if here.contains op then
        modify ({ · with left := rest })
        let b ← level value? fuel live tighter
        let n ← if live then liftM (apply op a b) else pure b
        levelFrom value? fuel live here tighter n
      else return a
    | _ => return a

def primary (value? : Octets → Option Octets) : (fuel : Nat) → (live : Bool) → Calculating Int
  | 0, _ => refuse "expecting primary"
  | fuel + 1, live => do
    match (← get).left with
    | .number n :: rest =>
      modify ({ · with left := rest })
      return n
    | .name name :: rest =>
      modify ({ · with left := rest })
      if live then valueOf value? name else return 0
    | .operator op :: rest =>
      let onwards (change : Int → Int) : Calculating Int := do
        modify ({ · with left := rest })
        return change (← primary value? fuel live)
      match op with
      | ['('] =>
        modify ({ · with left := rest })
        let n ← assignment value? fuel live
        unless ← accept ")" do refuse "expecting ')'"
        return n
      | ['+'] => onwards id
      | ['-'] => onwards fun n => Numeral.wrap (-n)
      | ['!'] => onwards fun n => truth (n = 0)
      | ['~'] => onwards fun n => -n - 1
      | _ => refuse "expecting primary"
    | [] => refuse "expecting primary"
end

def Fault.message (text : Octets) : Fault → Octets
  | .expression reason => Octets.say s!"arithmetic expression: {reason}: \"" ++ text ++ ['"']
  | .value text => Octets.say "Illegal number: " ++ text

def evaluate (value? : Octets → Option Octets) (text : Octets) :
    Except Octets (Int × List (Octets × Int)) :=
  let left := tokens (text.length + 1) text
  let calculation : Calculating Int := do
    let n ← assignment value? (16 * left.length + 32) true
    unless (← get).left = [] do refuse "expecting EOF"
    return n
  match calculation.run { left } with
  | .ok (n, p) => .ok (n, p.changed.reverse)
  | .error fault => .error (fault.message text)

end SvelteTransform.Sandbox.Shell.Arithmetic
