import SvelteTransform.Json.Reader
import SvelteTransform.Proofs.Json.Literals

/-! The grammar of JSON texts, apart from any reader. A tree keeps all of a text but its blanks:
escapes as they are spelled, numbers in their digits, the members of an object in their order and
each as often as it is there. Which value a tree stands for is a question of its own, to which some
trees have no answer: surrogates must pair, and a number must be in range. -/
namespace SvelteTransform.Json
open Reader

def hexValue (digits : List Char) : Option Nat :=
  digits.foldlM (fun value c => (hexDigit? c).map (value * 16 + ·)) 0

structure CodeUnit where
  digits : List Char
  value : Nat
  four : digits.length = 4
  spells : hexValue digits = some value

namespace CodeUnit

def IsFirst (unit : CodeUnit) : Prop := 0xD800 ≤ unit.value ∧ unit.value ≤ 0xDBFF
def IsSecond (unit : CodeUnit) : Prop := 0xDC00 ≤ unit.value ∧ unit.value ≤ 0xDFFF

instance (unit : CodeUnit) : Decidable unit.IsFirst := inferInstanceAs (Decidable (_ ∧ _))
instance (unit : CodeUnit) : Decidable unit.IsSecond := inferInstanceAs (Decidable (_ ∧ _))

def join (first second : CodeUnit) : Char :=
  Char.ofNat (0x10000 + (first.value - 0xD800) * 0x400 + (second.value - 0xDC00))

end CodeUnit

inductive Piece where
  | plain (c : Char) (unescaped : c ≠ '"' ∧ c ≠ '\\' ∧ 0x20 ≤ c.toNat)
  | short (letter c : Char) (escape : simpleEscape? letter = some c)
  | unit (u : CodeUnit)

def Piece.text : Piece → List Char
  | .plain c _ => [c]
  | .short letter .. => ['\\', letter]
  | .unit u => '\\' :: 'u' :: u.digits

abbrev Quoted := List Piece

namespace Quoted

def textAfterMark (q : Quoted) : List Char := q.flatMap Piece.text ++ ['"']

def text (q : Quoted) : List Char := '"' :: q.textAfterMark

/-- A surrogate that is not half of a pair stands for nothing. -/
def characters? : Quoted → Option (List Char)
  | [] => some []
  | .plain c _ :: rest => (characters? rest).map (c :: ·)
  | .short _ c _ :: rest => (characters? rest).map (c :: ·)
  | .unit u :: .unit v :: rest =>
    if u.IsFirst then
      if v.IsSecond then (characters? rest).map (u.join v :: ·) else none
    else if u.IsSecond then none
    else (characters? (.unit v :: rest)).map (Char.ofNat u.value :: ·)
  | .unit u :: rest =>
    if u.IsFirst ∨ u.IsSecond then none
    else (characters? rest).map (Char.ofNat u.value :: ·)

def string? (q : Quoted) : Option String := q.characters?.map String.ofList

end Quoted

def IsDigits (digits : List Char) : Prop := digits ≠ [] ∧ ∀ c ∈ digits, isDigit c = true

inductive FractionText : Option (List Char) → List Char → Prop where
  | unwritten : FractionText none []
  | digits {ds} (digits : IsDigits ds) : FractionText (some ds) ('.' :: ds)

inductive ExponentText : Option (Bool × List Char) → List Char → Prop where
  | unwritten : ExponentText none []
  | unsigned {mark ds} (marked : mark = 'e' ∨ mark = 'E') (digits : IsDigits ds) :
      ExponentText (some (false, ds)) (mark :: ds)
  | plus {mark ds} (marked : mark = 'e' ∨ mark = 'E') (digits : IsDigits ds) :
      ExponentText (some (false, ds)) (mark :: '+' :: ds)
  | minus {mark ds} (marked : mark = 'e' ∨ mark = 'E') (digits : IsDigits ds) :
      ExponentText (some (true, ds)) (mark :: '-' :: ds)

structure Reader.Literal.Unsigned (l : Literal) (text : List Char) : Prop where
  digits : IsDigits l.whole
  zero : l.whole.head? = some '0' → l.whole = ['0']
  parts : ∃ fraction exponent, text = l.whole ++ (fraction ++ exponent) ∧
    FractionText l.fraction fraction ∧ ExponentText l.exponent exponent

inductive Reader.Literal.Spelled : Literal → List Char → Prop where
  | positive {l text} (sign : l.negative = false) (digits : l.Unsigned text) : Spelled l text
  | negative {l text} (sign : l.negative = true) (digits : l.Unsigned text) :
      Spelled l ('-' :: text)

inductive Tree where
  | null
  | boolean (b : Bool)
  | number (l : Literal)
  | string (q : Quoted)
  | array (items : List Tree)
  | object (members : List (Quoted × Tree))

mutual
def Tree.nesting : Tree → Nat
  | .array items => nestingItems items + 1
  | .object members => nestingMembers members + 1
  | _ => 0
def Tree.nestingItems : List Tree → Nat
  | [] => 0
  | t :: rest => max (nesting t) (nestingItems rest)
def Tree.nestingMembers : List (Quoted × Tree) → Nat
  | [] => 0
  | (_, t) :: rest => max (nesting t) (nestingMembers rest)
end

def Spaces (text : List Char) : Prop := ∀ c ∈ text, isSpace c = true

inductive WrittenColon : List Char → Prop where
  | intro {before after} (blankBefore : Spaces before) (blankAfter : Spaces after) :
      WrittenColon (before ++ ':' :: after)

mutual
inductive Written : Tree → List Char → Prop where
  | null : Written .null ['n', 'u', 'l', 'l']
  | true : Written (.boolean true) ['t', 'r', 'u', 'e']
  | false : Written (.boolean false) ['f', 'a', 'l', 's', 'e']
  | number {l text} (spelled : l.Spelled text) : Written (.number l) text
  | string (q : Quoted) : Written (.string q) q.text
  | noItems {spaces} (blank : Spaces spaces) : Written (.array []) ('[' :: (spaces ++ [']']))
  | array {spaces item items first others} (blank : Spaces spaces) (head : Written item first)
      (tail : WrittenItems items others) :
      Written (.array (item :: items)) ('[' :: (spaces ++ (first ++ others)))
  | noMembers {spaces} (blank : Spaces spaces) :
      Written (.object []) ('\x7b' :: (spaces ++ ['\x7d']))
  | object {spaces key colon value members first others} (blank : Spaces spaces)
      (separated : WrittenColon colon) (head : Written value first)
      (tail : WrittenMembers members others) :
      Written (.object ((key, value) :: members))
        ('\x7b' :: (spaces ++ (key.text ++ (colon ++ (first ++ others)))))
inductive WrittenItems : List Tree → List Char → Prop where
  | close {spaces} (blank : Spaces spaces) : WrittenItems [] (spaces ++ [']'])
  | next {before after item items first others} (blankBefore : Spaces before)
      (blankAfter : Spaces after) (head : Written item first)
      (tail : WrittenItems items others) :
      WrittenItems (item :: items) (before ++ ',' :: (after ++ (first ++ others)))
inductive WrittenMembers : List (Quoted × Tree) → List Char → Prop where
  | close {spaces} (blank : Spaces spaces) : WrittenMembers [] (spaces ++ ['\x7d'])
  | next {before after key colon value members first others} (blankBefore : Spaces before)
      (blankAfter : Spaces after) (separated : WrittenColon colon) (head : Written value first)
      (tail : WrittenMembers members others) :
      WrittenMembers ((key, value) :: members)
        (before ++ ',' :: (after ++ (key.text ++ (colon ++ (first ++ others)))))
end

def IsDocument (tree : Tree) (text : List Char) : Prop :=
  ∃ before body after, text = before ++ (body ++ after) ∧ Spaces before ∧ Spaces after ∧
    Written tree body

mutual
inductive Denotes : Tree → Json → Prop where
  | null : Denotes .null .null
  | boolean (b : Bool) : Denotes (.boolean b) (.boolean b)
  | number {l n} (means : Literal.Means l n) : Denotes (.number l) (.number n)
  | string {q s} (paired : q.string? = some s) : Denotes (.string q) (.string s)
  | array {items vs} (each : DenotesItems items vs) : Denotes (.array items) (.array vs)
  /-- Of a repeated key the last value counts. -/
  | object {members entries fields} (each : DenotesMembers members entries)
      (ordered : Fields.Ordered fields)
      (last : ∀ key, Fields.get? fields key = entries.reverse.lookup key) :
      Denotes (.object members) (.object fields)
inductive DenotesItems : List Tree → List Json → Prop where
  | nil : DenotesItems [] []
  | cons {item items v vs} (head : Denotes item v) (tail : DenotesItems items vs) :
      DenotesItems (item :: items) (v :: vs)
inductive DenotesMembers : List (Quoted × Tree) → List (String × Json) → Prop where
  | nil : DenotesMembers [] []
  | cons {key name value members v entries} (named : Quoted.string? key = some name)
      (head : Denotes value v) (tail : DenotesMembers members entries) :
      DenotesMembers ((key, value) :: members) ((name, v) :: entries)
end

end SvelteTransform.Json
