/-
**What a scalar stands for.**

A plain scalar is null, a boolean, a number or text, by its characters alone.  Digits after a
leading zero are text, so that numbers written for people keep their zeros.  A tag of the standard
types asks for one of them, whatever the style; any other scalar between quotes or in a block is
text.

Main definitions:

* `Cutover.Yaml.Scalar` — what a scalar stands for;
* `Cutover.Yaml.Scalar.ofPlain` — a plain scalar without a tag;
* `Cutover.Yaml.Scalar.ofNode` — a scalar with its tag and style.
-/
import Cutover.Document.Error
import Cutover.Yaml.Token

set_option autoImplicit false

namespace Cutover.Yaml

open Document (Error Found)

/-- What a scalar stands for. -/
inductive Scalar
  | null
  | boolean (value : Bool)
  /-- An integer of 64 bits. -/
  | integer (value : Int)
  /-- An integer of more than 64 bits. -/
  | wide (value : Int)
  | fraction (value : Binary64)
  | text (value : String)
deriving DecidableEq

namespace Scalar

/-- How an error names the scalar. -/
def found : Scalar → Found
  | .null => .unit
  | .boolean b => .boolean b
  | .integer n => .integer n
  | .wide n => .wideInteger n
  | .fraction x => .fraction x.positional
  | .text s => .string s

/-! ### Words -/

/-- The texts of null. -/
def isNullWord (s : String) : Bool := ["null", "Null", "NULL", "~"].contains s

/-- The texts of the booleans. -/
def boolean? (s : String) : Option Bool :=
  if ["true", "True", "TRUE"].contains s then some true
  else if ["false", "False", "FALSE"].contains s then some false
  else none

/-! ### Integers -/

/-- The value of a digit in a base of at most sixteen. -/
def digit? (base : Nat) (c : Char) : Option Nat :=
  let n :=
    if '0' ≤ c ∧ c ≤ '9' then some (c.toNat - '0'.toNat)
    else if 'a' ≤ c ∧ c ≤ 'f' then some (c.toNat - 'a'.toNat + 10)
    else if 'A' ≤ c ∧ c ≤ 'F' then some (c.toNat - 'A'.toNat + 10)
    else none
  n.filter (· < base)

/-- The value of digits after those of `n`. -/
def digitsFrom? (base : Nat) : Nat → List Char → Option Nat
  | n, [] => some n
  | n, c :: cs => do digitsFrom? base (n * base + (← digit? base c)) cs

/-- The value of one or more digits in a base. -/
def natural? (base : Nat) (cs : List Char) : Option Nat :=
  if cs.isEmpty then none else digitsFrom? base 0 cs

/-- The base that is written in front of digits, and the digits. -/
def based : List Char → Option (Nat × List Char)
  | '0' :: 'x' :: rest => some (16, rest)
  | '0' :: 'o' :: rest => some (8, rest)
  | '0' :: 'b' :: rest => some (2, rest)
  | _ => none

/-- Whether digits follow a leading zero, behind an optional sign. -/
def hasLeadingZero (cs : List Char) : Bool :=
  let digits := match cs with
    | '-' :: rest => rest
    | '+' :: rest => rest
    | rest => rest
  match digits with
  | '0' :: c :: rest => (c :: rest).all Char.isDigit
  | _ => false

/-- An integer that is not below zero and less than a limit. -/
def unsigned? (limit : Nat) (cs : List Char) : Option Nat :=
  let digits := match cs with
    | '+' :: rest => rest
    | rest => rest
  let n :=
    match based digits with
    | some (base, rest) => natural? base rest
    | none => if hasLeadingZero cs then none else natural? 10 digits
  n.filter (· < limit)

/-- An integer with a minus sign whose size is at most a limit. -/
def negative? (limit : Nat) (cs : List Char) : Option Int :=
  let n :=
    match cs with
    | '-' :: digits =>
      match based digits with
      | some (base, rest) => natural? base rest
      | none => if hasLeadingZero cs then none else natural? 10 digits
    | _ => none
  (n.filter (· ≤ limit)).map (fun n => -(n : Int))

/-- An integer, of 64 bits if it fits and of 128 bits otherwise. -/
def integer? (cs : List Char) : Option Scalar :=
  match unsigned? (Nat.pow 2 64) cs, negative? (Nat.pow 2 63) cs with
  | some n, _ => some (.integer n)
  | none, some n => some (.integer n)
  | none, none =>
    match unsigned? (Nat.pow 2 128) cs, negative? (Nat.pow 2 127) cs with
    | some n, _ => some (.wide n)
    | none, some n => some (.wide n)
    | none, none => none

/-! ### Fractions -/

/-- The exponent behind the digits of a fraction. -/
def exponent? : List Char → Option Int
  | [] => some 0
  | c :: rest =>
    if c == 'e' || c == 'E' then
      match rest with
      | '-' :: digits => (natural? 10 digits).map (fun n => -(n : Int))
      | '+' :: digits => (natural? 10 digits).map (fun n => (n : Int))
      | digits => (natural? 10 digits).map (fun n => (n : Int))
    else none

/-- A decimal fraction without a sign. -/
def decimal? (negative : Bool) (cs : List Char) : Option Binary64 := do
  let whole := cs.takeWhile Char.isDigit
  let rest := cs.dropWhile Char.isDigit
  let (part, rest) := match rest with
    | '.' :: rest => (rest.takeWhile Char.isDigit, rest.dropWhile Char.isDigit)
    | rest => ([], rest)
  let digits ← natural? 10 (whole ++ part)
  let e ← exponent? rest
  return Binary64.ofDecimal negative digits (e - part.length)

/-- A fraction that is finite, or the text of an infinity or of the undefined value. -/
def fraction? (s : String) : Option Binary64 :=
  if [".inf", ".Inf", ".INF", "+.inf", "+.Inf", "+.INF"].contains s then some (.infinite false)
  else if ["-.inf", "-.Inf", "-.INF"].contains s then some (.infinite true)
  else if [".nan", ".NaN", ".NAN"].contains s then some .nan
  else
    let x := match s.toList with
      | '+' :: rest => decimal? false rest
      | '-' :: rest => decimal? true rest
      | rest => decimal? false rest
    x.filter Binary64.isFinite

/-! ### Scalars -/

/-- What a plain scalar without a tag stands for. -/
def ofPlain (s : String) : Scalar :=
  if s.isEmpty || isNullWord s then .null
  else
    match boolean? s, integer? s.toList with
    | some b, _ => .boolean b
    | none, some n => n
    | none, none =>
      if hasLeadingZero s.toList then .text s
      else
        match fraction? s with
        | some x => .fraction x
        | none => .text s

/-- The name of a standard type in a tag. -/
def standardType? (tag : String) : Option String :=
  if tag == "tag:yaml.org,2002:bool" then some "bool"
  else if tag == "tag:yaml.org,2002:int" then some "int"
  else if tag == "tag:yaml.org,2002:float" then some "float"
  else if tag == "tag:yaml.org,2002:null" then some "null"
  else none

/-- A scalar of the standard type that its tag asks for. -/
def ofType (type text : String) : Except Error Scalar :=
  let read :=
    if type == "bool" then (boolean? text).map Scalar.boolean
    else if type == "int" then integer? text.toList
    else if type == "float" then (fraction? text).map Scalar.fraction
    else if isNullWord text then some .null
    else none
  match read with
  | some v => .ok v
  | none => .error (.invalidValue (.string text))

/-- What a scalar stands for by its style alone. -/
def ofStyle (style : Style) (text : String) : Scalar :=
  if style = .plain then ofPlain text else .text text

/-- What a scalar with its tag and style stands for. -/
def ofNode (tag : Option String) (style : Style) (text : String) : Except Error Scalar :=
  match tag with
  | none => .ok (ofStyle style text)
  | some tag =>
    match standardType? tag with
    | some type => ofType type text
    | none => .ok (if tag.startsWith "!" then ofStyle style text else .text text)

end Scalar

end Cutover.Yaml
