import BenchSweep.Mismatch
import BenchSweep.Yaml.Node

/-! # What a scalar stands for

    A plain scalar without tag is resolved by its looks: nothing, a truth value,
    an integer, a floating point number, or else a text.  A number with a
    leading zero is a text.  One of the standard tags asks for one kind, and a
    text that does not fit it is refused. -/

namespace BenchSweep.Yaml

/-- A standard tag. -/
def standardTag (name : String) : Tag :=
  Tag.ofText ("tag:yaml.org,2002:" ++ name)

/-- The spellings of nothing. -/
def isNull (text : String) : Bool :=
  ["null", "Null", "NULL", "~"].contains text

/-- The spellings of truth values. -/
def bool? (text : String) : Option Bool :=
  if ["true", "True", "TRUE"].contains text then some true
  else if ["false", "False", "FALSE"].contains text then some false
  else none

/-- A leading zero, perhaps after a sign, and nothing but digits after it. -/
def isZeroPadded (text : List Char) : Bool :=
  let unsigned := match text with
    | '-' :: r => r
    | '+' :: r => r
    | r        => r
  match unsigned with
  | '0' :: d :: r => (d :: r).all Char.isDigit
  | _             => false

/-- The base that a two-character mark announces, and what follows the mark. -/
def based? : List Char → Option (Nat × List Char)
  | '0' :: 'x' :: r => some (16, r)
  | '0' :: 'o' :: r => some (8, r)
  | '0' :: 'b' :: r => some (2, r)
  | _               => none

/-- A number without minus sign: digits of the base its mark announces, or
    decimal digits. -/
def unsigned? (text : List Char) : Option Nat :=
  let digits := Text.dropPlus text
  match based? digits with
  | some (base, r) => Text.value? base r
  | none => if isZeroPadded text then none else Text.value? 10 digits

/-- The absolute value of a number with minus sign. -/
def negated? : List Char → Option Nat
  | '-' :: r =>
      match based? r with
      | some (base, ds) => Text.value? base ds
      | none => if isZeroPadded r then none else Text.value? 10 r
  | _ => none

/-- An integer, as wide as it has to be. -/
def integer? (text : List Char) : Option Found :=
  match unsigned? text, negated? text with
  | some n, _ =>
      if n < 2 ^ 64 then some (.integer n)
      else if n < 2 ^ 128 then some (.wideInteger n "u128")
      else none
  | none, some n =>
      if n ≤ 2 ^ 63 then some (.integer (-(n : Int)))
      else if n ≤ 2 ^ 127 then some (.wideInteger (-(n : Int)) "i128")
      else none
  | none, none => none

/-- A floating point number: a finite numeral, or one of the spellings of
    infinity and of the value that is no number. -/
def float? (text : String) : Option Binary64 :=
  if [".inf", ".Inf", ".INF", "+.inf", "+.Inf", "+.INF"].contains text then
    some (.infinity false)
  else if ["-.inf", "-.Inf", "-.INF"].contains text then some (.infinity true)
  else if [".nan", ".NaN", ".NAN"].contains text then some .nan
  else (Binary64.read? text.toList).filter Binary64.isFinite

/-- What a plain scalar without tag stands for. -/
def resolvePlain (text : String) : Found :=
  if text.isEmpty || isNull text then .unit
  else match bool? text with
    | some b => .bool b
    | none =>
        match integer? text.toList with
        | some found => found
        | none =>
            if isZeroPadded text.toList then .text text
            else match float? text with
              | some v => .fraction v
              | none   => .text text

/-- What a scalar stands for, or why its tag does not fit it. -/
def resolve (tag? : Option Tag) (style : Style) (text : String) : Except Mismatch Found :=
  let refuse (expected : String) := Except.error (.wrongValue (.text text) expected)
  match tag? with
  | none => .ok (if style = .plain then resolvePlain text else .text text)
  | some tag =>
      if tag = standardTag "bool" then
        match bool? text with
        | some b => .ok (.bool b)
        | none   => refuse "a boolean"
      else if tag = standardTag "int" then
        match integer? text.toList with
        | some found => .ok found
        | none       => refuse "an integer"
      else if tag = standardTag "float" then
        match float? text with
        | some v => .ok (.fraction v)
        | none   => refuse "a float"
      else if tag = standardTag "null" then
        if isNull text then .ok .unit else refuse "null"
      else if tag.isLocal && style = .plain then .ok (resolvePlain text)
      else .ok (.text text)

/-- The mismatch of a node found where something else was expected. -/
def mismatch (node : Node) (expected : String) : Mismatch :=
  match node with
  | .scalar _ tag? style text =>
      match resolve tag? style text with
      | .ok found => .wrongType found expected
      | .error e  => e
  | .sequence .. => .wrongType .list expected
  | .mapping ..  => .wrongType .map expected
  | .alias ..    => .wrongType .unit expected

end BenchSweep.Yaml
