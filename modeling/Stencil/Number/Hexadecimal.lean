import Stencil.Number.Binary64
import Stencil.Text.Basic

/-!
# Hexadecimal forms of doubles

A double as a hexadecimal fraction with a binary exponent, which shows it exactly, and the double that
is nearest to such a form.

## Main definitions

- `Hexadecimal.show` — the form of a double
- `Hexadecimal.read?` — the double that a text spells
-/

namespace Stencil

namespace Hexadecimal

open Binary64

/-- The form of a double: a sign, a fraction of thirteen digits, and the exponent. -/
def «show» (x : Float) : Text :=
  let sign : Text := if isNegative x then "-" else ""
  if isNaN x then "nan"
  else if isInfinite x then sign ++ "inf"
  else
    let p := parts x
    if p.significand = 0 then sign ++ "0x0.0p+0"
    else
      let e := p.exponent + 52
      sign ++ "0x" ++ Text.ofNat (p.significand / Nat.pow 2 52) ++ "." ++
        Text.hex 13 (p.significand % Nat.pow 2 52) ++ "p" ++ (if e < 0 then ("-" : Text) else "+") ++
        Text.ofNat e.natAbs

/-- Why a text spells no double. -/
inductive Refusal where
  | malformed
  | tooLarge
  deriving DecidableEq, Repr

def digit? (c : CodePoint) : Option Nat :=
  if 48 ≤ c ∧ c ≤ 57 then some (c - 48)
  else if 97 ≤ c ∧ c ≤ 102 then some (c - 87)
  else if 65 ≤ c ∧ c ≤ 70 then some (c - 55)
  else none

def small (c : CodePoint) : CodePoint :=
  if 65 ≤ c ∧ c ≤ 90 then c + 32 else c

/-- The value of digits. -/
def value (digits : Text) : Nat :=
  digits.foldl (fun n c => n * 16 + (digit? c).getD 0) 0

/-- A binary exponent behind its mark; nothing is zero. -/
def exponent? : Text → Option Int
  | [] => some 0
  | c :: rest =>
    if small c ≠ 112 then none
    else
      let (negative, digits) := match rest with
        | 45 :: ds => (true, ds)
        | 43 :: ds => (false, ds)
        | ds => (false, ds)
      if digits.isEmpty || !digits.all fun c => 48 ≤ c && c ≤ 57 then none
      else
        let n : Int := (digits.foldl (fun n c => n * 10 + (c - 48)) 0 : Nat)
        some (if negative then -n else n)

/-- The double nearest to an unsigned form. -/
def fraction? (negative : Bool) (t : Text) : Except Refusal Float :=
  let t := match t with
    | 48 :: c :: rest => if small c = 120 then rest else t
    | _ => t
  let isDigit (c : CodePoint) : Bool := (digit? c).isSome
  let whole := t.takeWhile isDigit
  let rest := t.drop whole.length
  let (part, rest) := match rest with
    | 46 :: r => (r.takeWhile isDigit, r.dropWhile isDigit)
    | _ => ([], rest)
  if whole.isEmpty && part.isEmpty then .error .malformed
  else match exponent? rest with
    | none => .error .malformed
    | some e =>
      let n := value (whole ++ part)
      let e := e - 4 * part.length
      if n = 0 then .ok (ofBits negative 0)
      else if e + n.log2 < -1200 then .ok (ofBits negative 0)
      else if 1100 < e + n.log2 then .error .tooLarge
      else
        let (a, b) := scale n 1 e
        match ofRatio? negative a b with
        | some x => .ok x
        | none => .error .tooLarge

/-- The double that a text spells. -/
def read? (t : Text) : Except Refusal Float :=
  let t := t.trim fun c => c = 32 || (9 ≤ c && c ≤ 13)
  let (negative, body) := match t with
    | 45 :: rest => (true, rest)
    | 43 :: rest => (false, rest)
    | _ => (false, t)
  let word := body.map small
  if word == ("nan" : Text) then .ok nan
  else if word == ("inf" : Text) || word == ("infinity" : Text) then .ok (infinity negative)
  else fraction? negative body

end Hexadecimal

end Stencil
