import MailDispatch.Toml.Scan
import MailDispatch.Value.Basic

/-!
# Numbers and moments in TOML

Integers come in four bases, decimal ones with a sign; numbers with a fraction or an exponent are
doubles, as are infinity and NaN. Single low lines may separate digits. Days, times of day and both
together are recognised before numbers, by their fixed widths.
-/

namespace MailDispatch.Toml

open Decimal (Binary64 appendDigit maxDigits)

/-! ## Digits -/

/-- The value of a digit in a base up to 16. -/
def digitIn? (base : Nat) (c : Char) : Option Nat :=
  (Text.hexValue? c).filter (· < base)

/-- The digits of a run, behind its first one: single low lines may stand between digits. -/
def moreDigits (base : Nat) : List Char → List Nat × List Char
  | [] => ([], [])
  | '_' :: c :: rest => match digitIn? base c with
    | some d => (d :: (moreDigits base rest).1, (moreDigits base rest).2)
    | none => ([], '_' :: c :: rest)
  | c :: rest => match digitIn? base c with
    | some d => (d :: (moreDigits base rest).1, (moreDigits base rest).2)
    | none => ([], c :: rest)

/-- A run of digits, at least one. -/
def digitRun? (base : Nat) : List Char → Option (List Nat × List Char)
  | [] => none
  | c :: rest => (digitIn? base c).map fun d ↦
    (d :: (moreDigits base rest).1, (moreDigits base rest).2)

/-- The number that digits denote in a base. -/
def ofDigits (base : Nat) (ds : List Nat) : Nat := ds.foldl (fun n d ↦ base * n + d) 0

/-! ## Numbers -/

/-- A sign, plus if there is none; `true` stands for minus. -/
def sign : List Char → Bool × List Char
  | '-' :: rest => (true, rest)
  | '+' :: rest => (false, rest)
  | s => (false, s)

/-- The digits before the point: a zero alone, or a run that does not start with one. -/
def wholeDigits? : List Char → Option (List Nat × List Char)
  | '0' :: rest => some ([0], rest)
  | s => digitRun? 10 s

/-- The digits behind a point, if there are any. -/
def fractionDigits? : List Char → Option (List Nat × List Char)
  | '.' :: rest => digitRun? 10 rest
  | _ => none

/-- The power of ten behind an exponent mark, if there is one. -/
def exponent? (s : List Char) : Option (Int × List Char) :=
  match s with
  | c :: rest =>
    if c = 'e' || c = 'E' then
      let (negative, rest) := sign rest
      (digitRun? 10 rest).map fun (ds, left) ↦
        (if negative then -(ofDigits 10 ds : Int) else ofDigits 10 ds, left)
    else none
  | [] => none

/-- A decimal integer, unless it has too many digits. -/
def integer (negative : Bool) (ds : List Nat) : Except TomlError Value :=
  if maxDigits < ds.length then .error (.longNumeral ds.length)
  else .ok (.int (if negative then -(ofDigits 10 ds : Int) else ofDigits 10 ds))

/-- A number with a fraction, an exponent or both. -/
def double (negative : Bool) (whole fraction : List Nat) (exponent : Int) : Value :=
  .float (Binary64.ofDecimal negative (ofDigits 10 (whole ++ fraction))
    (exponent - fraction.length))

/-- A decimal number. -/
def decimal? (s : List Char) : Option (Scan Value) :=
  let (negative, s) := sign s
  (wholeDigits? s).map fun (whole, s) ↦
    match fractionDigits? s with
    | some (fraction, s) => match exponent? s with
      | some (e, s) => .ok (double negative whole fraction e, s)
      | none => .ok (double negative whole fraction 0, s)
    | none => match exponent? s with
      | some (e, s) => .ok (double negative whole [] e, s)
      | none => (integer negative whole).map fun v ↦ (v, s)

/-- An integer in a base that is marked by a letter behind a zero. -/
def marked? (base : Nat) (s : List Char) : Option (Scan Value) :=
  (digitRun? base s).map fun (ds, left) ↦ .ok (.int (ofDigits base ds), left)

/-- A number in any base. -/
def number? (s : List Char) : Option (Scan Value) :=
  (match s with
    | '0' :: 'x' :: rest => marked? 16 rest
    | '0' :: 'b' :: rest => marked? 2 rest
    | '0' :: 'o' :: rest => marked? 8 rest
    | _ => none).or (decimal? s)

/-- Infinity or NaN, with a sign or without. -/
def special? (s : List Char) : Option (Scan Value) :=
  match sign s with
  | (negative, 'i' :: 'n' :: 'f' :: rest) => some (.ok (.float (.infinite negative), rest))
  | (_, 'n' :: 'a' :: 'n' :: rest) => some (.ok (.float .nan, rest))
  | _ => none

/-! ## Moments -/

/-- A number of exactly `width` digits. -/
def fixed? (width : Nat) (s : List Char) : Option (Nat × List Char) :=
  let ds := (s.take width).filterMap (digitIn? 10)
  if ds.length = width then some (ofDigits 10 ds, s.drop width) else none

/-- Passes over one given character. -/
def expect? (c : Char) : List Char → Option (List Char)
  | d :: rest => if d = c then some rest else none
  | [] => none

/-- A day, its month from 1 to 12 and its day from 1 to 31. -/
def day? (s : List Char) : Option (Day × List Char) := do
  let (year, s) ← fixed? 4 s
  let s ← expect? '-' s
  let (month, s) ← fixed? 2 s
  let s ← expect? '-' s
  let (day, s) ← fixed? 2 s
  if 1 ≤ month ∧ month ≤ 12 ∧ 1 ≤ day ∧ day ≤ 31 then some (⟨year, month, day⟩, s) else none

/-- The microseconds behind a point: six digits count, those after them are passed over. -/
def microseconds (s : List Char) : Nat × List Char :=
  match s with
  | '.' :: rest =>
    let ds := (rest.takeWhile fun c ↦ (digitIn? 10 c).isSome).filterMap (digitIn? 10)
    if ds.isEmpty then (0, s)
    else (ofDigits 10 ((ds ++ List.replicate 6 0).take 6),
      rest.dropWhile fun c ↦ (digitIn? 10 c).isSome)
  | _ => (0, s)

/-- An hour and a minute. -/
def hourMinute? (s : List Char) : Option (Nat × Nat × List Char) := do
  let (hour, s) ← fixed? 2 s
  let s ← expect? ':' s
  let (minute, s) ← fixed? 2 s
  if hour < 24 ∧ minute < 60 then some (hour, minute, s) else none

/-- A time of day. -/
def clock? (s : List Char) : Option (Clock × List Char) := do
  let (hour, minute, s) ← hourMinute? s
  let s ← expect? ':' s
  let (second, s) ← fixed? 2 s
  if second < 60 then
    let (microsecond, s) := microseconds s
    some (⟨hour, minute, second, microsecond⟩, s)
  else none

/-- An offset from universal time, in minutes, if there is one. -/
def offset (s : List Char) : Option Int × List Char :=
  match s with
  | c :: rest =>
    if c = 'Z' || c = 'z' then (some 0, rest)
    else if c = '+' || c = '-' then match hourMinute? rest with
      | some (hour, minute, left) =>
        let minutes : Int := 60 * hour + minute
        (some (if c = '-' then -minutes else minutes), left)
      | none => (none, s)
    else (none, s)
  | [] => (none, s)

/-- The time of day behind a day, if there is one. -/
def clockAfterDay? : List Char → Option (Clock × List Char)
  | c :: rest => if c = 'T' || c = 't' || c = ' ' then clock? rest else none
  | [] => none

/-- A day, possibly with a time of day and an offset. The calendar must have the day. -/
def dayOrInstant? (s : List Char) : Option (Scan Value) :=
  (day? s).map fun (d, s) ↦
    if d.isValid then match clockAfterDay? s with
      | some (c, s) => .ok (.moment (.instant d c (offset s).1), (offset s).2)
      | none => .ok (.moment (.day d), s)
    else malformed

/-- A time of day alone. -/
def timeOfDay? (s : List Char) : Option (Scan Value) :=
  (clock? s).map fun (c, s) ↦ .ok (.moment (.clock c), s)

/-- A moment or a number. -/
def scalar (s : List Char) : Scan Value :=
  ((dayOrInstant? s).or ((timeOfDay? s).or ((number? s).or (special? s)))).getD malformed

end MailDispatch.Toml
