/-
Templates: texts with slots for values.

A slot starts with a percent sign and ends with a letter that says how its value is shown; between
them stand flags, a width and a precision. Two percent signs are one. Every value fills one slot. A
template whose slots do not fit the values has no text. An object that is the only value may also be
asked for its members by name.
-/
import DesktopMacro.Json.Conversion
import DesktopMacro.Number.PlacesText

set_option autoImplicit false

namespace DesktopMacro.Template

/-! ## Slots -/

/-- A slot as far as it has been read. -/
structure Slot where
  alternate : Bool
  zeros : Bool
  left : Bool
  blank : Bool
  plus : Bool
  width : Option Nat
  precision : Option Nat
deriving DecidableEq, Repr

def Slot.plain : Slot := ⟨false, false, false, false, false, none, none⟩

/-- A shown value: its sign, what stands between the sign and the zeros that fill the slot, and the
rest. -/
structure Shown where
  sign : List Char
  lead : List Char
  body : List Char
  isNumber : Bool

/-- A shown value as it fills the width of a slot. -/
def Slot.fill (slot : Slot) (shown : Shown) : List Char :=
  let length := shown.sign.length + shown.lead.length + shown.body.length
  let missing := slot.width.getD 0 - length
  if slot.left then
    shown.sign ++ shown.lead ++ shown.body ++ List.replicate missing ' '
  else if slot.zeros && shown.isNumber then
    shown.sign ++ shown.lead ++ List.replicate missing '0' ++ shown.body
  else List.replicate missing ' ' ++ shown.sign ++ shown.lead ++ shown.body

/-! ## Values -/

/-- The sign of a number in a slot. -/
def Slot.signOf (slot : Slot) (negative : Bool) : List Char :=
  if negative then ['-'] else if slot.plus then ['+'] else if slot.blank then [' '] else []

/-- A text in a slot, cut to the precision. -/
def Slot.showText (slot : Slot) (text : String) : Shown :=
  let cs := text.toList
  ⟨[], [], match slot.precision with
    | none => cs
    | some length => cs.take length, false⟩

/-- A text without any character that is not ASCII. -/
def escapeAll (text : String) : String :=
  String.ofList (text.toList.flatMap (fun c =>
    let n := c.toNat
    if n < 128 then [c]
    else if n < 256 then '\\' :: 'x' :: Text.hexDigits 2 n
    else if n < 65536 then '\\' :: 'u' :: Text.hexDigits 4 n
    else '\\' :: 'U' :: Text.hexDigits 8 n))

/-- A whole number in a slot. -/
def Slot.showWhole (slot : Slot) (base : Nat) (lead : List Char) (n : Int) : Shown :=
  let digits := Nat.toDigits base n.natAbs
  let zeros := List.replicate (slot.precision.getD 0 - digits.length) '0'
  ⟨slot.signOf (n < 0), if slot.alternate then lead else [], zeros ++ digits, true⟩

/-- A double in a slot. -/
def Slot.showDouble (slot : Slot) (form : Char) (x : Binary64) : Shown :=
  let text := x.magnitudeText form.toLower (slot.precision.getD 6) slot.alternate
  ⟨slot.signOf (x.isNegative && !x.isNaN), [], if form.isUpper then text.map Char.toUpper else text,
    true⟩

/-- The whole number that a decimal slot shows of a value. -/
def decimalOf : Json → Option Int
  | .bool b => some (if b then 1 else 0)
  | .int n => if Integer.IsWritable n then some n else none
  | .float x => x.truncate.toOption
  | _ => none

/-- The whole number that a slot of another base shows of a value. -/
def wholeOf : Json → Option Int
  | .bool b => some (if b then 1 else 0)
  | .int n => some n
  | _ => none

/-- The double that a slot shows of a value. -/
def doubleOf : Json → Option Binary64
  | .float x => some x
  | value => (wholeOf value).bind (fun n =>
    let x := Binary64.ofInt n
    if x.isFinite then some x else none)

/-- The character that a slot shows of a value. -/
def charOf : Json → Option Char
  | .text s =>
    match s.toList with
    | [c] => some c
    | _ => none
  | value => (wholeOf value).bind (fun n =>
    if 0 ≤ n && n.toNat.isValidChar then some (Char.ofNat n.toNat) else none)

/-- A value in a slot that ends with a letter. -/
def Slot.show (slot : Slot) (letter : Char) (value : Json) : Option Shown :=
  match letter with
  | 's' => value.asText.toOption.map slot.showText
  | 'r' => if value.isWritable then some (slot.showText value.quoted) else none
  | 'a' => if value.isWritable then some (slot.showText (escapeAll value.quoted)) else none
  | 'd' | 'i' | 'u' => (decimalOf value).map (slot.showWhole 10 [])
  | 'o' => (wholeOf value).map (slot.showWhole 8 ['0', 'o'])
  | 'x' => (wholeOf value).map (slot.showWhole 16 ['0', 'x'])
  | 'X' => (wholeOf value).map (fun n =>
      let shown := slot.showWhole 16 ['0', 'X'] n
      { shown with body := shown.body.map Char.toUpper })
  | 'c' => (charOf value).map (fun c => ⟨[], [], [c], false⟩)
  | 'e' | 'E' | 'f' | 'F' | 'g' | 'G' => (doubleOf value).map (slot.showDouble letter)
  | _ => none

/-! ## Filling -/

/-- Where in a template a character stands. -/
inductive Stage where
  | text
  /-- After a percent sign. -/
  | start
  /-- In the name of a member; so many brackets are open, and these characters are read. -/
  | name (depth : Nat) (read : List Char)
  | flags
  /-- After a digit of the width. -/
  | width
  /-- After a width. -/
  | point
  /-- After the point before a precision. -/
  | precision
  /-- After a digit of the precision. -/
  | places
  /-- After a precision. -/
  | size
  /-- Where only the letter is left. -/
  | letter

/-- What is left to do: the place in the template, the slot at hand, and the values to come. -/
structure Filling where
  stage : Stage
  slot : Slot
  values : List Json
  members : Option Members

/-- The value for the next slot. -/
def Filling.next (filling : Filling) : Option (Json × Filling) :=
  match filling.values with
  | [] => none
  | value :: values => some (value, { filling with values })

/-- A number that is given as a value, for a width or a precision. -/
def Filling.nextNumber (filling : Filling) : Option (Int × Filling) :=
  match filling.next with
  | some (.int n, filling) => some (n, filling)
  | some (.bool b, filling) => some (if b then 1 else 0, filling)
  | _ => none

/-- A number with a digit more. -/
def addDigit (number : Option Nat) (c : Char) : Option Nat :=
  some (number.getD 0 * 10 + (c.toNat - 48))

/-- The largest width and the largest precision. -/
def largest : Nat := 2147483647

/-- The letter that ends a slot. -/
def Filling.finish (filling : Filling) (c : Char) : Option (List Char × Filling) := do
  let slot := filling.slot
  if largest < slot.width.getD 0 || largest < slot.precision.getD 0 then none
  let (value, after) ← { filling with stage := .text, slot := .plain }.next
  return (slot.fill (← slot.show c value), after)

/-- A character after the precision: one letter for a size may stand before the last. -/
def Filling.size (filling : Filling) (c : Char) : Option (List Char × Filling) :=
  if c = 'h' || c = 'l' || c = 'L' then some ([], { filling with stage := .letter })
  else filling.finish c

/-- A digit of the precision, or what comes after it. -/
def Filling.place (filling : Filling) (c : Char) : Option (List Char × Filling) :=
  let slot := filling.slot
  if c.isDigit then
    let slot := { slot with precision := addDigit slot.precision c }
    some ([], { filling with stage := .places, slot })
  else filling.size c

/-- A character after the point. -/
def Filling.precise (filling : Filling) (c : Char) : Option (List Char × Filling) :=
  if c = '*' then do
    let (n, filling) ← filling.nextNumber
    return ([], { filling with
      stage := .size, slot := { filling.slot with precision := some n.toNat } })
  else filling.place c

/-- A character after the width. -/
def Filling.point (filling : Filling) (c : Char) : Option (List Char × Filling) :=
  if c = '.' then
    some ([], { filling with stage := .precision, slot := { filling.slot with precision := some 0 } })
  else filling.size c

/-- A digit of the width, or what comes after it. -/
def Filling.digit (filling : Filling) (c : Char) : Option (List Char × Filling) :=
  let slot := filling.slot
  if c.isDigit then
    let slot := { slot with width := addDigit slot.width c }
    some ([], { filling with stage := .width, slot })
  else filling.point c

/-- A character after the flags. -/
def Filling.widen (filling : Filling) (c : Char) : Option (List Char × Filling) :=
  if c = '*' then do
    let (n, filling) ← filling.nextNumber
    let slot := filling.slot
    let slot := { slot with width := some n.natAbs, left := slot.left || n < 0 }
    return ([], { filling with stage := .point, slot })
  else filling.digit c

/-- A character among the flags. -/
def Filling.flag (filling : Filling) (c : Char) : Option (List Char × Filling) :=
  let slot := filling.slot
  match c with
  | '-' => some ([], { filling with slot := { slot with left := true } })
  | '+' => some ([], { filling with slot := { slot with plus := true } })
  | ' ' => some ([], { filling with slot := { slot with blank := true } })
  | '#' => some ([], { filling with slot := { slot with alternate := true } })
  | '0' => some ([], { filling with slot := { slot with zeros := true } })
  | c => filling.widen c

/-- The member of a name becomes the next value. -/
def Filling.ask (filling : Filling) (name : List Char) : Option (List Char × Filling) := do
  let value ← (← filling.members).get? (String.ofList name)
  return ([], { filling with stage := .flags, values := [value] })

/-- One character of a template. -/
def Filling.step (filling : Filling) (c : Char) : Option (List Char × Filling) :=
  match filling.stage with
  | .text => if c = '%' then some ([], { filling with stage := .start }) else some ([c], filling)
  | .start =>
    if c = '%' then some (['%'], { filling with stage := .text })
    else if c = '(' && filling.members.isSome then
      some ([], { filling with stage := .name 0 [] })
    else { filling with stage := .flags }.flag c
  | .name depth read =>
    if c = '(' then some ([], { filling with stage := .name (depth + 1) (c :: read) })
    else if c = ')' then
      match depth with
      | 0 => filling.ask read.reverse
      | depth + 1 => some ([], { filling with stage := .name depth (c :: read) })
    else some ([], { filling with stage := .name depth (c :: read) })
  | .flags => filling.flag c
  | .width => filling.digit c
  | .point => filling.point c
  | .precision => filling.precise c
  | .places => filling.place c
  | .size => filling.size c
  | .letter => filling.finish c

/-- Fills a template from a state on. -/
def fillFrom : Filling → List Char → Option (List Char)
  | filling, [] =>
    match filling.stage with
    | .text => if filling.members.isSome || filling.values.isEmpty then some [] else none
    | _ => none
  | filling, c :: cs => do
    let (text, filling) ← filling.step c
    return text ++ (← fillFrom filling cs)

/-- The members of an object that is the only value. -/
def membersOf : List Json → Option Members
  | [.object (member :: members)] => some (member :: members)
  | _ => none

/-- **The text of a template** with values. Without any values it is the template as it stands. -/
def render (template : String) (values : List Json) : Option String :=
  if values.isEmpty then some template
  else (fillFrom ⟨.text, .plain, values, membersOf values⟩ template.toList).map String.ofList

end DesktopMacro.Template
