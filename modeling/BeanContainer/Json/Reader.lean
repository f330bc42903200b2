import BeanContainer.Json.Basic
/-!
# Reading JSON

`Json.read` reads one value that takes up the whole text. A text is refused for one of two reasons:
it ended too early, or something else was found than what the grammar asks for at that place. At
most `maxDepth` arrays and objects may be nested.

Every step returns the text that is left together with the fact that it is shorter, which is what
makes the recursion end.
-/

namespace BeanContainer.Json

/-- Why a text is not JSON. -/
inductive ReadError where
  /-- The text ends where something has to follow. -/
  | truncated
  /-- The text goes on in a way that no JSON text does. -/
  | malformed
  deriving DecidableEq, Repr

/-- How many arrays and objects may be nested. -/
def maxDepth : Nat := 127

namespace Reader

/-- What is left of a text after something has been read from it. -/
abbrev Rest (cs : List Char) := { r : List Char // r.length < cs.length }

/-- What a reading step yields: a value and a shorter rest, or the reason why there is none. -/
abbrev Result (α : Type) (cs : List Char) := Except ReadError (α × Rest cs)

/-- Reading from the end of a longer text leaves less of the longer text. -/
def Result.weaken {α : Type} {cs ds : List Char} (h : ds.length ≤ cs.length) (r : Result α ds) :
    Result α cs :=
  r.map fun (a, rest) => (a, ⟨rest.1, Nat.lt_of_lt_of_le rest.2 h⟩)

/-- The error at a place where none of the expected characters stands. -/
def unexpected : List Char → ReadError
  | [] => .truncated
  | _ :: _ => .malformed

/-! ### Blanks and literals -/

/-- The characters that may stand between the parts of a text. -/
def isBlank (c : Char) : Bool := c == ' ' || c == '\t' || c == '\n' || c == '\r'

/-- The text from its first character that is not blank. -/
def skipBlanks (cs : List Char) : List Char := cs.dropWhile isBlank

theorem length_skipBlanks_le (cs : List Char) : (skipBlanks cs).length ≤ cs.length :=
  (List.dropWhile_sublist _).length_le

def expect : (word cs : List Char) → Except ReadError { r : List Char // r.length ≤ cs.length }
  | [], cs => .ok ⟨cs, Nat.le_refl _⟩
  | _ :: _, [] => .error .truncated
  | w :: ws, c :: cs =>
    if c = w then
      (expect ws cs).map fun r => ⟨r.1, Nat.le_trans r.2 (Nat.le_succ _)⟩
    else .error .malformed

/-! ### Numbers -/

/-- Digits are counted exactly below this bound. -/
def significandBound : Nat := Nat.pow 2 64

/-- The digits at the front of a text. -/
def digits (cs : List Char) : List Nat :=
  (cs.takeWhile Char.isDigit).map fun c => c.toNat - '0'.toNat

/-- The text behind its leading digits. -/
def afterDigits (cs : List Char) : List Char := cs.dropWhile Char.isDigit

theorem length_afterDigits_le (cs : List Char) : (afterDigits cs).length ≤ cs.length :=
  (List.dropWhile_sublist _).length_le

/-- Append digits to a number for as long as it stays below `significandBound`, and count the digits
that are left over. -/
def pushDigits : Nat → List Nat → Nat × Nat
  | n, [] => (n, 0)
  | n, d :: ds =>
    if n * 10 + d < significandBound then pushDigits (n * 10 + d) ds else (n, ds.length + 1)

/-- A power of ten as the floating point number nearest to it. -/
def powerOfTen (k : Nat) : Binary64 := (Binary64.ofRatio? false (Nat.pow 10 k) 1).getD default

/-- The largest power of ten that a floating point number reaches. -/
def maxPower : Nat := 308

/-- `x * 10 ^ k`, for a power in range; `none` if the result is beyond the range. -/
def multiplyByTen (x : Binary64) (k : Nat) : Option Binary64 :=
  let p := (powerOfTen k).magnitude
  x.scale? p.1 p.2

/-- `x / 10 ^ k`, for a power in range. -/
def divideByTen (x : Binary64) (k : Nat) : Option Binary64 :=
  let p := (powerOfTen k).magnitude
  x.scale? p.2 p.1

/-- `x / 10 ^ k`, by one division for each power of ten that is in range. -/
def divideBySteps (x : Binary64) (k : Nat) : Option Binary64 :=
  if _h : k ≤ maxPower then divideByTen x k
  else if x.isZero then some x
  else
    (divideByTen x maxPower).bind fun y => divideBySteps y (k - maxPower)
termination_by k
decreasing_by exact Nat.sub_lt (Nat.zero_lt_of_lt (Nat.lt_of_not_le _h)) (Nat.zero_lt_succ _)

/-- `x * 10 ^ e`; `none` if the result is beyond the range. -/
def scaleByTen (x : Binary64) (e : Int) : Option Binary64 :=
  if e < 0 then divideBySteps x (-e).toNat
  else if e ≤ maxPower then multiplyByTen x e.toNat
  else if x.isZero then some x
  else none

/-- The floating point number with these digits and power of ten. -/
def realOf (negative : Bool) (significand : Nat) (e : Int) : Except ReadError Json :=
  match (Binary64.ofInt? significand).bind fun x => scaleByTen x e with
  | some x => .ok (.real (x.withSign negative))
  | none => .error .malformed

/-- The integer with these digits, or the nearest floating point number to one below the range of
integers and to the negative zero. -/
def integerOf (negative : Bool) (n : Nat) : Except ReadError Json :=
  if !negative then .ok (.integer n)
  else if n ≠ 0 ∧ Json.minInteger ≤ -(n : Int) then .ok (.integer (-(n : Int)))
  else realOf true n 0

/-- The greatest exponent that is counted. -/
def maxExponent : Int := (Nat.pow 2 31 : Nat) - 1

/-- Read the digits of an exponent and scale a number by it. Beyond the range of exponents a number
is zero or out of range. -/
def exponentPart (negative : Bool) (significand : Nat) (e : Int) (down : Bool) (cs : List Char) :
    Except ReadError (Json × { r : List Char // r.length ≤ cs.length }) :=
  let ds := digits cs
  if ds.isEmpty then .error (unexpected cs)
  else
    let k : Int := (ds.foldl (fun n d => n * 10 + d) 0 : Nat)
    let rest : { r : List Char // r.length ≤ cs.length } :=
      ⟨afterDigits cs, length_afterDigits_le cs⟩
    if maxExponent < k then
      if significand ≠ 0 ∧ !down then .error .malformed
      else .ok (.real (.zero negative), rest)
    else (realOf negative significand (if down then e - k else e + k)).map (·, rest)

def exponent (negative : Bool) (significand : Nat) (e : Int) : (cs : List Char) →
    Except ReadError (Json × { r : List Char // r.length ≤ cs.length })
  | '+' :: cs =>
    (exponentPart negative significand e false cs).map fun (v, r) =>
      (v, ⟨r.1, Nat.le_succ_of_le r.2⟩)
  | '-' :: cs =>
    (exponentPart negative significand e true cs).map fun (v, r) =>
      (v, ⟨r.1, Nat.le_succ_of_le r.2⟩)
  | cs => exponentPart negative significand e false cs

/-- Whether a character introduces an exponent. -/
def isExponentMark (c : Char) : Bool := c == 'e' || c == 'E'

/-- Read what may follow the digits of a floating point number. -/
def optionalExponent (negative : Bool) (significand : Nat) (e : Int) : (cs : List Char) →
    Except ReadError (Json × { r : List Char // r.length ≤ cs.length })
  | [] => (realOf negative significand e).map (·, ⟨[], Nat.le_refl _⟩)
  | c :: cs =>
    if isExponentMark c then
      (exponent negative significand e cs).map fun (v, r) => (v, ⟨r.1, Nat.le_succ_of_le r.2⟩)
    else (realOf negative significand e).map (·, ⟨c :: cs, Nat.le_refl _⟩)

/-- Read a number without its sign. A number is an integer if it has neither a fraction nor an
exponent and its digits stay below `significandBound`; the digits that do not are replaced by
zeros in front of the point and dropped behind it. -/
def unsigned (negative : Bool) (cs : List Char) : Result Json cs :=
  match hd : digits cs with
  | [] => .error (unexpected cs)
  | d :: ds =>
    if d = 0 ∧ ds ≠ [] then .error .malformed
    else
      let (n, dropped) := pushDigits 0 (d :: ds)
      have hlt : (afterDigits cs).length < cs.length := by
        cases cs with
        | nil => simp [digits] at hd
        | cons c cs =>
          have hc : c.isDigit = true := by
            cases h : c.isDigit with
            | true => rfl
            | false => simp [digits, h] at hd
          simp only [afterDigits, List.dropWhile_cons, hc, if_true, List.length_cons]
          exact Nat.lt_succ_of_le (length_afterDigits_le cs)
      match hr : afterDigits cs with
      | '.' :: fs =>
        let fraction := digits fs
        if fraction.isEmpty then .error (unexpected fs)
        else
          let (m, unread) := pushDigits n fraction
          let e : Int := (dropped : Int) - ((fraction.length - unread : Nat) : Int)
          (optionalExponent negative m e (afterDigits fs)).map fun (v, r) =>
            (v, ⟨r.1, by
              have h1 := r.2
              have h2 := length_afterDigits_le fs
              rw [hr, List.length_cons] at hlt
              omega⟩)
      | rs =>
        if dropped = 0 ∧ !rs.head?.any isExponentMark then
          (integerOf negative n).map (·, ⟨rs, hr ▸ hlt⟩)
        else
          (optionalExponent negative n dropped rs).map fun (v, r) =>
            (v, ⟨r.1, Nat.lt_of_le_of_lt r.2 (hr ▸ hlt)⟩)

/-! ### Strings -/

def hexDigit? (c : Char) : Option Nat :=
  if c.isDigit then some (c.toNat - '0'.toNat)
  else if 'a' ≤ c ∧ c ≤ 'f' then some (c.toNat - 'a'.toNat + 10)
  else if 'A' ≤ c ∧ c ≤ 'F' then some (c.toNat - 'A'.toNat + 10)
  else none

/-- The bytes that a text takes up. -/
def byteCount (cs : List Char) : Nat := cs.foldl (fun n c => n + c.utf8Size) 0

/-- Read the four hexadecimal digits of a character code. A text of fewer than four bytes ends too
early, whatever it holds. -/
def hexCode : (cs : List Char) → Result Nat cs
  | a :: b :: c :: d :: rest =>
    match hexDigit? a, hexDigit? b, hexDigit? c, hexDigit? d with
    | some w, some x, some y, some z =>
      .ok (((w * 16 + x) * 16 + y) * 16 + z, ⟨rest, by simp only [List.length_cons]; omega⟩)
    | _, _, _, _ => .error .malformed
  | cs => .error (if byteCount cs < 4 then .truncated else .malformed)

/-- Whether a code is the first half of a pair that stands for one character. -/
def isLeadingHalf (n : Nat) : Bool := 0xd800 ≤ n && n ≤ 0xdbff

/-- Whether a code is the second half of a pair that stands for one character. -/
def isTrailingHalf (n : Nat) : Bool := 0xdc00 ≤ n && n ≤ 0xdfff

/-- The character that two halves stand for. -/
def joinHalves (leading trailing : Nat) : Char :=
  Char.ofNat (0x10000 + (leading - 0xd800) * 0x400 + (trailing - 0xdc00))

/-- Read a character code, which may be a pair of halves; a half alone stands for no character. -/
def characterCode (cs : List Char) : Result Char cs := do
  let (n, rest) ← hexCode cs
  if isTrailingHalf n then .error .malformed
  else if isLeadingHalf n then
    match h : rest.1 with
    | '\\' :: 'u' :: more =>
      let (m, rest') ← hexCode more
      if isTrailingHalf m then
        .ok (joinHalves n m, ⟨rest'.1, by
          have h1 := rest'.2
          have h2 := rest.2
          rw [h] at h2
          simp only [List.length_cons] at h2
          omega⟩)
      else .error .malformed
    | [] | ['\\'] => .error .truncated
    | _ => .error .malformed
  else .ok (Char.ofNat n, rest)

/-- The character that a backslash followed by `c` stands for. -/
def simpleEscape? (c : Char) : Option Char :=
  if c = '"' ∨ c = '\\' ∨ c = '/' then some c
  else if c = 'b' then some '\x08'
  else if c = 'f' then some '\x0c'
  else if c = 'n' then some '\n'
  else if c = 'r' then some '\r'
  else if c = 't' then some '\t'
  else none

/-- Read one character of a string that does not begin with a quote: itself or an escape. -/
def character : (cs : List Char) → Result Char cs
  | [] => .error .truncated
  | '\\' :: [] => .error .truncated
  | '\\' :: 'u' :: cs => (characterCode cs).weaken (by simp only [List.length_cons]; omega)
  | '\\' :: c :: cs =>
    match simpleEscape? c with
    | some d => .ok (d, ⟨cs, by simp only [List.length_cons]; omega⟩)
    | none => .error .malformed
  | c :: cs => if c.toNat < 0x20 then .error .malformed else .ok (c, ⟨cs, Nat.lt_succ_self _⟩)

/-- Read the characters of a string up to its closing quote. -/
def characters (cs : List Char) : Result (List Char) cs :=
  match cs with
  | '"' :: rest => .ok ([], ⟨rest, Nat.lt_succ_self _⟩)
  | cs =>
    match character cs with
    | .error e => .error e
    | .ok (c, ⟨rest, h⟩) =>
      ((characters rest).map fun (ds, r) => (c :: ds, ⟨r.1, Nat.lt_trans r.2 h⟩))
termination_by cs.length

/-- Read a string behind its opening quote. -/
def string (cs : List Char) : Result String cs :=
  (characters cs).map fun (ds, r) => (String.ofList ds, r)

/-! ### Values -/

mutual

/-- Read a value, in which `depth` more arrays and objects may be nested. -/
def value (depth : Nat) (cs : List Char) : Result Json cs :=
  match h : skipBlanks cs with
  | [] => .error .truncated
  | c :: rest =>
    have hlt : rest.length < cs.length := by
      have := length_skipBlanks_le cs
      rw [h, List.length_cons] at this
      omega
    let literal (word : String) (v : Json) : Result Json cs :=
      (expect word.toList rest).map fun r => (v, ⟨r.1, Nat.lt_of_le_of_lt r.2 hlt⟩)
    if c = 'n' then literal "ull" .null
    else if c = 't' then literal "rue" (.bool true)
    else if c = 'f' then literal "alse" (.bool false)
    else if c = '"' then
      (string rest).map fun (s, r) => (.string s, ⟨r.1, Nat.lt_trans r.2 hlt⟩)
    else if c = '-' then (unsigned true rest).weaken (Nat.le_of_lt hlt)
    else if c.isDigit then (unsigned false (c :: rest)).weaken (h ▸ length_skipBlanks_le cs)
    else if c = '[' then
      match depth with
      | 0 => .error .malformed
      | depth + 1 =>
        match h' : skipBlanks rest with
        | ']' :: more =>
          .ok (.array [], ⟨more, by
            have := length_skipBlanks_le rest
            rw [h', List.length_cons] at this
            omega⟩)
        | _ =>
          (items depth rest).map fun (vs, r) => (.array vs, ⟨r.1, Nat.lt_trans r.2 hlt⟩)
    else if c = '\x7b' then
      match depth with
      | 0 => .error .malformed
      | depth + 1 =>
        (fields depth rest).map fun (fs, r) => (Json.ofFields fs, ⟨r.1, Nat.lt_trans r.2 hlt⟩)
    else .error .malformed
termination_by (cs.length, 0)

/-- Read the items of an array up to its closing bracket, at least one. -/
def items (depth : Nat) (cs : List Char) : Result (List Json) cs :=
  match value depth cs with
  | .error e => .error e
  | .ok (v, ⟨rest, hlt⟩) =>
    match h : skipBlanks rest with
    | ']' :: more =>
      .ok ([v], ⟨more, by
        have := length_skipBlanks_le rest
        rw [h, List.length_cons] at this
        omega⟩)
    | ',' :: more =>
      have hmore : more.length < cs.length := by
        have := length_skipBlanks_le rest
        rw [h, List.length_cons] at this
        omega
      (items depth more).map fun (vs, r) => (v :: vs, ⟨r.1, Nat.lt_trans r.2 hmore⟩)
    | other => .error (unexpected other)
termination_by (cs.length, 1)

/-- Read the fields of an object up to its closing brace. -/
def fields (depth : Nat) (cs : List Char) : Result (List (String × Json)) cs :=
  match h : skipBlanks cs with
  | '\x7d' :: more =>
    .ok ([], ⟨more, by
      have := length_skipBlanks_le cs
      rw [h, List.length_cons] at this
      omega⟩)
  | _ => someFields depth cs
termination_by (cs.length, 2)

/-- Read the fields of an object up to its closing brace, at least one. -/
def someFields (depth : Nat) (cs : List Char) : Result (List (String × Json)) cs :=
  match h : skipBlanks cs with
  | '"' :: rest =>
    have hrest : rest.length < cs.length := by
      have := length_skipBlanks_le cs
      rw [h, List.length_cons] at this
      omega
    match string rest with
    | .error e => .error e
    | .ok (name, ⟨afterName, hname⟩) =>
      match hc : skipBlanks afterName with
      | ':' :: afterColon =>
        have hcolon : afterColon.length < cs.length := by
          have := length_skipBlanks_le afterName
          rw [hc, List.length_cons] at this
          omega
        match value depth afterColon with
        | .error e => .error e
        | .ok (v, ⟨afterValue, hvalue⟩) =>
          match hn : skipBlanks afterValue with
          | '\x7d' :: more =>
            .ok ([(name, v)], ⟨more, by
              have := length_skipBlanks_le afterValue
              rw [hn, List.length_cons] at this
              omega⟩)
          | ',' :: more =>
            have hmore : more.length < cs.length := by
              have := length_skipBlanks_le afterValue
              rw [hn, List.length_cons] at this
              omega
            (someFields depth more).map fun (fs, r) =>
              ((name, v) :: fs, ⟨r.1, Nat.lt_trans r.2 hmore⟩)
          | other => .error (unexpected other)
      | other => .error (unexpected other)
  | other => .error (unexpected other)
termination_by (cs.length, 1)

end

end Reader

/-- Read a text that holds one value and blanks around it. -/
def read (text : String) : Except ReadError Json := do
  let (v, rest) ← Reader.value maxDepth text.toList
  match Reader.skipBlanks rest.1 with
  | [] => .ok v
  | _ :: _ => .error .malformed

end BeanContainer.Json
