import RpcRouting.Decimal.Scaled
import RpcRouting.Json.Basic
import RpcRouting.Text.Map
/-!
Reading the text of a JSON value: characters become tokens, one step for each character, and tokens
become a value, one step for each token. The fields of an object come in the order of their keys;
of two fields with one key the later one counts.
-/

set_option autoImplicit false
set_option relaxedAutoImplicit false

namespace RpcRouting.Json

inductive Token
  | mark (c : Char)
  | text (value : String)
  | scalar (value : Json)

/-- A character of a JSON string, or a unit of 16 bits that was written as an escape. -/
inductive StringUnit
  | plain (c : Char)
  | escaped (unit : Nat)

/-- The characters of units, where two units that form a surrogate pair stand for one character. -/
def charsOfUnits? : List StringUnit → Option (List Char)
  | [] => some []
  | .plain c :: rest => (charsOfUnits? rest).map (c :: ·)
  | .escaped high :: .escaped low :: rest =>
    if 0xD800 ≤ high ∧ high < 0xDC00 then
      if 0xDC00 ≤ low ∧ low < 0xE000 then
        (charsOfUnits? rest).map
          (Char.ofNat (0x10000 + (high - 0xD800) * 0x400 + (low - 0xDC00)) :: ·)
      else none
    else if 0xDC00 ≤ high ∧ high < 0xE000 then none
    else (charsOfUnits? (.escaped low :: rest)).map (Char.ofNat high :: ·)
  | .escaped unit :: rest =>
    if 0xD800 ≤ unit ∧ unit < 0xE000 then none
    else (charsOfUnits? rest).map (Char.ofNat unit :: ·)

def hexDigit? (c : Char) : Option Nat :=
  if '0' ≤ c ∧ c ≤ '9' then some (c.toNat - '0'.toNat)
  else if 'a' ≤ c ∧ c ≤ 'f' then some (c.toNat - 'a'.toNat + 10)
  else if 'A' ≤ c ∧ c ≤ 'F' then some (c.toNat - 'A'.toNat + 10)
  else none

def shortEscape? (c : Char) : Option Char :=
  if c = '"' ∨ c = '\\' ∨ c = '/' then some c
  else if c = 'b' then some '\x08'
  else if c = 'f' then some '\x0c'
  else if c = 'n' then some '\n'
  else if c = 'r' then some '\r'
  else if c = 't' then some '\t'
  else none

def digitsValue (digits : List Char) : Nat := Nat.ofDigitChars 10 digits 0

def fraction? : List Char → Option (List Char × List Char)
  | '.' :: rest =>
    match rest.span Char.isDigit with
    | ([], _) => none
    | parts => some parts
  | rest => some ([], rest)

def exponent? : List Char → Option Int
  | [] => some 0
  | e :: rest =>
    let (negative, digits) := match rest with
      | '-' :: digits => (true, digits)
      | '+' :: digits => (false, digits)
      | _ => (false, rest)
    if (e = 'e' ∨ e = 'E') ∧ digits ≠ [] ∧ digits.all Char.isDigit then
      some (if negative then -(digitsValue digits : Int) else digitsValue digits)
    else none

/-- The number of a sign and characters. A whole number that does not fit into 64 bits, or that is
zero with a sign, counts as one with a fraction. -/
def unsigned? (negative : Bool) (cs : List Char) : Option Json := do
  let (whole, rest) := cs.span Char.isDigit
  if whole = [] ∨ (whole.head? = some '0' ∧ 1 < whole.length) then failure
  let n := digitsValue whole
  if rest = [] then
    if negative ∧ 0 < n ∧ n ≤ 0x8000000000000000 then return integer (-(n : Int))
    if ¬ negative ∧ n < 0x10000000000000000 then return integer n
  let (fraction, rest) ← fraction? rest
  return floating (← Binary64.ofFigures? negative whole fraction (← exponent? rest))

def scalar? (word : List Char) : Option Json :=
  if word = ['n', 'u', 'l', 'l'] then some null
  else if word = ['t', 'r', 'u', 'e'] then some (boolean true)
  else if word = ['f', 'a', 'l', 's', 'e'] then some (boolean false)
  else
    match word with
    | '-' :: rest => unsigned? true rest
    | _ => unsigned? false word

/-- Where a lexer stands: between tokens, in a word, or in a string and there perhaps in an
escape. What was read of the token is kept last character first. -/
inductive LexMode
  | between
  | word (done : List Char)
  | string (done : List StringUnit)
  | escape (done : List StringUnit)
  | unicode (done : List StringUnit) (digits : Nat) (value : Nat)

structure Lexer where
  tokens : List Token
  mode : LexMode

namespace Lexer

def endWord? (l : Lexer) : Option Lexer :=
  match l.mode with
  | .between => some l
  | .word done => (scalar? done.reverse).map fun value => ⟨.scalar value :: l.tokens, .between⟩
  | _ => none

def outside? (l : Lexer) (c : Char) : Option Lexer :=
  if c = ' ' ∨ c = '\t' ∨ c = '\n' ∨ c = '\r' then l.endWord?
  else if c ∈ ['[', ']', '\x7b', '\x7d', ':', ','] then
    l.endWord?.map fun l => ⟨.mark c :: l.tokens, .between⟩
  else
    match l.mode with
    | .between => some ⟨l.tokens, if c = '"' then .string [] else .word [c]⟩
    | .word done => some ⟨l.tokens, .word (c :: done)⟩
    | _ => none

def step? (l : Lexer) (c : Char) : Option Lexer :=
  match l.mode with
  | .between => l.outside? c
  | .word _ => l.outside? c
  | .string done =>
    if c = '"' then
      (charsOfUnits? done.reverse).map fun cs => ⟨.text (String.ofList cs) :: l.tokens, .between⟩
    else if c = '\\' then some ⟨l.tokens, .escape done⟩
    else if c.toNat < 0x20 then none
    else some ⟨l.tokens, .string (.plain c :: done)⟩
  | .escape done =>
    if c = 'u' then some ⟨l.tokens, .unicode done 0 0⟩
    else (shortEscape? c).map fun c => ⟨l.tokens, .string (.plain c :: done)⟩
  | .unicode done digits value =>
    (hexDigit? c).map fun digit =>
      let value := value * 16 + digit
      ⟨l.tokens, if digits = 3 then .string (.escaped value :: done)
        else .unicode done (digits + 1) value⟩

def tokens? (cs : List Char) : Option (List Token) := do
  let l ← cs.foldlM step? ⟨[], .between⟩
  return (← l.endWord?).tokens.reverse

end Lexer

inductive Frame
  | items (done : List Json)
  | fields (done : List (String × Json))
  | field (done : List (String × Json)) (key : String)

inductive ParseMode
  | value
  | firstItem
  | firstKey
  | key
  | colon (key : String)
  | complete (value : Json)

structure Parser where
  stack : List Frame
  mode : ParseMode

namespace Parser

def begin? (stack : List Frame) : Token → Option Parser
  | .scalar value => some ⟨stack, .complete value⟩
  | .text value => some ⟨stack, .complete (.text value)⟩
  | .mark c =>
    if c = '[' then some ⟨.items [] :: stack, .firstItem⟩
    else if c = '\x7b' then some ⟨.fields [] :: stack, .firstKey⟩
    else none

def name? (stack : List Frame) : Token → Option Parser
  | .text key => some ⟨stack, .colon key⟩
  | _ => none

def behind? (value : Json) : List Frame → Char → Option Parser
  | .items done :: stack, c =>
    if c = ',' then some ⟨.items (value :: done) :: stack, .value⟩
    else if c = ']' then some ⟨stack, .complete (.array (value :: done).reverse)⟩
    else none
  | .field done key :: stack, c =>
    if c = ',' then some ⟨.fields ((key, value) :: done) :: stack, .key⟩
    else if c = '\x7d' then
      some ⟨stack, .complete (.object (TextMap.ofList ((key, value) :: done).reverse).entries)⟩
    else none
  | _, _ => none

def step? (p : Parser) (t : Token) : Option Parser :=
  match p.mode, t with
  | .value, t => begin? p.stack t
  | .firstItem, .mark ']' => some ⟨p.stack.tail, .complete (.array [])⟩
  | .firstItem, t => begin? p.stack t
  | .firstKey, .mark '\x7d' => some ⟨p.stack.tail, .complete (.object [])⟩
  | .firstKey, t => name? p.stack t
  | .key, t => name? p.stack t
  | .colon key, .mark ':' =>
    match p.stack with
    | .fields done :: stack => some ⟨.field done key :: stack, .value⟩
    | _ => none
  | .complete value, .mark c => behind? value p.stack c
  | _, _ => none

end Parser

def ofText? (s : String) : Option Json := do
  let tokens ← Lexer.tokens? s.toList
  match ← tokens.foldlM Parser.step? ⟨[], .value⟩ with
  | ⟨[], .complete value⟩ => return value
  | _ => none

end RpcRouting.Json
