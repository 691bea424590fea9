import PortfolioReports.Numeric.Reading
import PortfolioReports.Uuid
import PortfolioReports.Vocabulary

namespace PortfolioReports.CommandLine

inductive ArgumentKind where
  | text
  | path
  | uuid
  | count
  | year
  | float
  | word (names : List String)

def ArgumentKind.oneOf (α : Type) [Vocabulary α] : ArgumentKind :=
  .word ((Vocabulary.all : List α).map Vocabulary.name)

def readCount? (s : String) : Option UInt32 :=
  (Numeric.readIntIn? 0 (UInt32.size - 1) s).map fun n => n.toNat.toUInt32

def readYear? (s : String) : Option Int32 :=
  (Numeric.readIntIn? Int32.minValue.toInt Int32.maxValue.toInt s).map Int32.ofInt

def ArgumentKind.accepts (s : String) : ArgumentKind → Bool
  | text => true
  | path => !s.isEmpty
  | uuid => (Uuid.ofText? s).isSome
  | count => (readCount? s).isSome
  | year => (readYear? s).isSome
  | float => (Numeric.readFloat? s).isSome
  | word names => names.contains s

inductive OptionRole where
  | switch
  | repeatable
  | value (kind : ArgumentKind) (required : Bool)

structure OptionUsage where
  name : String
  letter? : Option Char
  role : OptionRole

namespace OptionUsage

def switch (name : String) : OptionUsage := ⟨name, none, .switch⟩
def optional (name : String) (kind : ArgumentKind) : OptionUsage := ⟨name, none, .value kind false⟩
def required (name : String) (kind : ArgumentKind) : OptionUsage := ⟨name, none, .value kind true⟩

def isRequired (o : OptionUsage) : Bool :=
  match o.role with
  | .value _ required => required
  | _ => false

end OptionUsage

structure Usage where
  operands : List ArgumentKind
  manyOperands : Bool
  options : List OptionUsage

structure Arguments where
  operands : List String
  values : List (String × String)
  switches : List String

def Arguments.empty : Arguments := ⟨[], [], []⟩

inductive Stop where
  | help
  | misuse
deriving DecidableEq

namespace Usage

def option? (u : Usage) (name : String) : Option OptionUsage := u.options.find? fun o => o.name == name

def letter? (u : Usage) (c : Char) : Option OptionUsage := u.options.find? fun o => o.letter? == some c

def operandKind? (u : Usage) (place : Nat) : Option ArgumentKind :=
  match u.operands[place]? with
  | some k => some k
  | none => if u.manyOperands then u.operands.getLast? else none

def isSpent (a : Arguments) (o : OptionUsage) : Bool :=
  match o.role with
  | .switch => a.switches.contains o.name
  | .repeatable => false
  | .value .. => (a.values.lookup o.name).isSome

def addOperand (u : Usage) (a : Arguments) (s : String) : Except Stop Arguments :=
  match u.operandKind? a.operands.length with
  | some kind => if kind.accepts s then .ok { a with operands := a.operands ++ [s] } else .error .misuse
  | none => .error .misuse

def addSwitch (a : Arguments) (o : OptionUsage) : Except Stop Arguments :=
  if isSpent a o then .error .misuse else .ok { a with switches := o.name :: a.switches }

def addValue (a : Arguments) (o : OptionUsage) (s : String) : Except Stop Arguments :=
  match o.role with
  | .value kind _ =>
    if !isSpent a o && kind.accepts s then .ok { a with values := (o.name, s) :: a.values } else .error .misuse
  | _ => .error .misuse

def meet (a : Arguments) (o : OptionUsage) (attached? : Option String) :
    Except Stop (Arguments × Option OptionUsage) :=
  match o.role, attached? with
  | .value .., some s => (addValue a o s).map fun a => (a, none)
  | .value .., none => if isSpent a o then .error .misuse else .ok (a, some o)
  | _, some _ => .error .misuse
  | _, none => (addSwitch a o).map fun a => (a, none)

def splitValue (cs : List Char) : List Char × Option String :=
  match cs.dropWhile (· ≠ '=') with
  | _ :: value => (cs.takeWhile (· ≠ '='), some (String.ofList value))
  | [] => (cs, none)

def readLong (u : Usage) (a : Arguments) (cs : List Char) : Except Stop (Arguments × Option OptionUsage) :=
  let (name, attached?) := splitValue cs
  if name = "help".toList then .error (if attached?.isSome then .misuse else .help)
  else match u.option? (String.ofList name) with
    | some o => meet a o attached?
    | none => .error .misuse

def readLetters (u : Usage) (a : Arguments) : List Char → Except Stop (Arguments × Option OptionUsage)
  | [] => .ok (a, none)
  | c :: cs =>
    if c = 'h' then .error .help
    else match u.letter? c with
      | none => .error .misuse
      | some o => match o.role, cs with
        | .value .., [] => meet a o none
        | .value .., '=' :: value => meet a o (some (String.ofList value))
        | .value .., value => meet a o (some (String.ofList value))
        | _, rest => do
          let (a, _) ← meet a o none
          u.readLetters a rest

def isDigitsOnly (cs : List Char) : Bool :=
  let mantissa := cs.takeWhile (· ≠ 'e')
  let exponent := cs.dropWhile (· ≠ 'e')
  mantissa.all (fun c => c.isDigit || c = '.') && mantissa.count '.' ≤ 1 && mantissa.head? ≠ some '.' &&
    (exponent.isEmpty || (!mantissa.isEmpty && 2 ≤ exponent.length && (exponent.drop 1).all Char.isDigit))

def isNegativeOperand (u : Usage) (a : Arguments) (cs : List Char) : Bool :=
  match u.operandKind? a.operands.length with
  | some .float => isDigitsOnly cs
  | _ => false

def readArgument (u : Usage) (a : Arguments) (s : String) : Except Stop (Arguments × Option OptionUsage) :=
  match s.toList with
  | '-' :: '-' :: name => u.readLong a name
  | '-' :: c :: letters =>
    if u.isNegativeOperand a (c :: letters) then (u.addOperand a s).map fun a => (a, none)
    else u.readLetters a (c :: letters)
  | _ => (u.addOperand a s).map fun a => (a, none)

def looksLikeOption (s : String) : Bool :=
  match s.toList with
  | '-' :: _ :: _ => true
  | _ => false

def isComplete (u : Usage) (a : Arguments) : Bool :=
  u.operands.length ≤ a.operands.length &&
    u.options.all fun o => !o.isRequired || (a.values.lookup o.name).isSome

def finish (u : Usage) (a : Arguments) : Except Stop Arguments :=
  if u.isComplete a then .ok a else .error .misuse

/-- Reads arguments while the value of an option is awaited, or none is. After two bare hyphens all
arguments are operands. -/
def scan (u : Usage) (a : Arguments) (awaiting : Option OptionUsage) : List String → Except Stop Arguments
  | [] => if awaiting.isSome then .error .misuse else u.finish a
  | s :: rest =>
    match awaiting with
    | some o =>
      if looksLikeOption s then .error .misuse
      else do
        let a ← addValue a o s
        u.scan a none rest
    | none =>
      if s = "--" then do
        let a ← rest.foldlM u.addOperand a
        u.finish a
      else do
        let (a, awaiting) ← u.readArgument a s
        u.scan a awaiting rest

def read (u : Usage) (arguments : List String) : Except Stop Arguments := u.scan .empty none arguments

end Usage

end PortfolioReports.CommandLine
