import Reckoner.Calculator.Entry

/-! # The panel

The state behind a calculator's window: the entry, the last value and its text,
the last fault, how the value was found, and the number of places shown. A fault
leaves the value before it in place but not its working. -/

namespace Reckoner

structure Panel where
  calculator : Calculator
  entry : List Char
  value : Option Rat
  result : List Char
  fault : String
  working : Working
  places : Nat
  wantsFocus : Bool

namespace Panel

def maxPlaces : Nat := 60

def start (calculator : Calculator) : Panel where
  calculator := calculator
  entry := []
  value := none
  result := []
  fault := ""
  working := Working.none
  places := Decimal.defaultPlaces
  wantsFocus := true

def edit (panel : Panel) (entry : List Char) : Panel := { panel with entry }

def clearEntry (panel : Panel) : Panel := { panel with entry := [], wantsFocus := true }

def clearResults (panel : Panel) : Panel :=
  { panel with
    value := none
    result := []
    fault := ""
    working := Working.none
    wantsFocus := true }

def reset (panel : Panel) : Panel :=
  { panel.clearEntry.clearResults with places := Decimal.defaultPlaces }

def showFault (panel : Panel) (message : String) : Panel :=
  { panel with fault := message, working := Working.none, wantsFocus := true }

def showValue (panel : Panel) (value : Rat) (working : Working) : Panel :=
  { panel with
    fault := ""
    result := Decimal.write panel.places value
    value := some value
    working
    wantsFocus := true }

/-- Changes the number of places and writes the value anew. -/
def setPlaces (panel : Panel) (places : Nat) : Panel :=
  let places := min places maxPlaces
  { panel with
    places
    result := match panel.value with
      | some value => Decimal.write places value
      | none => panel.result
    wantsFocus := true }

def showOutcome (panel : Panel) : Except Fault (Rat × Working) → Panel
  | .ok (value, working) => panel.showValue value working
  | .error fault => panel.showFault fault.message

def evaluate (panel : Panel) : Panel :=
  panel.showOutcome (panel.calculator.answer panel.entry).outcome

/-- The notes that `evaluate` takes. -/
def evaluationRecords (panel : Panel) : List Record :=
  (panel.calculator.answer panel.entry).records

inductive Event where
  | edit (entry : List Char)
  | evaluate
  | clearEntry
  | clearResults
  | reset
  | setPlaces (places : Nat)
deriving DecidableEq

def step (panel : Panel) : Event → Panel
  | .edit entry => panel.edit entry
  | .evaluate => panel.evaluate
  | .clearEntry => panel.clearEntry
  | .clearResults => panel.clearResults
  | .reset => panel.reset
  | .setPlaces places => panel.setPlaces places

def run (panel : Panel) (events : List Event) : Panel := events.foldl step panel

def records (panel : Panel) : Event → List Record
  | .evaluate => panel.evaluationRecords
  | _ => []

end Panel

end Reckoner
