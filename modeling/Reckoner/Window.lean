import Reckoner.Panel

/-! # The window

What the buttons and keys of a calculator's window do to its panel, where the
keyboard goes, and which texts the window shows. How it looks is not described
here. -/

namespace Reckoner

inductive Piece where
  | digit (value : Fin 10)
  | point
  | lparen
  | rparen
  | plus
  | minus
  | times
  | slash
  | power
  | root
deriving DecidableEq

namespace Piece

def symbol : Piece → List Char
  | digit value => [value.val.digitChar]
  | point => ['.']
  | lparen => ['(']
  | rparen => [')']
  | plus => ['+']
  | minus => ['-']
  | times => ['*']
  | slash => ['/']
  | power => ['^']
  | root => Calculator.rootName ++ ['(']

def isSpaced : Piece → Bool
  | plus | minus | times | slash => true
  | _ => false

def text (piece : Piece) : List Char :=
  if piece.isSpaced then ' ' :: piece.symbol ++ [' '] else piece.symbol

end Piece

inductive Button where
  | insert (piece : Piece)
  | delete
  | evaluate
  | clearEntry
  | clearResults
  | reset
deriving DecidableEq

namespace Panel

def insert (panel : Panel) (piece : Piece) : Panel :=
  { panel with entry := panel.entry ++ piece.text, wantsFocus := true }

/-- The entry without its last character that is no space, or without a whole
root piece; the spaces around what is deleted go too. -/
def withoutLast (entry : List Char) : List Char :=
  let entry := Text.dropTrailing (· == ' ') entry
  let shorter :=
    if Piece.root.symbol.isSuffixOf entry then
      entry.take (entry.length - Piece.root.symbol.length)
    else
      entry.dropLast
  Text.dropTrailing (· == ' ') shorter

def delete (panel : Panel) : Panel :=
  { panel with entry := withoutLast panel.entry, wantsFocus := true }

def press (panel : Panel) : Button → Panel
  | .insert piece => panel.insert piece
  | .delete => panel.delete
  | .evaluate => panel.evaluate
  | .clearEntry => panel.clearEntry
  | .clearResults => panel.clearResults
  | .reset => panel.reset

end Panel

structure Window where
  panel : Panel
  focused : Bool

namespace Window

def settle (panel : Panel) (focused : Bool) : Window :=
  ⟨{ panel with wantsFocus := false }, focused || panel.wantsFocus⟩

def start (calculator : Calculator) : Window := settle (Panel.start calculator) false

inductive Event where
  | edit (entry : List Char)
  | press (button : Button)
  | setPlaces (places : Int)
  | escape
  | enter
  | controlEnter
deriving DecidableEq

/-- The number of places that the selector makes of a number. -/
def placesOf (places : Int) : Nat := min places.toNat Panel.maxPlaces

/-- Enter takes the keyboard from the entry before anything else sees the key, so
that only Enter with Control evaluates. -/
def step (window : Window) : Event → Window
  | .edit entry => { window with panel := window.panel.edit entry }
  | .press button => settle (window.panel.press button) window.focused
  | .setPlaces places =>
    if placesOf places = window.panel.places then
      window
    else
      settle (window.panel.setPlaces (placesOf places)) window.focused
  | .escape => settle window.panel.clearEntry window.focused
  | .enter => { window with focused := false }
  | .controlEnter =>
    if window.focused then settle window.panel.evaluate window.focused else window

def run (window : Window) (events : List Event) : Window := events.foldl step window

def records (window : Window) : Event → List Record
  | .press .evaluate => window.panel.evaluationRecords
  | .controlEnter => if window.focused then window.panel.evaluationRecords else []
  | _ => []

/-- The texts of the window from top to bottom. Four cells of the keypad are
empty. -/
def labels (window : Window) : List String :=
  let panel := window.panel
  ["Calculatrice EZO", "Entrée :", "Affichage :", "", "", "", ""] ++
    (if panel.fault.isEmpty then [] else [panel.fault]) ++
    ["Résultat :",
      match panel.value with
      | some _ => "= " ++ String.ofList panel.result
      | none => "—",
      "Jetons :", String.ofList panel.working.tokens,
      "RPN :", String.ofList panel.working.arranged]

end Window

end Reckoner
